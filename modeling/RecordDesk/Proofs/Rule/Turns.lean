import RecordDesk.Proofs.Action.Effects
import RecordDesk.Proofs.Rule.Steady
import RecordDesk.Proofs.Rule.Verdicts
set_option autoImplicit false

/-!
The actions of a matched rule, one after another. Each has one turn, in the state that those before it have
left, and a failure in one turn takes no other away.
-/

namespace RecordDesk

namespace Rule

variable {σ ε : Type} (s : Surroundings σ) (c : Context)

def stateAfter : List Document → σ → σ
  | [], w => w
  | d :: rest, w => stateAfter rest (s.execute d c w).2

/-- What becomes of an action in a state. Where carrying it out breaks, that is a failed result as well. -/
def turn (d : Document) (w : σ) : Action.Result := Action.settled (Action.typeOf d) (s.execute d c w).1

def turns : List Document → σ → List (Document × σ)
  | [], _ => []
  | d :: rest, w => (d, w) :: turns rest (s.execute d c w).2

variable {s c} {ds : List Document}

theorem runActions_eq (w : σ) :
    runActions s c ds w = ((turns s c ds w).map fun t => turn s c t.1 t.2, stateAfter s c ds w) := by
  induction ds generalizing w with
  | nil => rfl
  | cons d rest ih =>
    change (_ :: (runActions s c rest (s.execute d c w).2).1, (runActions s c rest (s.execute d c w).2).2) = _
    rw [ih]
    rfl

theorem length_turns (w : σ) : (turns s c ds w).length = ds.length := by
  induction ds generalizing w with
  | nil => rfl
  | cons d rest ih => exact congrArg (· + 1) (ih _)

theorem getElem?_turns (w : σ) (i : Nat) :
    (turns s c ds w)[i]? = ds[i]?.map fun d => (d, stateAfter s c (ds.take i) w) := by
  induction ds generalizing w i with
  | nil => rfl
  | cons d rest ih =>
    cases i with
    | zero => rfl
    | succ i => exact ih _ i

variable (seen : σ → List ε)

def own (s : Surroundings σ) (c : Context) (t : Document × σ) : List ε :=
  (seen (s.execute t.1 c t.2).2).drop (seen t.2).length

variable {seen}

theorem seen_execute (hseen : ∀ d w, seen w <+: seen (s.execute d c w).2) (d : Document) (w : σ) :
    seen (s.execute d c w).2 = seen w ++ own seen s c (d, w) :=
  (List.prefix_iff_eq_append.mp (hseen d w)).symm

/-- What is seen in the end is what each turn has added, in order. -/
theorem seen_stateAfter (hseen : ∀ d w, seen w <+: seen (s.execute d c w).2) (w : σ) :
    seen (stateAfter s c ds w) = seen w ++ ((turns s c ds w).map (own seen s c)).flatten := by
  induction ds generalizing w with
  | nil => exact (List.append_nil _).symm
  | cons d rest ih =>
    change seen (stateAfter s c rest (s.execute d c w).2) = seen w ++ (own seen s c (d, w) ++ _)
    rw [ih, seen_execute hseen, List.append_assoc]

/-- What a list of actions comes to: there is an entry for each in the output, whatever has become of the
others, and the counters tell how many succeeded. Whatever is written down and never taken back, such as
calls and notices, is what the actions have added, in order. -/
structure InTurn (s : Surroundings σ) (c : Context) (ds : List Document) (w : σ) (r : Evaluation)
    (results : List Action.Result) : Prop where
  shown : r.output.lookup "action_results" = some (.list (results.map Action.Result.toDocument))
  oneEach : results.length = ds.length
  each : ∀ i, results[i]? = ds[i]?.map fun d => turn s c d (stateAfter s c (ds.take i) w)
  written : ∀ {ε : Type} (seen : σ → List ε), (∀ d w, seen w <+: seen (s.execute d c w).2) →
    seen (stateAfter s c ds w) = seen w ++ ((turns s c ds w).map (own seen s c)).flatten
  executed : r.actionsExecuted = results.countP (·.success)
  failed : r.actionsFailed = results.countP (!·.success)

/-- Each action of a matched rule is carried out once, in order, in the state that those before it have
left. -/
theorem evaluate_in_turn {rule : Rule} (w : σ)
    (hmatched : Verdict s.nans c.record.fields rule.conditions .matched)
    (hactions : rule.actions.sequence = .ok ds) :
    ∃ r results, evaluate s rule c w = (.ok r, stateAfter s c ds w) ∧ r.matched = true ∧
    InTurn s c ds w r results := by
  obtain ⟨details, hread, hall⟩ := hmatched.matched_details
  have heval := evaluate_matched (w := w) hread hall hactions
  dsimp only at heval
  rw [runActions_eq] at heval
  exact ⟨_, _, heval, rfl, {
    shown := rfl
    oneEach := by rw [List.length_map, length_turns]
    each := fun i => by rw [List.getElem?_map, getElem?_turns, Option.map_map]; rfl
    written := fun _ hseen => seen_stateAfter hseen w
    executed := rfl
    failed := rfl }⟩

theorem noted_stateAfter {outlets : Outlets σ} {options : Action.Options} {s : Surroundings (σ × List Effect)}
    (hexec : ∀ d w, (s.execute d c w).2 = (Action.execute outlets.noting options c d w).2) (w : σ)
    (noted : List Effect) : (stateAfter s c ds (w, noted)).2 =
      noted ++ ds.flatMap (Action.effectsOf options c) := by
  induction ds generalizing w noted with
  | nil => exact (List.append_nil _).symm
  | cons d rest ih =>
    change (stateAfter s c rest (s.execute d c (w, noted)).2).2 = _
    rw [hexec, Action.notes_execute options c outlets d w noted, ih, List.flatMap_cons, List.append_assoc]

/-- What a matched rule does to the outside is settled before its first action is run: the effects of each,
in order, whatever servers and notifications answer. -/
theorem evaluate_effects {outlets : Outlets σ} {options : Action.Options} {s : Surroundings (σ × List Effect)}
    {rule : Rule} (hexec : ∀ d w, (s.execute d c w).2 = (Action.execute outlets.noting options c d w).2)
    (w : σ) (noted : List Effect) (hmatched : Verdict s.nans c.record.fields rule.conditions .matched)
    (hactions : rule.actions.sequence = .ok ds) :
    (evaluate s rule c (w, noted)).2.2 = noted ++ ds.flatMap (Action.effectsOf options c) := by
  obtain ⟨details, hread, hall⟩ := hmatched.matched_details
  rw [evaluate_matched hread hall hactions, runActions_eq]
  exact noted_stateAfter hexec w noted

end Rule

namespace Rehearsal

def CallsGrow (w w' : Rehearsal) : Prop := w.calls <+: w'.calls

theorem frame_callsGrow : Frame CallsGrow where
  refl _ := List.prefix_rfl
  trans h h' := h.trans h'

theorem callsGrow_execute (script : Script) (d : Document) (c : Context) :
    Keeps CallsGrow (execute script d c) :=
  keeps_execute frame_callsGrow (fun _ => List.prefix_rfl) (fun c w => List.prefix_append w.calls [c])
    (fun _ _ => List.prefix_rfl) (fun _ _ => List.prefix_rfl) script d c

def troubled : Script := { options := ⟨"SynkBoard/1.0", .ofInt 10000, .ofInt 5000⟩, breaks := [2] }

def unanswered : Rehearsal := { replies := [.error (.failed "timeout" none .null)] }

def greetings : Rule :=
  ⟨"r", "Greetings", .list [],
    .list [Action.greetingDocument, Action.greetingDocument, Action.greetingDocument]⟩

open Rule in
/-- Neither an action without an answer nor one that breaks keeps the third from its turn, and its call
comes last. -/
theorem greetings_in_turn : ∃ (r : Evaluation) (w : Rehearsal) (results : List Action.Result),
    evaluate (surroundings troubled) greetings (Template.contextOf "Ada") unanswered = (.ok r, w)
      ∧ results.map (·.success) = [false, false, true] ∧ r.actionsExecuted = 1 ∧ r.actionsFailed = 2
      ∧ w.calls.length = 2 := by
  have hmatched : Verdict (surroundings troubled).nans (Template.contextOf "Ada").record.fields
      greetings.conditions .matched :=
    .matched (show readConditions greetings.conditions = .ok [] from rfl) nofun
  obtain ⟨r, results, heval, -, h⟩ := evaluate_in_turn unanswered hmatched rfl
  have hsuccess : results.map (·.success) = [false, false, true] := by
    refine List.ext_getElem? fun i => ?_
    rw [List.getElem?_map, h.each]
    match i with
    | 0 | 1 | 2 | _ + 3 => rfl
  have hcount : ∀ p : Bool → Bool, results.countP (p ·.success) = [false, false, true].countP p := by
    intro p
    rw [← hsuccess, List.countP_map]
    rfl
  refine ⟨r, _, results, heval, hsuccess, h.executed.trans (hcount id), h.failed.trans (hcount not), ?_⟩
  rw [h.written calls fun d w => callsGrow_execute troubled d _ w]
  rfl

end Rehearsal

end RecordDesk
