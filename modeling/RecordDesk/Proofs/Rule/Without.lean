import RecordDesk.Proofs.Rule.Batch
import RecordDesk.Proofs.Rule.Steady
set_option autoImplicit false

/-!
A batch with one rule left out. A rule that is not matched stops before its first action, so the rules after
it find the outside as they would without it: they make the same calls, get the same replies and come to the
same outcomes.
-/

namespace RecordDesk

namespace Rule

variable {σ ω : Type} {s : Surroundings σ} {e : Event} {w w' v : σ} {rule : Rule}

/-! Rules in turn, whatever is done with each. -/

def inTurn (f : Rule → StateM σ (Except Fault Outcome)) : List Rule → StateM σ (Except Fault (List Outcome))
  | [] => pure (.ok [])
  | rule :: rest => do
    match ← f rule with
    | .error fault => return .error fault
    | .ok outcome => return (← inTurn f rest).map (outcome :: ·)

theorem applyEach_eq_inTurn (c : Rule → Context) (rules : List Rule) :
    applyEach s e c rules = inTurn (fun rule => applyOne s e (c rule) rule) rules := by
  induction rules with
  | nil => rfl
  | cons rule rest ih =>
    rw [inTurn, ← ih]
    rfl

theorem abortAll_eq_inTurn (error : String) (rules : List Rule) :
    abortAll s e error rules = inTurn (fun rule => conclusionOfFailure s e rule error) rules := by
  induction rules with
  | nil => rfl
  | cons rule rest ih =>
    rw [inTurn, ← ih]
    rfl

section

variable {f : Rule → StateM σ (Except Fault Outcome)} {rest before after : List Rule}
  {os : List Outcome} {o : Outcome}

theorem inTurn_cons {w1 : σ} (hone : f rule w = (.ok o, w1)) : inTurn f (rule :: rest) w
    = ((inTurn f rest w1).1.map (o :: ·), (inTurn f rest w1).2) := by
  simp only [inTurn, bind, StateT.bind, hone]
  rfl

theorem inTurn_cons_ok {w1 : σ} (hone : f rule w = (.ok o, w1)) (hmore : inTurn f rest w1 = (.ok os, w')) :
    inTurn f (rule :: rest) w = (.ok (o :: os), w') := by
  rw [inTurn_cons hone, hmore]
  rfl

theorem of_inTurn_cons_ok (hrun : inTurn f (rule :: rest) w = (.ok os, w')) :
    ∃ o os' w1, f rule w = (.ok o, w1) ∧ inTurn f rest w1 = (.ok os', w') ∧ os = o :: os' := by
  cases hone : f rule w with
  | mk answer w1 =>
    cases answer with
    | error fault =>
      simp only [inTurn, bind, StateT.bind, hone] at hrun
      cases hrun
    | ok o =>
      rw [inTurn_cons hone] at hrun
      cases hmore : inTurn f rest w1 with
      | mk more w2 =>
        rw [hmore] at hrun
        cases more with
        | error fault => cases hrun
        | ok os' =>
          cases hrun
          exact ⟨o, os', w1, rfl, hmore, rfl⟩

theorem inTurn_prefix (hrun : inTurn f (before ++ after) w = (.ok os, w')) :
    ∃ w1, inTurn f before w = (.ok (os.take before.length), w1) := by
  induction before generalizing w os with
  | nil => exact ⟨w, rfl⟩
  | cons rule rest ih =>
    obtain ⟨o, os', w1, hone, hmore, rfl⟩ := of_inTurn_cons_ok hrun
    obtain ⟨w2, hrest⟩ := ih hmore
    exact ⟨w2, inTurn_cons_ok hone hrest⟩

variable {R : σ → σ → Prop}

theorem alike_inTurn (hf : ∀ rule, Alike R (f rule) (f rule)) (rules : List Rule) :
    Alike R (inTurn f rules) (inTurn f rules) := by
  induction rules with
  | nil => exact .pure _
  | cons rule rest ih =>
    refine .bind (hf rule) fun r => ?_
    cases r with
    | error fault => exact .pure _
    | ok outcome => exact .bind ih fun _ => .pure _

/-- Where a rule that is not matched leads to a state that is as good as the one before it, the others come
to the same without it. -/
theorem inTurn_without (hf : ∀ rule, Alike R (f rule) (f rule))
    (hidle : ∀ rule o w w', f rule w = (.ok o, w') → o.status ≠ .matched → ∀ v, R w v → R w' v)
    (hrun : inTurn f (before ++ rule :: after) w = (.ok os, w')) (ho : os[before.length]? = some o)
    (hstatus : o.status ≠ .matched) (hwv : R w v) :
    ∃ v', inTurn f (before ++ after) v = (.ok (os.eraseIdx before.length), v') ∧ R w' v' := by
  induction before generalizing w v os with
  | nil =>
    obtain ⟨o', os', w1, hone, hmore, rfl⟩ := of_inTurn_cons_ok hrun
    cases ho
    obtain ⟨hanswer, hend⟩ := alike_inTurn hf after w1 v (hidle rule _ w w1 hone hstatus v hwv)
    rw [hmore] at hanswer hend
    exact ⟨(inTurn f after v).2, Prod.ext hanswer.symm rfl, hend⟩
  | cons first before ih =>
    obtain ⟨o', os', w1, hone, hmore, rfl⟩ := of_inTurn_cons_ok hrun
    obtain ⟨hanswer, hstep⟩ := hf first w v hwv
    rw [hone] at hanswer hstep
    obtain ⟨v', hrest, hend⟩ := ih hmore ho hstep
    have hsame : f first v = (.ok o', (f first v).2) := Prod.ext hanswer.symm rfl
    exact ⟨v', inTurn_cons_ok hsame hrest, hend⟩

end

/-! A whole batch. -/

def Surroundings.serving (s : Surroundings σ) (rules : List Rule) : Surroundings σ :=
  { s with activeRules := fun _ _ _ => pure (.ok rules) }

theorem applyOne_serving (rules : List Rule) (c : Context) :
    applyOne (s.serving rules) e c rule = applyOne s e c rule := by
  have hsame : (s.serving rules).unlooked = s.unlooked := rfl
  rw [← applyOne_unlooked, hsame, applyOne_unlooked]

theorem split_at_getElem? {α : Type} {as : List α} {i : Nat} {a : α} (ha : as[i]? = some a) :
    as = as.take i ++ [a] ++ as.drop (i + 1) := by
  obtain ⟨hi, rfl⟩ := List.getElem?_eq_some_iff.1 ha
  rw [List.append_assoc, List.singleton_append, List.cons_getElem_drop_succ, List.take_append_drop]

theorem Batch.Accounts.outcome_at {b : Batch} {rules : List Rule} {i : Nat} {o : Outcome}
    (hb : b.Accounts rules) (hrule : rules[i]? = some rule) (ho : b.outcomes[i]? = some o) :
    o.Accounts rule := by
  obtain ⟨hi, rfl⟩ := List.getElem?_eq_some_iff.1 hrule
  obtain ⟨hi', rfl⟩ := List.getElem?_eq_some_iff.1 ho
  exact (List.forall₂_iff_get.1 hb.outcomes).2 i hi hi'

variable {view : Observer σ ω} {keeping : String → Except Fault Unit}

/-- The executions that were handed over meanwhile are kept as the names of their rules decide. -/
def Observer.Grows (view : Observer σ ω) (keeping : String → Except Fault Unit)
    (p p' : σ × List Execution) : Prop :=
  ∃ xs, p'.2 = p.2 ++ xs ∧ view.kept p'.1 = view.kept p.1 ++ keptOf keeping xs

theorem frame_grows : Frame (view.Grows keeping) where
  refl p := ⟨[], by simp, by simp [keptOf]⟩
  trans := by
    rintro p q r ⟨xs, hq, hkept⟩ ⟨ys, hr, hkept'⟩
    exact ⟨xs ++ ys, by rw [hr, hq, List.append_assoc],
      by rw [hkept', hkept, keptOf_append, List.append_assoc]⟩

theorem grows_beside {α : Type} {m : StateM σ α} (hm : ∀ w, view.kept (m w).2 = view.kept w) :
    Keeps (view.Grows keeping) (beside m) :=
  fun p => ⟨[], (List.append_nil p.2).symm, (hm p.1).trans (List.append_nil _).symm⟩

section

variable (h : s.Steady view keeping)

include h

/-- Once the scope is known, or known to be unknown, a batch does one thing with each rule in turn. Up to
there nothing is seen of it. -/
theorem applyAll_serving (w : σ) :
    ∃ (f : Rule → StateM σ (Except Fault Outcome)) (count : List Outcome → Nat) (w1 : σ),
    view.Unseen w w1 ∧ (∀ rule, Alike view.SameOutside (f rule) (f rule)) ∧
      (∀ rule o w w', f rule w = (.ok o, w') → o.status ≠ .matched → view.Unsent w w') ∧
      ∀ rule rest, applyAll (s.serving (rule :: rest)) e w
        = ((inTurn f (rule :: rest) w1).1.map fun outcomes => ⟨count outcomes, outcomes⟩,
            (inTurn f (rule :: rest) w1).2) := by
  have hscoped : view.Unseen w (scope s e w).2 :=
    closed_scope view.frame_unseen.closed (h.tenant _) (h.entity _) w
  cases hscope : scope s e w with
  | mk answer w1 =>
    rw [hscope] at hscoped
    cases answer with
    | error fault =>
      let entry := Log.failure loggerName "Rule evaluation aborted"
        [("tenant", .text e.tenantId), ("record", .text e.record.id)] (some fault.message)
      refine ⟨fun rule => conclusionOfFailure s e rule fault.message, fun _ => 0, (s.log entry w1).2,
        view.frame_unseen.trans hscoped (log_unseen h entry rfl w1),
        fun rule => alike_conclusionOfFailure_self h fault.message, fun rule o w w' hone _ =>
          conclusionOfFailure_unsent h hone, fun rule rest => ?_⟩
      rw [applyAll_aborted (s := s.serving (rule :: rest)) rfl hscope, abortAll_eq_inTurn]
      rfl
    | ok found =>
      obtain ⟨tenant, entity⟩ := found
      have hacted : view.Unseen w1 (actor s e.userId w1).2 :=
        closed_actor view.frame_unseen.closed h.user (log_unseen h) e.userId w1
      cases hactor : actor s e.userId w1 with
      | mk user w2 =>
        rw [hactor] at hacted
        refine ⟨fun rule => applyOne s e (contextOf e tenant entity user rule) rule, triggeredCount, w2,
          view.frame_unseen.trans hscoped hacted, fun rule => alike_applyOne_self h _,
          fun rule o w w' => applyOne_unsent h, fun rule rest => ?_⟩
        rw [applyAll_scoped (s := s.serving (rule :: rest)) rfl hscope hactor, applyEach_eq_inTurn]
        simp only [applyOne_serving]

theorem applyAll_in_turn (w : σ) : ∃ (f : Rule → StateM σ (Except Fault Outcome)) (w0 : σ),
    (∀ rule, Alike view.SameOutside (f rule) (f rule)) ∧
    (∀ rule o w w', f rule w = (.ok o, w') → o.status ≠ .matched → view.Unsent w w') ∧
    (∀ rules b w', applyAll (s.serving rules) e w = (.ok b, w') →
      ∃ v, inTurn f rules w0 = (.ok b.outcomes, v) ∧ view.SameOutside w' v) ∧
    ∀ rules os v, inTurn f rules w0 = (.ok os, v) →
      ∃ b w', applyAll (s.serving rules) e w = (.ok b, w') ∧ b.outcomes = os ∧ view.SameOutside w' v := by
  obtain ⟨f, count, w0, hunseen, halike, hunsent, hall⟩ := applyAll_serving h (e := e) w
  refine ⟨f, w0, halike, hunsent, fun rules b w' hb => ?_, fun rules os v hrun => ?_⟩
  · cases rules with
    | nil =>
      rw [applyAll_none (s := s.serving []) rfl] at hb
      cases hb
      exact ⟨w0, rfl, hunseen.1.symm⟩
    | cons rule rest =>
      rw [hall] at hb
      cases hrun : inTurn f (rule :: rest) w0 with
      | mk answer v =>
        rw [hrun] at hb
        cases answer with
        | error fault => cases hb
        | ok os =>
          cases hb
          exact ⟨_, rfl, rfl⟩
  · cases rules with
    | nil =>
      cases hrun
      exact ⟨.empty, w, applyAll_none (s := s.serving []) rfl, rfl, hunseen.1.symm⟩
    | cons rule rest => exact ⟨⟨count os, os⟩, v, by rw [hall, hrun]; rfl, rfl, rfl⟩

variable {before after : List Rule} {b : Batch} {o : Outcome}

theorem applyAll_goes_on (hb : applyAll (s.serving (before ++ rule :: after)) e w = (.ok b, w'))
    (ho : b.outcomes[before.length]? = some o) (hidle : o.status ≠ .matched) :
    ∃ b' v, applyAll (s.serving (before ++ after)) e w = (.ok b', v) ∧
      b'.outcomes = b.outcomes.eraseIdx before.length ∧ view.SameOutside w' v := by
  obtain ⟨f, w0, halike, hunsent, hturn, hback⟩ := applyAll_in_turn h (e := e) w
  obtain ⟨w1, hrun, hend⟩ := hturn _ _ _ hb
  have hstill : ∀ rule o w w', f rule w = (.ok o, w') → o.status ≠ .matched →
      ∀ v, view.SameOutside w v → view.SameOutside w' v :=
    fun rule o w w' hone hstatus v hwv => (hunsent rule o w w' hone hstatus).trans hwv
  obtain ⟨v1, hrun', hend'⟩ := inTurn_without halike hstill hrun ho hidle rfl
  obtain ⟨b', v, hb', hos, hend''⟩ := hback _ _ _ hrun'
  exact ⟨b', v, hb', hos, (hend.trans hend').trans hend''.symm⟩

theorem applyAll_up_to (hb : applyAll (s.serving (before ++ rule :: after)) e w = (.ok b, w'))
    (ho : b.outcomes[before.length]? = some o) :
    ∃ b1 w1, applyAll (s.serving (before ++ [rule])) e w = (.ok b1, w1) ∧
    b1.outcomes[before.length]? = some o := by
  obtain ⟨f, w0, -, -, hturn, hback⟩ := applyAll_in_turn h (e := e) w
  obtain ⟨v, hrun, -⟩ := hturn _ _ _ hb
  rw [List.append_cons] at hrun
  obtain ⟨v1, hprefix⟩ := inTurn_prefix hrun
  obtain ⟨b1, w1, hb1, hos, -⟩ := hback _ _ _ hprefix
  refine ⟨b1, w1, hb1, ?_⟩
  rw [hos, List.getElem?_take_of_lt (by simp), ho]

theorem grows_serving (rules : List Rule) :
    (s.serving rules).recorded.All fun α => Keeps (α := α) (view.Grows keeping) where
  activeRules _ _ _ := grows_beside fun _ => rfl
  tenant id := grows_beside fun w => (h.tenant id w).2
  entity id := grows_beside fun w => (h.entity id w).2
  user id := grows_beside fun w => (h.user id w).2
  persist x := fun p => ⟨[x], rfl, (h.persist x p.1).2.2⟩
  execute d c := grows_beside (h.execute_kept d c)
  log entry := grows_beside (h.log_kept entry)

theorem applyAll_kept {rules : List Rule} {b : Batch} (hb : applyAll (s.serving rules) e w = (.ok b, w')) :
    b.Accounts rules ∧ view.kept w' = view.kept w ++
      keptOf keeping (b.outcomes.map (Outcome.execution e)) := by
  obtain ⟨ys, hrun, hsettled⟩ := traced_applyAll (s.serving rules) e w []
  obtain ⟨xs, hadded, hkept⟩ := closed_applyAll frame_grows.closed (grows_serving h rules) e (w, [])
  rw [hb] at hrun hsettled
  rw [hrun] at hadded hkept
  rcases hsettled with ⟨b', hb', haccounts, rfl⟩ | ⟨fault, hfault, -⟩
  · cases hb'
    have hxs := List.append_cancel_left hadded
    rw [← hxs] at hkept
    exact ⟨haccounts, hkept⟩
  · cases hfault

/-- A rule that was skipped or failed leaves no trace but its own outcome and its own execution. Without it
the other outcomes, the calls and notices and the other executions are the same; up to it and with it alone
the same has been sent. -/
theorem applyAll_without (hb : applyAll (s.serving (before ++ rule :: after)) e w = (.ok b, w'))
    (ho : b.outcomes[before.length]? = some o) (hidle : o.status = .skipped ∨ o.status = .failed) :
    o.ruleId = rule.id ∧
    (∃ b' v earlier later, applyAll (s.serving (before ++ after)) e w = (.ok b', v) ∧
      b'.outcomes = b.outcomes.eraseIdx before.length ∧ b'.triggered = b.triggered ∧
      view.calls v = view.calls w' ∧ view.notices v = view.notices w' ∧
      view.kept w' = view.kept w ++ earlier ++ keptOf keeping [o.execution e] ++ later ∧
      view.kept v = view.kept w ++ earlier ++ later) ∧
    view.outside (applyAll (s.serving (before ++ [rule])) e w).2 =
      view.outside (applyAll (s.serving before) e w).2 := by
  have hstatus : o.status ≠ .matched := by rcases hidle with hs | hs <;> rw [hs] <;> decide
  obtain ⟨haccounts, hkept⟩ := applyAll_kept h hb
  have hown : o.Accounts rule := haccounts.outcome_at (by simp) ho
  have hunmatched : ¬ o.result.matched = true := fun hm => hstatus (hown.status.2 hm)
  refine ⟨hown.ruleId, ?_, ?_⟩
  · obtain ⟨b', v, hb', hos, hsame⟩ := applyAll_goes_on h hb ho hstatus
    obtain ⟨haccounts', hkept'⟩ := applyAll_kept h hb'
    have houtside : view.outside v = view.outside w' := hsame.symm
    have hsplit := split_at_getElem? ho
    rw [List.eraseIdx_eq_take_drop_succ] at hos
    refine ⟨b', v, keptOf keeping ((b.outcomes.take before.length).map (Outcome.execution e)),
      keptOf keeping ((b.outcomes.drop (before.length + 1)).map (Outcome.execution e)), hb', ?_, ?_,
      congrArg (·.1) houtside, congrArg (·.2.1) houtside, ?_, ?_⟩
    · rw [hos, List.eraseIdx_eq_take_drop_succ]
    · rw [haccounts'.triggered, haccounts.triggered, hos]
      conv_rhs => rw [hsplit]
      simp [hunmatched]
    · rw [hkept]
      conv_lhs => rw [hsplit]
      rw [List.map_append, List.map_append, keptOf_append,
        keptOf_append, ← List.append_assoc, ← List.append_assoc]
      rfl
    · rw [hkept', hos, List.map_append, keptOf_append, ← List.append_assoc]
  · obtain ⟨b1, w1, hb1, ho1⟩ := applyAll_up_to h hb ho
    obtain ⟨b', v, hb', -, hsame⟩ := applyAll_goes_on h hb1 ho1 hstatus
    rw [List.append_nil] at hb'
    rw [hb1, hb']
    exact hsame

end

end Rule

namespace Rehearsal

/-! A rule that does not match between two that call a server; the answers come in the order of the
calls. -/

def hooks : Script := { options := ⟨"SynkBoard/1.0", .ofInt 10000, .ofInt 5000⟩ }

def posting (url : String) : Document := .list [.object [("type", .text "webhook"), ("url", .text url)]]

def firstHook : Rule := ⟨"r1", "First", .list [], posting "https://hooks.test/1"⟩

def wonHook : Rule := ⟨"r2", "Won", .list [.object [("field", .text "status"), ("operator", .text "equals"),
  ("value", .text "won")]], posting "https://hooks.test/won"⟩

def lastHook : Rule := ⟨"r3", "Last", .list [], posting "https://hooks.test/3"⟩

def openDeal : Rule.Event := ⟨"t", "e", ⟨"d", [("status", .text "open")], ⟨0, none⟩, none⟩, "create", none⟩

def answers : Rehearsal := { replies := [.ok ⟨200, .text "one"⟩, .ok ⟨404, .text "two"⟩] }

theorem wonHook_left_out : ∃ b b' v,
    (Rule.applyAll ((surroundings hooks).serving ([firstHook] ++ wonHook :: [lastHook]))
      openDeal answers).1 = .ok b ∧ b.outcomes.map (·.status) = [.matched, .skipped, .matched] ∧
      Rule.applyAll ((surroundings hooks).serving ([firstHook] ++ [lastHook])) openDeal answers =
        (.ok b', v) ∧
      b'.outcomes = b.outcomes.eraseIdx 1 ∧
        v.calls.map (·.url) = ["https://hooks.test/1", "https://hooks.test/3"] := by
  obtain ⟨b, o, hb, ho, hskipped, hstatuses⟩ : ∃ b o,
      (Rule.applyAll ((surroundings hooks).serving ([firstHook] ++ wonHook :: [lastHook]))
        openDeal answers).1 = .ok b ∧ b.outcomes[1]? = some o ∧ o.status = .skipped ∧
          b.outcomes.map (·.status) = [.matched, .skipped, .matched] :=
    ⟨_, _, rfl, rfl, rfl, rfl⟩
  obtain ⟨-, ⟨b', v, -, -, hb', hothers, -, hcalls, -⟩, -⟩ :=
    Rule.applyAll_without (steady hooks) (Prod.ext hb rfl) ho (.inl hskipped)
  refine ⟨b, b', v, hb, hstatuses, hb', hothers, ?_⟩
  rw [show v.calls = _ from hcalls]
  rfl

end Rehearsal

end RecordDesk
