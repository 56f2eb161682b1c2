import RecordDesk.Proofs.Fallible
import RecordDesk.Proofs.Rule.Tracing
set_option autoImplicit false

namespace RecordDesk

theorem Document.count_of_sequence {d : Document} {ds : List Document} (h : d.sequence = .ok ds) :
    d.count = .ok ds.length := by
  rw [Document.sequence] at h
  rw [Document.count]
  cases hs : d.sequence? with
  | none => rw [hs] at h; cases h
  | some ds' =>
    rw [hs] at h
    cases h
    rfl

theorem Checked.length_of_items {α : Type} {read : Document → Checked α} {start : Nat} {ds : List Document}
    {as : List α} (h : Checked.items read start ds = .valid as) : as.length = ds.length := by
  induction ds generalizing start as with
  | nil =>
    cases h
    rfl
  | cons d rest ih =>
    rw [Checked.items] at h
    cases hd : (read d).under (.index start) with
    | invalid issues =>
      cases hr : Checked.items read (start + 1) rest <;> simp [hd, hr, Functor.map, Seq.seq, Checked.map,
        Checked.apply] at h
    | valid a =>
      cases hr : Checked.items read (start + 1) rest with
      | invalid issues => simp [hd, hr, Functor.map, Seq.seq, Checked.map, Checked.apply] at h
      | valid more =>
        simp only [hd, hr, Functor.map, Seq.seq, Checked.map, Checked.apply, Checked.valid.injEq] at h
        subst h
        rw [List.length_cons, List.length_cons, ih hr]

namespace Rule

variable {σ : Type}

theorem count_of_readConditions {d : Document} {cs : List Condition} (h : readConditions d = .ok cs) :
    d.count = .ok cs.length := by
  rw [readConditions] at h
  cases hs : d.sequence with
  | error fault => rw [hs] at h; cases h
  | ok ds =>
    rw [hs] at h
    change (Condition.listForm .modelType (.list ds)).toExcept "list[RuleCondition]" = .ok cs at h
    cases hv : Condition.listForm .modelType (.list ds) with
    | invalid issues => rw [hv] at h; cases h
    | valid cs' =>
      rw [hv] at h
      cases h
      rw [Document.count_of_sequence hs, Checked.length_of_items hv]

theorem length_of_evaluateAll {nans : NaNs} {cs : List Condition} {fields : Fields}
    {details : List Condition.Detail} (h : Condition.evaluateAll nans cs fields = .ok details) :
    details.length = cs.length := by
  rw [Condition.evaluateAll] at h
  exact length_of_mapM h

/-- The numbers of an evaluation account for the conditions and the actions of its rule. -/
structure Evaluation.Accounts (r : Evaluation) (rule : Rule) : Prop where
  total : rule.conditions.count = .ok r.totalConditions
  met_le : r.conditionsMet ≤ r.totalConditions
  ran : r.matched = true → rule.actions.count = .ok (r.actionsExecuted + r.actionsFailed)
  idle : r.matched = false → r.actionsExecuted = 0 ∧ r.actionsFailed = 0

/-- What an outcome says of its rule. Where the rule failed, no condition counts as met. -/
structure Outcome.Accounts (o : Outcome) (rule : Rule) : Prop where
  ruleId : o.ruleId = rule.id
  result : o.result.Accounts rule
  status : o.status = .matched ↔ o.result.matched = true
  decided : o.status ≠ .failed → (o.result.matched = true ↔ o.result.conditionsMet = o.result.totalConditions)
  failed : o.status = .failed → o.result.conditionsMet = 0

def Outcome.execution (e : Event) (o : Outcome) : Execution :=
  ⟨e.tenantId, o.ruleId, e.record.id, o.status, o.result.output⟩

theorem mem_of_forall₂ {α β : Type} {p : α → β → Prop} {as : List α} {bs : List β}
    (h : List.Forall₂ p as bs) {b : β} (hb : b ∈ bs) : ∃ a ∈ as, p a b := by
  induction h with
  | nil => cases hb
  | cons hab _ ih =>
    rcases List.mem_cons.1 hb with rfl | hb
    · exact ⟨_, List.mem_cons_self, hab⟩
    · obtain ⟨a, ha, hp⟩ := ih hb
      exact ⟨a, List.mem_cons_of_mem _ ha, hp⟩

theorem countP_add_countP_not {α : Type} (p : α → Bool) (as : List α) :
    as.countP p + as.countP (!p ·) = as.length := by
  simpa using (List.length_eq_countP_add_countP p (l := as)).symm

theorem traced_evaluate (s : Surroundings σ) (rule : Rule) (c : Context) :
    Traced (evaluate s rule c) (evaluate s.recorded rule c) fun r ys => ys = [] ∧
      ∀ v, r = .ok v → v.Accounts rule ∧ (v.matched = true ↔ v.conditionsMet = v.totalConditions) := by
  unfold evaluate
  rw [show s.recorded.nans = s.nans from rfl]
  dsimp only
  generalize hread : (readConditions rule.conditions >>= fun cs =>
    Condition.evaluateAll s.nans cs c.record.fields) = read
  cases read with
  | error fault => exact .pure ⟨rfl, by simp⟩
  | ok details =>
    obtain ⟨cs, hcs, heval⟩ := ok_of_bind hread
    have htotal : rule.conditions.count = .ok details.length := by
      rw [count_of_readConditions hcs, length_of_evaluateAll heval]
    have hmet : Condition.met details ≤ details.length := List.countP_le_length
    dsimp only
    by_cases hall : Condition.allMatched details = true
    · have heq : Condition.met details = details.length := by simpa [Condition.allMatched] using hall
      rw [if_pos hall, if_pos hall]
      cases hactions : rule.actions.sequence with
      | error fault => exact .pure ⟨rfl, by simp⟩
      | ok actions =>
        refine (traced_runActions s c actions).bind fun results ys hys => ?_
        obtain ⟨rfl, hlen⟩ := hys
        refine .pure ⟨rfl, ?_⟩
        rintro v hv
        cases hv
        refine ⟨⟨htotal, hmet, fun _ => ?_, by simp⟩, by simpa using heq⟩
        rw [Document.count_of_sequence hactions, countP_add_countP_not, hlen]
    · have hne : Condition.met details ≠ details.length := by simpa [Condition.allMatched] using hall
      rw [if_neg hall, if_neg hall]
      refine .pure ⟨rfl, ?_⟩
      rintro v hv
      cases hv
      exact ⟨⟨htotal, hmet, by simp, fun _ => ⟨rfl, rfl⟩⟩, by simpa using hne⟩

theorem traced_conclusionOfFailure (s : Surroundings σ) (e : Event) (rule : Rule) (error : String) :
    Traced (conclusionOfFailure s e rule error) (conclusionOfFailure s.recorded e rule error) fun r ys =>
      (∃ o, r = .ok o ∧ (o.Accounts rule ∧ o.status = .failed) ∧ ys = [o.execution e]) ∨
        ∃ fault, r = .error fault ∧ rule.conditions.count = .error fault := by
  unfold conclusionOfFailure
  cases hcount : rule.conditions.count with
  | error fault => exact .pure (.inr ⟨fault, rfl, rfl⟩)
  | ok total =>
    refine (traced_conclude s e _ _ _).bind fun _ ys hys => .pure (.inl ⟨_, rfl, ⟨?_, rfl⟩, by rw [hys]; rfl⟩)
    exact {
      ruleId := rfl
      result := ⟨hcount, Nat.zero_le _, by simp, fun _ => ⟨rfl, rfl⟩⟩
      status := by simp
      decided := by simp
      failed := fun _ => rfl }

theorem traced_applyOne (s : Surroundings σ) (e : Event) (c : Context) (rule : Rule) :
    Traced (applyOne s e c rule) (applyOne s.recorded e c rule) fun r ys =>
      (∃ o, r = .ok o ∧ o.Accounts rule ∧ ys = [o.execution e]) ∨
        ∃ fault, r = .error fault ∧ rule.conditions.count = .error fault := by
  unfold applyOne
  refine (traced_evaluate s rule c).bind fun r ys hr => ?_
  obtain ⟨rfl, hr⟩ := hr
  cases r with
  | error fault =>
    refine (Traced.beside _).bind fun _ ys hys => ?_
    subst hys
    refine (traced_conclusionOfFailure s e rule fault.message).mono fun r ys h => ?_
    rcases h with ⟨o, hr, ⟨haccounts, -⟩, hys⟩ | h
    · exact .inl ⟨o, hr, haccounts, hys⟩
    · exact .inr h
  | ok v =>
    obtain ⟨haccounts, hmatched⟩ := hr v rfl
    refine (traced_conclude s e _ _ _).bind fun _ ys hys => .pure (.inl ⟨_, rfl, ?_, by rw [hys]; rfl⟩)
    cases hm : v.matched with
    | true =>
      exact { ruleId := rfl, result := haccounts, status := by simp [hm], decided := fun _ => hmatched,
              failed := by simp }
    | false =>
      exact { ruleId := rfl, result := haccounts, status := by simp [hm], decided := fun _ => hmatched,
              failed := by simp }

/-- What becomes of several rules: outcomes that are handed over one after another, unless the conditions of
a rule cannot be counted. -/
def AllAccounted (e : Event) (p : Rule → Outcome → Prop) (rules : List Rule) (r : Except Fault (List Outcome))
    (ys : List Execution) : Prop :=
  (∃ os, r = .ok os ∧ List.Forall₂ p rules os ∧ ys = os.map (Outcome.execution e)) ∨
    ∃ fault, r = .error fault ∧ ∃ rule ∈ rules, rule.conditions.count = .error fault

theorem allAccounted_cons {e : Event} {p : Rule → Outcome → Prop} {rule : Rule} {rest : List Rule}
    {one : StateM σ (Except Fault Outcome)} {one' : StateM (σ × List Execution) (Except Fault Outcome)}
    {more : StateM σ (Except Fault (List Outcome))}
    {more' : StateM (σ × List Execution) (Except Fault (List Outcome))}
    (hone : Traced one one' fun r ys => (∃ o, r = .ok o ∧ p rule o ∧ ys = [o.execution e]) ∨
      ∃ fault, r = .error fault ∧ rule.conditions.count = .error fault)
    (hmore : Traced more more' (AllAccounted e p rest)) :
    Traced
      (do match ← one with
          | .error fault => return .error fault
          | .ok outcome => return (← more).map (outcome :: ·))
      (do match ← one' with
          | .error fault => return .error fault
          | .ok outcome => return (← more').map (outcome :: ·))
      (AllAccounted e p (rule :: rest)) := by
  refine hone.bind fun r ys hr => ?_
  rcases hr with ⟨o, rfl, ho, rfl⟩ | ⟨fault, rfl, hcount⟩
  · refine hmore.bind fun r zs hr => .pure ?_
    rcases hr with ⟨os, rfl, hos, rfl⟩ | ⟨fault, rfl, rule', hmem, hcount⟩
    · exact .inl ⟨o :: os, rfl, .cons ho hos, by simp⟩
    · exact .inr ⟨fault, rfl, rule', List.mem_cons_of_mem rule hmem, hcount⟩
  · exact .pure (.inr ⟨fault, rfl, rule, List.mem_cons_self, hcount⟩)

theorem traced_abortAll (s : Surroundings σ) (e : Event) (error : String) (rules : List Rule) :
    Traced (abortAll s e error rules) (abortAll s.recorded e error rules)
      (AllAccounted e (fun rule o => o.Accounts rule ∧ o.status = .failed) rules) := by
  induction rules with
  | nil => exact .pure (.inl ⟨[], rfl, .nil, rfl⟩)
  | cons rule rest ih => exact allAccounted_cons (traced_conclusionOfFailure s e rule error) ih

theorem traced_applyEach (s : Surroundings σ) (e : Event) (c : Rule → Context) (rules : List Rule) :
    Traced (applyEach s e c rules) (applyEach s.recorded e c rules)
      (AllAccounted e (fun rule o => o.Accounts rule) rules) := by
  induction rules with
  | nil => exact .pure (.inl ⟨[], rfl, .nil, rfl⟩)
  | cons rule rest ih => exact allAccounted_cons (traced_applyOne s e (c rule) rule) ih

theorem traced_scope (s : Surroundings σ) (e : Event) :
    Traced (scope s e) (scope s.recorded e) fun _ ys => ys = [] := by
  unfold scope
  refine (Traced.beside _).bind fun r ys hys => ?_
  subst hys
  cases r with
  | error fault => exact .pure rfl
  | ok tenant =>
    refine (Traced.beside _).bind fun r ys hys => ?_
    subst hys
    cases r with
    | error fault => exact .pure rfl
    | ok entity => cases tenant <;> cases entity <;> exact .pure rfl

theorem traced_actor (s : Surroundings σ) (userId : Option String) :
    Traced (actor s userId) (actor s.recorded userId) fun _ ys => ys = [] := by
  unfold actor
  split
  · exact .pure rfl
  · exact .pure rfl
  · refine (Traced.beside _).bind fun r ys hys => ?_
    subst hys
    cases r with
    | ok user => exact .pure rfl
    | error fault =>
      refine (Traced.beside _).bind fun _ ys hys => ?_
      subst hys
      exact .pure rfl

/-- A batch has an outcome for each rule, in order, and counts those that matched. -/
structure Batch.Accounts (b : Batch) (rules : List Rule) : Prop where
  outcomes : List.Forall₂ (fun rule o => o.Accounts rule) rules b.outcomes
  triggered : b.triggered = b.outcomes.countP (·.result.matched)

theorem countP_failed {rules : List Rule} {os : List Outcome}
    (h : List.Forall₂ (fun rule o => o.Accounts rule ∧ o.status = .failed) rules os) :
    os.countP (·.result.matched) = 0 := by
  induction h with
  | nil => rfl
  | @cons rule o rest more ho _ ih =>
    have hm : o.result.matched ≠ true := fun hm => by
      have := ho.1.status.2 hm
      rw [ho.2] at this
      cases this
    rw [List.countP_cons, ih]
    simp [hm]

/-- What one event comes to, given what was fetched for it. -/
def Settled (e : Event) (fetched : Except Fault (List Rule)) (r : Except Fault Batch)
    (ys : List Execution) : Prop :=
  match fetched with
  | .error _ => r = .ok .empty ∧ ys = []
  | .ok rules =>
    (∃ b, r = .ok b ∧ b.Accounts rules ∧ ys = b.outcomes.map (Outcome.execution e)) ∨
      ∃ fault, r = .error fault ∧ ∃ rule ∈ rules, rule.conditions.count = .error fault

theorem traced_applyAll (s : Surroundings σ) (e : Event) (w : σ) :
    TracedAt w (applyAll s e) (applyAll s.recorded e)
      (Settled e (s.activeRules e.tenantId e.entityId e.operation w).1) := by
  -- Only the answer in this very state decides which rules there are; after it any state will do.
  have hfetch : TracedAt w (s.activeRules e.tenantId e.entityId e.operation)
      (s.recorded.activeRules e.tenantId e.entityId e.operation) fun r ys =>
        r = (s.activeRules e.tenantId e.entityId e.operation w).1 ∧ ys = [] := by
    intro xs
    obtain ⟨ys, hrun, hys⟩ := Traced.beside (s.activeRules e.tenantId e.entityId e.operation) w xs
    exact ⟨ys, hrun, rfl, hys⟩
  unfold applyAll
  refine Traced.bind_at hfetch fun r ys hr => ?_
  obtain ⟨hr, rfl⟩ := hr
  rw [← hr]
  cases r with
  | error fault =>
    refine (Traced.beside _).bind fun _ ys hys => ?_
    subst hys
    exact .pure ⟨rfl, rfl⟩
  | ok rules =>
    cases rules with
    | nil => exact .pure (.inl ⟨.empty, rfl, ⟨.nil, rfl⟩, rfl⟩)
    | cons rule rest =>
      refine (traced_scope s e).bind fun r ys hys => ?_
      subst hys
      cases r with
      | error fault =>
        refine (Traced.beside _).bind fun _ ys hys => ?_
        subst hys
        refine (traced_abortAll s e fault.message (rule :: rest)).bind fun r ys hr => .pure ?_
        rcases hr with ⟨os, rfl, hos, rfl⟩ | ⟨fault, rfl, hfault⟩
        · exact .inl ⟨⟨0, os⟩, rfl, ⟨hos.imp fun _ _ h => h.1, (countP_failed hos).symm⟩, by simp⟩
        · exact .inr ⟨fault, rfl, hfault⟩
      | ok found =>
        obtain ⟨tenant, entity⟩ := found
        refine (traced_actor s e.userId).bind fun user ys hys => ?_
        subst hys
        refine (traced_applyEach s e _ (rule :: rest)).bind fun r ys hr => .pure ?_
        rcases hr with ⟨os, rfl, hos, rfl⟩ | ⟨fault, rfl, hfault⟩
        · exact .inl ⟨⟨triggeredCount os, os⟩, rfl, ⟨hos, rfl⟩, by simp⟩
        · exact .inr ⟨fault, rfl, hfault⟩

end Rule

end RecordDesk
