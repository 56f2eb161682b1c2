import RecordDesk.Proofs.Rule.Batch
import RecordDesk.Proofs.Rule.Stages
set_option autoImplicit false

namespace RecordDesk

namespace Condition

variable {nans : NaNs} {cs : List Condition} {fields : Fields} {details : List Detail}

theorem evaluateAll_ok (h : evaluateAll nans cs fields = .ok details) : details.map (·.condition) = cs ∧
    ∀ detail ∈ details, detail.condition.evaluate nans fields = .ok detail.check := by
  rw [evaluateAll] at h
  induction cs generalizing details with
  | nil =>
    cases h
    simp
  | cons c rest ih =>
    rw [List.mapM_cons] at h
    obtain ⟨detail, hd, h⟩ := ok_of_bind h
    obtain ⟨more, hmore, h⟩ := ok_of_bind h
    cases h
    obtain ⟨check, hcheck, hd⟩ := ok_of_bind hd
    cases hd
    obtain ⟨hmap, hall⟩ := ih hmore
    refine ⟨by rw [List.map_cons, hmap], ?_⟩
    simpa using ⟨hcheck, hall⟩

theorem evaluateAll_error_iff {fault : Fault} : evaluateAll nans cs fields = .error fault ↔
    ∃ passed c rest, cs = passed ++ c :: rest ∧ (∀ p ∈ passed, ∃ check, p.evaluate nans fields = .ok check) ∧
      c.evaluate nans fields = .error fault := by
  have hdetail (c : Condition) :
      (do return ⟨c, ← c.evaluate nans fields⟩ : Except Fault Detail) =
        (c.evaluate nans fields).map (Detail.mk c) := by
    cases c.evaluate nans fields <;> rfl
  simp only [evaluateAll, mapM_error_iff, hdetail, map_ok_iff, map_error_iff]

theorem evaluateAll_error {fault : Fault} (h : evaluateAll nans cs fields = .error fault) :
    ∃ c ∈ cs, c.evaluate nans fields = .error fault := by
  obtain ⟨passed, c, rest, rfl, -, hc⟩ := evaluateAll_error_iff.1 h
  exact ⟨c, List.mem_append_right passed List.mem_cons_self, hc⟩

theorem allMatched_iff : allMatched details = true ↔ ∀ detail ∈ details, detail.check.matched = true := by
  simp [allMatched, met, List.countP_eq_length]

end Condition

namespace Rule

/-- What conditions decide over the fields of a record: they hold all, or not all, or there is no
telling. -/
inductive Verdict (nans : NaNs) (fields : Fields) (conditions : Document) : Status → Prop where
  | matched {cs : List Condition} : readConditions conditions = .ok cs →
      (∀ c ∈ cs, ∃ check, c.evaluate nans fields = .ok check ∧ check.matched = true) →
      Verdict nans fields conditions .matched
  | skipped {cs : List Condition} : readConditions conditions = .ok cs →
      (∀ c ∈ cs, ∃ check, c.evaluate nans fields = .ok check) →
      (∃ c ∈ cs, ∃ check, c.evaluate nans fields = .ok check ∧ check.matched = false) →
      Verdict nans fields conditions .skipped
  | unread {fault : Fault} : readConditions conditions = .error fault → Verdict nans fields conditions .failed
  | undecided {cs : List Condition} {c : Condition} {fault : Fault} :
    readConditions conditions = .ok cs → c ∈ cs →
      c.evaluate nans fields = .error fault → Verdict nans fields conditions .failed

namespace Verdict

variable {nans : NaNs} {fields : Fields} {conditions : Document} {cs : List Condition}
  {details : List Condition.Detail}

theorem of_details (hread : readConditions conditions = .ok cs)
    (h : Condition.evaluateAll nans cs fields = .ok details) :
    Verdict nans fields conditions (if Condition.allMatched details then .matched else .skipped) := by
  obtain ⟨rfl, hchecks⟩ := Condition.evaluateAll_ok h
  split
  · rename_i hall
    refine .matched hread fun c hc => ?_
    obtain ⟨detail, hmem, rfl⟩ := List.mem_map.1 hc
    exact ⟨detail.check, hchecks detail hmem, Condition.allMatched_iff.1 hall detail hmem⟩
  · rename_i hall
    rw [Condition.allMatched_iff] at hall
    refine .skipped hread (fun c hc => ?_) ?_
    · obtain ⟨detail, hmem, rfl⟩ := List.mem_map.1 hc
      exact ⟨detail.check, hchecks detail hmem⟩
    · obtain ⟨detail, hmem, hunmet⟩ : ∃ detail ∈ details, detail.check.matched = false := by simpa using hall
      exact ⟨detail.condition, List.mem_map_of_mem hmem, detail.check, hchecks detail hmem, hunmet⟩

theorem unique {a b : Status} (ha : Verdict nans fields conditions a)
    (hb : Verdict nans fields conditions b) : a = b := by
  cases ha <;> cases hb <;> grind

theorem matched_details (h : Verdict nans fields conditions .matched) : ∃ details,
    (readConditions conditions >>= fun cs => Condition.evaluateAll nans cs fields) = .ok details
      ∧ Condition.allMatched details = true := by
  obtain ⟨hread, hall⟩ := h
  rename_i cs
  rw [hread]
  cases heval : Condition.evaluateAll nans cs fields with
  | error fault =>
    obtain ⟨one, hmem, hone⟩ := Condition.evaluateAll_error heval
    obtain ⟨check, hcheck, -⟩ := hall one hmem
    cases hone.symm.trans hcheck
  | ok details =>
    refine ⟨details, heval, ?_⟩
    have hverdict := (of_details hread heval).unique (.matched hread hall)
    by_contra hnot
    rw [if_neg hnot] at hverdict
    cases hverdict

end Verdict

variable {σ : Type} {s : Surroundings σ} {e : Event} {w w' : σ} {rule : Rule}

theorem evaluate_ok {c : Context} {r : Evaluation} (h : evaluate s rule c w = (.ok r, w')) :
    Verdict s.nans c.record.fields rule.conditions (if r.matched then .matched else .skipped) := by
  cases hread : (readConditions rule.conditions >>= fun cs =>
    Condition.evaluateAll s.nans cs c.record.fields) with
  | error fault =>
    rw [evaluate_unread hread] at h
    cases h
  | ok details =>
    obtain ⟨cs, hcs, heval⟩ := ok_of_bind hread
    have hverdict := Verdict.of_details hcs heval
    by_cases hall : Condition.allMatched details = true
    · rw [if_pos hall] at hverdict
      cases hactions : rule.actions.sequence with
      | error fault =>
        rw [evaluate_listless hread hall hactions] at h
        cases h
      | ok actions =>
        rw [evaluate_matched hread hall hactions] at h
        cases h
        exact hverdict
    · rw [if_neg hall] at hverdict
      rw [evaluate_skipped hread hall] at h
      cases h
      exact hverdict

theorem evaluate_error {c : Context} {fault : Fault} (hl : rule.HasLists)
    (h : evaluate s rule c w = (.error fault, w')) :
    Verdict s.nans c.record.fields rule.conditions .failed ∧ w' = w := by
  obtain ⟨-, ds, -, hactions⟩ := hl
  cases hread : (readConditions rule.conditions >>= fun cs =>
    Condition.evaluateAll s.nans cs c.record.fields) with
  | error fault' =>
    rw [evaluate_unread hread] at h
    cases h
    refine ⟨?_, rfl⟩
    cases hcs : readConditions rule.conditions with
    | error fault' => exact .unread hcs
    | ok cs =>
      rw [hcs] at hread
      obtain ⟨c, hmem, hc⟩ := Condition.evaluateAll_error hread
      exact .undecided hcs hmem hc
  | ok details =>
    -- A list of actions is carried out to its end.
    have hlist : rule.actions.sequence = .ok ds := by rw [hactions]; rfl
    by_cases hall : Condition.allMatched details = true
    · rw [evaluate_matched hread hall hlist] at h
      cases h
    · rw [evaluate_skipped hread hall] at h
      cases h

theorem conclusionOfFailure_ok (hl : rule.HasLists) (error : String) :
    ∃ result w', conclusionOfFailure s e rule error w = (.ok ⟨rule.id, .failed, result, some error⟩, w') := by
  obtain ⟨cs, ds, hconditions, -⟩ := hl
  unfold conclusionOfFailure
  rw [hconditions]
  exact ⟨_, _, rfl⟩

/-- What an outcome comes to where the scope of the event is known: the verdict of the conditions. -/
theorem applyOne_verdict {c : Context} (hl : rule.HasLists) : ∃ o w', applyOne s e c rule w = (.ok o, w') ∧
    o.ruleId = rule.id ∧ Verdict s.nans c.record.fields rule.conditions o.status := by
  cases heval : evaluate s rule c w with
  | mk answer w1 =>
    cases answer with
    | ok r => exact ⟨_, _, applyOne_decided heval, rfl, evaluate_ok heval⟩
    | error fault =>
      rw [applyOne_broken heval]
      obtain ⟨result, w', hfailure⟩ := conclusionOfFailure_ok hl fault.message
      exact ⟨_, _, hfailure, rfl, (evaluate_error hl heval).1⟩

theorem applyEach_verdicts {c : Rule → Context} (hc : ∀ rule, (c rule).record = e.record) {rules : List Rule}
    (hl : ∀ rule ∈ rules, rule.HasLists) : ∃ os w', applyEach s e c rules w = (.ok os, w') ∧ List.Forall₂
      (fun rule o => o.ruleId = rule.id ∧ Verdict s.nans e.record.fields rule.conditions o.status)
        rules os := by
  induction rules generalizing w with
  | nil => exact ⟨[], w, rfl, .nil⟩
  | cons rule rest ih =>
    obtain ⟨hrule, hrest⟩ := List.forall_mem_cons.1 hl
    obtain ⟨o, w1, hone, hid, hverdict⟩ := applyOne_verdict (s := s) (e := e) (w := w) (c := c rule) hrule
    obtain ⟨os, w2, heach, hall⟩ := ih (w := w1) hrest
    rw [hc rule] at hverdict
    exact ⟨o :: os, w2, by rw [applyEach_cons hone, heach]; rfl, .cons ⟨hid, hverdict⟩ hall⟩

theorem abortAll_failed (error : String) {rules : List Rule} (hl : ∀ rule ∈ rules, rule.HasLists) :
    ∃ os w', abortAll s e error rules w = (.ok os, w') ∧
      List.Forall₂ (fun rule o => o.ruleId = rule.id ∧ o.status = .failed) rules os := by
  induction rules generalizing w with
  | nil => exact ⟨[], w, rfl, .nil⟩
  | cons rule rest ih =>
    obtain ⟨hrule, hrest⟩ := List.forall_mem_cons.1 hl
    obtain ⟨result, w1, hone⟩ := conclusionOfFailure_ok (s := s) (e := e) (w := w) hrule error
    obtain ⟨os, w2, hmore, hall⟩ := ih (w := w1) hrest
    exact ⟨_ :: os, w2, by rw [abortAll_cons hone, hmore]; rfl, .cons ⟨rfl, rfl⟩ hall⟩

def Scoped (s : Surroundings σ) (e : Event) (w : σ) : Prop := ∃ found, (scope s e w).1 = .ok found

theorem scoped_iff {tenant : Except Fault (Option TenantRef)} {entity : Except Fault (Option EntityRef)}
    (ht : s.tenant e.tenantId w = (tenant, w)) (hn : s.entity e.entityId w = (entity, w)) :
    Scoped s e w ↔ (∃ t, tenant = .ok (some t)) ∧ ∃ n, entity = .ok (some n) := by
  unfold Scoped scope
  simp only [bind, StateT.bind, ht]
  cases tenant with
  | error fault => simp [pure, StateT.pure]
  | ok t =>
    simp only [bind, StateT.bind, hn]
    cases entity with
    | error fault => simp [pure, StateT.pure]
    | ok n => cases t <;> cases n <;> simp [pure, StateT.pure]

/-- The status that a rule has to have: the verdict of its conditions, or failed in an unknown scope. -/
def Due (s : Surroundings σ) (e : Event) (w : σ) (rule : Rule) (status : Status) : Prop :=
  Scoped s e w ∧ Verdict s.nans e.record.fields rule.conditions status ∨ ¬ Scoped s e w ∧ status = .failed

theorem Due.unique {a b : Status} (ha : Due s e w rule a) (hb : Due s e w rule b) : a = b := by
  rcases ha with ⟨hscoped, ha⟩ | ⟨hunknown, rfl⟩ <;> rcases hb with ⟨hscoped', hb⟩ | ⟨hunknown', rfl⟩
  · exact ha.unique hb
  · exact absurd hscoped hunknown'
  · exact absurd hscoped' hunknown
  · rfl

theorem scoped_of_ok {found : TenantRef × EntityRef} (h : scope s e w = (.ok found, w')) : Scoped s e w :=
  ⟨found, congrArg Prod.fst h⟩

theorem not_scoped_of_error {fault : Fault} (h : scope s e w = (.error fault, w')) : ¬ Scoped s e w := by
  rintro ⟨found, hfound⟩
  rw [h] at hfound
  cases hfound

/-- Each rule of a batch has one outcome, with the status that it has to have. -/
theorem applyAll_outcomes {rules : List Rule}
    (hrules : s.activeRules e.tenantId e.entityId e.operation w = (.ok rules, w'))
    (hl : ∀ rule ∈ rules, rule.HasLists) {b : Batch} (hb : (applyAll s e w).1 = .ok b) :
    List.Forall₂ (fun rule o => o.ruleId = rule.id ∧ Due s e w' rule o.status) rules b.outcomes := by
  cases rules with
  | nil =>
    rw [applyAll_none hrules] at hb
    cases hb
    exact .nil
  | cons rule rest =>
    cases hscope : scope s e w' with
    | mk answer w1 =>
      cases answer with
      | error fault =>
        rw [applyAll_aborted hrules hscope] at hb
        obtain ⟨os, w2, habort, hall⟩ :=
          abortAll_failed (s := s) (e := e) (w := (s.log (Log.failure loggerName
          "Rule evaluation aborted" [("tenant", .text e.tenantId), ("record", .text e.record.id)]
          (some fault.message)) w1).2) fault.message hl
        rw [habort] at hb
        cases hb
        exact hall.imp fun _ _ ho => ⟨ho.1, .inr ⟨not_scoped_of_error hscope, ho.2⟩⟩
      | ok found =>
        obtain ⟨tenant, entity⟩ := found
        obtain ⟨user, w2, hactor⟩ : ∃ user w2, actor s e.userId w1 = (user, w2) := ⟨_, _, rfl⟩
        rw [applyAll_scoped hrules hscope hactor] at hb
        obtain ⟨os, w3, heach, hall⟩ := applyEach_verdicts (s := s) (e := e) (w := w2)
          (c := contextOf e tenant entity user) (fun _ => rfl) hl
        rw [heach] at hb
        cases hb
        exact hall.imp fun _ _ ho => ⟨ho.1, .inl ⟨scoped_of_ok hscope, ho.2⟩⟩

theorem applyAll_due {rules : List Rule}
    (hrules : s.activeRules e.tenantId e.entityId e.operation w = (.ok rules, w'))
    (hl : ∀ rule ∈ rules, rule.HasLists) : ∃ b, (applyAll s e w).1 = .ok b ∧
      b.triggered = b.outcomes.countP (·.status = .matched) ∧
      List.Forall₂ (fun rule o => o.ruleId = rule.id ∧ Due s e w' rule o.status) rules b.outcomes := by
  obtain ⟨ys, -, hsettled⟩ := traced_applyAll s e w []
  rw [hrules] at hsettled
  rcases hsettled with ⟨b, hb, haccounts, -⟩ | ⟨fault, -, rule, hmem, hcount⟩
  · exact ⟨b, hb, haccounts.triggered.trans (countP_status haccounts.outcomes).symm,
      applyAll_outcomes hrules hl hb⟩
  · exact absurd hcount ((hl rule hmem).count_ne_error fault)

end Rule

end RecordDesk
