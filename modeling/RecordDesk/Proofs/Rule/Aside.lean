import RecordDesk.Proofs.Rule.Frame
import RecordDesk.Proofs.Rule.SideBySide
import RecordDesk.Proofs.Rule.Verdicts
set_option autoImplicit false

/-!
Two batches, one of them without a certain rule. If that rule fails whenever it comes to it, and the two
worlds stay related while it is concluded on the one side only, the outcomes of all other rules are the
same.
-/

namespace RecordDesk

namespace Rule

variable {σ τ : Type} {R : σ → τ → Prop} {e : Event} {s : Surroundings σ} {s' : Surroundings τ}
  {ruleId : String}

/-- What may happen on one side only: the scope of the event is looked up, a certain rule is concluded, and
rules log. -/
structure Surroundings.Aside (R : σ → τ → Prop) (e : Event) (ruleId : String) (s : Surroundings σ) :
    Prop where
  tenant : ∀ w v, R w v → R (s.tenant e.tenantId w).2 v
  entity : ∀ w v, R w v → R (s.entity e.entityId w).2 v
  user : ∀ id w v, R w v → R (s.user id w).2 v
  persist : ∀ x, x.ruleId = ruleId → ∀ w v, R w v → R (s.persist x w).2 v
  log : ∀ entry, entry.logger = loggerName → ∀ w v, R w v → R (s.log entry w).2 v

theorem frame_related (v : τ) : Frame fun w w' : σ => R w v → R w' v :=
  ⟨fun _ h => h, fun h h' hr => h' (h hr)⟩

namespace Surroundings.Aside

variable (ha : s.Aside R e ruleId) {w : σ} {v : τ}

include ha

theorem scope (h : R w v) : R (Rule.scope s e w).2 v :=
  closed_scope (frame_related v).closed (fun w => ha.tenant w v) (fun w => ha.entity w v) w h

theorem actor (h : R w v) : R (Rule.actor s e.userId w).2 v :=
  closed_actor (frame_related v).closed (fun id w => ha.user id w v)
    (fun entry hlog w => ha.log entry hlog w v) e.userId w h

theorem conclusionOfFailure {rule : Rule} (hid : rule.id = ruleId) (error : String) (h : R w v) :
    R (Rule.conclusionOfFailure s e rule error w).2 v :=
  closed_conclusionOfFailure (frame_related v).closed (fun x hx w => ha.persist x (hx.trans hid) w v)
    (fun entry hlog w => ha.log entry hlog w v) e error w h

theorem applyOne {rule : Rule} {c : Context} (hl : rule.HasLists) (hid : rule.id = ruleId)
    (hfails : Verdict s.nans c.record.fields rule.conditions .failed) (h : R w v) :
    R (Rule.applyOne s e c rule w).2 v := by
  cases heval : evaluate s rule c w with
  | mk answer w1 =>
    cases answer with
    | ok r =>
      -- An evaluation that comes to an end is no failure.
      have hstatus := hfails.unique (evaluate_ok heval)
      split at hstatus <;> cases hstatus
    | error fault =>
      obtain ⟨-, rfl⟩ := evaluate_error hl heval
      rw [applyOne_broken heval]
      exact ha.conclusionOfFailure hid fault.message (ha.log _ rfl _ _ h)

end Surroundings.Aside

/-- The answers of two batches of outcomes, where those of a certain rule are not looked at, and related
worlds. -/
def SameBut (R : σ → τ → Prop) (ruleId : String) (r : Except Fault (List Outcome) × σ)
    (r' : Except Fault (List Outcome) × τ) : Prop :=
  ∃ os, r.1 = .ok os ∧ r'.1 = .ok (os.filter (·.ruleId != ruleId)) ∧ R r.2 r'.2

theorem SameBut.here {o : Outcome} {r : Except Fault (List Outcome) × σ}
    {r' : Except Fault (List Outcome) × τ} (hid : o.ruleId = ruleId) (h : SameBut R ruleId r r') :
    SameBut R ruleId (r.1.map (o :: ·), r.2) r' := by
  obtain ⟨os, hr, hr', hend⟩ := h
  refine ⟨o :: os, by rw [hr]; rfl, ?_, hend⟩
  rw [hr', List.filter_cons_of_neg (by simpa using hid)]

theorem SameBut.both {o : Outcome} {r : Except Fault (List Outcome) × σ}
    {r' : Except Fault (List Outcome) × τ} (hid : o.ruleId ≠ ruleId) (h : SameBut R ruleId r r') :
    SameBut R ruleId (r.1.map (o :: ·), r.2) (r'.1.map (o :: ·), r'.2) := by
  obtain ⟨os, hr, hr', hend⟩ := h
  refine ⟨o :: os, by rw [hr]; rfl, ?_, hend⟩
  rw [hr', List.filter_cons_of_pos (by simpa using hid)]
  rfl

variable (h : s.Alike R e s') (ha : s.Aside R e ruleId)

include h ha

theorem abortAll_aside (error : String) {rules : List Rule} (hl : ∀ rule ∈ rules, rule.HasLists) {w : σ}
    {v : τ} (hwv : R w v) : SameBut R ruleId (abortAll s e error rules w)
      (abortAll s' e error (rules.filter (·.id != ruleId)) v) := by
  induction rules generalizing w v with
  | nil => exact ⟨[], rfl, rfl, hwv⟩
  | cons rule rest ih =>
    obtain ⟨hrule, hrest⟩ := List.forall_mem_cons.1 hl
    obtain ⟨result, w1, hone⟩ := conclusionOfFailure_ok (s := s) (e := e) (w := w) hrule error
    rw [abortAll_cons hone]
    by_cases hid : rule.id = ruleId
    · rw [List.filter_cons_of_neg (by simpa using hid)]
      have hstep := ha.conclusionOfFailure hid error hwv
      rw [hone] at hstep
      exact (ih hrest hstep).here hid
    · rw [List.filter_cons_of_pos (by simpa using hid)]
      obtain ⟨hanswer, hstep⟩ := alike_conclusionOfFailure h rule error w v hwv
      rw [hone] at hanswer hstep
      rw [abortAll_cons (Prod.ext hanswer.symm rfl)]
      exact (ih hrest hstep).both hid

theorem applyEach_aside {c : Rule → Context} (hc : ∀ rule, (c rule).record = e.record) {rules : List Rule}
    (hl : ∀ rule ∈ rules, rule.HasLists)
    (hbad : ∀ rule ∈ rules, rule.id = ruleId → Verdict s.nans e.record.fields rule.conditions .failed)
    {w : σ} {v : τ} (hwv : R w v) : SameBut R ruleId (applyEach s e c rules w)
      (applyEach s' e c (rules.filter (·.id != ruleId)) v) := by
  induction rules generalizing w v with
  | nil => exact ⟨[], rfl, rfl, hwv⟩
  | cons rule rest ih =>
    obtain ⟨hrule, hrest⟩ := List.forall_mem_cons.1 hl
    obtain ⟨hfails, hrest'⟩ := List.forall_mem_cons.1 hbad
    obtain ⟨o, w1, hone, ho, -⟩ := applyOne_verdict (s := s) (e := e) (w := w) (c := c rule) hrule
    rw [applyEach_cons hone]
    by_cases hid : rule.id = ruleId
    · rw [List.filter_cons_of_neg (by simpa using hid)]
      have hstep := ha.applyOne hrule hid ((hc rule).symm ▸ hfails hid) hwv
      rw [hone] at hstep
      exact (ih hrest hrest' hstep).here (ho.trans hid)
    · rw [List.filter_cons_of_pos (by simpa using hid)]
      obtain ⟨hanswer, hstep⟩ := alike_applyOne h (c rule) rule w v hwv
      rw [hone] at hanswer hstep
      rw [applyEach_cons (Prod.ext hanswer.symm rfl)]
      exact (ih hrest hrest' hstep).both (ho ▸ hid)

/-- Batches over related worlds that come to the same outcomes but for those of a certain rule. -/
def SameButBatch (R : σ → τ → Prop) (ruleId : String) (r : Except Fault Batch × σ)
    (r' : Except Fault Batch × τ) : Prop :=
  ∃ b b', r.1 = .ok b ∧ r'.1 = .ok b' ∧ b'.outcomes = b.outcomes.filter (·.ruleId != ruleId) ∧ R r.2 r'.2

omit h ha in
theorem SameBut.batch {r : Except Fault (List Outcome) × σ} {r' : Except Fault (List Outcome) × τ}
    (hr : SameBut R ruleId r r') (count count' : List Outcome → Nat) :
    SameButBatch R ruleId (r.1.map fun os => ⟨count os, os⟩, r.2)
      (r'.1.map fun os => ⟨count' os, os⟩, r'.2) := by
  obtain ⟨os, hos, hos', hend⟩ := hr
  exact ⟨_, _, by rw [hos]; rfl, by rw [hos']; rfl, rfl, hend⟩

section

variable {rules : List Rule} {w1 w2 w3 : σ} {v v1 v2 v3 : τ}

/-- In an unknown scope all rules fail on both sides. Where nothing is left on the other one, it does not
even look the scope up. -/
theorem aborted_aside (hrules' : s'.activeRules e.tenantId e.entityId e.operation v
      = (.ok (rules.filter (·.id != ruleId)), v1))
    {fault : Fault} (hscope' : scope s' e v1 = (.error fault, v2)) (hl : ∀ rule ∈ rules, rule.HasLists)
    (hwv : R w2 v2) (halone : R w2 v1) :
    let aborted := abortAll s e fault.message rules (s.log (Log.failure loggerName "Rule evaluation aborted"
      [("tenant", .text e.tenantId), ("record", .text e.record.id)] (some fault.message)) w2).2
    SameButBatch R ruleId (aborted.1.map fun outcomes => ⟨0, outcomes⟩, aborted.2) (applyAll s' e v) := by
  let entry := Log.failure loggerName "Rule evaluation aborted"
    [("tenant", .text e.tenantId), ("record", .text e.record.id)] (some fault.message)
  cases hothers : rules.filter (·.id != ruleId) with
  | nil =>
    have hsame := abortAll_aside h ha fault.message hl (ha.log entry rfl _ _ halone)
    rw [hothers] at hrules' hsame
    rw [applyAll_none hrules']
    exact hsame.batch (fun _ => 0) fun _ => 0
  | cons other others =>
    have hsame := abortAll_aside h ha fault.message hl (h.log entry _ _ hwv).2
    rw [hothers] at hrules' hsame
    rw [applyAll_aborted hrules' hscope']
    exact hsame.batch (fun _ => 0) fun _ => 0

theorem scoped_aside (hrules' : s'.activeRules e.tenantId e.entityId e.operation v
      = (.ok (rules.filter (·.id != ruleId)), v1))
    {tenant : TenantRef} {entity : EntityRef} {user : UserRef}
    (hscope' : scope s' e v1 = (.ok (tenant, entity), v2))
    (hactor' : actor s' e.userId v2 = (user, v3)) (hl : ∀ rule ∈ rules, rule.HasLists)
    (hbad : ∀ rule ∈ rules, rule.id = ruleId → Verdict s.nans e.record.fields rule.conditions .failed)
    (hwv : R w3 v3) (halone : R w3 v1) :
    let applied := applyEach s e (contextOf e tenant entity user) rules w3
    SameButBatch R ruleId (applied.1.map fun outcomes => ⟨triggeredCount outcomes, outcomes⟩, applied.2)
      (applyAll s' e v) := by
  cases hothers : rules.filter (·.id != ruleId) with
  | nil =>
    have heach := applyEach_aside h ha (c := contextOf e tenant entity user) (fun _ => rfl) hl hbad halone
    rw [hothers] at hrules' heach
    rw [applyAll_none hrules']
    exact heach.batch triggeredCount triggeredCount
  | cons other others =>
    have heach := applyEach_aside h ha (c := contextOf e tenant entity user) (fun _ => rfl) hl hbad hwv
    rw [hothers] at hrules' heach
    rw [applyAll_scoped hrules' hscope' hactor']
    exact heach.batch triggeredCount triggeredCount

theorem applyAll_aside {w : σ}
    (hrules : s.activeRules e.tenantId e.entityId e.operation w = (.ok rules, w1))
    (hrules' : s'.activeRules e.tenantId e.entityId e.operation v = (.ok (rules.filter (·.id != ruleId)), v1))
    (hl : ∀ rule ∈ rules, rule.HasLists)
    (hbad : ∀ rule ∈ rules, rule.id = ruleId → Due s e w1 rule .failed) (hwv : R w1 v1) :
    SameButBatch R ruleId (applyAll s e w) (applyAll s' e v) := by
  cases rules with
  | nil =>
    rw [applyAll_none hrules, applyAll_none hrules']
    exact ⟨.empty, .empty, rfl, rfl, rfl, hwv⟩
  | cons rule rest =>
    obtain ⟨hanswer, hscoped⟩ := alike_scope h w1 v1 hwv
    have halone := ha.scope hwv
    cases hscope : scope s e w1 with
    | mk answer w2 =>
      rw [hscope] at hanswer hscoped halone
      cases answer with
      | error fault =>
        rw [applyAll_aborted hrules hscope]
        exact aborted_aside h ha hrules' (Prod.ext hanswer.symm rfl) hl hscoped halone
      | ok found =>
        obtain ⟨tenant, entity⟩ := found
        have hfails : ∀ rule' ∈ rule :: rest, rule'.id = ruleId →
            Verdict s.nans e.record.fields rule'.conditions .failed := by
          intro rule' hmem hid
          rcases hbad rule' hmem hid with ⟨-, hverdict⟩ | ⟨hunknown, -⟩
          · exact hverdict
          · exact absurd (scoped_of_ok hscope) hunknown
        obtain ⟨hsame, hacted⟩ := alike_actor h w2 _ hscoped
        have hactedAlone := ha.actor halone
        cases hactor : actor s e.userId w2 with
        | mk user w3 =>
          rw [hactor] at hsame hacted hactedAlone
          rw [applyAll_scoped hrules hscope hactor]
          exact scoped_aside h ha hrules' (Prod.ext hanswer.symm rfl) (Prod.ext hsame.symm rfl)
            hl hfails hacted hactedAlone

end

end Rule

end RecordDesk
