import RecordDesk.Proofs.Rule.Outcomes
set_option autoImplicit false

namespace RecordDesk

namespace Rule

variable {σ : Type}

def fetched (s : Surroundings σ) (e : Event) (w : σ) : List Rule :=
  match (s.activeRules e.tenantId e.entityId e.operation w).1 with
  | .ok rules => rules
  | .error _ => []

def HasLists (rule : Rule) : Prop := ∃ cs ds, rule.conditions = .list cs ∧ rule.actions = .list ds

theorem HasLists.count_ne_error {rule : Rule} (h : rule.HasLists) (fault : Fault) :
    rule.conditions.count ≠ .error fault := by
  obtain ⟨cs, ds, hc, -⟩ := h
  rw [hc]
  exact fun heq => by cases heq

theorem map_ruleId {rules : List Rule} {os : List Outcome}
    (h : List.Forall₂ (fun rule o => o.Accounts rule) rules os) :
    os.map (·.ruleId) = rules.map (·.id) := by
  induction h with
  | nil => rfl
  | cons ho _ ih => rw [List.map_cons, List.map_cons, ho.ruleId, ih]

theorem countP_status {rules : List Rule} {os : List Outcome}
    (h : List.Forall₂ (fun rule o => o.Accounts rule) rules os) :
    os.countP (·.status = .matched) = os.countP (·.result.matched) := by
  induction h with
  | nil => rfl
  | cons ho _ ih =>
    have hs := ho.status
    rw [List.countP_cons, List.countP_cons, ih]
    simp [hs]

/-- The numbers of an outcome agree with each other, except that a rule without conditions which failed did
not match although nothing was unmet. -/
structure Outcome.Consistent (o : Outcome) (rule : Rule) : Prop where
  met_le : o.result.conditionsMet ≤ o.result.totalConditions
  actions : if o.result.matched then rule.actions.count =
    .ok (o.result.actionsExecuted + o.result.actionsFailed)
    else o.result.actionsExecuted = 0 ∧ o.result.actionsFailed = 0
  matched_iff : (o.result.matched = true ↔ o.result.conditionsMet = o.result.totalConditions) ↔
    ¬ (o.status = .failed ∧ rule.conditions.count = .ok 0)

theorem Outcome.Accounts.consistent {o : Outcome} {rule : Rule} (h : o.Accounts rule) :
    o.Consistent rule := by
  refine ⟨h.result.met_le, ?_, ?_⟩
  · cases hm : o.result.matched with
    | true => exact h.result.ran hm
    | false => exact h.result.idle hm
  · have htotal := h.result.total
    by_cases hf : o.status = .failed
    · have hmet := h.failed hf
      have hm : o.result.matched ≠ true := fun hm => by
        have := h.status.2 hm
        rw [hf] at this
        cases this
      have hzero : rule.conditions.count = .ok 0 ↔ o.result.totalConditions = 0 := by
        rw [htotal]
        exact ⟨fun heq => Except.ok.inj heq, fun heq => by rw [heq]⟩
      rw [hzero, hmet]
      constructor
      · rintro hiff ⟨-, ht⟩
        exact hm (hiff.2 ht.symm)
      · intro hne
        exact ⟨fun ht => absurd ht hm, fun ht => absurd ⟨hf, ht.symm⟩ hne⟩
    · exact ⟨fun _ hn => hf hn.1, fun _ => h.decided hf⟩

/-! Surroundings in which nothing breaks, with a few rules and perhaps no tenant. -/

def calm (tenant : Option TenantRef) (rules : List Rule) : Surroundings Unit where
  nans := .apart
  activeRules _ _ _ := pure (.ok rules)
  tenant _ := pure (.ok tenant)
  entity _ := pure (.ok (some ⟨"e", "E", "e"⟩))
  user _ := pure (.ok none)
  persist _ := pure (.ok ())
  execute _ _ := pure (.ok (.ok "notify" []))
  log _ := pure ()

def creation : Event := ⟨"t", "e", ⟨"r", [], ⟨0, none⟩, none⟩, "create", none⟩

def unconditional : Rule := ⟨"q", "Q", .list [], .list [.null]⟩

/-- A batch of rules with lists is never lost, and the account of what was handed over is that of its
outcomes. -/
theorem applyAll_step_for_step (s : Surroundings σ) (e : Event) (w : σ)
    (hl : ∀ rule ∈ fetched s e w, rule.HasLists) :
    ∃ b w' attempts, applyAll s e w = (.ok b, w') ∧ applyAll s.recorded e (w, []) = (.ok b, w', attempts) ∧
      b.outcomes.map (·.ruleId) = (fetched s e w).map (·.id) ∧
      attempts = b.outcomes.map (Outcome.execution e) ∧
      b.triggered = b.outcomes.countP (·.status = .matched) ∧
      b.triggered = b.outcomes.countP (·.result.matched) := by
  obtain ⟨ys, hrun, hsettled⟩ := traced_applyAll s e w []
  rw [List.nil_append] at hrun
  unfold fetched at hl ⊢
  cases hf : (s.activeRules e.tenantId e.entityId e.operation w).1 with
  | error fault =>
    rw [hf] at hsettled
    obtain ⟨hr, rfl⟩ := hsettled
    rw [hr] at hrun
    exact ⟨.empty, _, [], Prod.ext hr rfl, hrun, rfl, rfl, rfl, rfl⟩
  | ok rules =>
    rw [hf] at hsettled hl
    rcases hsettled with ⟨b, hr, hb, rfl⟩ | ⟨fault, -, rule, hmem, hcount⟩
    · rw [hr] at hrun
      exact ⟨b, _, _, Prod.ext hr rfl, hrun, map_ruleId hb.outcomes, rfl,
        hb.triggered.trans (countP_status hb.outcomes).symm, hb.triggered⟩
    · exact absurd hcount ((hl rule hmem).count_ne_error fault)

theorem unconditional_handed_over : ∃ b w' attempts,
    applyAll (calm (some ⟨"t", "T"⟩) [unconditional]).recorded creation ((), []) = (.ok b, w', attempts) ∧
      attempts = b.outcomes.map (Outcome.execution creation) ∧ b.outcomes.map (·.ruleId) = ["q"] := by
  obtain ⟨b, w', attempts, -, hrun, hids, hattempts, -, -⟩ :=
    applyAll_step_for_step (calm (some ⟨"t", "T"⟩) [unconditional]) creation () (by
      intro rule hmem
      rw [show fetched (calm (some ⟨"t", "T"⟩) [unconditional]) creation () = [unconditional] from rfl,
        List.mem_singleton] at hmem
      exact hmem ▸ ⟨[], [.null], rfl, rfl⟩)
  exact ⟨b, w', attempts, hrun, hattempts, hids⟩

theorem applyAll_accounts {s : Surroundings σ} {e : Event} {w w' : σ} {b : Batch}
    (h : applyAll s e w = (.ok b, w')) :
    List.Forall₂ (fun rule o => o.Consistent rule) (fetched s e w) b.outcomes := by
  obtain ⟨ys, -, hsettled⟩ := traced_applyAll s e w []
  rw [h] at hsettled
  unfold fetched
  cases hf : (s.activeRules e.tenantId e.entityId e.operation w).1 with
  | error fault =>
    rw [hf] at hsettled
    obtain ⟨hb, -⟩ := hsettled
    cases hb
    exact .nil
  | ok rules =>
    rw [hf] at hsettled
    rcases hsettled with ⟨b', hb', hb, -⟩ | ⟨fault, hfault, -⟩
    · cases hb'
      exact hb.outcomes.imp fun _ _ ho => ho.consistent
    · cases hfault

theorem unconditional_accounted : ∃ b, applyAll (calm (some ⟨"t", "T"⟩) [unconditional]) creation
    () = (.ok b, ()) ∧ List.Forall₂ (fun rule o => o.Consistent rule) [unconditional] b.outcomes := by
  have hrun : applyAll (calm (some ⟨"t", "T"⟩) [unconditional]) creation () =
      (.ok ⟨1, [⟨"q", .matched, ⟨true, 0, 0, 1, 0, [detailsMember [],
        ("action_results", .list [(Action.Result.ok "notify" []).toDocument])]⟩, none⟩]⟩, ()) := rfl
  exact ⟨_, hrun, applyAll_accounts hrun⟩

/-- Without conditions nothing is unmet, and still the rule did not match. -/
theorem vacuous_rule_fails : ¬ ∀ (s : Surroundings Unit) (e : Event) (w w' : Unit) (b : Batch),
    applyAll s e w = (.ok b, w') → ∀ o ∈ b.outcomes,
      (o.result.matched = true ↔ o.result.conditionsMet = o.result.totalConditions) := by
  intro hall
  have hrun : applyAll (calm none [unconditional]) creation () =
      (.ok ⟨0, [⟨"q", .failed, ⟨false, 0, 0, 0, 0, [("error", .text (Fault.notFound "Tenant").message)]⟩,
        some (Fault.notFound "Tenant").message⟩]⟩, ()) := rfl
  have hm := (hall _ _ _ _ _ hrun _ List.mem_cons_self).2 rfl
  cases hm

end Rule

end RecordDesk
