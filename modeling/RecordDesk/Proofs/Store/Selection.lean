import RecordDesk.Proofs.Rule.Verdicts
import RecordDesk.Proofs.Store.Rows
set_option autoImplicit false

namespace RecordDesk

theorem filterMap_of_mapM {α β γ ε : Type} {f : α → Except ε β} {k : β → Option γ} {g : α → Option γ}
    (hsame : ∀ a b, f a = .ok b → g a = k b) {as : List α} {bs : List β} (h : as.mapM f = .ok bs) :
    bs.filterMap k = as.filterMap g := by
  induction as generalizing bs with
  | nil =>
    cases h
    rfl
  | cons a rest ih =>
    rw [List.mapM_cons] at h
    obtain ⟨b, hb, h⟩ := ok_of_bind h
    obtain ⟨more, hmore, h⟩ := ok_of_bind h
    cases h
    rw [List.filterMap_cons, List.filterMap_cons, hsame a b hb, ih hmore]

namespace Rule

def Located (e : Event) (s : Store) : Prop :=
  (∃ t, s.tenant? e.tenantId = .ok (some t)) ∧ ∃ n, s.entity? e.entityId = .ok (some n)

theorem found_map {α β : Type} {x : Except Fault (Option α)} {f : α → β} :
    (∃ b, x.map (·.map f) = .ok (some b)) ↔ ∃ a, x = .ok (some a) := by
  cases x with
  | error fault => simp [Except.map]
  | ok a => cases a <;> simp [Except.map]

theorem scoped_iff_located {σ : Type} {s : Surroundings σ} {e : Event} {w : σ} {store : Store}
    (ht : s.tenant e.tenantId w = ((store.tenant? e.tenantId).map (·.map fun t => ⟨t.id, t.name⟩), w))
    (hn : s.entity e.entityId w =
      ((store.entity? e.entityId).map (·.map fun n => ⟨n.id, n.name, n.slug⟩), w)) :
    Scoped s e w ↔ Located e store := by
  rw [scoped_iff ht hn, found_map, found_map]
  rfl

end Rule

namespace Document

/-- What the things in a document are, where it is a collection or counts as an empty one. -/
def things (d : Document) : List Document := (Store.orEmpty d).sequence?.getD []

/-- A list, a text or an object, or what counts as an empty collection. -/
def IsCollection (d : Document) : Prop := (Store.orEmpty d).sequence?.isSome

instance (d : Document) : Decidable d.IsCollection := inferInstanceAs (Decidable (_ = true))

theorem IsCollection.sequence {d : Document} (h : d.IsCollection) :
    (Store.orEmpty d).sequence = .ok d.things := by
  obtain ⟨ds, hds⟩ := Option.isSome_iff_exists.1 h
  rw [Document.sequence, things, hds]
  rfl

theorem IsCollection.of_sequence {d : Document} {ds : List Document}
    (h : (Store.orEmpty d).sequence = .ok ds) : d.IsCollection := by
  unfold Document.sequence at h
  unfold IsCollection
  cases hs : (Store.orEmpty d).sequence? with
  | none => rw [hs] at h; cases h
  | some ds' => rfl

def listed? : Document → Option (List Document)
  | .null => some []
  | .list ds => some ds
  | _ => none

theorem isCollection_of_listed {d : Document} (h : d.listed?.isSome) : d.IsCollection := by
  cases d with
  | null => rfl
  | list ds => cases ds <;> rfl
  | _ => cases h

end Document

namespace RuleRow

def Fetchable (r : RuleRow) : Prop := r.conditions.IsCollection ∧ r.actions.IsCollection

instance (r : RuleRow) : Decidable r.Fetchable := inferInstanceAs (Decidable (_ ∧ _))

def ListShaped (r : RuleRow) : Prop := r.conditions.listed?.isSome ∧ r.actions.listed?.isSome

instance (r : RuleRow) : Decidable r.ListShaped := inferInstanceAs (Decidable (_ ∧ _))

theorem ListShaped.fetchable {r : RuleRow} (h : r.ListShaped) : r.Fetchable :=
  ⟨Document.isCollection_of_listed h.1, Document.isCollection_of_listed h.2⟩

def toRule (r : RuleRow) : Rule := ⟨r.id, r.name, .list r.conditions.things, .list r.actions.things⟩

theorem hasLists_toRule (r : RuleRow) : r.toRule.HasLists := ⟨_, _, rfl, rfl⟩

/-- An active rule of the entity for the operation. -/
def concerns (tenantId entityId operation : String) (r : RuleRow) : Bool :=
  r.tenantId == tenantId && r.entityId == entityId && r.isActive &&
  (r.runOn == operation || r.runOn == "both")

def before (a b : RuleRow) : Bool := Store.earlier a.createdAt b.createdAt a.id b.id

theorem before_iff (a b : RuleRow) : a.before b = true ↔
    a.createdAt.wall < b.createdAt.wall ∨ a.createdAt.wall = b.createdAt.wall ∧ a.id ≤ b.id := by
  simp [before, Store.earlier]

theorem before_trans (a b c : RuleRow) (hab : a.before b = true) (hbc : b.before c = true) :
    a.before c = true := by
  rw [before_iff] at *
  rcases hab with hab | ⟨hab, hid⟩ <;> rcases hbc with hbc | ⟨hbc, hid'⟩
  · exact .inl (by omega)
  · exact .inl (by omega)
  · exact .inl (by omega)
  · exact .inr ⟨hab.trans hbc, String.le_trans hid hid'⟩

theorem before_total (a b : RuleRow) : (a.before b || b.before a) = true := by
  rw [Bool.or_eq_true, before_iff, before_iff]
  rcases Int.lt_trichotomy a.createdAt.wall b.createdAt.wall with h | h | h
  · exact .inl (.inl h)
  · rcases String.le_total a.id b.id with hid | hid
    · exact .inl (.inr ⟨h, hid⟩)
    · exact .inr (.inr ⟨h.symm, hid⟩)
  · exact .inr (.inl h)

theorem id_of_before {a b : RuleRow} (hab : a.before b = true) (hba : b.before a = true) : a.id = b.id := by
  rw [before_iff] at *
  rcases hab with hab | ⟨hab, hid⟩ <;> rcases hba with hba | ⟨hba, hid'⟩
  · omega
  · omega
  · omega
  · exact String.le_antisymm hid hid'

end RuleRow

namespace Store

variable {s : Store} {tenantId entityId operation : String}

def selected (s : Store) (tenantId entityId operation : String) : List RuleRow :=
  ((s.rules.rows.getD []).filter (RuleRow.concerns tenantId entityId operation)).mergeSort RuleRow.before

theorem perm_selected : (s.selected tenantId entityId operation).Perm
    ((s.rules.rows.getD []).filter (RuleRow.concerns tenantId entityId operation)) := List.mergeSort_perm _ _

theorem pairwise_selected : (s.selected tenantId entityId operation).Pairwise fun a b => a.before b = true :=
  List.pairwise_mergeSort RuleRow.before_trans RuleRow.before_total _

theorem mem_selected {r : RuleRow} : r ∈ s.selected tenantId entityId operation ↔
    ∃ rows, s.rules.rows = some rows ∧ r ∈ rows ∧ r.concerns tenantId entityId operation = true := by
  rw [perm_selected.mem_iff, List.mem_filter]
  cases s.rules.rows <;> simp

theorem selected_unique (hkeys : s.rules.KeyedBy (·.id)) {a b : RuleRow}
    (ha : a ∈ s.selected tenantId entityId operation) (hb : b ∈ s.selected tenantId entityId operation)
    (hid : a.id = b.id) : a = b := by
  obtain ⟨rows, hrows, ha, -⟩ := mem_selected.1 ha
  obtain ⟨rows', hrows', hb, -⟩ := mem_selected.1 hb
  cases hrows.symm.trans hrows'
  exact List.inj_on_of_nodup_map (hkeys rows hrows) ha hb hid

theorem selected_only (hkeys : s.rules.KeyedBy (·.id)) (keep : RuleRow → Bool) :
    { s with rules := s.rules.only keep }.selected tenantId entityId operation
      = (s.selected tenantId entityId operation).filter keep := by
  have hrows : { s with rules := s.rules.only keep }.rules.rows.getD [] =
      (s.rules.rows.getD []).filter keep := by
    cases hs : s.rules.rows <;> simp [Table.only, hs]
  have hperm : ({ s with rules := s.rules.only keep }.selected tenantId entityId operation).Perm
      ((s.selected tenantId entityId operation).filter keep) := by
    refine perm_selected.trans ?_
    rw [hrows, List.filter_comm]
    exact (perm_selected.filter keep).symm
  refine hperm.eq_of_pairwise (fun a b ha hb hab hba => ?_) pairwise_selected (pairwise_selected.filter keep)
  exact selected_unique hkeys (List.mem_of_mem_filter (hperm.mem_iff.1 ha)) (List.mem_of_mem_filter hb)
    (RuleRow.id_of_before hab hba)

theorem activeRules_eq {rows : List RuleRow} (hrows : s.rules.rows = some rows) :
    s.activeRules tenantId entityId operation = (s.selected tenantId entityId operation).mapM fun r => do
      return ⟨r.id, r.name, .list (← (orEmpty r.conditions).sequence),
        .list (← (orEmpty r.actions).sequence)⟩ := by
  rw [activeRules, Table.read_of_rows hrows, selected, hrows]
  rfl

theorem activeRules_ok {rows : List RuleRow} (hrows : s.rules.rows = some rows)
    (h : ∀ r ∈ s.selected tenantId entityId operation, r.Fetchable) :
    s.activeRules tenantId entityId operation =
      .ok ((s.selected tenantId entityId operation).map RuleRow.toRule) := by
  rw [activeRules_eq hrows]
  refine mapM_ok fun r hr => ?_
  obtain ⟨hconditions, hactions⟩ := h r hr
  rw [hconditions.sequence, hactions.sequence]
  rfl

theorem fetchable_of_activeRules {rules : List Rule}
    (h : s.activeRules tenantId entityId operation = .ok rules) :
    ∀ r ∈ s.selected tenantId entityId operation, r.Fetchable := by
  cases hrows : s.rules.rows with
  | none =>
    rw [selected, hrows]
    simp
  | some rows =>
    intro r hr
    rw [activeRules_eq hrows] at h
    obtain ⟨rule, hrule⟩ := ok_of_mapM h r hr
    obtain ⟨cs, hcs, hrule⟩ := ok_of_bind hrule
    obtain ⟨ds, hds, -⟩ := ok_of_bind hrule
    exact ⟨.of_sequence hcs, .of_sequence hds⟩

/-! One entity and its rules. -/

def ofRules (rules : List RuleRow) : Store where
  tenants := ⟨"tenants", some [⟨"t", "T"⟩]⟩
  entities := ⟨"entities", some [⟨"e", "t", "E", "e"⟩]⟩
  rules := ⟨"rules", some rules⟩

theorem mem_selected_ofRules {rules : List RuleRow} {r : RuleRow} :
    r ∈ (ofRules rules).selected "t" "e" "create" ↔ r ∈ rules ∧ r.concerns "t" "e" "create" = true := by
  rw [mem_selected]
  simp [ofRules]

end Store

def RuleRow.idle (id : String) (conditions : Document) : RuleRow :=
  ⟨id, "t", "e", id, conditions, .list [], "both", true, ⟨0, none⟩⟩

end RecordDesk
