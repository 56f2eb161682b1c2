import RecordDesk.Proofs.Store.Listing
import RecordDesk.Proofs.Tenancy.Stores
import RecordDesk.Proofs.Widget.Predicates
import RecordDesk.Widget.Data
set_option autoImplicit false

namespace RecordDesk

namespace Store

open Widget

def SameUsers (named : String → Prop) (s s' : Store) : Prop :=
  ∀ id, named id → s.users.seen id = s'.users.seen id

variable {tenant : String} {named : String → Prop} {s s' : Store}

theorem mem_select {p : Predicate} {rows : List RecordRow} (hp : p.tenantId = .text tenant)
    (h : s.select p = .ok rows) : ∀ r ∈ rows, r.tenantId = tenant ∧ ∃ all, s.records.rows = some all ∧
    r ∈ all := by
  obtain ⟨found, hfound, h⟩ := ok_of_bind h
  obtain ⟨all, hall, hfound⟩ := ok_of_bind hfound
  cases hfound
  intro r hr
  rw [filterM_ok h] at hr
  have hmem := List.mem_of_mem_filter hr
  rw [List.mem_mergeSort, List.mem_filter] at hmem
  simp only [hp, Document.isText, Bool.and_eq_true, beq_iff_eq] at hmem
  exact ⟨hmem.2.1.1.symm, all, Table.rows_of_read hall, hmem.1⟩

theorem listed_same {users users' : List UserRow} (husers : s.users.rows = some users)
    (husers' : s'.users.rows = some users') (hu : s.SameUsers named s') {r : RecordRow}
    (hr : ∀ id, r.createdBy = some id → named id) : listed users r = listed users' r := by
  unfold listed
  cases hby : r.createdBy with
  | none => rfl
  | some id =>
    have hseen := hu id (hr id hby)
    rw [Table.seen, Table.seen, Table.read_of_rows husers, Table.read_of_rows husers'] at hseen
    have hname := congrArg (Option.map UserRef.name) (Except.ok.inj hseen)
    rw [Option.map_map, Option.map_map] at hname
    have hsame : (users.find? (·.id == id)).map (·.name) = (users'.find? (·.id == id)).map (·.name) := hname
    simp only [Option.bind_some, hsame]

namespace SameFor

variable (h : SameFor tenant s s')
include h

theorem candidates_eq {p : Predicate} (hp : p.tenantId = .text tenant) :
    s.candidates p = s'.candidates p := by
  have hnarrow (r : RecordRow) (hr : (p.tenantId.isText r.tenantId && p.entityId.isText r.entityId
      && inWindow p r.createdAt) = true) : (r.tenantId == tenant) = true := by
    simp only [hp, Document.isText, Bool.and_eq_true, beq_iff_eq] at hr
    exact beq_iff_eq.2 hr.1.1.symm
  exact Table.bind_filter h.records hnarrow fun rows =>
    pure (rows.mergeSort fun a b => a.createdAt.wall ≤ b.createdAt.wall)

theorem select_eq {p : Predicate} (hp : p.tenantId = .text tenant) : s.select p = s'.select p := by
  rw [select, select, h.candidates_eq hp]

theorem aggregate_eq {q : AggregateQuery} (hq : q.predicate.tenantId = .text tenant) :
    s.aggregate q = s'.aggregate q := by
  rw [aggregate, aggregate, h.select_eq hq]

theorem grouped_eq {q : AggregateQuery} (hq : q.predicate.tenantId = .text tenant) (key : String) :
    s.grouped q key = s'.grouped q key := by
  -- The records are read once more, only to see whether they are there.
  have hthere {β : Type} (f : Except Fault β) :
      (s.records.read >>= fun _ => f) = s'.records.read >>= fun _ => f :=
    Table.bind_filter (p := fun _ => false) h.records (fun _ hf => by cases hf) fun _ => f
  unfold grouped
  congr 1
  funext limit
  rw [hthere, h.select_eq hq]

/-- A page shows the tenant's records, and of others no more than the names of users who made one. -/
theorem page_eq (hu : s.SameUsers named s') (hm : s.MadeBy tenant named) {q : PageQuery}
    (hq : q.predicate.tenantId = .text tenant) : s.page q = s'.page q := by
  unfold page
  rw [← h.select_eq hq]
  congr 1
  funext offset
  congr 1
  funext limit
  cases hselect : s.select q.predicate with
  | error fault => rfl
  | ok rows =>
    rcases Table.rows_both h.users with ⟨husers, husers'⟩ | ⟨users, users', husers, husers', -⟩
    · simp only [Table.read, husers, husers', Table.name_of_only h.users]
    · rw [Table.read_of_rows husers, Table.read_of_rows husers']
      simp only [bind, Except.bind]
      split
      · rfl
      · split
        · rfl
        · rename_i cells hkeyed
          rw [mapM_congr fun r hr => listed_same husers husers' hu ?_]
          intro id hby
          have hcells : rows.mapM (keyed q.sortBy) = .ok cells := hkeyed
          have hrow := List.mem_of_mem_drop (mem_bounded hr)
          rw [mapM_keyed hcells, map_sorted] at hrow
          obtain ⟨htenant, all, hall, hin⟩ := mem_select hq hselect r (arranged_perm.mem_iff.1 hrow)
          exact hm all hall r hin htenant id hby

theorem ofPlan_eq (hu : s.SameUsers named s') (hm : s.MadeBy tenant named) {plan : Plan}
    (hp : ∀ p ∈ plan.predicates, p.tenantId = .text tenant) : Data.ofPlan s plan = Data.ofPlan s' plan := by
  cases plan with
  | kpi value trend days =>
    cases trend with
    | none =>
      have hvalue := hp value.predicate (by simp [Plan.predicates])
      simp only [Data.ofPlan, h.aggregate_eq hvalue]
    | some q =>
      have hvalue := hp value.predicate (by simp [Plan.predicates])
      have hcurrent := hp q.current.predicate (by simp [Plan.predicates])
      have hprevious := hp q.previous.predicate (by simp [Plan.predicates])
      simp only [Data.ofPlan, h.aggregate_eq hvalue, h.aggregate_eq hcurrent, h.aggregate_eq hprevious]
  | chart kind q =>
    have hq := hp q.predicate (by simp [Plan.predicates])
    simp only [Data.ofPlan, h.grouped_eq hq]
  | table columns page size q =>
    have hq := hp q.predicate (by simp [Plan.predicates])
    simp only [Data.ofPlan, h.page_eq hu hm hq]
  | list title subtitle q =>
    have hq := hp q.predicate (by simp [Plan.predicates])
    simp only [Data.ofPlan, h.page_eq hu hm hq]

end SameFor

end Store

end RecordDesk
