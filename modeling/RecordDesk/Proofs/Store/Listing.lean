import RecordDesk.Proofs.Store.Order
import RecordDesk.Proofs.Store.Selection
import RecordDesk.Store.Query
set_option autoImplicit false

namespace RecordDesk

open Std

/-! Rows in order. -/

theorem transCmp_on {α β : Type} (cmp : β → β → Ordering) [TransCmp cmp] (f : α → β) :
    TransCmp fun a b => cmp (f a) (f b) where
  eq_swap := OrientedCmp.eq_swap
  isLE_trans := TransCmp.isLE_trans

section

variable {α : Type} {cmp : α → α → Ordering}

theorem pairwise_mergeSort_of_agree [TransCmp cmp] {le : α → α → Bool} {rows : List α}
    (h : ∀ a ∈ rows, ∀ b ∈ rows, le a b = (cmp a b).isLE) :
    (rows.mergeSort le).Pairwise fun a b => (cmp a b).isLE = true := by
  have hsame := List.map_mergeSort (s := fun a b => (cmp a b).isLE) (f := id) h
  rw [List.map_id, List.map_id] at hsame
  rw [hsame]
  refine List.pairwise_mergeSort (fun a b c => TransCmp.isLE_trans) (fun a b => ?_) rows
  rw [@OrientedCmp.eq_swap _ cmp _ b a]
  cases cmp a b <;> rfl

theorem pairwise_lt {κ : Type} {key : α → κ} (hkey : ∀ a b, cmp a b = .eq → key a = key b) {rows : List α}
    (hdistinct : (rows.map key).Nodup) (h : rows.Pairwise fun a b => (cmp a b).isLE = true) :
    rows.Pairwise fun a b => cmp a b = .lt := by
  have hne : rows.Pairwise fun a b => key a ≠ key b := List.pairwise_map.1 hdistinct
  refine (h.and hne).imp fun {a b} hab => ?_
  cases hcmp : cmp a b with
  | lt => rfl
  | eq => exact absurd (hkey a b hcmp) hab.2
  | gt =>
    rw [hcmp] at hab
    exact absurd hab.1 (by decide)

theorem strict_mergeSort [TransCmp cmp] {le : α → α → Bool} {rows : List α} {κ : Type} {key : α → κ}
    (hkey : ∀ a b, cmp a b = .eq → key a = key b) (hdistinct : (rows.map key).Nodup)
    (h : ∀ a ∈ rows, ∀ b ∈ rows, le a b = (cmp a b).isLE) : (rows.mergeSort le).Pairwise fun a b =>
    cmp a b = .lt :=
  pairwise_lt hkey (((List.mergeSort_perm rows le).map key).nodup_iff.2 hdistinct)
    (pairwise_mergeSort_of_agree h)

end

namespace Store

open Widget

/-- Later rows first, and of rows of one time the one with the lesser name. -/
def byRecency (timeA timeB : Moment) (idA idB : String) : Ordering :=
  (compare timeB.wall timeA.wall).then (compare idA idB)

theorem later_eq (timeA timeB : Moment) (idA idB : String) :
    later timeA timeB idA idB = (byRecency timeA timeB idA idB).isLE := by
  rw [Bool.eq_iff_iff, byRecency, Ordering.isLE_then_iff_or, Int.compare_eq_lt, Int.compare_eq_eq,
    LawfulBCmp.isLE_iff_le, later]
  simp only [Bool.or_eq_true, Bool.and_eq_true, decide_eq_true_eq, beq_iff_eq, @eq_comm _ timeA.wall]

theorem eq_of_byRecency {timeA timeB : Moment} {idA idB : String} (h : byRecency timeA timeB idA idB = .eq) :
    idA = idB := by
  rw [byRecency, Ordering.then_eq_eq] at h
  exact LawfulEqCmp.compare_eq_iff_eq.1 h.2

theorem transCmp_byRecency {α : Type} (time : α → Moment) (id : α → String) :
    TransCmp fun a b => byRecency (time a) (time b) (id a) (id b) :=
  inferInstanceAs (TransCmp (compareLex (fun a b => compareOn (fun a => (time a).wall) b a) (compareOn id)))

end Store

def LogRow.order (a b : LogRow) : Ordering := Store.byRecency a.createdAt b.createdAt a.id b.id

instance : TransCmp LogRow.order := Store.transCmp_byRecency LogRow.createdAt LogRow.id

namespace RecordRow

open Widget

def sortCell (sortBy : Option String) (r : RecordRow) : Cell :=
  match sortBy with
  | none => .null
  | some key => match Cell.field Cell.label key r.fields with
    | .ok cell => cell
    | .error _ => .null

/-- The order of records: by key in one of two directions, then the later one first, then by name. -/
def order (sortBy : Option String) (direction : SortOrder) (a b : RecordRow) : Ordering :=
  (match direction with
    | .asc => (a.sortCell sortBy).order (b.sortCell sortBy)
    | .desc => (b.sortCell sortBy).order (a.sortCell sortBy)).then
  (Store.byRecency a.createdAt b.createdAt a.id b.id)

variable (sortBy : Option String) (direction : SortOrder)

theorem ordered_sortCell (r : RecordRow) : (r.sortCell sortBy).Ordered := by
  unfold sortCell
  split
  · trivial
  · split
    · rename_i cell hcell
      exact Cell.ordered_field hcell
    · trivial

/-- The order of records is total: of any two one stands before the other, unless they have the same
name. -/
instance : TransCmp (order sortBy direction) := by
  have hcells (a b : RecordRow) : (a.sortCell sortBy).order (b.sortCell sortBy)
      = Cell.standing (a.sortCell sortBy) (b.sortCell sortBy) :=
    Cell.order_eq_standing (ordered_sortCell sortBy a) (ordered_sortCell sortBy b)
  have hkey : TransCmp fun a b : RecordRow => Cell.standing (a.sortCell sortBy) (b.sortCell sortBy) :=
    transCmp_on Cell.standing (sortCell sortBy)
  have hrest : TransCmp fun a b : RecordRow => Store.byRecency a.createdAt b.createdAt a.id b.id :=
    Store.transCmp_byRecency RecordRow.createdAt RecordRow.id
  cases direction with
  | asc =>
    have hsame : order sortBy .asc =
      compareLex (fun a b => Cell.standing (a.sortCell sortBy) (b.sortCell sortBy))
        fun a b => Store.byRecency a.createdAt b.createdAt a.id b.id := by
      funext a b
      rw [compareLex, ← hcells]
      rfl
    rw [hsame]
    infer_instance
  | desc =>
    have hsame : order sortBy .desc =
      compareLex (fun a b => Cell.standing (b.sortCell sortBy) (a.sortCell sortBy))
        fun a b => Store.byRecency a.createdAt b.createdAt a.id b.id := by
      funext a b
      rw [compareLex, ← hcells]
      rfl
    have hback := @TransCmp.opposite _ _ hkey
    rw [hsame]
    infer_instance

theorem id_of_order {a b : RecordRow} (h : order sortBy direction a b = .eq) : a.id = b.id := by
  unfold order at h
  rw [Ordering.then_eq_eq] at h
  exact Store.eq_of_byRecency h.2

end RecordRow

/-! What a predicate takes. -/

def saysYes (answer : Except Fault Bool) : Bool :=
  match answer with
  | .ok b => b
  | .error _ => false

theorem filterM_ok {α : Type} {f : α → Except Fault Bool} {as bs : List α} (h : as.filterM f = .ok bs) :
    bs = as.filter fun a => saysYes (f a) := by
  -- What has passed so far stands in front of the accumulator, the last of it first.
  have haux : ∀ (as acc bs : List α), List.filterAuxM f as acc = .ok bs →
      bs = (as.filter fun a => saysYes (f a)).reverse ++ acc := by
    intro as
    induction as with
    | nil =>
      intro acc bs h
      cases h
      rfl
    | cons a rest ih =>
      intro acc bs h
      rw [List.filterAuxM] at h
      obtain ⟨keep, hkeep, h⟩ := ok_of_bind h
      rw [ih _ _ h]
      cases keep <;> simp [saysYes, hkeep]
  rw [List.filterM] at h
  obtain ⟨kept, hkept, h⟩ := ok_of_bind h
  cases h
  rw [haux as [] kept hkept, List.append_nil, List.reverse_reverse]

/-- Whether a predicate takes a record: it is the tenant's and the entity's, from the window, and passes
every filter. -/
def Widget.Predicate.takes (p : Widget.Predicate) (r : RecordRow) : Bool :=
  (p.tenantId.isText r.tenantId && p.entityId.isText r.entityId && Store.inWindow p r.createdAt)
    && saysYes (Store.passes r.fields p.filters)

def RecordRow.Showable (r : RecordRow) : Prop := ∃ entries, r.fields.pairsOrNone = .ok entries

namespace Store

open Widget

def matching (s : Store) (p : Predicate) : List RecordRow := (s.records.rows.getD []).filter p.takes

variable {s : Store} {p : Predicate} {rows : List RecordRow}

theorem select_perm (h : s.select p = .ok rows) : rows.Perm (s.matching p) := by
  obtain ⟨found, hfound, h⟩ := ok_of_bind h
  obtain ⟨all, hall, hfound⟩ := ok_of_bind hfound
  cases hfound
  rw [filterM_ok h, matching, Table.rows_of_read hall]
  refine ((List.mergeSort_perm _ _).filter _).trans ?_
  rw [List.filter_filter]
  refine List.Perm.of_eq (List.filter_congr fun r _ => ?_)
  rw [Predicate.takes, Bool.and_comm]

theorem nodup_select (hkeys : s.records.KeyedBy (·.id)) (h : s.select p = .ok rows) :
    (rows.map (·.id)).Nodup := by
  obtain ⟨all, hall⟩ : ∃ all, s.records.rows = some all := by
    obtain ⟨found, hfound, -⟩ := ok_of_bind h
    obtain ⟨all, hall, -⟩ := ok_of_bind hfound
    exact ⟨all, Table.rows_of_read hall⟩
  rw [((select_perm h).map _).nodup_iff, matching, hall]
  exact (hkeys all hall).sublist (List.filter_sublist.map _)

theorem aggregate_count {q : AggregateQuery} (hq : q.metric = .count) (h : s.select q.predicate = .ok rows) :
    s.aggregate q = .ok (Binary64.ofInt rows.length) := by
  simp only [aggregate, h, hq, bind, Except.bind, pure, Except.pure, compute, List.length_map]
  rfl

def keyed (sortBy : Option String) (r : RecordRow) : Except Fault (Cell × RecordRow) := do
  match sortBy with
  | none => return (Cell.null, r)
  | some key => return (← Cell.field Cell.label key r.fields, r)

variable {sortBy : Option String} {direction : SortOrder} {users : List UserRow}

theorem keyed_ok {r : RecordRow} {k : Cell × RecordRow} (h : keyed sortBy r = .ok k) :
    k = (r.sortCell sortBy, r) := by
  unfold keyed at h
  unfold RecordRow.sortCell
  split at h
  · cases h
    rfl
  · obtain ⟨cell, hcell, h⟩ := ok_of_bind h
    cases h
    rw [hcell]

theorem mapM_keyed {cells : List (Cell × RecordRow)} (h : rows.mapM (keyed sortBy) = .ok cells) :
    cells = rows.map fun r => (r.sortCell sortBy, r) := by
  have hall : rows.mapM (keyed sortBy) = .ok (rows.map fun r => (r.sortCell sortBy, r)) := by
    refine mapM_ok fun r hr => ?_
    obtain ⟨k, hk⟩ := ok_of_mapM h r hr
    rw [hk, keyed_ok hk]
  exact Except.ok.inj (h.symm.trans hall)

def arranged (sortBy : Option String) (direction : SortOrder) (rows : List RecordRow) : List RecordRow :=
  rows.mergeSort fun a b => (RecordRow.order sortBy direction a b).isLE

theorem listedBefore_eq (a b : RecordRow) :
    listedBefore direction (a.sortCell sortBy, a) (b.sortCell sortBy, b)
    = (RecordRow.order sortBy direction a b).isLE := by
  unfold RecordRow.order
  rw [Bool.eq_iff_iff, Ordering.isLE_then_iff_or, ← later_eq]
  cases direction <;> simp [listedBefore]

theorem map_sorted (rows : List RecordRow) :
    ((rows.map fun r => (r.sortCell sortBy, r)).mergeSort (listedBefore direction)).map (·.2)
      = arranged sortBy direction rows := by
  rw [arranged, List.map_mergeSort (s := fun a b => (RecordRow.order sortBy direction a b).isLE) ?_,
    List.map_map]
  · have hback : rows.map ((·.2) ∘ fun r => (r.sortCell sortBy, r)) = rows := List.map_id rows
    rw [hback]
  · intro a ha b hb
    obtain ⟨r, -, rfl⟩ := List.mem_map.1 ha
    obtain ⟨r', -, rfl⟩ := List.mem_map.1 hb
    exact listedBefore_eq r r'

theorem arranged_perm : (arranged sortBy direction rows).Perm rows := List.mergeSort_perm _ _

theorem arranged_strict (hdistinct : (rows.map (·.id)).Nodup) :
    (arranged sortBy direction rows).Pairwise fun a b => RecordRow.order sortBy direction a b = .lt :=
  strict_mergeSort (fun _ _ => RecordRow.id_of_order sortBy direction) hdistinct fun _ _ _ _ => rfl

def display (users : List UserRow) (r : RecordRow) : Listed :=
  ⟨r, match r.fields.pairsOrNone with
    | .ok entries => entries
    | .error _ => [],
    r.createdBy.bind fun id => (users.find? (·.id == id)).map (·.name)⟩

theorem listed_display {r : RecordRow} (h : r.Showable) : listed users r = .ok (display users r) := by
  obtain ⟨entries, hentries⟩ := h
  rw [listed, display, hentries]
  rfl

theorem bounded_sublist {α : Type} (limit : Option Int) (rows : List α) :
    (bounded limit rows).Sublist rows := by
  unfold bounded
  split
  · exact .refl _
  · split
    · exact .refl _
    · exact List.take_sublist ..

theorem mem_bounded {α : Type} {limit : Option Int} {rows : List α} {a : α} (h : a ∈ bounded limit rows) :
    a ∈ rows :=
  (bounded_sublist limit rows).subset h

variable {q : PageQuery} {cells : List (Cell × RecordRow)} {offset limit : Int}

theorem page_ok {shown : List Listed} {total : Nat} (hoffset : q.offset = .ofInt offset)
    (hlimit : q.limit = .ofInt limit) (h : s.page q = .ok (shown, total)) :
    ∃ rows users cells, s.select q.predicate = .ok rows ∧
      s.users.rows = some users ∧ rows.mapM (keyed q.sortBy) = .ok cells ∧ Cell.fitsWord offset = true ∧
      Cell.fitsWord limit = true ∧ total = rows.length := by
  obtain ⟨offset', hoffset', h⟩ := ok_of_bind h
  obtain ⟨limit', hlimit', h⟩ := ok_of_bind h
  obtain ⟨rows, hrows, h⟩ := ok_of_bind h
  obtain ⟨users, husers, h⟩ := ok_of_bind h
  rw [hoffset, Quantity.whole_ofInt] at hoffset'
  rw [hlimit, Quantity.whole_ofInt] at hlimit'
  cases hoffset'
  cases hlimit'
  dsimp only at h
  by_cases hfits : (!Cell.fitsWord offset || !Cell.fitsWord limit) = true
  · rw [if_pos hfits] at h
    cases h
  · rw [if_neg hfits] at h
    obtain ⟨cells, hcells, h⟩ := ok_of_bind h
    obtain ⟨more, -, h⟩ := ok_of_bind h
    cases h
    simp only [Bool.or_eq_true, Bool.not_eq_true', not_or, Bool.not_eq_false] at hfits
    exact ⟨rows, users, cells, hrows, Table.rows_of_read husers, hcells, hfits.1, hfits.2, rfl⟩

theorem page_bounded (hoffset : q.offset = .ofInt offset) (hlimit : q.limit = .ofInt limit)
    (hselect : s.select q.predicate = .ok rows) (husers : s.users.rows = some users)
    (hcells : rows.mapM (keyed q.sortBy) = .ok cells) (hfit : Cell.fitsWord offset = true)
    (hfit' : Cell.fitsWord limit = true)
    (hshow : ∀ r ∈ bounded (some limit) ((arranged q.sortBy q.sortOrder rows).drop offset.toNat),
      r.Showable) :
    s.page q = .ok ((bounded (some limit) ((arranged q.sortBy q.sortOrder rows).drop offset.toNat)).map
      (display users), rows.length) := by
  have hdisplayed :
      (bounded (some limit) ((arranged q.sortBy q.sortOrder rows).drop offset.toNat)).mapM (listed users)
      = .ok ((bounded (some limit) ((arranged q.sortBy q.sortOrder rows).drop offset.toNat)).map
        (display users)) :=
    mapM_ok fun r hr => listed_display (hshow r hr)
  have hsorted : (cells.mergeSort (listedBefore q.sortOrder)).map (·.2) =
      arranged q.sortBy q.sortOrder rows := by
    rw [mapM_keyed hcells, map_sorted]
  have hfits : ¬ (!Cell.fitsWord offset || !Cell.fitsWord limit) = true := by simp [hfit, hfit']
  have hread : s.users.read = .ok users := Table.read_of_rows husers
  have hanswer : s.page q =
    (if !Cell.fitsWord offset || !Cell.fitsWord limit then throw .integerTooWide else do
      let cells ← rows.mapM (keyed q.sortBy)
      let sorted := (cells.mergeSort (listedBefore q.sortOrder)).map (·.2)
      let shown := bounded (some limit) (sorted.drop offset.toNat)
      return (← shown.mapM (listed users), rows.length)) := by
    unfold page
    rw [hoffset, hlimit, Quantity.whole_ofInt, Quantity.whole_ofInt, hselect, hread]
    rfl
  rw [hanswer, if_neg hfits, hcells]
  dsimp only [bind, Except.bind]
  rw [hsorted, hdisplayed]
  rfl

theorem page_eq (hoffset : q.offset = .ofInt offset) (hlimit : q.limit = .ofInt limit)
    (hselect : s.select q.predicate = .ok rows) (husers : s.users.rows = some users)
    (hcells : rows.mapM (keyed q.sortBy) = .ok cells) (hfit : Cell.fitsWord offset = true)
    (hfit' : Cell.fitsWord limit = true) (hlow : 0 ≤ limit)
    (hshow : ∀ r ∈ ((arranged q.sortBy q.sortOrder rows).drop offset.toNat).take limit.toNat, r.Showable) :
    s.page q = .ok ((((arranged q.sortBy q.sortOrder rows).drop offset.toNat).take limit.toNat).map
      (display users), rows.length) := by
  have hpiece : bounded (some limit) ((arranged q.sortBy q.sortOrder rows).drop offset.toNat)
      = ((arranged q.sortBy q.sortOrder rows).drop offset.toNat).take limit.toNat := if_neg (by omega)
  rw [← hpiece] at hshow ⊢
  exact page_bounded hoffset hlimit hselect husers hcells hfit hfit' hshow

theorem latestLogs_ok {logs : List LogRow} (hkeys : s.logs.KeyedBy (·.id)) (hlogs : s.logs.rows = some logs)
    (wanted : LogRow → Bool) : ∃ rows, s.latestLogs wanted = .ok rows ∧ rows.Perm (logs.filter wanted) ∧
      rows.Pairwise fun a b => LogRow.order a b = .lt := by
  have hids : ((logs.filter wanted).map (·.id)).Nodup :=
    (hkeys logs hlogs).sublist (List.filter_sublist.map _)
  have hstrict : ((logs.filter wanted).mergeSort fun a b => later a.createdAt b.createdAt a.id b.id).Pairwise
      fun a b => LogRow.order a b = .lt :=
    strict_mergeSort (fun _ _ => eq_of_byRecency) hids fun a _ b _ =>
      later_eq a.createdAt b.createdAt a.id b.id
  refine ⟨_, ?_, List.mergeSort_perm _ _, hstrict⟩
  rw [latestLogs, Table.read_of_rows hlogs]
  rfl

end Store

end RecordDesk
