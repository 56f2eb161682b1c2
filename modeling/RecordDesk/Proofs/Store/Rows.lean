import Mathlib
import RecordDesk.Store
set_option autoImplicit false

namespace RecordDesk

namespace Table

variable {α β : Type}

def only (keep : α → Bool) (t : Table α) : Table α := { t with rows := t.rows.map (·.filter keep) }

/-- The row of every name that a table has is the only one of that name. -/
def KeyedBy {κ : Type} (key : α → κ) (t : Table α) : Prop := ∀ rows, t.rows = some rows → (rows.map key).Nodup

theorem read_of_rows {t : Table α} {rows : List α} (h : t.rows = some rows) : t.read = .ok rows := by
  rw [read, h]

theorem rows_of_read {t : Table α} {rows : List α} (h : t.read = .ok rows) : t.rows = some rows := by
  unfold read at h
  split at h
  · rename_i found hfound
    cases h
    exact hfound
  · cases h

theorem insert_missing {t : Table α} (h : t.rows = none) (clash : α → α → Bool) (row : α) :
    t.insert clash row = .error (noSuch t.name) := by
  rw [insert, read, h]
  rfl

theorem read_only (keep : α → Bool) (t : Table α) : (t.only keep).read = t.read.map (·.filter keep) := by
  cases h : t.rows with
  | none => rw [read, read, only, h]; rfl
  | some rows => rw [read_of_rows h, read, only, h]; rfl

variable {keep : α → Bool} {t t' : Table α}

theorem rows_of_only (h : t.only keep = t'.only keep) :
    t.rows.map (·.filter keep) = t'.rows.map (·.filter keep) := congrArg Table.rows h

theorem name_of_only (h : t.only keep = t'.only keep) : t.name = t'.name :=
  show (t.only keep).name = (t'.only keep).name from congrArg Table.name h

theorem rows_both (h : t.only keep = t'.only keep) : (t.rows = none ∧ t'.rows = none) ∨
    ∃ rows rows', t.rows = some rows ∧ t'.rows = some rows' ∧ rows.filter keep = rows'.filter keep := by
  have hrows := rows_of_only h
  cases ht : t.rows with
  | none =>
    cases ht' : t'.rows with
    | none => exact .inl ⟨rfl, rfl⟩
    | some rows' => rw [ht, ht'] at hrows; cases hrows
  | some rows =>
    cases ht' : t'.rows with
    | none => rw [ht, ht'] at hrows; cases hrows
    | some rows' =>
      rw [ht, ht'] at hrows
      exact .inr ⟨rows, rows', rfl, rfl, Option.some.inj hrows⟩

theorem only_of_rows (hn : t.name = t'.name) (h : t.rows.map (·.filter keep) = t'.rows.map (·.filter keep)) :
    t.only keep = t'.only keep := by
  rw [only, only, h, hn]

theorem bind_filter {p : α → Bool} (h : t.only keep = t'.only keep) (hp : ∀ a, p a = true → keep a = true)
    (f : List α → Except Fault β) :
    (t.read >>= fun rows => f (rows.filter p)) = t'.read >>= fun rows => f (rows.filter p) := by
  have hnarrow (rows : List α) : (rows.filter keep).filter p = rows.filter p := by
    rw [List.filter_filter]
    refine List.filter_congr fun a _ => ?_
    cases ha : p a with
    | true => rw [hp a ha]; rfl
    | false => rfl
  have hread (u : Table α) : (u.read >>= fun rows => f (rows.filter p))
      = (u.only keep).read >>= fun rows => f (rows.filter p) := by
    rw [read_only]
    cases u.read with
    | error fault => rfl
    | ok rows => exact congrArg f (hnarrow rows).symm
  rw [hread t, hread t', h]

theorem find?_filter {κ : Type} [BEq κ] [LawfulBEq κ] {key : α → κ} {rows : List α}
    (hn : (rows.map key).Nodup)
    (k : κ) : (rows.filter keep).find? (key · == k) = (rows.find? (key · == k)).filter keep := by
  induction rows with
  | nil => rfl
  | cons a rest ih =>
    rw [List.map_cons, List.nodup_cons] at hn
    by_cases ha : key a = k
    · have hnone : (rest.filter keep).find? (key · == k) = none := by
        refine List.find?_eq_none.2 fun b hb hk => hn.1 ?_
        rw [ha, ← eq_of_beq hk]
        exact List.mem_map_of_mem (List.mem_of_mem_filter hb)
      cases hk : keep a <;> simp [ha, hk, hnone, Option.filter]
    · cases hk : keep a <;> simp [ha, hk, ih hn.2]

theorem find?_same {κ : Type} [BEq κ] [LawfulBEq κ] {key : α → κ} (h : t.only keep = t'.only keep)
    (hn : t.KeyedBy key) (hn' : t'.KeyedBy key) (k : κ) :
    (t.read.map fun rows => (rows.find? (key · == k)).filter keep)
      = t'.read.map fun rows => (rows.find? (key · == k)).filter keep := by
  have hread (u : Table α) (hu : u.KeyedBy key) :
    (u.read.map fun rows => (rows.find? (key · == k)).filter keep)
      = (u.only keep).read.map fun rows => rows.find? (key · == k) := by
    rw [read_only]
    cases hr : u.read with
    | error fault => rfl
    | ok rows => exact congrArg Except.ok (find?_filter (hu rows (rows_of_read hr)) k).symm
  rw [hread t hn, hread t' hn', h]

theorem insert_same (clash : α → α → Bool) (row : α) (h : t.only keep = t'.only keep)
    (hclear : ∀ rows, t.rows = some rows → ∀ a ∈ rows, keep a = false → clash a row = false)
    (hclear' : ∀ rows, t'.rows = some rows → ∀ a ∈ rows, keep a = false → clash a row = false) :
    (∃ fault, t.insert clash row = .error fault ∧ t'.insert clash row = .error fault) ∨
      ∃ rows rows', t.rows = some rows ∧ t'.rows = some rows' ∧
        t.insert clash row = .ok { t with rows := some (rows ++ [row]) } ∧
        t'.insert clash row = .ok { t' with rows := some (rows' ++ [row]) } := by
  have hany (rows : List α) (hc : ∀ a ∈ rows, keep a = false → clash a row = false) :
      rows.any (clash · row) = (rows.filter keep).any (clash · row) := by
    rw [Bool.eq_iff_iff, List.any_eq_true, List.any_eq_true]
    constructor
    · rintro ⟨a, ha, hclash⟩
      refine ⟨a, List.mem_filter.2 ⟨ha, ?_⟩, hclash⟩
      cases hk : keep a with
      | true => rfl
      | false => rw [hc a ha hk] at hclash; cases hclash
    · rintro ⟨a, ha, hclash⟩
      exact ⟨a, List.mem_of_mem_filter ha, hclash⟩
  have hname := name_of_only h
  rcases rows_both h with ⟨ht, ht'⟩ | ⟨rows, rows', ht, ht', hfilter⟩
  · exact .inl ⟨noSuch t.name, insert_missing ht clash row, hname ▸ insert_missing ht' clash row⟩
  · have hsame : rows.any (clash · row) = rows'.any (clash · row) := by
      rw [hany rows (hclear rows ht), hany rows' (hclear' rows' ht'), hfilter]
    cases hc : rows.any (clash · row) with
    | true =>
      refine .inl ⟨.duplicate t.name, ?_, ?_⟩
      · rw [insert, read_of_rows ht]
        exact if_pos hc
      · rw [insert, read_of_rows ht', hname]
        exact if_pos (hsame ▸ hc)
    | false =>
      refine .inr ⟨rows, rows', ht, ht', ?_, ?_⟩
      · rw [insert, read_of_rows ht]
        exact if_neg (by rw [hc]; exact Bool.false_ne_true)
      · rw [insert, read_of_rows ht']
        exact if_neg (by rw [← hsame, hc]; exact Bool.false_ne_true)

theorem only_append {rows rows' : List α} (h : t.only keep = t'.only keep) (ht : t.rows = some rows)
    (ht' : t'.rows = some rows') (row : α) :
    ({ t with rows := some (rows ++ [row]) } : Table α).only keep =
      { t' with rows := some (rows' ++ [row]) }.only keep := by
  have hrows := rows_of_only h
  rw [ht, ht'] at hrows
  refine only_of_rows (show t.name = t'.name from name_of_only h) ?_
  rw [Option.map_some, Option.map_some, List.filter_append, List.filter_append,
    show rows.filter keep = rows'.filter keep from Option.some.inj hrows]

theorem only_map {f : α → α} (h : t.only keep = t'.only keep)
    (hf : ∀ rows, t.rows = some rows → ∀ a ∈ rows, keep (f a) = keep a)
    (hf' : ∀ rows, t'.rows = some rows → ∀ a ∈ rows, keep (f a) = keep a) :
    (t.map f).only keep = (t'.map f).only keep := by
  have hmap (u : Table α) (hu : ∀ rows, u.rows = some rows → ∀ a ∈ rows, keep (f a) = keep a) :
      (u.map f).only keep = (u.only keep).map f := by
    cases hr : u.rows with
    | none => rw [map, only, only, map, hr]; rfl
    | some rows =>
      have hfilter : (rows.map f).filter keep = (rows.filter keep).map f := by
        rw [List.filter_map]
        exact congrArg (List.map f) (List.filter_congr (hu rows hr))
      rw [map, only, only, map, hr]
      exact congrArg (Table.mk u.name) (congrArg some hfilter)
  rw [hmap t hf, hmap t' hf', h]

end Table

end RecordDesk
