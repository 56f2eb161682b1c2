import RecordDesk.Page
import RecordDesk.Proofs.Numeric.Quotients
import RecordDesk.Store.Cell
set_option autoImplicit false

namespace RecordDesk

namespace Page

variable {α : Type}

def slice (size page : Int) (rows : List α) : List α := (rows.drop (offset page size).toNat).take size.toNat

/-- Pages that show a list as it is: together they are the list, all are full but the last, and there is
nothing on the last one's far side. -/
structure Covers (rows : List α) (size pages : Int) (shown : Int → List α) : Prop where
  joined : (List.range pages.toNat).flatMap (fun i : Nat => shown ((i : Int) + 1)) = rows
  full : ∀ page, 1 ≤ page → page < pages → ((shown page).length : Int) = size
  last : 1 ≤ pages → shown pages ≠ []
  beyond : ∀ page, pages < page → shown page = []

theorem offset_succ (size i : Nat) : offset ((i : Int) + 1) size = (i * size : Nat) := by
  have hpage : max ((i : Int) + 1) 1 - 1 = i := by omega
  rw [offset, hpage, Int.natCast_mul]

theorem slice_succ (size i : Nat) (rows : List α) :
    slice (size : Int) ((i : Int) + 1) rows = (rows.drop (i * size)).take size := by
  rw [slice, offset_succ, Int.toNat_natCast, Int.toNat_natCast]

theorem flatMap_slices (size count : Nat) (rows : List α) :
    (List.range count).flatMap (fun i : Nat => (rows.drop (i * size)).take size) =
      rows.take (count * size) := by
  induction count with
  | zero => simp
  | succ count ih =>
    rw [List.range_succ, List.flatMap_append, ih, List.flatMap_singleton, Nat.add_mul, Nat.one_mul,
      List.take_add]

def pagesFor (total size : Nat) : Nat := (total + size - 1) / size

variable {total size : Nat}

theorem le_pagesFor_mul (hsize : 0 < size) (total : Nat) : total ≤ pagesFor total size * size := by
  have hsplit := Nat.div_add_mod (total + size - 1) size
  have hmod := Nat.mod_lt (total + size - 1) hsize
  rw [pagesFor, Nat.mul_comm]
  omega

theorem mul_lt_of_lt_pagesFor {i : Nat} (hi : i < pagesFor total size) : i * size < total := by
  have hle : (i + 1) * size ≤ total + size - 1 :=
    (Nat.mul_le_mul_right size hi).trans (Nat.div_mul_le_self _ _)
  rw [Nat.add_mul] at hle
  rcases Nat.eq_zero_or_pos size with rfl | hsize
  · simp [pagesFor] at hi
  · omega

theorem offset_lt_of_le_pagesFor {page : Int} (hlow : 1 ≤ page) (hhigh : page ≤ (pagesFor total size : Int)) :
    0 ≤ offset page size ∧ offset page size < total := by
  obtain ⟨i, rfl⟩ : ∃ i : Nat, page = i + 1 := ⟨(page - 1).toNat, by omega⟩
  have hbefore : i * size < total := mul_lt_of_lt_pagesFor (by omega)
  rw [offset_succ]
  omega

theorem offset_fits {page : Int} (hlow : 1 ≤ page) (hhigh : page ≤ (pagesFor total size : Int))
    (htotal : total ≤ 2 ^ 53) : Cell.fitsWord (offset page size) = true := by
  obtain ⟨hnonneg, hbefore⟩ := offset_lt_of_le_pagesFor hlow hhigh
  unfold Cell.fitsWord Cell.wordLimit
  rw [Bool.and_eq_true, decide_eq_true_iff, decide_eq_true_iff]
  omega

theorem count_eq_pagesFor (hsize : 0 < size) (hword : size < Binary64.one) (htotal : total ≤ 2 ^ 53) :
    count total size = .ok (pagesFor total size : Int) := by
  rw [count, if_neg (by omega), Binary64.ceil_ofQuotient hsize hword htotal]
  rfl

theorem slices_cover (hsize : 0 < size) (rows : List α) :
    Covers rows size (pagesFor rows.length size : Int) fun page => slice size page rows where
  joined := by
    simp only [Int.toNat_natCast, slice_succ]
    rw [flatMap_slices, List.take_of_length_le (le_pagesFor_mul hsize rows.length)]
  full page hlow hhigh := by
    obtain ⟨i, rfl⟩ : ∃ i : Nat, page = i + 1 := ⟨(page - 1).toNat, by omega⟩
    have hnext : (i + 1) * size < rows.length := mul_lt_of_lt_pagesFor (by omega)
    rw [slice_succ, List.length_take, List.length_drop]
    rw [Nat.add_mul] at hnext
    omega
  last hpages := by
    obtain ⟨i, hi⟩ : ∃ i : Nat, (pagesFor rows.length size : Int) = i + 1 :=
      ⟨pagesFor rows.length size - 1, by omega⟩
    have hlast : i * size < rows.length := mul_lt_of_lt_pagesFor (by omega)
    rw [hi, slice_succ, ← List.length_pos_iff_ne_nil, List.length_take, List.length_drop]
    omega
  beyond page hpage := by
    obtain ⟨i, rfl⟩ : ∃ i : Nat, page = i + 1 := ⟨(page - 1).toNat, by omega⟩
    have hpast := le_pagesFor_mul hsize rows.length
    have hskip := Nat.mul_le_mul_right size (show pagesFor rows.length size ≤ i by omega)
    rw [slice_succ, List.drop_of_length_le (hpast.trans hskip), List.take_nil]

end Page

end RecordDesk
