import Mathlib
import RecordDesk.Store
set_option autoImplicit false

namespace RecordDesk

namespace Store

theorem rowName_injective : Function.Injective rowName := by
  intro m n h
  have hdigits : ∀ k, Nat.ofDigitChars 10 (padded 4 k).toList 0 = k := by
    intro k
    rw [padded, String.toList_ofList, Nat.ofDigitChars_append, Nat.ofDigitChars_replicate_zero, Nat.mul_zero,
      Nat.ofDigitChars_toDigits (by decide) (by decide)]
  have hpadded : padded 4 m = padded 4 n := by simpa [rowName] using h
  rw [← hdigits m, hpadded, hdigits n]

/-- The names that were not given out yet are of no execution. -/
def Fresh (s : Store) : Prop :=
  ∀ rows, s.logs.rows = some rows → ∀ row ∈ rows, ∀ n, s.named < n → row.id ≠ rowName n

namespace Fresh

variable {s : Store} {rows : List LogRow}

theorem any_eq_false (h : s.Fresh) (hrows : s.logs.rows = some rows) {row : LogRow}
    (hid : row.id = rowName (s.named + 1)) : rows.any (·.id == row.id) = false := by
  refine List.any_eq_false.2 fun other hother heq => ?_
  exact h rows hrows other hother (s.named + 1) (Nat.lt_succ_self _) (hid ▸ eq_of_beq heq)

theorem insert (h : s.Fresh) (hrows : s.logs.rows = some rows) {row : LogRow}
    (hid : row.id = rowName (s.named + 1)) :
    s.logs.insert (·.id == ·.id) row = .ok { s.logs with rows := some (rows ++ [row]) } := by
  simp only [Table.insert, Table.read, hrows, bind, Except.bind, h.any_eq_false hrows hid]
  rfl

theorem next (h : s.Fresh) : { s with named := s.named + 1 }.Fresh :=
  fun rows hrows row hmem n hn => h rows hrows row hmem n (Nat.lt_of_succ_lt hn)

theorem append (h : s.Fresh) (hrows : s.logs.rows = some rows) {row : LogRow}
    (hid : row.id = rowName (s.named + 1)) :
    { s with named := s.named + 1, logs := { s.logs with rows := some (rows ++ [row]) } }.Fresh := by
  rintro rows' hrows' other hmem n hn
  cases hrows'
  rcases List.mem_append.1 hmem with hold | hnew
  · exact h rows hrows other hold n (Nat.lt_of_succ_lt hn)
  · obtain rfl := List.mem_singleton.1 hnew
    rw [hid]
    exact fun heq => absurd (rowName_injective heq) (Nat.ne_of_lt hn)

end Fresh

end Store

end RecordDesk
