import RecordDesk.Document.Reader
import RecordDesk.Proofs.Numeric.ShortestReads
set_option autoImplicit false

/-!
A written number reads back as the number. Digits are laid out in four shapes, and each of them has the
value of the coefficient and the exponent that it was made from.
-/

namespace RecordDesk

namespace Document

open Binary64 (ofDecimal)

/-- What may stand behind a number: nothing that would go on with it. -/
def EndsNumber (rest : List Char) : Prop :=
  ∀ c ∈ rest.head?, c.isDigit = false ∧ c ≠ '.' ∧ c ≠ 'e' ∧ c ≠ 'E'

theorem takeDigits_append {ds rest : List Char} (hd : ∀ c ∈ ds, c.isDigit = true)
    (hr : ∀ c ∈ rest.head?, c.isDigit = false) : takeDigits (ds ++ rest) = (ds, rest) := by
  simp only [takeDigits, List.span_eq_takeWhile_dropWhile]
  have h1 : rest.takeWhile Char.isDigit = [] := by
    cases rest with
    | nil => rfl
    | cons c r => simp [hr c rfl]
  have h2 : rest.dropWhile Char.isDigit = rest := by
    cases rest with
    | nil => rfl
    | cons c r => simp [hr c rfl]
  rw [List.takeWhile_append_of_pos hd, List.dropWhile_append_of_pos hd, h1, h2, List.append_nil]

theorem ofDigits_map (ds : List Char) :
    Numeral.ofDigits (ds.map fun c => c.toNat - 48) = Nat.ofDigitChars 10 ds 0 := by
  rw [Numeral.ofDigits, List.foldl_map, Nat.ofDigitChars_eq_foldl]
  rfl

theorem isDigit_of_mem_toDigits {n : Nat} {c : Char} (h : c ∈ Nat.toDigits 10 n) : c.isDigit = true :=
  Nat.isDigit_of_mem_toDigits (by decide) (by decide) h

theorem head_toDigits {n : Nat} (h : n ≠ 0) : ∃ c ds, Nat.toDigits 10 n = c :: ds ∧ c ≠ '0' := by
  induction n using Nat.strongRecOn with
  | ind n ih =>
    rw [Nat.toDigits_eq_if (by decide)]
    split
    · exact ⟨n.digitChar, [], rfl, by simpa using h⟩
    · obtain ⟨c, ds, hc, h0⟩ := ih (n / 10) (by omega) (by omega)
      exact ⟨c, ds ++ [(n % 10).digitChar], by rw [hc]; rfl, h0⟩

theorem wholePart_eq {c : Char} {ds rest : List Char} (h0 : c ≠ '0') (hd : ∀ x ∈ c :: ds, x.isDigit = true)
    (hr : ∀ x ∈ rest.head?, x.isDigit = false) : wholePart (c :: ds ++ rest) = (c :: ds, rest) := by
  rw [← takeDigits_append hd hr]
  simp only [List.cons_append, wholePart]
  split
  · rename_i heq
    simp at heq
    exact absurd heq.1 h0
  · rfl

theorem wholePart_toDigits (n : Nat) {rest : List Char} (hr : ∀ x ∈ rest.head?, x.isDigit = false) :
    wholePart (Nat.toDigits 10 n ++ rest) = (Nat.toDigits 10 n, rest) := by
  by_cases h : n = 0
  · subst h; rfl
  · obtain ⟨c, ds, hc, h0⟩ := head_toDigits h
    rw [hc]
    exact wholePart_eq h0 (fun x hx => isDigit_of_mem_toDigits (n := n) (hc ▸ hx)) hr

theorem fraction_none {s : List Char} (h : ∀ c ∈ s.head?, c ≠ '.') : fraction s = ([], s) := by
  unfold fraction
  split
  · exact absurd rfl (h '.' rfl)
  · rfl

theorem fraction_digits {ds rest : List Char} (hne : ds ≠ []) (hd : ∀ c ∈ ds, c.isDigit = true)
    (hr : ∀ c ∈ rest.head?, c.isDigit = false) : fraction ('.' :: ds ++ rest) = (ds, rest) := by
  obtain ⟨c, more, rfl⟩ := List.exists_cons_of_ne_nil hne
  have hc := hd c List.mem_cons_self
  simp only [List.cons_append, fraction, hc, if_true]
  exact takeDigits_append hd hr

theorem exponent_none {s : List Char} (h : ∀ c ∈ s.head?, c ≠ 'e' ∧ c ≠ 'E') : exponent s = (none, s) := by
  cases s with
  | nil => rfl
  | cons c rest =>
    have hc := h c rfl
    simp [exponent, hc.1, hc.2]

theorem exponent_signed {ds rest : List Char} (minus : Bool) (hne : ds ≠ []) (hd : ∀ c ∈ ds, c.isDigit = true)
    (hr : ∀ c ∈ rest.head?, c.isDigit = false) :
    exponent ('e' :: (if minus then '-' else '+') :: ds ++ rest)
      = (some (if minus then -(Nat.ofDigitChars 10 ds 0 : Int) else Nat.ofDigitChars 10 ds 0), rest) := by
  obtain ⟨c, more, rfl⟩ := List.exists_cons_of_ne_nil hne
  have ht := takeDigits_append hd hr
  rw [List.cons_append] at ht
  cases minus <;> simp [exponent, Numeral.sign, ht, ← ofDigits_map]

def signed (minus : Bool) (s : List Char) : List Char := if minus then '-' :: s else s

theorem minusSign_signed (minus : Bool) {body : List Char} (h : ∀ c ∈ body.head?, c ≠ '-') :
    minusSign (signed minus body) = (minus, body) := by
  cases minus with
  | true => rfl
  | false =>
    simp only [signed, Bool.false_eq_true, if_false]
    unfold minusSign
    split
    · exact absurd rfl (h '-' rfl)
    · rfl

theorem readNumber_of_parts (minus : Bool) {body whole afterWhole frac afterFraction rest : List Char}
    {exp? : Option Int} (hb : ∀ c ∈ body.head?, c ≠ '-') (hw : wholePart body = (whole, afterWhole))
    (hne : whole ≠ []) (hf : fraction afterWhole = (frac, afterFraction))
    (he : exponent afterFraction = (exp?, rest)) :
    readNumber (signed minus body) =
      if frac.isEmpty && exp?.isNone then
        if Numeral.digitLimit < whole.length then
          .error (.numeralTooLong whole.length (signed minus body).length)
        else .ok (.number (.int (if minus then -(Nat.ofDigitChars 10 (whole ++ frac) 0 : Int)
          else Nat.ofDigitChars 10 (whole ++ frac) 0)), rest)
      else .ok (.number (.float (ofDecimal minus (Nat.ofDigitChars 10 (whole ++ frac) 0)
        (exp?.getD 0 - frac.length))), rest) := by
  obtain ⟨d, ds, rfl⟩ := List.exists_cons_of_ne_nil hne
  simp only [readNumber, minusSign_signed minus hb, hw, hf, he, ofDigits_map]

theorem not_isDigit_of_ends {rest : List Char} (h : EndsNumber rest) : ∀ c ∈ rest.head?, c.isDigit = false :=
  fun c hc => (h c hc).1

theorem ne_minus_of_isDigit {ds : List Char} (hne : ds ≠ []) (hd : ∀ c ∈ ds, c.isDigit = true)
    (rest : List Char) : ∀ c ∈ (ds ++ rest).head?, c ≠ '-' := by
  obtain ⟨d, more, rfl⟩ := List.exists_cons_of_ne_nil hne
  intro c hc heq
  simp only [List.cons_append, List.head?_cons, Option.mem_def, Option.some.injEq] at hc
  have := hd d List.mem_cons_self
  subst hc heq
  exact absurd this (by decide)

/-- An integer is read back, unless it has more digits than are read. -/
theorem readNumber_int (minus : Bool) (n : Nat) {rest : List Char} (hr : EndsNumber rest) :
    readNumber (signed minus (Nat.toDigits 10 n ++ rest)) =
      if Numeral.digitLimit < (Nat.toDigits 10 n).length then
        .error (.numeralTooLong (Nat.toDigits 10 n).length (signed minus (Nat.toDigits 10 n ++ rest)).length)
      else .ok (.number (.int (if minus then -(n : Int) else n)), rest) := by
  have hb := ne_minus_of_isDigit Nat.toDigits_ne_nil (fun c hc => isDigit_of_mem_toDigits (n := n) hc) rest
  have hw := wholePart_toDigits n (not_isDigit_of_ends hr)
  have hf := fraction_none (s := rest) fun c hc => (hr c hc).2.1
  have he := exponent_none (s := rest) fun c hc => (hr c hc).2.2
  rw [readNumber_of_parts minus hb hw Nat.toDigits_ne_nil hf he]
  simp

theorem readNumber_fraction (minus : Bool) {whole frac rest : List Char} (hne : whole ≠ [])
    (hwd : ∀ c ∈ whole, c.isDigit = true)
    (hw : wholePart (whole ++ '.' :: frac ++ rest) = (whole, '.' :: frac ++ rest))
    (hfne : frac ≠ []) (hfd : ∀ c ∈ frac, c.isDigit = true) (hr : EndsNumber rest) :
    readNumber (signed minus (whole ++ '.' :: frac ++ rest)) =
      .ok (.number (.float (ofDecimal minus (Nat.ofDigitChars 10 (whole ++ frac) 0) (-frac.length))),
        rest) := by
  have hb := ne_minus_of_isDigit hne hwd ('.' :: frac ++ rest)
  rw [← List.append_assoc] at hb
  have hf := fraction_digits hfne hfd (not_isDigit_of_ends hr)
  have he := exponent_none (s := rest) fun c hc => (hr c hc).2.2
  rw [readNumber_of_parts minus hb hw hne hf he]
  have hemp : frac.isEmpty = false := by simpa using hfne
  simp [hemp]

theorem wholePart_of_ne_zero {whole rest : List Char} (hne : whole ≠ []) (hd : ∀ c ∈ whole, c.isDigit = true)
    (h0 : ∀ c ∈ whole.head?, c ≠ '0') (hr : ∀ c ∈ rest.head?, c.isDigit = false) :
    wholePart (whole ++ rest) = (whole, rest) := by
  obtain ⟨c, ds, rfl⟩ := List.exists_cons_of_ne_nil hne
  exact wholePart_eq (h0 c rfl) hd hr

theorem isDigit_of_mem_zeros {n : Nat} {c : Char} (h : c ∈ List.replicate n '0') : c.isDigit = true := by
  rw [List.eq_of_mem_replicate h]; rfl

theorem head?_toDigits {n : Nat} (h : n ≠ 0) : ∀ c ∈ (Nat.toDigits 10 n).head?, c ≠ '0' := by
  obtain ⟨d, ds, hd, h0⟩ := head_toDigits h
  intro c hc
  rw [hd, List.head?_cons, Option.mem_def, Option.some.injEq] at hc
  exact hc ▸ h0

theorem head?_append_of_ne_nil {ds : List Char} (hne : ds ≠ []) (rest : List Char) :
    (ds ++ rest).head? = ds.head? := by
  obtain ⟨d, more, rfl⟩ := List.exists_cons_of_ne_nil hne
  rfl

theorem point_not_digit (r : List Char) : ∀ c ∈ ('.' :: r).head?, c.isDigit = false := by
  intro c hc
  simp only [List.head?_cons, Option.mem_def, Option.some.injEq] at hc
  subst hc; rfl

theorem readNumber_padded (minus : Bool) {c k : Nat} (hz : c = 0 → k = 0) {rest : List Char}
    (hr : EndsNumber rest) :
    readNumber (signed minus (Nat.toDigits 10 c ++ List.replicate k '0' ++ '.' :: ['0'] ++ rest)) =
      .ok (.number (.float (ofDecimal minus c k)), rest) := by
  have hwd : ∀ x ∈ Nat.toDigits 10 c ++ List.replicate k '0', x.isDigit = true := by
    intro x hx
    rcases List.mem_append.1 hx with h | h
    · exact isDigit_of_mem_toDigits h
    · exact isDigit_of_mem_zeros h
  have hne : Nat.toDigits 10 c ++ List.replicate k '0' ≠ [] :=
    List.append_ne_nil_of_left_ne_nil Nat.toDigits_ne_nil _
  have hw : wholePart (Nat.toDigits 10 c ++ List.replicate k '0' ++ '.' :: ['0'] ++ rest)
      = (Nat.toDigits 10 c ++ List.replicate k '0', '.' :: ['0'] ++ rest) := by
    rw [List.append_assoc]
    by_cases hc : c = 0
    · rw [hz hc, hc]; rfl
    · apply wholePart_of_ne_zero hne hwd
      · rw [head?_append_of_ne_nil Nat.toDigits_ne_nil]
        exact head?_toDigits hc
      · exact point_not_digit _
  rw [readNumber_fraction minus hne hwd hw (List.cons_ne_nil _ _) (by simp) hr]
  have hval : Nat.ofDigitChars 10 (Nat.toDigits 10 c ++ List.replicate k '0' ++ ['0']) 0 =
      c * 10 ^ (k + 1) := by
    rw [List.append_assoc, ← List.replicate_succ', Nat.ofDigitChars_append, Nat.ofDigitChars_ten_toDigits,
      Nat.ofDigitChars_replicate_zero, Nat.mul_comm]
  have hexp : -(((['0'] : List Char).length : Nat) : Int) = (k : Int) - (k + 1 : Nat) := by simp
  rw [hval, hexp, Binary64.ofDecimal_mul_pow_ten]

theorem readNumber_pointed (minus : Bool) {c p : Nat} (hc : c ≠ 0) (hp : 0 < p)
    (hlt : p < (Nat.toDigits 10 c).length) {rest : List Char} (hr : EndsNumber rest) :
    readNumber (signed minus ((Nat.toDigits 10 c).take p ++ '.' :: (Nat.toDigits 10 c).drop p ++ rest)) =
      .ok (.number (.float (ofDecimal minus c (p - (Nat.toDigits 10 c).length))), rest) := by
  have hdig : ∀ x ∈ Nat.toDigits 10 c, x.isDigit = true := fun x => isDigit_of_mem_toDigits
  have hwd : ∀ x ∈ (Nat.toDigits 10 c).take p, x.isDigit = true :=
    fun x hx => hdig x (List.mem_of_mem_take hx)
  have hfd : ∀ x ∈ (Nat.toDigits 10 c).drop p, x.isDigit = true :=
    fun x hx => hdig x (List.mem_of_mem_drop hx)
  have hne : (Nat.toDigits 10 c).take p ≠ [] := by
    intro h
    have := congrArg List.length h
    rw [List.length_take, List.length_nil] at this
    omega
  have hfne : (Nat.toDigits 10 c).drop p ≠ [] := by
    intro h
    have := congrArg List.length h
    rw [List.length_drop, List.length_nil] at this
    omega
  have hw : wholePart ((Nat.toDigits 10 c).take p ++ '.' :: (Nat.toDigits 10 c).drop p ++ rest)
      = ((Nat.toDigits 10 c).take p, '.' :: (Nat.toDigits 10 c).drop p ++ rest) := by
    rw [List.append_assoc]
    apply wholePart_of_ne_zero hne hwd
    · obtain ⟨q, rfl⟩ := Nat.exists_eq_succ_of_ne_zero hp.ne'
      rw [List.head?_take, if_neg (by omega)]
      exact head?_toDigits hc
    · exact point_not_digit _
  rw [readNumber_fraction minus hne hwd hw hfne hfd hr, List.take_append_drop, Nat.ofDigitChars_ten_toDigits]
  have hexp : -(((Nat.toDigits 10 c).drop p).length : Int) = (p : Int) - (Nat.toDigits 10 c).length := by
    rw [List.length_drop]; omega
  rw [hexp]

theorem readNumber_small (minus : Bool) (c k : Nat) {rest : List Char} (hr : EndsNumber rest) :
    readNumber (signed minus (['0'] ++ '.' :: (List.replicate k '0' ++ Nat.toDigits 10 c) ++ rest)) =
      .ok (.number (.float (ofDecimal minus c (-((k + (Nat.toDigits 10 c).length : Nat) : Int)))), rest) := by
  have hfd : ∀ x ∈ List.replicate k '0' ++ Nat.toDigits 10 c, x.isDigit = true := by
    intro x hx
    rcases List.mem_append.1 hx with h | h
    · exact isDigit_of_mem_zeros h
    · exact isDigit_of_mem_toDigits h
  have hfne : List.replicate k '0' ++ Nat.toDigits 10 c ≠ [] :=
    List.append_ne_nil_of_right_ne_nil _ Nat.toDigits_ne_nil
  rw [readNumber_fraction minus (List.cons_ne_nil _ _) (by simp) rfl hfne hfd hr]
  have hval : Nat.ofDigitChars 10 (['0'] ++ (List.replicate k '0' ++ Nat.toDigits 10 c)) 0 = c := by
    rw [Nat.ofDigitChars_append, Nat.ofDigitChars_append,
      show Nat.ofDigitChars 10 ['0'] 0 = 0 from rfl, Nat.ofDigitChars_replicate_zero, Nat.mul_zero,
      Nat.ofDigitChars_ten_toDigits]
  rw [hval, List.length_append, List.length_replicate]

theorem readNumber_scientific (minus expMinus : Bool) {c : Nat} (hc : c ≠ 0) {es : List Char} (hne : es ≠ [])
    (hd : ∀ x ∈ es, x.isDigit = true) {rest : List Char} (hr : EndsNumber rest) :
    readNumber (signed minus ((Nat.toDigits 10 c).take 1
        ++ (if (Nat.toDigits 10 c).length = 1 then [] else '.' :: (Nat.toDigits 10 c).drop 1)
        ++ ('e' :: (if expMinus then '-' else '+') :: es ++ rest))) =
      .ok (.number (.float (ofDecimal minus c
        ((if expMinus then -(Nat.ofDigitChars 10 es 0 : Int) else Nat.ofDigitChars 10 es 0) + 1
          - (Nat.toDigits 10 c).length))), rest) := by
  have hdig : ∀ x ∈ Nat.toDigits 10 c, x.isDigit = true := fun x => isDigit_of_mem_toDigits
  have h0 := head?_toDigits hc
  have hval : Nat.ofDigitChars 10 (Nat.toDigits 10 c) 0 = c := Nat.ofDigitChars_ten_toDigits
  obtain ⟨d, ds, hds⟩ := List.exists_cons_of_ne_nil (Nat.toDigits_ne_nil (n := c) (b := 10))
  rw [hds] at hdig h0 hval ⊢
  have hexp := exponent_signed expMinus hne hd (not_isDigit_of_ends hr)
  have hnotDigit : ∀ r : List Char, ∀ x ∈ ('e' :: r).head?, x.isDigit = false := by
    intro r x hx
    simp only [List.head?_cons, Option.mem_def, Option.some.injEq] at hx
    subst hx; rfl
  have hone : ∀ x ∈ ([d] : List Char), x.isDigit = true := by simpa using hdig d List.mem_cons_self
  have hb : ∀ r : List Char, ∀ x ∈ ([d] ++ r).head?, x ≠ '-' := ne_minus_of_isDigit (by simp) hone
  cases ds with
  | nil =>
    have hw : wholePart ([d] ++ ('e' :: (if expMinus then '-' else '+') :: es ++ rest))
        = ([d], 'e' :: (if expMinus then '-' else '+') :: es ++ rest) :=
      wholePart_of_ne_zero (by simp) hone h0 (hnotDigit _)
    have hf := fraction_none (s := 'e' :: (if expMinus then '-' else '+') :: es ++ rest) (by simp)
    have hread := readNumber_of_parts minus (hb _) hw (by simp) hf hexp
    simp only [List.take_succ_cons, List.take_zero, List.length_singleton, if_true, List.append_nil]
    rw [hread]
    simp [hval]
  | cons d' ds =>
    have hfd : ∀ x ∈ d' :: ds, x.isDigit = true := fun x hx => hdig x (List.mem_cons_of_mem _ hx)
    have hw : wholePart ([d] ++ ('.' :: (d' :: ds) ++ ('e' :: (if expMinus then '-' else '+') :: es ++ rest)))
        = ([d], '.' :: (d' :: ds) ++ ('e' :: (if expMinus then '-' else '+') :: es ++ rest)) :=
      wholePart_of_ne_zero (by simp) hone (by simpa using h0) (point_not_digit _)
    have hf := fraction_digits (by simp) hfd (hnotDigit ((if expMinus then '-' else '+') :: es ++ rest))
    have hread := readNumber_of_parts minus (hb _) hw (by simp) hf hexp
    have hlen : ¬ (d :: d' :: ds).length = 1 := by simp
    simp only [hlen, if_false, List.take_succ_cons, List.take_zero, List.drop_succ_cons, List.drop_zero,
      List.append_assoc]
    rw [hread]
    have hsum : ∀ a : Int, a - ((d' :: ds).length : Int) = a + 1 - ((d :: d' :: ds).length : Int) := by
      intro a; simp only [List.length_cons]; omega
    simp only [List.isEmpty_cons, Bool.false_and, Bool.false_eq_true, if_false, Option.getD_some, hsum]
    rw [List.singleton_append, hval]

def exponentDigits (n : Nat) : List Char :=
  if (Nat.toDigits 10 n).length < 2 then '0' :: Nat.toDigits 10 n else Nat.toDigits 10 n

theorem exponentDigits_spec (n : Nat) : exponentDigits n ≠ [] ∧ (∀ c ∈ exponentDigits n, c.isDigit = true) ∧
    Nat.ofDigitChars 10 (exponentDigits n) 0 = n := by
  have hd : ∀ c ∈ Nat.toDigits 10 n, c.isDigit = true := fun c => isDigit_of_mem_toDigits
  have hv : Nat.ofDigitChars 10 (Nat.toDigits 10 n) 0 = n := Nat.ofDigitChars_ten_toDigits
  unfold exponentDigits
  split
  · refine ⟨List.cons_ne_nil _ _, ?_, ?_⟩
    · intro c hc
      rcases List.mem_cons.1 hc with rfl | hc
      · rfl
      · exact hd c hc
    · rw [← List.singleton_append, Nat.ofDigitChars_append]
      exact hv
  · exact ⟨Nat.toDigits_ne_nil, hd, hv⟩

theorem toList_layout (d : Decimal) : (Binary64.layout d).toList =
    let digits := Nat.toDigits 10 d.coefficient
    let point : Int := digits.length + d.exponent
    if -4 < point ∧ point ≤ 16 then
      if 0 ≤ d.exponent then digits ++ List.replicate d.exponent.toNat '0' ++ '.' :: ['0']
      else if 0 < point then digits.take point.toNat ++ '.' :: digits.drop point.toNat
      else ['0'] ++ '.' :: (List.replicate (-point).toNat '0' ++ digits)
    else digits.take 1 ++ (if digits.length = 1 then [] else '.' :: digits.drop 1)
      ++ ('e' :: (if decide (point - 1 < 0) then '-' else '+') :: exponentDigits (point - 1).natAbs) := by
  dsimp only [Binary64.layout]
  split
  · split
    · simp
    · split <;> simp
  · have he : ∀ n, (if (digitText n).length < 2 then "0" ++ digitText n else digitText n).toList =
        exponentDigits n := by
      intro n
      simp only [exponentDigits, digitText, String.length_ofList]
      split <;> simp
    rw [String.toList_append, String.toList_append, he, String.toList_ofList]
    by_cases hp : ((Nat.toDigits 10 d.coefficient).length : Int) + d.exponent - 1 < 0
    · simp [hp]
    · simp [hp]

/-- A decimal is read from its layout. -/
theorem readNumber_layout (minus : Bool) (d : Decimal) (hz : d.coefficient = 0 → d.exponent = 0)
    {rest : List Char} (hr : EndsNumber rest) :
    readNumber (signed minus ((Binary64.layout d).toList ++ rest)) =
      .ok (.number (.float (ofDecimal minus d.coefficient d.exponent)), rest) := by
  obtain ⟨c, e⟩ := d
  have hlen : 0 < (Nat.toDigits 10 c).length := Nat.length_toDigits_pos
  have hlen0 : c = 0 → (Nat.toDigits 10 c).length = 1 := by rintro rfl; rfl
  rw [toList_layout]
  dsimp only at hz ⊢
  split
  · split
    · obtain ⟨k, rfl⟩ : ∃ k : Nat, e = k := ⟨e.toNat, by omega⟩
      rw [Int.toNat_natCast]
      exact readNumber_padded minus (fun h => by have := hz h; omega) hr
    · split
      · obtain ⟨p, hp⟩ : ∃ p : Nat, ((Nat.toDigits 10 c).length : Int) + e = p :=
          ⟨(((Nat.toDigits 10 c).length : Int) + e).toNat, by omega⟩
        have hc : c ≠ 0 := fun h => by have := hz h; omega
        have he : e = p - (Nat.toDigits 10 c).length := by omega
        rw [hp, Int.toNat_natCast, readNumber_pointed minus hc (by omega) (by omega) hr, he]
      · obtain ⟨k, hk⟩ : ∃ k : Nat, -(((Nat.toDigits 10 c).length : Int) + e) = k :=
          ⟨(-(((Nat.toDigits 10 c).length : Int) + e)).toNat, by omega⟩
        have he : e = -((k + (Nat.toDigits 10 c).length : Nat) : Int) := by omega
        rw [hk, Int.toNat_natCast, readNumber_small minus c k hr, he]
  · have hc : c ≠ 0 := fun h => by
      have := hz h
      have := hlen0 h
      omega
    obtain ⟨q, hq⟩ : ∃ q : Int, ((Nat.toDigits 10 c).length : Int) + e - 1 = q := ⟨_, rfl⟩
    obtain ⟨hne, hd, hv⟩ := exponentDigits_spec q.natAbs
    have he : (if decide (q < 0) then -(q.natAbs : Int) else q.natAbs) + 1 - (Nat.toDigits 10 c).length =
        e := by
      by_cases hp : q < 0
      · simp only [hp, decide_true, if_true]
        omega
      · simp only [hp, decide_false, Bool.false_eq_true, if_false]
        omega
    rw [hq, List.append_assoc, readNumber_scientific minus _ hc hne hd hr, hv, he]

/-! What a number is among the values of a document. -/

/-- A scan gives a document and what is left, unless a number in it does not fit. -/
def Reads (fits : Prop) (d : Document) (rest : List Char) (r : Scan Document) : Prop :=
  r = .ok (d, rest) ∨ ¬ fits ∧ ∃ stop, r = .error stop

theorem head_of_isDigit {c : Char} (h : c.isDigit = true) : c ≠ '"' ∧ c ≠ '[' ∧ c ≠ '\x7b' ∧ c ≠ '-' ∧ c ≠ 'n'
    ∧ c ≠ 't' ∧ c ≠ 'f' ∧ c ≠ 'N' ∧ c ≠ 'I' := by
  refine ⟨?_, ?_, ?_, ?_, ?_, ?_, ?_, ?_, ?_⟩ <;> (rintro rfl; simp at h)

/-- Nothing but a number starts with a digit or with a minus in front of one. -/
theorem readValue_signed (fuel : Nat) (minus : Bool) {c : Char} (hc : c.isDigit = true) (r : List Char) :
    readValue (fuel + 1) (signed minus (c :: r)) = readNumber (signed minus (c :: r)) := by
  obtain ⟨h1, h2, h3, h4, h5, h6, h7, h8, h9⟩ := head_of_isDigit hc
  have hw : readWord (signed minus (c :: r)) = none := by
    cases minus <;> simp [readWord, words, signed, List.isPrefixOf, h4, h5, h6, h7, h8, h9, Ne.symm]
  cases minus with
  | true => simp only [signed, if_true] at hw ⊢; simp [readValue, hw]
  | false => simp only [signed, Bool.false_eq_true, if_false] at hw ⊢; simp [readValue, hw, h1, h2, h3]

theorem toList_toString_int (i : Int) :
    (toString i).toList = signed (decide (i < 0)) (Nat.toDigits 10 i.natAbs) := by
  cases i with
  | ofNat n => exact Nat.toList_repr
  | negSucc n =>
    have h : (toString (Int.negSucc n)).toList = '-' :: (Nat.repr (n + 1)).toList := by
      change ("-" ++ Nat.repr (n + 1)).toList = _
      rw [String.toList_append]
      rfl
    rw [h, Nat.toList_repr, Int.natAbs_negSucc]
    simp [signed, Int.negSucc_lt_zero]

theorem signed_append (minus : Bool) (s rest : List Char) :
    signed minus s ++ rest = signed minus (s ++ rest) := by
  cases minus <;> rfl

theorem readValue_int (fuel : Nat) (i : Int) {rest : List Char} (hr : EndsNumber rest) :
    Reads (Number.int i).Fits (.number (.int i)) rest
      (readValue (fuel + 1) ((toString i).toList ++ rest)) := by
  obtain ⟨d, ds, hd⟩ := List.exists_cons_of_ne_nil (Nat.toDigits_ne_nil (n := i.natAbs) (b := 10))
  have hdig : d.isDigit = true :=
    isDigit_of_mem_toDigits (n := i.natAbs) (by rw [hd]; exact List.mem_cons_self)
  have hread := readNumber_int (decide (i < 0)) i.natAbs hr
  rw [toList_toString_int, signed_append]
  rw [show readValue (fuel + 1) (signed (decide (i < 0)) (Nat.toDigits 10 i.natAbs ++ rest))
      = readNumber (signed (decide (i < 0)) (Nat.toDigits 10 i.natAbs ++ rest)) by
    rw [hd]; exact readValue_signed fuel _ hdig _]
  rw [hread]
  by_cases hlong : Numeral.digitLimit < (Nat.toDigits 10 i.natAbs).length
  · rw [if_pos hlong]
    exact .inr ⟨Nat.not_le_of_lt hlong, _, rfl⟩
  · rw [if_neg hlong]
    left
    congr 4
    by_cases hi : i < 0
    · simp only [hi, decide_true, if_true]
      omega
    · simp only [hi, decide_false, Bool.false_eq_true, if_false]
      omega

theorem head_layout (d : Decimal) : ∃ c r, (Binary64.layout d).toList = c :: r ∧ c.isDigit = true := by
  obtain ⟨c, r, hc⟩ := List.exists_cons_of_ne_nil (Nat.toDigits_ne_nil (n := d.coefficient) (b := 10))
  have hdig : c.isDigit = true :=
    isDigit_of_mem_toDigits (n := d.coefficient) (by rw [hc]; exact List.mem_cons_self)
  rw [toList_layout, hc]
  dsimp only
  split
  · split
    · exact ⟨c, _, rfl, hdig⟩
    · split
      · rename_i hp
        obtain ⟨p, hp⟩ : ∃ p : Nat, (((c :: r).length : Int) + d.exponent).toNat = p + 1 :=
          Nat.exists_eq_succ_of_ne_zero (by omega)
        exact ⟨c, r.take p ++ '.' :: (c :: r).drop (p + 1), by rw [hp]; rfl, hdig⟩
      · exact ⟨'0', _, rfl, rfl⟩
  · exact ⟨c, _, rfl, hdig⟩

theorem toList_text_finite (negative : Bool) {units : Nat} (h : Binary64.Representable units) :
    ((Number.float (.finite negative units h)).text Number.documentNames).toList
      = signed negative (Binary64.layout (Binary64.shortest (.finite negative units h))).toList := by
  cases negative <;> simp [Number.text, Binary64.text, Binary64.negative, signed]

theorem readValue_number (fuel : Nat) (n : Number) {rest : List Char} (hr : EndsNumber rest) :
    Reads n.Fits (.number n) rest (readValue (fuel + 1) ((n.text Number.documentNames).toList ++ rest)) := by
  cases n with
  | int i => exact readValue_int fuel i hr
  | float x =>
    left
    cases x with
    | nan => rfl
    | infinite negative => cases negative <;> rfl
    | finite negative units h =>
      obtain ⟨c, r, hc, hdig⟩ := head_layout (Binary64.shortest (.finite negative units h))
      rw [toList_text_finite, signed_append]
      have hread := readNumber_layout negative _ (Binary64.shortest_exponent negative h) hr
      rw [Binary64.ofDecimal_shortest] at hread
      rw [hc] at hread ⊢
      rw [← hread]
      exact readValue_signed fuel negative hdig _

def numberMarks : List Char := ['+', '-', '.', 'e', 'N', 'a', 'I', 'n', 'f', 'i', 't', 'y']

theorem mem_layout {d : Decimal} {c : Char} (h : c ∈ (Binary64.layout d).toList) :
    c.isDigit = true ∨ c ∈ numberMarks := by
  have hd : ∀ x ∈ Nat.toDigits 10 d.coefficient, x.isDigit = true := fun x => isDigit_of_mem_toDigits
  have hexp : ∀ n, ∀ x ∈ exponentDigits n, x.isDigit = true := fun n => (exponentDigits_spec n).2.1
  have htake : ∀ n, ∀ x ∈ (Nat.toDigits 10 d.coefficient).take n, x.isDigit = true := fun n x hx =>
    hd x (List.mem_of_mem_take hx)
  have hdrop : ∀ n, ∀ x ∈ (Nat.toDigits 10 d.coefficient).drop n, x.isDigit = true := fun n x hx =>
    hd x (List.mem_of_mem_drop hx)
  rw [toList_layout] at h
  dsimp only at h
  split at h
  · split at h
    · simp only [List.mem_append, List.mem_cons, List.not_mem_nil, or_false] at h
      rcases h with (h | h) | rfl | rfl
      · exact .inl (hd c h)
      · exact .inl (isDigit_of_mem_zeros h)
      · exact .inr (by simp [numberMarks])
      · exact .inl rfl
    · split at h
      · simp only [List.mem_append, List.mem_cons] at h
        rcases h with h | rfl | h
        · exact .inl (htake _ c h)
        · exact .inr (by simp [numberMarks])
        · exact .inl (hdrop _ c h)
      · simp only [List.mem_append, List.mem_cons, List.not_mem_nil, or_false] at h
        rcases h with rfl | rfl | h | h
        · exact .inl rfl
        · exact .inr (by simp [numberMarks])
        · exact .inl (isDigit_of_mem_zeros h)
        · exact .inl (hd c h)
  · simp only [List.mem_append, List.mem_cons] at h
    rcases h with (h | h) | rfl | rfl | h
    · exact .inl (htake 1 c h)
    · split at h
      · cases h
      · rcases List.mem_cons.1 h with rfl | h
        · exact .inr (by simp [numberMarks])
        · exact .inl (hdrop 1 c h)
    · exact .inr (by simp [numberMarks])
    · right
      split <;> simp [numberMarks]
    · exact .inl (hexp _ c h)

theorem mem_signed {minus : Bool} {s : List Char} {c : Char} (h : c ∈ signed minus s) : c = '-' ∨ c ∈ s := by
  cases minus with
  | true => exact List.mem_cons.1 h
  | false => exact .inr h

theorem mem_numberText {n : Number} {c : Char} (h : c ∈ (n.text Number.documentNames).toList) :
    c.isDigit = true ∨ c ∈ numberMarks := by
  have hnan : ∀ x ∈ ['N', 'a', 'N'], x ∈ numberMarks := by simp [numberMarks]
  have hinf : ∀ x ∈ ['-', 'I', 'n', 'f', 'i', 'n', 'i', 't', 'y'], x ∈ numberMarks := by simp [numberMarks]
  cases n with
  | int i =>
    rw [show (Number.int i).text Number.documentNames = toString i from rfl, toList_toString_int] at h
    rcases mem_signed h with rfl | h
    · exact .inr (by simp [numberMarks])
    · exact .inl (isDigit_of_mem_toDigits h)
  | float x =>
    cases x with
    | nan => exact .inr (hnan c h)
    | infinite negative =>
      cases negative
      · exact .inr (hinf c (List.mem_cons_of_mem '-' h))
      · exact .inr (hinf c h)
    | finite negative units hu =>
      rw [toList_text_finite] at h
      rcases mem_signed h with rfl | h
      · exact .inr (by simp [numberMarks])
      · exact mem_layout h

end Document

end RecordDesk
