import Mathlib
import RecordDesk.Condition
set_option autoImplicit false

/-!
Lower case inside a longer text. Every character but one has its own lower case; a capital sigma looks at
what stands around it. So a text keeps its lower case wherever it stands just if each of its sigmas sees
enough of the text itself.
-/

namespace RecordDesk

theorem occursIn_iff {needle text : List Char} : occursIn needle text = true ↔ needle <:+: text := by
  induction text with
  | nil => rw [occursIn, List.isEmpty_iff, List.infix_nil]
  | cons c rest ih => rw [occursIn, Bool.or_eq_true, List.isPrefixOf_iff_prefix, ih, List.infix_cons_iff]

namespace Casing

/-- The lower case of a text between two others. `before` holds the nearest character first. -/
def lowerAmid (before after : List Char) : List Char → List Char
  | [] => []
  | c :: rest =>
    (if c = 'Σ' then [lowerSigma before (rest ++ after)] else lowerChar c) ++
      lowerAmid (c :: before) after rest

theorem lowerFrom_append (before s t : List Char) :
    lowerFrom before (s ++ t) = lowerAmid before t s ++ lowerFrom (s.reverse ++ before) t := by
  induction s generalizing before with
  | nil => rfl
  | cons c rest ih =>
    rw [List.cons_append, lowerFrom, lowerAmid, ih, List.append_assoc, List.reverse_cons, List.append_assoc]
    rfl

theorem lowerFrom_eq (before s : List Char) : lowerFrom before s = lowerAmid before [] s := by
  have h := lowerFrom_append before s []
  rwa [List.append_nil, lowerFrom, List.append_nil] at h

theorem lowerAmid_append (before after s t : List Char) :
    lowerAmid before after (s ++ t) = lowerAmid before (t ++ after) s ++
      lowerAmid (s.reverse ++ before) after t := by
  induction s generalizing before with
  | nil => rfl
  | cons c rest ih =>
    rw [List.cons_append, lowerAmid, lowerAmid, ih, List.append_assoc, List.append_assoc, List.reverse_cons,
      List.append_assoc]
    rfl

/-- A text is lowered alike in two places if each of its sigmas is. -/
theorem lowerAmid_congr {x y u v t : List Char} (h : ∀ p q, t = p ++ 'Σ' :: q →
    lowerSigma (p.reverse ++ x) (q ++ u) = lowerSigma (p.reverse ++ y) (q ++ v)) :
    lowerAmid x u t = lowerAmid y v t := by
  induction t generalizing x y with
  | nil => rfl
  | cons c rest ih =>
    have hrest : lowerAmid (c :: x) u rest = lowerAmid (c :: y) v rest := by
      refine ih fun p q hsplit => ?_
      have hat := h (c :: p) q (by rw [hsplit, List.cons_append])
      simpa using hat
    rw [lowerAmid, lowerAmid, hrest]
    split_ifs with hc
    · rw [show lowerSigma x (rest ++ u) = lowerSigma y (rest ++ v) from h [] rest (by rw [hc]; rfl)]
    · rfl

def bounds (s : List Char) : Bool := s.any fun c => !isIgnorable c

theorem meetsCased_skip {c : Char} (h : isIgnorable c = true) (s : List Char) :
    meetsCased (c :: s) = meetsCased s := by
  rw [meetsCased, List.dropWhile_cons_of_pos h]
  rfl

theorem meetsCased_stop {c : Char} (h : isIgnorable c = false) (s : List Char) :
    meetsCased (c :: s) = isCased c := by
  rw [meetsCased, List.dropWhile_cons_of_neg (Bool.eq_false_iff.1 h)]

theorem meetsCased_append_of_bounds {s : List Char} (h : bounds s = true) (t : List Char) :
    meetsCased (s ++ t) = meetsCased s := by
  induction s with
  | nil => cases h
  | cons c rest ih =>
    rw [List.cons_append]
    cases hc : isIgnorable c with
    | false => rw [meetsCased_stop hc, meetsCased_stop hc]
    | true =>
      have hrest : bounds rest = true := by simpa [bounds, hc] using h
      rw [meetsCased_skip hc, meetsCased_skip hc, ih hrest]

theorem meetsCased_append_of_ignorable {s : List Char} (h : bounds s = false) (t : List Char) :
    meetsCased (s ++ t) = meetsCased t := by
  induction s with
  | nil => rfl
  | cons c rest ih =>
    obtain ⟨hc, hrest⟩ : isIgnorable c = true ∧ bounds rest = false := by simpa [bounds] using h
    rw [List.cons_append, meetsCased_skip hc, ih hrest]

theorem bounds_of_meetsCased {s : List Char} (h : meetsCased s = true) : bounds s = true := by
  by_contra hs
  have hall := meetsCased_append_of_ignorable (Bool.eq_false_iff.2 hs) []
  rw [List.append_nil, h] at hall
  cases hall

theorem bounds_reverse (s : List Char) : bounds s.reverse = bounds s := List.any_reverse

theorem bounds_append (s t : List Char) : bounds (s ++ t) = (bounds s || bounds t) := List.any_append

theorem lowerSigma_congr {before before' after after' : List Char}
    (hbefore : meetsCased before = meetsCased before') (hafter : meetsCased after = meetsCased after') :
    lowerSigma before after = lowerSigma before' after' := by
  rw [lowerSigma, lowerSigma, hbefore, hafter]

/-- The text around a sigma decides about it, whatever stands farther off. -/
def SettledAt (before after : List Char) : Prop :=
  meetsCased after = true ∨ bounds before = true ∧ (meetsCased before = false ∨ bounds after = true)

/-- Every sigma of a text is settled by the rest of the text. -/
def Settled (t : List Char) : Prop := ∀ p q, t = p ++ 'Σ' :: q → SettledAt p.reverse q

/-- Every sigma of a text has the form between two others that it has alone. -/
def KeepsSigmas (before t after : List Char) : Prop :=
  ∀ p q, t = p ++ 'Σ' :: q → lowerSigma (p.reverse ++ before) (q ++ after) = lowerSigma p.reverse q

theorem lowerAmid_of_keeps {before t after : List Char} (h : KeepsSigmas before t after) :
    lowerAmid before after t = lowerFrom [] t := by
  rw [lowerFrom_eq]
  refine lowerAmid_congr fun p q hsplit => ?_
  rw [List.append_nil, List.append_nil]
  exact h p q hsplit

theorem lowerSigma_of_settled {before after : List Char} (h : SettledAt before after) (x u : List Char) :
    lowerSigma (before ++ x) (after ++ u) = lowerSigma before after := by
  rcases h with hcased | ⟨hbounds, huncased | hafter⟩
  · rw [lowerSigma, lowerSigma, meetsCased_append_of_bounds (bounds_of_meetsCased hcased), hcased]
    simp
  · rw [lowerSigma, lowerSigma, meetsCased_append_of_bounds hbounds, huncased]
    simp
  · exact lowerSigma_congr (meetsCased_append_of_bounds hbounds x) (meetsCased_append_of_bounds hafter u)

theorem keeps_of_settled {t : List Char} (h : Settled t) (before after : List Char) :
    KeepsSigmas before t after :=
  fun p q hsplit => lowerSigma_of_settled (h p q hsplit) before after

theorem infix_of_keeps {a t b : List Char} (h : KeepsSigmas a.reverse t b) :
    lowerFrom [] t <:+: lowerFrom [] (a ++ t ++ b) := by
  rw [List.append_assoc, lowerFrom_append, lowerFrom_append, List.append_nil, lowerAmid_of_keeps h]
  exact ⟨_, _, List.append_assoc _ _ _⟩

/-! An unsettled sigma changes its form next to a letter, and then the text has a character less than it
needs. -/

/-- The ranges as a list, which can be gone through without a count of steps. -/
theorem isIgnorable_eq (c : Char) : isIgnorable c = ignorableRanges.toList.any
    fun r => decide (r.1 ≤ c.toNat) && decide (c.toNat ≤ r.2) := by
  rw [isIgnorable, inRanges, Array.any_toList]

theorem isIgnorable_sigma : isIgnorable 'Σ' = false := by
  rw [isIgnorable_eq]
  decide +kernel

/-- A character that makes a sigma next to it look like one inside a word, and has no sigma in its own lower
case. -/
structure IsLetter (c : Char) : Prop where
  bounds : isIgnorable c = false
  cased : isCased c = true
  other : c ≠ 'Σ'
  noSigma : 'σ' ∉ lowerChar c
  noFinal : 'ς' ∉ lowerChar c

theorem isLetter_a : IsLetter 'A' := by
  have hbounds : isIgnorable 'A' = false := by
    rw [isIgnorable_eq]
    decide +kernel
  exact ⟨hbounds, by decide, by decide, by decide, by decide⟩

theorem IsLetter.meetsCased {c : Char} (hc : IsLetter c) (s : List Char) : meetsCased (c :: s) = true :=
  (meetsCased_stop hc.bounds s).trans hc.cased

theorem IsLetter.lowerFrom {c : Char} (hc : IsLetter c) (before s : List Char) :
    lowerFrom before (c :: s) = lowerChar c ++ lowerFrom (c :: before) s := by
  rw [Casing.lowerFrom, if_neg hc.other]

theorem lowerAmid_sigma (before after p q : List Char) : lowerAmid before after (p ++ 'Σ' :: q) =
    lowerAmid before ('Σ' :: q ++ after) p ++ lowerSigma (p.reverse ++ before) (q ++ after) ::
      lowerAmid ('Σ' :: (p.reverse ++ before)) after q := by
  rw [lowerAmid_append]
  rfl

theorem lowerAmid_of_ignorable {s : List Char} (h : bounds s = false) (x y u v : List Char) :
    lowerAmid x u s = lowerAmid y v s := by
  refine lowerAmid_congr fun p q hsplit => ?_
  rw [hsplit, bounds_append, Bool.or_eq_false_iff] at h
  have hsigma : bounds ('Σ' :: q) = true := by simp [bounds, isIgnorable_sigma]
  cases hsigma.symm.trans h.2

theorem meetsCased_sigma (s x y : List Char) : meetsCased (s ++ 'Σ' :: x) = meetsCased (s ++ 'Σ' :: y) := by
  have hbounds : bounds (s ++ ['Σ']) = true := by simp [bounds, isIgnorable_sigma]
  have hstop (z : List Char) : meetsCased (s ++ 'Σ' :: z) = meetsCased (s ++ ['Σ']) := by
    rw [List.append_cons, meetsCased_append_of_bounds hbounds]
  exact (hstop x).trans (hstop y).symm

theorem lowerAmid_after_sigma (x y after q : List Char) :
    lowerAmid ('Σ' :: x) after q = lowerAmid ('Σ' :: y) after q :=
  lowerAmid_congr fun p _ _ => lowerSigma_congr (meetsCased_sigma p.reverse x y) rfl

theorem lowerAmid_before_sigma (before u v p : List Char) :
    lowerAmid before ('Σ' :: u) p = lowerAmid before ('Σ' :: v) p :=
  lowerAmid_congr fun _ q _ => lowerSigma_congr rfl (meetsCased_sigma q u v)

theorem not_infix_of_count {x : Char} {s t : List Char} (h : t.count x < s.count x) : ¬ s <:+: t :=
  fun hst => absurd (hst.sublist.count_le x) (Nat.not_le.2 h)

theorem lowerFrom_sigma (p q : List Char) : lowerFrom [] (p ++ 'Σ' :: q) =
    lowerAmid [] ('Σ' :: q) p ++ lowerSigma p.reverse q :: lowerAmid ('Σ' :: p.reverse) [] q := by
  rw [lowerFrom_eq, lowerAmid_sigma, List.append_nil, List.append_nil, List.append_nil]

theorem lost_after_letter {c : Char} (hc : IsLetter c) {p q : List Char} (hp : bounds p = false)
    (hq : meetsCased q = false) :
    ¬ lowerFrom [] (p ++ 'Σ' :: q) <:+: lowerFrom [] (c :: (p ++ 'Σ' :: q)) := by
  have hbefore : bounds p.reverse = false := (bounds_reverse p).trans hp
  have halone : lowerSigma p.reverse q = 'σ' := by
    rw [lowerSigma, hq, ← List.append_nil p.reverse, meetsCased_append_of_ignorable hbefore]
    rfl
  have hafter : lowerSigma (p.reverse ++ [c]) q = 'ς' := by
    rw [lowerSigma, hq, meetsCased_append_of_ignorable hbefore, hc.meetsCased]
    rfl
  have htext : lowerFrom [] (c :: (p ++ 'Σ' :: q)) =
      lowerChar c ++ (lowerAmid [] ('Σ' :: q) p ++ 'ς' :: lowerAmid ('Σ' :: p.reverse) [] q) := by
    rw [hc.lowerFrom, lowerFrom_eq, lowerAmid_sigma, List.append_nil, List.append_nil, hafter,
      lowerAmid_of_ignorable hp [c] [] _ ('Σ' :: q), lowerAmid_after_sigma _ p.reverse]
  apply not_infix_of_count (x := 'σ')
  rw [htext, lowerFrom_sigma, halone]
  simp [List.count_eq_zero_of_not_mem hc.noSigma]

theorem lost_before_letter {c : Char} (hc : IsLetter c) {p q : List Char} (hp : meetsCased p.reverse = true)
    (hq : bounds q = false) : ¬ lowerFrom [] (p ++ 'Σ' :: q) <:+: lowerFrom [] (p ++ 'Σ' :: q ++ [c]) := by
  have halone : lowerSigma p.reverse q = 'ς' := by
    rw [lowerSigma, hp, ← List.append_nil q, meetsCased_append_of_ignorable hq]
    rfl
  have hbefore : lowerSigma p.reverse (q ++ [c]) = 'σ' := by
    rw [lowerSigma, hp, meetsCased_append_of_ignorable hq, hc.meetsCased]
    rfl
  have htext : lowerFrom [] (p ++ 'Σ' :: q ++ [c]) =
      lowerAmid [] ('Σ' :: q) p ++ 'σ' :: lowerAmid ('Σ' :: p.reverse) [] q ++ lowerChar c := by
    rw [lowerFrom_append, hc.lowerFrom, lowerAmid_sigma, List.append_nil, hbefore,
      lowerAmid_of_ignorable hq _ ('Σ' :: p.reverse) [c] [], List.cons_append,
      lowerAmid_before_sigma [] _ q, lowerFrom,
      List.append_nil]
  apply not_infix_of_count (x := 'ς')
  rw [htext, lowerFrom_sigma, halone]
  simp [List.count_eq_zero_of_not_mem hc.noFinal]

theorem infix_everywhere_iff {t : List Char} :
    (∀ a b, lowerFrom [] t <:+: lowerFrom [] (a ++ t ++ b)) ↔ Settled t := by
  constructor
  · intro hall p q hsplit
    by_contra hopen
    obtain ⟨hafter, hbefore⟩ := not_or.1 hopen
    rw [Bool.not_eq_true] at hafter
    cases hp : bounds p with
    | false =>
      have hletter := hall ['A'] []
      rw [List.append_nil, hsplit] at hletter
      exact lost_after_letter isLetter_a hp hafter hletter
    | true =>
      rw [bounds_reverse, hp, and_iff_right rfl, not_or, Bool.not_eq_false, Bool.not_eq_true] at hbefore
      have hletter := hall [] ['A']
      rw [List.nil_append, hsplit] at hletter
      exact lost_before_letter isLetter_a hbefore.1 hbefore.2 hletter
  · intro h a b
    exact infix_of_keeps (keeps_of_settled h a.reverse b)

end Casing

end RecordDesk
