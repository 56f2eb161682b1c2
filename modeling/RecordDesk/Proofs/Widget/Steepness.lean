import RecordDesk.Proofs.Numeric.Scaling
import RecordDesk.Proofs.Store.Lookups
import RecordDesk.Proofs.Widget.Trends
set_option autoImplicit false

/-!
How steep a trend may be. The change is taken as a share of the previous figure and counted in hundredths of
a percent, so there is a largest share whose count is still finite: up to it a trend is given, and past it
none.
-/

namespace RecordDesk

open Binary64 Widget

namespace Trend

/-- The units of the largest share that has a finite number of hundredths of a percent. -/
def topShare : Nat := 7378697629483820 * 2 ^ 2032

theorem topShare_representable : Representable topShare := by decide +kernel

/-- The largest share, a little below `1.8 * 10 ^ 304`. -/
def largestShare : Binary64 := .finite false topShare topShare_representable

/-- Whether the change makes up no larger a share of the previous figure; of a figure of zero it makes up
none. -/
def Bounded (current previous : Binary64) : Prop :=
  previous.isZero = true ∨ ((current - previous) / previous).abs.lessOrSame largestShare = true

instance (current previous : Binary64) : Decidable (Bounded current previous) :=
  inferInstanceAs (Decidable (_ ∨ _))

theorem topShare_scales : nearest (topShare * 100) * 100 < integerLimit * one := by decide +kernel

theorem topShare_scales_once : topShare * 100 < integerLimit * one := by decide +kernel

theorem above_topShare_leaves : integerLimit * one ≤ nearest ((topShare + 2 ^ 2032) * 100) * 100 := by
    decide +kernel

theorem log2_topShare : topShare.log2 = 2084 := by decide +kernel

theorem step_above_topShare {units : Nat} (h : Representable units) (habove : topShare < units) :
    topShare + 2 ^ 2032 ≤ units := by
  have hlog : 2084 ≤ units.log2 := by
    rw [← log2_topShare, Nat.log2_eq_log_two, Nat.log2_eq_log_two]
    exact Nat.log_mono_right habove.le
  have hwidth : 2 ^ 2032 ∣ gridWidth units := pow_dvd_pow 2 (by omega)
  exact add_le_of_lt_of_dvd habove (Nat.dvd_mul_left _ _) (hwidth.trans (Nat.dvd_of_mod_eq_zero h.2))

theorem scales_iff {units : Nat} (h : Representable units) :
    nearest (units * 100) * 100 < integerLimit * one ↔ units ≤ topShare := by
  constructor
  · intro hlt
    by_contra habove
    have hstep := step_above_topShare h (not_le.1 habove)
    have hscaled := Nat.mul_le_mul_right 100 (nearest_mono (Nat.mul_le_mul_right 100 hstep))
    exact absurd (above_topShare_leaves.trans hscaled) (not_le.2 hlt)
  · intro hle
    exact (Nat.mul_le_mul_right 100 (nearest_mono (Nat.mul_le_mul_right 100 hle))).trans_lt topShare_scales

theorem half_eq : ∃ h, half = .finite false (2 ^ 1073) h := by
  have hgrid : Representable (2 ^ 1073) := by decide +kernel
  have hunits : (1 : Int).natAbs * one = 2 ^ 1073 * 2 := by
    rw [Int.natAbs_one, Nat.one_mul, one_eq_pow, ← pow_succ]
  have hhalf : half = ofUnits false ((1 : Int).natAbs * one) (1 * 2) := rfl
  exact ⟨hgrid, by rw [hhalf, hunits, ofUnits_mul_right two_pos, ofUnits_one]⟩

theorem hundred_eq : hundred = ofInt (100 : Nat) := rfl

theorem infinite_scaled (negative : Bool) : infinite negative * hundred = infinite negative :=
  infinite_mul_ofInt negative (k := 100) (by decide) (by decide)

theorem infinite_raised (negative : Bool) : infinite negative + half = infinite negative := by
  obtain ⟨h, hhalf⟩ := half_eq
  rw [hhalf, infinite_add]

theorem isFinite_hundredths (negative : Bool) {units : Nat} (h : Representable units) :
    (finite negative units h * hundred * hundred + half).isFinite = true ↔ units ≤ topShare := by
  rw [hundred_eq, finite_mul_ofInt negative h (by decide), ← hundred_eq]
  rcases Nat.lt_or_ge (units * 100) (integerLimit * one) with hlow | hhigh
  · obtain ⟨hgrid, hfirst⟩ := ofUnits_one_of_lt negative hlow
    rw [hfirst, hundred_eq, finite_mul_ofInt negative hgrid (by decide), ← scales_iff h]
    rcases Nat.lt_or_ge (nearest (units * 100) * 100) (integerLimit * one) with hlow' | hhigh'
    · obtain ⟨hgrid', hsecond⟩ := ofUnits_one_of_lt negative hlow'
      obtain ⟨hh, hhalf⟩ := half_eq
      rw [hsecond, hhalf]
      exact iff_of_true (isFinite_add_small _ _ hgrid' hh (pow_lt_pow_right₀ (by decide) (by decide))) hlow'
    · rw [ofUnits_one_of_le negative hhigh', infinite_raised]
      exact iff_of_false Bool.false_ne_true (not_lt.2 hhigh')
  · rw [ofUnits_one_of_le negative hhigh, infinite_scaled, infinite_raised]
    refine iff_of_false Bool.false_ne_true fun hle => ?_
    exact absurd ((Nat.mul_le_mul_right 100 hle).trans_lt topShare_scales_once) (not_lt.2 hhigh)

theorem floor_ok_iff (x : Binary64) : (∃ i, floor x = .ok i) ↔ x.isFinite = true := by
  cases x with
  | nan => exact iff_of_false (fun ⟨_, h⟩ => nomatch h) Bool.false_ne_true
  | infinite negative => exact iff_of_false (fun ⟨_, h⟩ => nomatch h) Bool.false_ne_true
  | finite negative units h => exact iff_of_true ⟨_, rfl⟩ rfl

theorem roundTwo_ok_iff (x : Binary64) : (∃ r, roundTwo x = .ok r) ↔
    (x * hundred + half).isFinite = true := by
  rw [← floor_ok_iff, roundTwo, bind_ok_iff]
  exact exists_congr fun i => and_iff_left ⟨_, rfl⟩

theorem roundTwo_share_iff (share : Binary64) :
    (∃ r, roundTwo (share * hundred) = .ok r) ↔ share.abs.lessOrSame largestShare = true := by
  rw [roundTwo_ok_iff]
  cases share with
  | nan => exact iff_of_false Bool.false_ne_true Bool.false_ne_true
  | infinite negative =>
    rw [infinite_scaled, infinite_scaled, infinite_raised]
    exact iff_of_false Bool.false_ne_true Bool.false_ne_true
  | finite negative units h =>
    rw [isFinite_hundredths negative h]
    exact (lessOrSame_finite h topShare_representable).symm

/-- A trend is given just if the change makes up no more than the largest share. -/
theorem between_ok_iff (current previous : Binary64) :
    (∃ t, between current previous = .ok t) ↔ Bounded current previous := by
  have hpercentage : (∃ t, between current previous = .ok t)
      ↔ ∃ r, percentageOf (current - previous) previous = .ok r :=
    bind_ok_iff.trans (exists_congr fun r => and_iff_left ⟨_, rfl⟩)
  rw [hpercentage, percentageOf, Bounded]
  cases previous.isZero with
  | true => exact iff_of_true ⟨_, rfl⟩ (.inl rfl)
  | false => simp only [Bool.false_eq_true, if_false, false_or, roundTwo_share_iff]

theorem floor_error {x : Binary64} (hx : x.isNaN = false) (h : x.isFinite = false) :
    floor x = .error .infinityToInteger := by
  cases x with
  | nan => cases hx
  | infinite negative => rfl
  | finite negative units hgrid => cases h

theorem share_not_nan {current previous : Binary64} (hc : current.isFinite = true)
    (hp : previous.isFinite = true) (hzero : previous.isZero = false) :
    ((current - previous) / previous).isNaN = false := by
  cases current with
  | nan => cases hc
  | infinite negative => cases hc
  | finite a u hu =>
    cases previous with
    | nan => cases hp
    | infinite negative => cases hp
    | finite b v hv =>
      have hchange : (finite a u hu - finite b v hv).isNaN = false :=
        isNaN_add_finite (x := finite a u hu) rfl (!b) hv
      refine isNaN_div_finite hchange b hv fun hv0 => ?_
      rw [(isZero_finite b hv).2 hv0] at hzero
      cases hzero

theorem between_error {current previous : Binary64} (hc : current.isFinite = true)
    (hp : previous.isFinite = true) (h : ¬ Bounded current previous) :
    between current previous = .error .infinityToInteger := by
  rw [Bounded, not_or, Bool.not_eq_true] at h
  obtain ⟨hzero, hsteep⟩ := h
  have hshare := share_not_nan hc hp hzero
  generalize hs : (current - previous) / previous = share at hshare hsteep
  obtain ⟨hgrid, hhalf⟩ := half_eq
  have hscaled {x : Binary64} (hx : x.isNaN = false) : (x * hundred).isNaN = false := by
    rw [hundred_eq]
    exact isNaN_mul_ofInt hx (by decide) (by decide)
  have hnumber : (share * hundred * hundred + half).isNaN = false := by
    rw [hhalf]
    exact isNaN_add_finite (hscaled (hscaled hshare)) false hgrid
  have hinfinite : (share * hundred * hundred + half).isFinite = false := by
    rw [← roundTwo_share_iff, roundTwo_ok_iff, Bool.not_eq_true] at hsteep
    exact hsteep
  have hround : roundTwo (share * hundred) = .error .infinityToInteger := by
    rw [roundTwo, floor_error hnumber hinfinite]
    rfl
  rw [between, percentageOf, hzero, if_neg Bool.false_ne_true, hs, hround]
  rfl

end Trend

def Number.isFinite : Number → Bool
  | .int _ => true
  | .float x => x.isFinite

theorem Number.isZero_toBinary64 {n : Number} {x : Binary64} (h : n.toBinary64 = .ok x) :
    x.isZero = n.isZero := by
  cases n with
  | int i =>
    rw [Number.eq_ofInt_of_ok h]
    exact Bool.eq_iff_iff.2 ((isZero_ofInt i).trans beq_iff_eq.symm)
  | float y =>
    cases h
    rfl

theorem Number.toBinary64_finite {n : Number} {x : Binary64} (hn : n.isFinite = true)
    (h : n.toBinary64 = .ok x) : x.isFinite = true := by
  cases n with
  | int i =>
    obtain ⟨hlimit, -⟩ | ⟨-, herror⟩ := Number.intToBinary64_cases i
    · rw [Number.eq_ofInt_of_ok h]
      exact (isFinite_ofInt i).2 hlimit
    · cases h.symm.trans herror
  | float y =>
    cases h
    exact hn

namespace Trend

theorem ofDocuments_number (m n : Number) : ofDocuments (.number m) (.number n) = (do
    let current ← m.toBinary64
    let previous ← n.toBinary64
    between current previous) := by
  unfold ofDocuments
  cases hm : m.toBinary64 with
  | error fault => simp [figure, hm, bind, Except.bind]
  | ok x =>
    cases hn : n.toBinary64 with
    | error fault => simp [figure, hm, hn, bind, Except.bind]
    | ok y => simp [figure, hm, hn, bind, Except.bind, Number.isZero_toBinary64 hn, Document.isTruthy]

theorem ofDocuments_ok_iff (m n : Number) : (∃ t, ofDocuments (.number m) (.number n) = .ok t) ↔
    ∃ x y, m.toBinary64 = .ok x ∧ n.toBinary64 = .ok y ∧ Bounded x y := by
  rw [ofDocuments_number]
  simp only [bind_ok_iff, between_ok_iff]
  exact ⟨fun ⟨x, hx, y, hy, h⟩ => ⟨x, y, hx, hy, h⟩, fun ⟨x, y, hx, hy, h⟩ => ⟨x, hx, y, hy, h⟩⟩

theorem ofDocuments_floats_iff (x y : Binary64) :
    (∃ t, ofDocuments (.number (.float x)) (.number (.float y)) = .ok t) ↔ Bounded x y := by
  rw [ofDocuments_ok_iff]
  constructor
  · rintro ⟨_, _, ⟨⟩, ⟨⟩, h⟩
    exact h
  · exact fun h => ⟨x, y, rfl, rfl, h⟩

theorem ofDocuments_error {m n : Number} (hm : m.isFinite = true) (hn : n.isFinite = true) {fault : Fault}
    (h : ofDocuments (.number m) (.number n) = .error fault) : fault = .numberTooLarge ∨
    fault = .infinityToInteger := by
  have htoo {k : Number} (hk : k.isFinite = true) {e : Fault} (he : k.toBinary64 = .error e) :
      e = .numberTooLarge := by
    cases k with
    | int i =>
      obtain ⟨-, x, hok⟩ | ⟨-, herror⟩ := Number.intToBinary64_cases i
      · cases he.symm.trans hok
      · cases he.symm.trans herror
        rfl
    | float y => cases he
  rw [ofDocuments_number] at h
  cases hx : m.toBinary64 with
  | error e =>
    rw [hx] at h
    cases h
    exact .inl (htoo hm hx)
  | ok x =>
    cases hy : n.toBinary64 with
    | error e =>
      rw [hx, hy] at h
      cases h
      exact .inl (htoo hn hy)
    | ok y =>
      rw [hx, hy] at h
      change between x y = .error fault at h
      by_cases hbounded : Bounded x y
      · obtain ⟨t, ht⟩ := (between_ok_iff x y).2 hbounded
        cases h.symm.trans ht
      · rw [between_error (Number.toBinary64_finite hm hx) (Number.toBinary64_finite hn hy) hbounded] at h
        cases h
        exact .inr rfl

/-- Two finite numbers have a trend just if both become figures and the change makes up no more than the
largest share of the previous one; there is no other reason to give none. A figure that is shown with its
trend is shown on the same condition. -/
theorem given_iff_bounded (m n : Number) :
    (m.isFinite = true → n.isFinite = true →
      ((∃ t, ofDocuments (.number m) (.number n) = .ok t) ↔
        ∃ x y, m.toBinary64 = .ok x ∧ n.toBinary64 = .ok y ∧ Bounded x y) ∧
      ∀ fault, ofDocuments (.number m) (.number n) = .error fault →
        fault = .numberTooLarge ∨ fault = .infinityToInteger) ∧
    ∀ (s : Store) (value : AggregateQuery) (q : TrendQueries) (days : Quantity) (v x y : Binary64),
      s.aggregate value = .ok v → s.aggregate q.current = .ok x → s.aggregate q.previous = .ok y →
      ((∃ data, Data.ofPlan s (.kpi value (some q) days) = .ok data) ↔ Bounded x y) := by
  refine ⟨fun hm hn => ⟨ofDocuments_ok_iff m n, fun fault h => ofDocuments_error hm hn h⟩, ?_⟩
  intro s value q days v x y hv hx hy
  have hdata : Data.ofPlan s (.kpi value (some q) days)
      = between x y >>= fun t => .ok (Data.kpi v (some t)) := by
    simp only [Data.ofPlan, hv, hx, hy]
    rfl
  rw [hdata, bind_ok_iff, ← between_ok_iff]
  exact exists_congr fun t => and_iff_left ⟨_, rfl⟩

def seamWeeks : TrendQueries :=
  .windows (weeklyQuery .count none none) (noon.wall - 2 * week) (noon.wall - week) noon.wall

theorem seamWeeks_given :
    (∃ t, ofDocuments (.number (.int 4)) (.number (.float (ofInt 3))) = .ok t) ∧
    (dealStore seamDeals).aggregate seamWeeks.current = .ok (ofInt 2) ∧
    (dealStore seamDeals).aggregate seamWeeks.previous = .ok (ofInt 2) ∧
    ∃ data, Data.ofPlan (dealStore seamDeals)
      (.kpi (weeklyQuery .count none none) (some seamWeeks) (.ofInt 7))
      = .ok data := by
  have hcount (q : AggregateQuery) (hq : q.metric = .count) (hplain : q.predicate.filters = []) :
      (dealStore seamDeals).aggregate q =
        .ok (ofInt ((dealStore seamDeals).matching q.predicate).length) := by
    obtain ⟨x, hx⟩ := (Store.aggregate_count_iff hq).2 (select_dealStore seamDeals hplain)
    rwa [Store.aggregate_count_ok hq hx] at hx
  have hcurrent := hcount seamWeeks.current rfl rfl
  have hprevious := hcount seamWeeks.previous rfl rfl
  have hfour : Number.toBinary64 (.int 4) = .ok (ofInt 4) :=
    Number.intToBinary64_ok (lt_integerLimit_of_exact (by decide))
  obtain ⟨hgiven, hdata⟩ := given_iff_bounded (.int 4) (.float (ofInt 3))
  refine ⟨?_, hcurrent, hprevious, ?_⟩
  · exact (hgiven rfl (by decide +kernel)).1.2 ⟨_, _, hfour, rfl, by decide +kernel⟩
  · exact (hdata _ _ _ _ _ _ _ (hcount (weeklyQuery .count none none) rfl rfl) hcurrent hprevious).2
      (by decide +kernel)

/-- From one to `10 ^ 305` the change is `10 ^ 307` percent, which is a finite number; and still it has no
trend. -/
theorem steep_not_given : ¬ ∀ m n : Number, m.isFinite = true → n.isFinite = true →
    ∃ t, ofDocuments (.number m) (.number n) = .ok t := by
  intro hall
  have hsteep : ¬ Bounded (ofInt (10 ^ 305)) (ofInt 1) := by decide +kernel
  exact hsteep ((ofDocuments_floats_iff _ _).1 (hall _ _ (by decide +kernel) (by decide +kernel)))

end Trend

end RecordDesk
