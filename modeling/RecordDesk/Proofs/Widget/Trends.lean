import RecordDesk.Proofs.Store.Figures
import RecordDesk.Proofs.Widget.Pages
set_option autoImplicit false

/-!
Trends. The two windows of a trend divide the span that they cover: a record that was made at the moment
between them counts for the later one. So the figures of the windows add up to that of the span, where they
are whole numbers.
-/

namespace RecordDesk

open Widget

/-- Two figures and the figure of both together. Up to 53 bits whole numbers are exact, and then the figures
add up. -/
structure Tally (m n : Int) (c d w : Binary64) : Prop where
  current : c = Binary64.ofInt m
  previous : d = Binary64.ofInt n
  whole : w = Binary64.ofInt (m + n)
  sum : m.natAbs ≤ 2 ^ 53 → n.natAbs ≤ 2 ^ 53 → (m + n).natAbs ≤ 2 ^ 53 → c + d = w

theorem Tally.of_eq {m n k : Int} {c d w : Binary64} (hc : c = Binary64.ofInt m) (hd : d = Binary64.ofInt n)
    (hw : w = Binary64.ofInt k) (hk : k = m + n) : Tally m n c d w := by
  subst hk
  exact ⟨hc, hd, hw, fun hm hn hmn => by rw [hc, hd, hw, Binary64.ofInt_add hm hn hmn]⟩

namespace Widget

/-- The records of one predicate are divided between two others, which take no other records. -/
def Predicate.Divided (whole current previous : Predicate) : Prop :=
  ∀ r, (whole.takes r = true ↔ current.takes r = true ∨ previous.takes r = true) ∧
    ¬ (current.takes r = true ∧ previous.takes r = true)

theorem inWindow_window {p : Predicate} {start stop : Moment} {inclusive : Bool} {created : Moment} :
    Store.inWindow (p.window start stop inclusive) created = true ↔
      start.wall ≤ created.wall ∧ if inclusive then created.wall ≤
        stop.wall else created.wall < stop.wall := by
  rw [Store.inWindow, Bool.and_eq_true]
  cases inclusive <;> simp [Predicate.window]

theorem Predicate.meets_window {p : Predicate} {start stop : Moment} {inclusive : Bool} {r : RecordRow} :
    (p.window start stop inclusive).Meets r ↔
      (p.tenantId.isText r.tenantId = true ∧ p.entityId.isText r.entityId = true) ∧
      start.wall ≤ r.createdAt.wall ∧
        if inclusive then r.createdAt.wall ≤ stop.wall else r.createdAt.wall < stop.wall := by
  rw [Meets, inWindow_window, ← and_assoc]
  rfl

def AggregateQuery.during (q : AggregateQuery) (first last : Int) : AggregateQuery :=
  { q with predicate := q.predicate.window ⟨first, some 0⟩ ⟨last, some 0⟩ true }

def AggregateQuery.before (q : AggregateQuery) (first last : Int) : AggregateQuery :=
  { q with predicate := q.predicate.window ⟨first, some 0⟩ ⟨last, some 0⟩ false }

namespace TrendQueries

/-- Two queries that ask for the figure of a third, one up to the instant in the middle and one from it
on. -/
structure Splits (q : TrendQueries) (value : AggregateQuery) (first middle last : Int) : Prop where
  scope : Plan.SameScope q.current.predicate value.predicate ∧
    Plan.SameScope q.previous.predicate value.predicate
  figure : q.current = { value with predicate := q.current.predicate } ∧
    q.previous = { value with predicate := q.previous.predicate }
  current : ∀ r, q.current.predicate.takes r = true ↔
    value.predicate.Concerns r ∧ middle ≤ r.createdAt.wall ∧ r.createdAt.wall ≤ last
  previous : ∀ r, q.previous.predicate.takes r = true ↔
    value.predicate.Concerns r ∧ first ≤ r.createdAt.wall ∧ r.createdAt.wall < middle
  divided : (value.during first last).predicate.Divided q.current.predicate q.previous.predicate

/-- What a store reports of two windows and of the span that they divide. -/
structure AddsUp (q : TrendQueries) (whole : AggregateQuery) (s : Store) : Prop where
  records : (s.matching whole.predicate).Perm
    (s.matching q.current.predicate ++ s.matching q.previous.predicate)
  answered : whole.metric = .count ∨ whole.metric = .sum ∧ s.Integral whole ∧ Store.Fits (s.integers whole) →
    ((∃ w, s.aggregate whole = .ok w) ↔ (∃ c, s.aggregate q.current = .ok c) ∧ ∃ d,
      s.aggregate q.previous = .ok d)
  counts : whole.metric = .count → ∀ c d w, s.aggregate q.current = .ok c → s.aggregate q.previous = .ok d →
    s.aggregate whole = .ok w →
    Tally (s.matching q.current.predicate).length (s.matching q.previous.predicate).length c d w
  sums : whole.metric = .sum → s.Integral whole → ∀ c d w, s.aggregate q.current = .ok c →
    s.aggregate q.previous = .ok d → s.aggregate whole = .ok w →
    Tally (s.integers q.current).sum (s.integers q.previous).sum c d w

def windows (value : AggregateQuery) (first middle last : Int) : TrendQueries :=
  ⟨value.during middle last, value.before first middle⟩

end TrendQueries

end Widget

namespace Store

variable {s : Store} {whole current previous : Predicate}

theorem matching_divided (h : whole.Divided current previous) (s : Store) :
    (s.matching whole).Perm (s.matching current ++ s.matching previous) := by
  unfold matching
  induction s.records.rows.getD [] with
  | nil => exact .refl _
  | cons r rest ih =>
    obtain ⟨hwhole, honce⟩ := h r
    by_cases hc : current.takes r = true
    · have hp : ¬ previous.takes r = true := fun hp => honce ⟨hc, hp⟩
      rw [List.filter_cons_of_pos (hwhole.2 (.inl hc)), List.filter_cons_of_pos hc,
        List.filter_cons_of_neg hp]
      exact ih.cons r
    · by_cases hp : previous.takes r = true
      · rw [List.filter_cons_of_pos (hwhole.2 (.inr hp)), List.filter_cons_of_neg hc,
          List.filter_cons_of_pos hp]
        exact (ih.cons r).trans List.perm_middle.symm
      · have hw : ¬ whole.takes r = true := fun hw => (hwhole.1 hw).elim hc hp
        rw [List.filter_cons_of_neg hw, List.filter_cons_of_neg hc, List.filter_cons_of_neg hp]
        exact ih

theorem aggregate_count_ok {q : AggregateQuery} (hq : q.metric = .count) {x : Binary64}
    (h : s.aggregate q = .ok x) : x = Binary64.ofInt (s.matching q.predicate).length := by
  obtain ⟨rows, hrows, -⟩ := ok_of_bind h
  rw [aggregate_count hq hrows, (select_perm hrows).length_eq] at h
  exact (Except.ok.inj h).symm

theorem aggregate_count_iff {q : AggregateQuery} (hq : q.metric = .count) :
    (∃ x, s.aggregate q = .ok x) ↔ ∃ rows, s.select q.predicate = .ok rows := by
  constructor
  · rintro ⟨x, h⟩
    obtain ⟨rows, hrows, -⟩ := ok_of_bind h
    exact ⟨rows, hrows⟩
  · rintro ⟨rows, hrows⟩
    exact ⟨_, aggregate_count hq hrows⟩

end Store

namespace Widget.TrendQueries

variable {value : AggregateQuery} {first middle last : Int} {s : Store}

theorem windows_split (hfirst : first ≤ middle) (hlast : middle ≤ last) :
    (windows value first middle last).Splits value first middle last := by
  have htakes (r : RecordRow) : (value.during first last).predicate.takes r = true ↔
      value.predicate.Concerns r ∧ first ≤ r.createdAt.wall ∧ r.createdAt.wall ≤ last := by
    rw [Predicate.takes_iff_concerns, AggregateQuery.during, inWindow_window]
    rfl
  have hcurrent (r : RecordRow) : (value.during middle last).predicate.takes r = true ↔
      value.predicate.Concerns r ∧ middle ≤ r.createdAt.wall ∧ r.createdAt.wall ≤ last := by
    rw [Predicate.takes_iff_concerns, AggregateQuery.during, inWindow_window]
    rfl
  have hprevious (r : RecordRow) : (value.before first middle).predicate.takes r = true ↔
      value.predicate.Concerns r ∧ first ≤ r.createdAt.wall ∧ r.createdAt.wall < middle := by
    rw [Predicate.takes_iff_concerns, AggregateQuery.before, inWindow_window]
    rfl
  refine ⟨⟨.window _ _ _ _, .window _ _ _ _⟩, ⟨rfl, rfl⟩, hcurrent, hprevious, fun r => ?_⟩
  have hseam := lt_or_ge r.createdAt.wall middle
  change (_ ↔ (value.during middle last).predicate.takes r = true ∨
      (value.before first middle).predicate.takes r = true) ∧
    ¬ ((value.during middle last).predicate.takes r = true ∧
      (value.before first middle).predicate.takes r = true)
  rw [htakes, hcurrent, hprevious]
  constructor
  · constructor
    · rintro ⟨hr, hlow, hhigh⟩
      exact hseam.elim (fun h => .inr ⟨hr, hlow, h⟩) fun h => .inl ⟨hr, h, hhigh⟩
    · rintro (⟨hr, hlow, hhigh⟩ | ⟨hr, hlow, hhigh⟩)
      · exact ⟨hr, by omega, hhigh⟩
      · exact ⟨hr, hlow, by omega⟩
  · rintro ⟨⟨-, hlow, -⟩, -, -, hhigh⟩
    omega

theorem select_windows (hfirst : first ≤ middle) (hlast : middle ≤ last) :
    (∃ rows, s.select (value.during first last).predicate = .ok rows) ↔
      (∃ rows, s.select (value.during middle last).predicate = .ok rows) ∧
        ∃ rows, s.select (value.before first middle).predicate = .ok rows := by
  have hmeets (r : RecordRow) : (value.during first last).predicate.Meets r ↔
      (value.during middle last).predicate.Meets r ∨ (value.before first middle).predicate.Meets r := by
    simp only [AggregateQuery.during, AggregateQuery.before, Predicate.meets_window, ← and_or_left, if_true,
      Bool.false_eq_true, if_false]
    refine and_congr_right fun _ => ?_
    omega
  rw [Store.select_ok_iff, Store.select_ok_iff, Store.select_ok_iff]
  constructor
  · rintro ⟨all, hall, h⟩
    exact ⟨⟨all, hall, fun r hr hm => h r hr ((hmeets r).2 (.inl hm))⟩,
      ⟨all, hall, fun r hr hm => h r hr ((hmeets r).2 (.inr hm))⟩⟩
  · rintro ⟨⟨all, hall, hcurrent⟩, all', hall', hprevious⟩
    obtain rfl := Option.some.inj (hall.symm.trans hall')
    exact ⟨all, hall, fun r hr hm => ((hmeets r).1 hm).elim (hcurrent r hr) (hprevious r hr)⟩

theorem integers_windows (hfirst : first ≤ middle) (hlast : middle ≤ last) :
    (s.integers (value.during first last)).Perm
      (s.integers (value.during middle last) ++ s.integers (value.before first middle)) := by
  have hsplits : (windows value first middle last).Splits value first middle last :=
    windows_split hfirst hlast
  have hperm := (Store.matching_divided hsplits.divided s).filterMap (Store.integerOf value.targetField)
  rw [List.filterMap_append] at hperm
  exact hperm

theorem windows_addsUp (hfirst : first ≤ middle) (hlast : middle ≤ last) :
    (windows value first middle last).AddsUp (value.during first last) s := by
  have hsplits : (windows value first middle last).Splits value first middle last :=
    windows_split hfirst hlast
  have hrecords := Store.matching_divided hsplits.divided s
  have hmem (r : RecordRow) : r ∈ s.matching (value.during first last).predicate ↔
      r ∈ s.matching (value.during middle last).predicate ∨
      r ∈ s.matching (value.before first middle).predicate := by
    rw [hrecords.mem_iff, List.mem_append]
    rfl
  have hintegral (h : s.Integral (value.during first last)) :
      s.Integral (value.during middle last) ∧ s.Integral (value.before first middle) :=
    ⟨fun r hr => h r ((hmem r).2 (.inl hr)), fun r hr => h r ((hmem r).2 (.inr hr))⟩
  refine ⟨hrecords, ?_, ?_, ?_⟩
  · rintro (hcount | ⟨hsum, hint, hfits⟩)
    · have hcurrent : (value.during middle last).metric = .count := hcount
      have hprevious : (value.before first middle).metric = .count := hcount
      rw [Store.aggregate_count_iff hcount, select_windows hfirst hlast, windows,
        Store.aggregate_count_iff hcurrent, Store.aggregate_count_iff hprevious]
    · have hcurrent : (value.during middle last).metric = .sum := hsum
      have hprevious : (value.before first middle).metric = .sum := hsum
      obtain ⟨hintCurrent, hintPrevious⟩ := hintegral hint
      obtain ⟨hfitsCurrent, hfitsPrevious⟩ := Store.Fits.of_perm (integers_windows hfirst hlast) hfits
      rw [Store.aggregate_sum_iff hsum hint hfits, select_windows hfirst hlast, windows,
        Store.aggregate_sum_iff hcurrent hintCurrent hfitsCurrent,
        Store.aggregate_sum_iff hprevious hintPrevious hfitsPrevious]
      constructor
      · rintro ⟨⟨hselect, hselect'⟩, hmeasured⟩
        exact ⟨⟨hselect, fun r hr => hmeasured r ((hmem r).2 (.inl hr))⟩,
          ⟨hselect', fun r hr => hmeasured r ((hmem r).2 (.inr hr))⟩⟩
      · rintro ⟨⟨hselect, hmeasured⟩, hselect', hmeasured'⟩
        exact ⟨⟨hselect, hselect'⟩, fun r hr => ((hmem r).1 hr).elim (hmeasured r) (hmeasured' r)⟩
  · intro hcount c d w hc hd hw
    have hcurrent : (value.during middle last).metric = .count := hcount
    have hprevious : (value.before first middle).metric = .count := hcount
    refine .of_eq (Store.aggregate_count_ok hcurrent hc) (Store.aggregate_count_ok hprevious hd)
      (Store.aggregate_count_ok hcount hw) ?_
    rw [hrecords.length_eq, List.length_append, Int.natCast_add]
  · intro hsum hint c d w hc hd hw
    have hcurrent : (value.during middle last).metric = .sum := hsum
    have hprevious : (value.before first middle).metric = .sum := hsum
    obtain ⟨hintCurrent, hintPrevious⟩ := hintegral hint
    refine .of_eq (Store.aggregate_sum hcurrent hintCurrent hc)
      (Store.aggregate_sum hprevious hintPrevious hd)
      (Store.aggregate_sum hsum hint hw) ?_
    rw [(integers_windows hfirst hlast).sum_eq, List.sum_append]
    rfl

end Widget.TrendQueries

namespace Widget

def Spec.withTrend (spec : Spec) (days : Int) : Spec :=
  { spec with showTrend := true, trendPeriodDays := days }

def Spec.withoutTrend (spec : Spec) : Spec := { spec with showTrend := false }

/-- An instant that is not outside the date range of a specification. -/
def Spec.Covers (spec : Spec) (instant : Int) : Prop :=
  ∀ range, spec.dateRange = some range →
    (∀ m, range.start = some m → m.instant ≤ instant) ∧ ∀ m, range.stop = some m → instant ≤ m.instant

namespace Plan

variable {fields : List FieldMeta} {spec : Spec} {cap : Int} {now : Moment} {p : Predicate}

theorem utcOf?_eq {m m' : Option Moment} (h : utcOf? m = .ok m') : m' = m.map Moment.utc := by
  cases m with
  | none =>
    cases h
    rfl
  | some a =>
    change (some <$> asUtc a) = _ at h
    unfold asUtc at h
    split at h
    · cases h
      rfl
    · cases h

theorem dateRange_eq {range : DateRange} (h : dateRange spec.raw.dateRange = .ok range) :
    range = spec.dateRange.getD ⟨none, none⟩ := by
  cases hspec : spec.dateRange with
  | none =>
    rw [Spec.raw, hspec] at h
    cases h
    rfl
  | some r =>
    rw [Spec.raw, hspec] at h
    cases h
    rfl

theorem predicate_window {raw : RawSpec} (h : predicate fields raw = .ok p) :
    ∃ range, dateRange raw.dateRange = .ok range ∧
    p.start = range.start.map Moment.utc ∧ p.stop = range.stop.map Moment.utc ∧ p.stopInclusive = true := by
  obtain ⟨members, -, h⟩ := ok_of_bind h
  obtain ⟨filters, -, h⟩ := ok_of_bind h
  obtain ⟨range, hrange, h⟩ := ok_of_bind h
  obtain ⟨start, hstart, h⟩ := ok_of_bind h
  obtain ⟨stop, hstop, h⟩ := ok_of_bind h
  refine ⟨range, hrange, ?_⟩
  rw [← utcOf?_eq hstart, ← utcOf?_eq hstop]
  dsimp only at h
  split at h
  · split at h
    · obtain ⟨u, hu, -⟩ := ok_of_bind h
      cases hu
    · cases h
      exact ⟨rfl, rfl, rfl⟩
  · cases h
    exact ⟨rfl, rfl, rfl⟩

theorem predicate_covers (h : predicate fields spec.raw = .ok p) (r : RecordRow) :
    p.takes r = true ↔ p.Concerns r ∧ spec.Covers r.createdAt.wall := by
  obtain ⟨range, hrange, hstart, hstop, hinclusive⟩ := predicate_window h
  have hcovers : Store.inWindow p r.createdAt = true ↔
    (∀ m, range.start = some m → m.instant ≤ r.createdAt.wall) ∧
      ∀ m, range.stop = some m → r.createdAt.wall ≤ m.instant := by
    rw [Store.inWindow, hstart, hstop, hinclusive, Bool.and_eq_true]
    cases range.start <;> cases range.stop <;> simp [Moment.utc]
  rw [Predicate.takes_iff_concerns, hcovers, dateRange_eq hrange, Spec.Covers]
  cases spec.dateRange <;> simp

theorem trendQueries_windows {days : Int} (hlow : 1 ≤ days) (hhigh : days ≤ 365)
    (hnow : now.utc.inRange = true)
    (hroom : (now.utc.addMicroseconds (-(2 * (days * Moment.day)))).inRange = true) (value : AggregateQuery) :
    trendQueries value (.ofInt days) now = .ok (.windows value (now.instant - 2 * (days * Moment.day))
      (now.instant - days * Moment.day) now.instant) := by
  have hperiod : 0 ≤ days * Moment.day := Int.mul_nonneg (by omega) (by decide)
  have htwice : (now.utc.addMicroseconds (-(days * Moment.day))).addMicroseconds (-(days * Moment.day))
      = now.utc.addMicroseconds (-(2 * (days * Moment.day))) := by
    unfold Moment.addMicroseconds
    dsimp only
    congr 1
    omega
  -- One period back is checked too, but it lies between two that are in range.
  have hmiddle : (now.utc.addMicroseconds (-(days * Moment.day))).inRange = true :=
    inRange_between hnow hroom hperiod (by omega)
  have hutc : asUtc now = .ok now.utc := if_pos hnow
  have hback : now.utc.after (-(days * Moment.day)) = .ok (now.utc.addMicroseconds (-(days * Moment.day))) :=
    if_pos hmiddle
  have hbacker : (now.utc.addMicroseconds (-(days * Moment.day))).after (-(days * Moment.day))
      = .ok (now.utc.addMicroseconds (-(2 * (days * Moment.day)))) := by
    rw [Moment.after, htwice]
    exact if_pos hroom
  simp only [trendQueries, hutc, daysOf_ofInt hlow hhigh, hback, hbacker, bind, Except.bind]
  rfl

theorem eq_windows {days : Int} (hlow : 1 ≤ days) (hhigh : days ≤ 365) {value : AggregateQuery}
    {q : TrendQueries} (h : trendQueries value (.ofInt days) now = .ok q) :
    q = .windows value (now.instant - 2 * (days * Moment.day))
      (now.instant - days * Moment.day) now.instant := by
  obtain ⟨now', hnow, h⟩ := ok_of_bind h
  obtain ⟨period, hperiod, h⟩ := ok_of_bind h
  obtain ⟨middle, hmiddle, h⟩ := ok_of_bind h
  obtain ⟨first, hfirst, h⟩ := ok_of_bind h
  rw [daysOf_ofInt hlow hhigh] at hperiod
  cases hperiod
  unfold asUtc at hnow
  split at hnow
  · cases hnow
    unfold Moment.after at hmiddle hfirst
    dsimp only at hmiddle hfirst
    split at hmiddle
    · cases hmiddle
      split at hfirst
      · cases hfirst
        cases h
        have htwice : now.instant + -(days * Moment.day) + -(days * Moment.day)
            = now.instant - 2 * (days * Moment.day) := by omega
        simp only [TrendQueries.windows, AggregateQuery.during, AggregateQuery.before, Moment.addMicroseconds,
          Moment.utc, htwice, Int.sub_eq_add_neg]
      · cases hfirst
    · cases hmiddle
  · cases hnow

section

variable {raw : RawSpec} {metric : Metric} {order : SortOrder} {value : AggregateQuery}
  {trend : Option TrendQueries} {days : Quantity}

theorem kind_ofTable {plan : Plan} (h : ofTable fields raw order p cap = .ok plan) : plan.kind = .table := by
  obtain ⟨items, -, h⟩ := ok_of_bind h
  obtain ⟨columns, -, h⟩ := ok_of_bind h
  obtain ⟨page, -, h⟩ := ok_of_bind h
  obtain ⟨asked, -, h⟩ := ok_of_bind h
  obtain ⟨size, -, h⟩ := ok_of_bind h
  obtain ⟨offset, -, h⟩ := ok_of_bind h
  obtain ⟨sortBy, -, h⟩ := ok_of_bind h
  cases h
  rfl

theorem ofRaw_kpi (h : ofRaw fields raw cap now = .ok (.kpi value trend days)) : ∃ metric order p,
    named? WidgetKind.ofName? raw.widgetType = some .kpi ∧
    named? Metric.ofName? raw.metricType = some metric ∧
      named? SortOrder.ofName? raw.sortOrder = some order ∧ predicate fields raw = .ok p ∧
      ofKpi fields raw metric p now = .ok (.kpi value trend days) := by
  unfold ofRaw at h
  split at h
  · cases h
  · rename_i kind hkind
    split at h
    · cases h
    · rename_i metric hmetric
      split at h
      · cases h
      · rename_i order horder
        obtain ⟨p, hp, h⟩ := ok_of_bind h
        cases kind with
        | kpi => exact ⟨metric, order, p, hkind, hmetric, horder, hp, h⟩
        | chart k => cases kind_ofChart h
        | table => cases kind_ofTable h
        | list => cases kind_ofList h

theorem ofKpi_without (h : ofKpi fields spec.withoutTrend.raw metric p now = .ok (.kpi value trend days)) :
    ∃ target, metricTarget fields spec.raw metric = .ok target ∧
    value = ⟨p, metric, target, none, none, .desc⟩ := by
  obtain ⟨target, htarget, h⟩ := ok_of_bind h
  cases h
  exact ⟨target, htarget, rfl⟩

theorem ofKpi_trend {q : TrendQueries}
    (h : ofKpi fields spec.raw metric p now = .ok (.kpi value (some q) days)) :
    1 ≤ spec.trendPeriodDays ∧ spec.trendPeriodDays ≤ 365 ∧ value.predicate = p ∧
      trendQueries value (.ofInt spec.trendPeriodDays) now = .ok q := by
  obtain ⟨target, htarget, h⟩ := ok_of_bind h
  dsimp only at h
  split at h
  · obtain ⟨days, hdays, h⟩ := ok_of_bind h
    obtain ⟨hlow, hhigh, rfl⟩ := inRange_ok hdays
    obtain ⟨q, hq, h⟩ := ok_of_bind h
    cases h
    exact ⟨hlow, hhigh, rfl, hq⟩
  · cases h

/-- What is planned without a trend is planned with one, and the figure is that of the same query. -/
theorem ofSpec_withTrend {n : Int} (hlow : 1 ≤ n) (hhigh : n ≤ 365) (hnow : now.utc.inRange = true)
    (hroom : (now.utc.addMicroseconds (-(2 * (n * Moment.day)))).inRange = true)
    (h : ofSpec fields spec.withoutTrend cap now = .ok (.kpi value trend days)) :
    ofSpec fields (spec.withTrend n) cap now = .ok (.kpi value (some (.windows value
      (now.instant - 2 * (n * Moment.day)) (now.instant - n * Moment.day) now.instant)) (.ofInt n)) := by
  obtain ⟨metric, order, p, hkind, hmetric, horder, hp, h⟩ := ofRaw_kpi h
  obtain ⟨target, htarget, rfl⟩ := ofKpi_without h
  -- The trend is read by nothing but the last step.
  have hkind' : named? WidgetKind.ofName? (spec.withTrend n).raw.widgetType = some .kpi := hkind
  have hmetric' : named? Metric.ofName? (spec.withTrend n).raw.metricType = some metric := hmetric
  have horder' : named? SortOrder.ofName? (spec.withTrend n).raw.sortOrder = some order := horder
  have hp' : predicate fields (spec.withTrend n).raw = .ok p := hp
  have htarget' : metricTarget fields (spec.withTrend n).raw metric = .ok target := htarget
  have hshow : (spec.withTrend n).raw.showTrend.isTruthy = true := rfl
  have hdays : inRange "trend_period_days" 1 365 (spec.withTrend n).raw.trendPeriodDays = .ok (.ofInt n) :=
    (inRange_ofInt "trend_period_days" 1 365 n).trans (if_pos ⟨hlow, hhigh⟩)
  unfold ofSpec ofRaw
  simp only [hkind', hmetric', horder', hp', bind, Except.bind, ofKpi, htarget', hshow, if_true, hdays,
    trendQueries_windows hlow hhigh hnow hroom]
  rfl

end

/-- A trend is planned for every period of up to a year that the calendar has room for. Its windows divide
the span of both, whatever date range the figure is for; and what they count, and the integers that they sum
up, are together what the span has. -/
theorem trend_splits (fields : List FieldMeta) (cap : Int) (now : Moment) :
    (∀ spec value days n, ofSpec fields (Spec.withoutTrend spec) cap now = .ok (.kpi value none days) →
      1 ≤ n → n ≤ 365 → now.utc.inRange = true →
      (now.utc.addMicroseconds (-(2 * (n * Moment.day)))).inRange = true →
      ∃ q, ofSpec fields (spec.withTrend n) cap now = .ok (.kpi value (some q) (.ofInt n))) ∧
    ∀ (spec : Spec) value q days, ofSpec fields spec cap now = .ok (.kpi value (some q) days) →
      (∀ r, value.predicate.takes r = true ↔ value.predicate.Concerns r ∧ spec.Covers r.createdAt.wall) ∧
      q.Splits value (now.instant - 2 * (spec.trendPeriodDays * Moment.day))
        (now.instant - spec.trendPeriodDays * Moment.day) now.instant ∧
      ∀ s, q.AddsUp (value.during (now.instant - 2 * (spec.trendPeriodDays * Moment.day)) now.instant) s := by
  refine ⟨fun spec value days n h hlow hhigh hnow hroom => ⟨_, ofSpec_withTrend hlow hhigh hnow hroom h⟩,
    fun spec value q days h => ?_⟩
  obtain ⟨metric, order, p, -, -, -, hp, h⟩ := ofRaw_kpi h
  obtain ⟨hlow, hhigh, rfl, hq⟩ := ofKpi_trend h
  obtain rfl := eq_windows hlow hhigh hq
  have hperiod : 0 ≤ spec.trendPeriodDays * Moment.day := Int.mul_nonneg (by omega) (by decide)
  have hfirst : now.instant - 2 * (spec.trendPeriodDays * Moment.day)
      ≤ now.instant - spec.trendPeriodDays * Moment.day := by omega
  have hlast : now.instant - spec.trendPeriodDays * Moment.day ≤ now.instant := by omega
  exact ⟨predicate_covers hp, TrendQueries.windows_split hfirst hlast,
    fun s => TrendQueries.windows_addsUp hfirst hlast⟩

end Plan

def weekly (metric : Metric) (target : Option String) (since : Option Moment) : Spec where
  tenantId := "t"
  entityId := "e"
  widgetType := "kpi"
  metricType := metric.name
  targetField := target
  groupBy := none
  filters := []
  dateRange := some ⟨since, none⟩
  limit := none
  sortOrder := "desc"
  sortBy := none
  paging := none
  showTrend := true
  trendPeriodDays := 7
  columns := []
  titleField := none
  subtitleField := none

def weeklyQuery (metric : Metric) (target : Option String) (since : Option Moment) : AggregateQuery :=
  ⟨⟨.text "t", .text "e", [], since, none, true⟩, metric, target, none, none, .desc⟩

def dealBefore (id : String) (amount span : Int) : RecordRow :=
  ⟨id, "t", "e", .object [("amount", .ofInt amount)], none, ⟨noon.wall - span, none⟩, none⟩

def dealStore (deals : List RecordRow) : Store := { records := ⟨"entity_records", some deals⟩ }

def week : Int := 7 * Moment.day

theorem weekly_planned (metric : Metric) (target : Option String) (since : Option Moment)
    (h : Plan.ofSpec dealFields (weekly metric target since).withoutTrend 100 noon
      = .ok (.kpi (weeklyQuery metric target since) none (.ofInt 7))) :
    Plan.ofSpec dealFields ((weekly metric target since).withTrend 7) 100 noon = .ok (.kpi
      (weeklyQuery metric target since)
      (some (.windows (weeklyQuery metric target since) (noon.wall - 2 * week) (noon.wall - week) noon.wall))
      (.ofInt 7)) :=
  Plan.ofSpec_withTrend (by decide) (by decide) (by decide) (by decide) h

theorem select_dealStore (deals : List RecordRow) {p : Predicate} (hp : p.filters = []) :
    ∃ rows, (dealStore deals).select p = .ok rows :=
  Store.select_ok_iff.2 ⟨deals, rfl, fun r _ _ => ⟨true, by rw [hp]; rfl⟩⟩

/-- Deals at both ends of each week and a microsecond outside: those at the seam belong to one week each. -/
def seamDeals : List RecordRow :=
  [dealBefore "late" 1 (-1), dealBefore "now" 1 0, dealBefore "seam" 1 week, dealBefore "past" 1 (week + 1),
    dealBefore "first" 1 (2 * week), dealBefore "early" 1 (2 * week + 1)]

theorem seam_counted_once :
    ∃ value q, Plan.ofSpec dealFields ((weekly .count none (some noon)).withTrend 7) 100 noon
      = .ok (.kpi value (some q) (.ofInt 7)) ∧
      q.Splits value (noon.wall - 2 * week) (noon.wall - week) noon.wall ∧
    ∃ c d w, (dealStore seamDeals).aggregate q.current = .ok c ∧
    (dealStore seamDeals).aggregate q.previous = .ok d ∧
      (dealStore seamDeals).aggregate (value.during (noon.wall - 2 * week) noon.wall) = .ok w ∧
      Tally 2 2 c d w ∧ c + d = w := by
  -- A date range that only the first two deals fit.
  have hplain : Plan.ofSpec dealFields (weekly .count none (some noon)).withoutTrend 100 noon
      = .ok (.kpi (weeklyQuery .count none (some noon)) none (.ofInt 7)) := rfl
  obtain ⟨q, hq⟩ := (Plan.trend_splits dealFields 100 noon).1 _ _ _ 7 hplain (by decide)
    (by decide) (by decide) (by decide)
  obtain ⟨-, hsplits, hadds⟩ := (Plan.trend_splits dealFields 100 noon).2 _ _ q _ hq
  cases (weekly_planned _ _ _ hplain).symm.trans hq
  obtain ⟨w, hw⟩ := (Store.aggregate_count_iff
    (q := (weeklyQuery .count none (some noon)).during (noon.wall - 2 * week)
    noon.wall) rfl).2 (select_dealStore seamDeals rfl)
  obtain ⟨⟨c, hc⟩, d, hd⟩ := ((hadds (dealStore seamDeals)).answered (.inl rfl)).1 ⟨w, hw⟩
  have htally : Tally 2 2 c d w := (hadds (dealStore seamDeals)).counts rfl c d w hc hd hw
  exact ⟨_, _, hq, hsplits, c, d, w, hc, hd, hw, htally, htally.sum (by decide) (by decide) (by decide)⟩

def wideDeals : List RecordRow :=
  [dealBefore "wide" 9007199254740993 Moment.day, dealBefore "one" 1 (8 * Moment.day)]

def amounts : AggregateQuery := weeklyQuery .sum (some "amount") none

theorem measured_wideDeals : ∀ r ∈ wideDeals, ∃ i, Store.measureOf (some "amount") r =
    .ok (.number (.int i)) := by
  simp only [wideDeals, List.forall_mem_cons]
  exact ⟨⟨9007199254740993, rfl⟩, ⟨1, rfl⟩, fun _ h => (List.not_mem_nil h).elim⟩

theorem mem_wideDeals {p : Predicate} {r : RecordRow} (h : r ∈ (dealStore wideDeals).matching p) :
    r ∈ wideDeals :=
  List.mem_of_mem_filter h

/-- The first integer that is no binary64 number is reported as its neighbour, and with one more the sum is
off by two. -/
theorem wide_sums_drift : ¬ ∀ (fields : List FieldMeta) (cap : Int) (spec : Spec) (now : Moment)
    (value : AggregateQuery) (q : TrendQueries) (days : Quantity) (s : Store) (c d w : Binary64),
    Plan.ofSpec fields spec cap now = .ok (.kpi value (some q) days) →
    s.Integral (value.during (now.instant - 2 * (spec.trendPeriodDays * Moment.day)) now.instant) →
    s.aggregate q.current = .ok c → s.aggregate q.previous = .ok d →
    s.aggregate (value.during (now.instant - 2 * (spec.trendPeriodDays * Moment.day)) now.instant) = .ok w →
    c + d = w := by
  intro hall
  have hlow : noon.wall - 2 * week ≤ noon.wall - week := by decide
  have hhigh : noon.wall - week ≤ noon.wall := by decide
  have hadds : (TrendQueries.windows amounts (noon.wall - 2 * week) (noon.wall - week) noon.wall).AddsUp
      (amounts.during (noon.wall - 2 * week) noon.wall) (dealStore wideDeals) :=
      TrendQueries.windows_addsUp hlow hhigh
  have hint : (dealStore wideDeals).Integral (amounts.during (noon.wall - 2 * week) noon.wall) := by
    intro r hr c hc n hn
    obtain ⟨i, hi⟩ := measured_wideDeals r (mem_wideDeals hr)
    cases hi.symm.trans hc
    exact ⟨i, Cell.number.inj hn.symm⟩
  have hfits : Store.Fits ((dealStore wideDeals).integers
      (amounts.during (noon.wall - 2 * week) noon.wall)) := by
    decide
  have hsum : (amounts.during (noon.wall - 2 * week) noon.wall).metric = .sum := rfl
  have hmeasured : ∀ r ∈ (dealStore wideDeals).matching
    (amounts.during (noon.wall - 2 * week) noon.wall).predicate,
      ∃ c, Store.measureOf (some "amount") r = .ok c := fun r hr =>
    (measured_wideDeals r (mem_wideDeals hr)).imp' _ fun i hi => hi
  obtain ⟨w, hw⟩ := (Store.aggregate_sum_iff hsum hint hfits).2 ⟨select_dealStore wideDeals rfl, hmeasured⟩
  obtain ⟨⟨c, hc⟩, d, hd⟩ := (hadds.answered (.inr ⟨hsum, hint, hfits⟩)).1 ⟨w, hw⟩
  have htally := hadds.sums hsum hint c d w hc hd hw
  have hplan := weekly_planned .sum (some "amount") none rfl
  have hdrift := hall dealFields 100 _ noon _ _ _ (dealStore wideDeals) c d w hplan hint hc hd hw
  have hcurrent : ((dealStore wideDeals).integers (amounts.during (noon.wall - week) noon.wall)).sum
      = 9007199254740993 := by decide
  have hprevious : ((dealStore wideDeals).integers
    (amounts.before (noon.wall - 2 * week) (noon.wall - week))).sum
      = 1 := by decide
  have hoff : Binary64.ofInt 9007199254740993 + Binary64.ofInt 1 ≠ Binary64.ofInt (9007199254740993 + 1) := by
    decide +kernel
  refine hoff ?_
  rw [← hcurrent, ← hprevious]
  exact (congrArg₂ (· + ·) htally.current htally.previous).symm.trans (hdrift.trans htally.whole)

end Widget

end RecordDesk
