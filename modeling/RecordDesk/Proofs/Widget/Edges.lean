import RecordDesk.Proofs.Widget.Accepted
import RecordDesk.Proofs.Widget.Trends
set_option autoImplicit false

/-!
The edges of the calendar. A moment with an offset may lie inside the calendar on its own clock and outside
of it in universal time; where one has to be reckoned, planning fails, and this is no refusal. Nothing else
makes it fail so.
-/

namespace RecordDesk.Widget

namespace Plan

variable {fields : List FieldMeta} {spec : Spec} {cap : Int} {now : Moment}

/-- Everything that is looked at before the date range is in order, and the range has an end outside the
calendar. -/
structure DatesEscape (fields : List FieldMeta) (spec : Spec) : Prop where
  kind : ∃ kind, WidgetKind.ofName? spec.widgetType = some kind
  metric : ∃ metric, Metric.ofName? spec.metricType = some metric
  order : ∃ order, SortOrder.ofName? spec.sortOrder = some order
  filters : ∃ found, spec.filters.mapM (filter fields) = .ok found
  range : ¬ Reckonable spec

/-- A figure that is planned without its trend, and a trend that ends at a clock outside the calendar. -/
structure ClockEscapes (fields : List FieldMeta) (spec : Spec) (cap : Int) (now : Moment) : Prop where
  kind : WidgetKind.ofName? spec.widgetType = some .kpi
  planned : ∃ plan, ofSpec fields spec.withoutTrend cap now = .ok plan
  trend : spec.showTrend = true
  days : 1 ≤ spec.trendPeriodDays ∧ spec.trendPeriodDays ≤ 365
  clock : now.utc.inRange = false

def secondYearEnd : Int := (Date.first.day + 730) * Moment.day

theorem clocked_of_inRange (hclock : secondYearEnd ≤ now.instant) (hnow : now.utc.inRange = true) :
    Clocked now := by
  refine ⟨hnow, ?_⟩
  have hday : Moment.day = 86400000000 := rfl
  have hroom : (Date.first.day + 730) * 86400000000 ≤ now.instant := hclock
  simp only [Moment.inRange, Moment.addMicroseconds, Moment.date, Moment.utc, Bool.and_eq_true,
    decide_eq_true_eq, hday,
    Int.fdiv_eq_ediv_of_nonneg _ (show (0 : Int) ≤ 86400000000 by decide)] at hnow ⊢
  omega

theorem utcOf?_escapes {m : Option Moment} (h : ¬ ∀ a, m = some a → a.utc.inRange = true) :
    utcOf? m = .error .dateOutOfRange := by
  cases m with
  | none => exact absurd (fun _ ha => by cases ha) h
  | some a =>
    have ha : a.utc.inRange ≠ true := fun ha => h fun b hb => by cases hb; exact ha
    change (some <$> asUtc a) = _
    rw [asUtc, if_neg ha]
    rfl

theorem predicate_escapes {found : List (Option Filter)}
    (hfilters : spec.filters.mapM (filter fields) = .ok found)
    (hr : ¬ Reckonable spec) : predicate fields spec.raw = .error .dateOutOfRange := by
  cases hspec : spec.dateRange with
  | none => exact absurd (fun r hr => by rw [hspec] at hr; cases hr) hr
  | some r =>
    have hmembers : spec.raw.filters.members? = .ok spec.filters := rfl
    have hrange : dateRange spec.raw.dateRange = .ok r := by rw [Spec.raw, hspec]; rfl
    simp only [predicate, hmembers, hfilters, hrange, bind, Except.bind]
    by_cases hstart : ∀ m, r.start = some m → m.utc.inRange = true
    · have hstop : ¬ ∀ m, r.stop = some m → m.utc.inRange = true := by
        intro hstop
        refine hr fun r' hr' => ?_
        rw [hspec] at hr'
        cases hr'
        exact ⟨hstart, hstop⟩
      rw [utcOf?_ok hstart, utcOf?_escapes hstop]
    · rw [utcOf?_escapes hstart]

theorem predicate_refuses_unless (h : (∃ found, spec.filters.mapM (filter fields) = .ok found) →
    Reckonable spec) : OnlyRefuses (predicate fields spec.raw) := by
  cases hfilters : spec.filters.mapM (filter fields) with
  | ok found => exact predicate_refuses (h ⟨found, hfilters⟩)
  | error fault =>
    have hall : OnlyRefuses (spec.filters.mapM (filter fields)) := .mapM fun m _ => filter_refuses m
    rw [hfilters] at hall
    have hmembers : spec.raw.filters.members? = .ok spec.filters := rfl
    simp only [predicate, hmembers, hfilters, bind, Except.bind]
    exact fun fault' h' => hall fault' (by cases h'; rfl)

theorem figure_of_planned {plan : Plan} (hkind : WidgetKind.ofName? spec.widgetType = some .kpi)
    (h : ofSpec fields spec.withoutTrend cap now = .ok plan) : ∃ metric order p target,
      Metric.ofName? spec.metricType = some metric ∧ SortOrder.ofName? spec.sortOrder = some order ∧
      predicate fields spec.raw = .ok p ∧ metricTarget fields spec.raw metric = .ok target := by
  have hkind' : named? WidgetKind.ofName? spec.withoutTrend.raw.widgetType = some .kpi := hkind
  unfold ofSpec ofRaw at h
  rw [hkind'] at h
  dsimp only at h
  split at h
  · cases h
  · rename_i metric hmetric
    split at h
    · cases h
    · rename_i order horder
      obtain ⟨p, hp, h⟩ := ok_of_bind h
      obtain ⟨target, htarget, -⟩ := ok_of_bind h
      exact ⟨metric, order, p, target, hmetric, horder, hp, htarget⟩

theorem planned_of_figure {metric : Metric} {order : SortOrder} {p : Predicate} {target : Option String}
    (hkind : WidgetKind.ofName? spec.widgetType = some .kpi)
    (hmetric : Metric.ofName? spec.metricType = some metric)
    (horder : SortOrder.ofName? spec.sortOrder = some order) (hp : predicate fields spec.raw = .ok p)
    (htarget : metricTarget fields spec.raw metric = .ok target) :
    ∃ plan, ofSpec fields spec.withoutTrend cap now = .ok plan := by
  have hkind' : named? WidgetKind.ofName? spec.withoutTrend.raw.widgetType = some .kpi := hkind
  have hmetric' : named? Metric.ofName? spec.withoutTrend.raw.metricType = some metric := hmetric
  have horder' : named? SortOrder.ofName? spec.withoutTrend.raw.sortOrder = some order := horder
  have hp' : predicate fields spec.withoutTrend.raw = .ok p := hp
  have htarget' : metricTarget fields spec.withoutTrend.raw metric = .ok target := htarget
  simp only [ofSpec, ofRaw, hkind', hmetric', horder', hp', ofKpi, htarget', bind, Except.bind]
  exact ⟨_, rfl⟩

theorem ofSpec_escapes (h : DatesEscape fields spec ∨ ClockEscapes fields spec cap now) :
    ofSpec fields spec cap now = .error .dateOutOfRange := by
  rcases h with h | h
  · obtain ⟨kind, hkind⟩ := h.kind
    obtain ⟨metric, hmetric⟩ := h.metric
    obtain ⟨order, horder⟩ := h.order
    obtain ⟨found, hfilters⟩ := h.filters
    have hkind' : named? WidgetKind.ofName? spec.raw.widgetType = some kind := hkind
    have hmetric' : named? Metric.ofName? spec.raw.metricType = some metric := hmetric
    have horder' : named? SortOrder.ofName? spec.raw.sortOrder = some order := horder
    simp only [ofSpec, ofRaw, hkind', hmetric', horder', predicate_escapes hfilters h.range,
      bind, Except.bind]
  · obtain ⟨plan, hplan⟩ := h.planned
    obtain ⟨metric, order, p, target, hmetric, horder, hp, htarget⟩ := figure_of_planned h.kind hplan
    have hkind' : named? WidgetKind.ofName? spec.raw.widgetType = some .kpi := h.kind
    have hmetric' : named? Metric.ofName? spec.raw.metricType = some metric := hmetric
    have horder' : named? SortOrder.ofName? spec.raw.sortOrder = some order := horder
    have hshow : spec.raw.showTrend.isTruthy = true := h.trend
    have hdays : inRange "trend_period_days" 1 365 spec.raw.trendPeriodDays =
      .ok (.ofInt spec.trendPeriodDays) :=
      (inRange_ofInt "trend_period_days" 1 365 spec.trendPeriodDays).trans (if_pos h.days)
    have hnow : asUtc now = .error .dateOutOfRange := if_neg (by simp [h.clock])
    simp only [ofSpec, ofRaw, hkind', hmetric', horder', hp, ofKpi, htarget, hshow, if_true, hdays,
      trendQueries, hnow, bind, Except.bind]

theorem ofKpi_refuses_unless {metric : Metric} {p : Predicate}
    (h : spec.showTrend = true → 1 ≤ spec.trendPeriodDays ∧ spec.trendPeriodDays ≤ 365 →
      (∃ target, metricTarget fields spec.raw metric = .ok target) → Clocked now) :
    OnlyRefuses (ofKpi fields spec.raw metric p now) := by
  by_cases hnow : Clocked now
  · exact ofKpi_refuses hnow
  · refine .bind (metricTarget_refuses spec metric) fun target htarget => ?_
    dsimp only
    split
    · rename_i htrend
      refine .bind (inRange_refuses _ _ _ _) fun days hdays => ?_
      obtain ⟨hlow, hhigh, -⟩ := inRange_ok hdays
      exact absurd (h htrend ⟨hlow, hhigh⟩ ⟨target, htarget⟩) hnow
    · exact .ok _

theorem ofSpec_refuses_unless (hclock : secondYearEnd ≤ now.instant)
    (h : ¬ (DatesEscape fields spec ∨ ClockEscapes fields spec cap now)) :
    OnlyRefuses (ofSpec fields spec cap now) := by
  obtain ⟨hdates, hclocks⟩ := not_or.1 h
  unfold ofSpec ofRaw
  split
  · exact .refuse _
  · rename_i kind hkind
    split
    · exact .refuse _
    · rename_i metric hmetric
      split
      · exact .refuse _
      · rename_i order horder
        refine .bind (predicate_refuses_unless fun hfilters => ?_) fun p hp => ?_
        · by_contra hr
          exact hdates ⟨⟨kind, hkind⟩, ⟨metric, hmetric⟩, ⟨order, horder⟩, hfilters, hr⟩
        · split
          · refine ofKpi_refuses_unless fun htrend hdays htarget => ?_
            by_contra hnow
            obtain ⟨target, htarget⟩ := htarget
            refine hclocks ⟨hkind, ?_, htrend, hdays, ?_⟩
            · exact planned_of_figure hkind hmetric horder hp htarget
            · exact Bool.eq_false_iff.2 fun hin => hnow (clocked_of_inRange hclock hin)
          · exact ofChart_refuses _
          · exact ofTable_refuses cap
          · exact ofList_refuses

/-- A clock with two years of calendar behind it plans a specification or refuses it, unless a moment that
it has to reckon leaves the calendar in universal time: an end of the date range, once all that comes before
it is in order, or the clock itself for a trend. Then planning fails, and not by a refusal. -/
theorem planned_unless_escapes (fields : List FieldMeta) (spec : Spec) (cap : Int) (now : Moment)
    (hclock : secondYearEnd ≤ now.instant) :
    (((∃ plan, ofSpec fields spec cap now = .ok plan) ∨ ∃ cause,
      ofSpec fields spec cap now = .error (.query cause)) ↔
      ¬ (DatesEscape fields spec ∨ ClockEscapes fields spec cap now)) ∧
    (DatesEscape fields spec ∨ ClockEscapes fields spec cap now →
      ofSpec fields spec cap now = .error .dateOutOfRange) := by
  refine ⟨⟨fun hanswer hescapes => ?_, fun hinside => ?_⟩, ofSpec_escapes⟩
  · rw [ofSpec_escapes hescapes] at hanswer
    rcases hanswer with ⟨plan, h⟩ | ⟨cause, h⟩ <;> cases h
  · cases h : ofSpec fields spec cap now with
    | ok plan => exact .inl ⟨plan, rfl⟩
    | error fault =>
      obtain ⟨cause, rfl⟩ := ofSpec_refuses_unless hclock hinside fault h
      exact .inr ⟨cause, rfl⟩

end Plan

def lastSecond : Moment := ⟨253402300799000000, some (-3600000000)⟩

def dealsSince (m : Moment) : Spec := { dealList "amount" with dateRange := some ⟨some m, none⟩ }

theorem dealsSince_planned : Plan.secondYearEnd ≤ noon.instant ∧
    Plan.ofSpec dealFields (dealsSince lastSecond) 100 noon = .error .dateOutOfRange ∧
    ¬ (Plan.DatesEscape dealFields (dealsSince noon) ∨
      Plan.ClockEscapes dealFields (dealsSince noon) 100 noon) := by
  have hclock : Plan.secondYearEnd ≤ noon.instant := by decide
  refine ⟨hclock,
    (Plan.planned_unless_escapes dealFields (dealsSince lastSecond) 100 noon hclock).2 (.inl ?_),
    (Plan.planned_unless_escapes dealFields (dealsSince noon) 100 noon hclock).1.1 (.inl ⟨_, rfl⟩)⟩
  refine ⟨⟨_, rfl⟩, ⟨_, rfl⟩, ⟨_, rfl⟩, ⟨_, rfl⟩, fun hr => ?_⟩
  exact absurd ((hr _ rfl).1 lastSecond rfl) (by decide)

def sinceLastSecond : Document :=
  .object [("tenant_id", .text "t"), ("entity_id", .text "e"), ("widget_type", .text "kpi"),
    ("date_range", .object [("start", .text "9999-12-31T23:59:59-01:00"),
      ("end", .text "2024-01-01T00:00:00+00:00")])]

theorem last_second_lost : ¬ ∀ (fields : List FieldMeta) (spec : Spec) (cap : Int) (now : Moment),
    spec.Accepted → Plan.secondYearEnd ≤ now.instant →
      (∃ plan, Plan.ofSpec fields spec cap now = .ok plan) ∨
        ∃ cause, Plan.ofSpec fields spec cap now = .error (.query cause) := by
  intro hall
  obtain ⟨spec, hspec, hlost⟩ : ∃ spec, Spec.form .modelType sinceLastSecond = .valid spec ∧
      Plan.ofSpec [] spec 100 noon = .error .dateOutOfRange := ⟨_, rfl, rfl⟩
  rcases hall [] spec 100 noon ⟨_, _, hspec⟩ (by decide) with ⟨plan, h⟩ | ⟨cause, h⟩
  · rw [hlost] at h
    cases h
  · rw [hlost] at h
    cases h

end RecordDesk.Widget
