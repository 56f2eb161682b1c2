import RecordDesk.Proofs.Widget.References
set_option autoImplicit false

namespace RecordDesk.Widget

namespace Plan

variable {α β : Type} {fields : List FieldMeta} {spec : Spec} {now : Moment}

/-- Planning that fails only by a refusal. -/
def OnlyRefuses (x : Refusable α) : Prop := ∀ fault, x = .error fault → ∃ cause, fault = .query cause

namespace OnlyRefuses

theorem ok (a : α) : OnlyRefuses (.ok a : Refusable α) := fun _ h => by cases h

theorem refuse (cause : QueryFault) : OnlyRefuses (Plan.refuse cause : Refusable α) := by
  rintro _ ⟨⟩
  exact ⟨cause, rfl⟩

theorem bind {x : Refusable α} {f : α → Refusable β} (hx : OnlyRefuses x)
    (hf : ∀ a, x = .ok a → OnlyRefuses (f a)) : OnlyRefuses (x >>= f) := by
  intro fault h
  cases hr : x with
  | error fault' =>
    rw [hr] at h
    cases h
    exact hx _ hr
  | ok a =>
    rw [hr] at h
    exact hf a hr fault h

theorem mapM {f : α → Refusable β} {as : List α} (h : ∀ a ∈ as, OnlyRefuses (f a)) :
    OnlyRefuses (as.mapM f) := by
  induction as with
  | nil => exact ok _
  | cons a rest ih =>
    obtain ⟨ha, hrest⟩ := List.forall_mem_cons.1 h
    rw [List.mapM_cons]
    exact ha.bind fun _ _ => (ih hrest).bind fun _ _ => ok _

end OnlyRefuses

theorem inRange_ofInt (name : String) (low high n : Int) :
    inRange name low high (.ofInt n) = if low ≤ n ∧
    n ≤ high then .ok (.ofInt n) else refuse (.outOfRange name low high) := by
  have hbelow : (Quantity.ofInt n).isBelow low = .ok (decide (n < low)) := by
    change Except.ok (some (compare n low) == some .lt) = _
    by_cases h : n < low
    · simp [h, compare_lt_iff_lt.2 h]
    · simp [h, compare_lt_iff_lt]
  have habove : (Quantity.ofInt n).isAbove high = .ok (decide (high < n)) := by
    change Except.ok (some (compare n high) == some .gt) = _
    by_cases h : high < n
    · simp [h, compare_gt_iff_gt.2 h]
    · simp [h, compare_gt_iff_gt]
  have hwithin : (Quantity.ofInt n).isWithin low high = .ok (decide (low ≤ n ∧ n ≤ high)) := by
    rw [Quantity.isWithin, hbelow, habove]
    by_cases hl : n < low
    · simp [hl, bind, Except.bind, pure, Except.pure]
    · by_cases hh : high < n
      · simp [hl, hh, bind, Except.bind, pure, Except.pure]
      · simp [hl, hh, bind, Except.bind, pure, Except.pure]
        omega
  change (do if ← (Quantity.ofInt n).isWithin low high then return Quantity.ofInt n
             else refuse (.outOfRange name low high)) = _
  rw [hwithin]
  by_cases h : low ≤ n ∧ n ≤ high
  · simp [h, bind, Except.bind, pure, Except.pure]
  · simp only [h, decide_false, if_false, bind, Except.bind]
    rfl

theorem inRange_ok {name : String} {low high n : Int} {q : Quantity}
    (h : inRange name low high (.ofInt n) = .ok q) : low ≤ n ∧ n ≤ high ∧ q = .ofInt n := by
  rw [inRange_ofInt] at h
  split at h
  · rename_i hbounds
    cases h
    exact ⟨hbounds.1, hbounds.2, rfl⟩
  · cases h

/-- The moments of a date range have a form in universal time. -/
def Reckonable (spec : Spec) : Prop :=
  ∀ r, spec.dateRange = some r → (∀ m, r.start = some m → m.utc.inRange = true) ∧
    ∀ m, r.stop = some m → m.utc.inRange = true

/-- The clock is in the calendar, with room before it for two windows of a year each. -/
def Clocked (now : Moment) : Prop :=
  now.utc.inRange = true ∧ (now.utc.addMicroseconds (-(730 * Moment.day))).inRange = true

section

variable {d : Document} {role : String}

theorem requireField_refuses (hd : d.isKey = true) : OnlyRefuses (requireField fields role d) := by
  unfold requireField
  split
  · exact .ok _
  · rw [if_pos hd]
    exact .refuse _

theorem queryKey_refuses (f : FieldMeta) : OnlyRefuses (queryKey f) := by
  unfold queryKey
  split
  · exact .refuse _
  · exact .ok _

theorem filter_refuses (m : String × Document) : OnlyRefuses (filter fields m) := by
  refine .bind (requireField_refuses rfl) fun f _ => ?_
  split
  · exact .refuse _
  · split
    · exact .ok _
    · exact .ok _
    · exact .bind (queryKey_refuses f) fun _ _ => .ok _

theorem isKey_ofText? (s : Option String) : (Document.ofText? s).isKey = true := by cases s <;> rfl

theorem metricTarget_refuses (spec : Spec) (metric : Metric) :
    OnlyRefuses (metricTarget fields spec.raw metric) := by
  unfold metricTarget
  split
  · refine .bind (requireField_refuses (isKey_ofText? _)) fun f _ => .bind (queryKey_refuses f) fun key _ =>
      ?_
    split <;> exact .ok _
  · split
    · exact .ok _
    · exact .refuse _

theorem sortField_refuses (spec : Spec) : OnlyRefuses (sortField fields spec.raw) := by
  unfold sortField
  split
  · refine .bind (requireField_refuses (isKey_ofText? _)) fun f _ => ?_
    split
    · exact .bind (queryKey_refuses f) fun _ _ => .ok _
    · exact .refuse _
  · exact .ok _

theorem inRange_refuses (name : String) (low high n : Int) :
    OnlyRefuses (inRange name low high (.ofInt n)) := by
  rw [inRange_ofInt]
  split
  · exact .ok _
  · exact .refuse _

theorem inRangeOr_refuses (absent : Int) (name : String) (low high : Int) (limit : Option Int) :
    OnlyRefuses (inRangeOr absent name low high (.ofOption (limit.map .ofInt))) := by
  cases limit with
  | none => exact .ok _
  | some n => exact inRange_refuses name low high n

theorem utcOf?_ok {m : Option Moment} (h : ∀ a, m = some a → a.utc.inRange = true) :
    utcOf? m = .ok (m.map Moment.utc) := by
  cases m with
  | none => rfl
  | some a =>
    change (some <$> asUtc a) = _
    rw [asUtc, if_pos (h a rfl)]
    rfl

theorem dateRange_ok (hr : Reckonable spec) : ∃ r, dateRange spec.raw.dateRange = .ok r ∧
    (∀ m, r.start = some m → m.utc.inRange = true) ∧ ∀ m, r.stop = some m → m.utc.inRange = true := by
  cases hspec : spec.dateRange with
  | none =>
    refine ⟨⟨none, none⟩, by rw [Spec.raw, hspec]; rfl, fun m hm => ?_, fun m hm => ?_⟩ <;> cases hm
  | some r => exact ⟨r, by rw [Spec.raw, hspec]; rfl, hr r hspec⟩

theorem predicate_refuses (hr : Reckonable spec) : OnlyRefuses (predicate fields spec.raw) := by
  obtain ⟨r, hrange, hstart, hstop⟩ := dateRange_ok hr
  refine .bind (.ok spec.filters) fun members _ => .bind (.mapM fun m _ => filter_refuses m) fun found _ => ?_
  rw [hrange]
  refine .bind (.ok r) fun r' hr' => ?_
  cases hr'
  rw [utcOf?_ok hstart, utcOf?_ok hstop]
  refine .bind (.ok _) fun start _ => .bind (.ok _) fun stop _ => ?_
  split
  · split
    · exact .refuse _
    · exact .ok _
  · exact .ok _

end

theorem daysOf_ofInt {n : Int} (hlow : 1 ≤ n) (hhigh : n ≤ 365) :
    daysOf (.ofInt n) = .ok (n * Moment.day) := by
  have hdays : (n * Moment.day).fdiv Moment.day = n := Int.mul_fdiv_cancel n (by decide)
  change Span.checked (n * Moment.day) = _
  rw [Span.checked, hdays]
  exact if_neg (by unfold Span.dayLimit; omega)

theorem inRange_between {m : Moment} {far near : Int} (hm : m.inRange = true)
    (hfar : (m.addMicroseconds (-far)).inRange = true) (hnear : 0 ≤ near) (hle : near ≤ far) :
    (m.addMicroseconds (-near)).inRange = true := by
  simp only [Moment.inRange, Moment.addMicroseconds, Moment.date, Bool.and_eq_true, decide_eq_true_eq,
    Int.fdiv_eq_ediv_of_nonneg _ (show 0 ≤ Moment.day by decide)] at *
  have hlow : (m.wall + -far) / Moment.day ≤ (m.wall + -near) / Moment.day :=
    Int.ediv_le_ediv (by decide) (by omega)
  have hhigh : (m.wall + -near) / Moment.day ≤ m.wall / Moment.day := Int.ediv_le_ediv (by decide) (by omega)
  exact ⟨hfar.1.trans hlow, hhigh.trans hm.2⟩

theorem trendQueries_planned {n : Int} (hlow : 1 ≤ n) (hhigh : n ≤ 365) (hnow : Clocked now)
    (value : AggregateQuery) : ∃ q, trendQueries value (.ofInt n) now = .ok q := by
  obtain ⟨hin, hroom⟩ := hnow
  have hmiddle : (now.utc.addMicroseconds (-(n * Moment.day))).inRange = true :=
    inRange_between hin hroom (by unfold Moment.day Moment.second; omega)
      (by unfold Moment.day Moment.second; omega)
  have hfirst : ((now.utc.addMicroseconds (-(n * Moment.day))).addMicroseconds
      (-(n * Moment.day))).inRange = true := by
    have htwice : (now.utc.addMicroseconds (-(n * Moment.day))).addMicroseconds (-(n * Moment.day))
        = now.utc.addMicroseconds (-(2 * (n * Moment.day))) := by
      unfold Moment.addMicroseconds
      dsimp only
      congr 1
      omega
    rw [htwice]
    exact inRange_between hin hroom (by unfold Moment.day Moment.second; omega)
      (by unfold Moment.day Moment.second; omega)
  have hutc : asUtc now = .ok now.utc := if_pos hin
  have hback : now.utc.after (-(n * Moment.day)) = .ok (now.utc.addMicroseconds (-(n * Moment.day))) :=
    if_pos hmiddle
  have hbacker : (now.utc.addMicroseconds (-(n * Moment.day))).after (-(n * Moment.day))
      = .ok ((now.utc.addMicroseconds (-(n * Moment.day))).addMicroseconds (-(n * Moment.day))) :=
      if_pos hfirst
  simp only [trendQueries, hutc, daysOf_ofInt hlow hhigh, hback, hbacker, bind, Except.bind]
  exact ⟨_, rfl⟩

section

variable {p : Predicate} {metric : Metric} {order : SortOrder}

theorem ofKpi_refuses (hnow : Clocked now) : OnlyRefuses (ofKpi fields spec.raw metric p now) := by
  refine .bind (metricTarget_refuses spec metric) fun target _ => ?_
  dsimp only
  split
  · refine .bind (inRange_refuses _ _ _ _) fun days hdays => ?_
    obtain ⟨hlow, hhigh, rfl⟩ := inRange_ok hdays
    obtain ⟨q, hq⟩ := trendQueries_planned hlow hhigh hnow ⟨p, metric, target, none, none, .desc⟩
    rw [hq]
    exact .bind (.ok q) fun _ _ => .ok _
  · exact .ok _

theorem ofChart_refuses (kind : ChartKind) : OnlyRefuses (ofChart fields spec.raw kind metric order p) := by
  unfold ofChart
  split
  · refine .bind (requireField_refuses (isKey_ofText? _)) fun f _ => .bind (queryKey_refuses f)
      fun group _ => ?_
    refine .bind (metricTarget_refuses spec metric) fun target _ => ?_
    exact .bind (inRangeOr_refuses 10 "limit" 1 50 spec.limit) fun limit _ => .ok _
  · exact .refuse _

theorem requestedSize_raw (spec : Spec) : ∃ size : Option Int, requestedSize spec.raw =
    .ofOption (size.map .ofInt) := by
  unfold requestedSize
  split
  · rename_i n _
    exact ⟨some n, rfl⟩
  · exact ⟨spec.limit, rfl⟩

theorem size_ok {absent low high : Int} {name : String} {size : Option Int} {q : Quantity}
    (h : inRangeOr absent name low high (.ofOption (size.map .ofInt)) = .ok q) : ∃ n, q = .ofInt n := by
  cases size with
  | none =>
    cases h
    exact ⟨absent, rfl⟩
  | some n => exact ⟨n, (inRange_ok h).2.2⟩

theorem pageOf_refuses (spec : Spec) : OnlyRefuses (pageOf spec.raw.paging) := by
  unfold Spec.raw
  cases spec.paging <;> exact .ok _

theorem ofTable_refuses (cap : Int) : OnlyRefuses (ofTable fields spec.raw order p cap) := by
  refine .bind (.ok _) fun items hitems => .bind (.mapM fun d hd => requireField_refuses ?_)
    fun columns _ => ?_
  · cases hitems
    obtain ⟨column, -, rfl⟩ := List.mem_map.1 hd
    rfl
  · obtain ⟨size, hsize⟩ := requestedSize_raw spec
    rw [hsize]
    refine .bind (pageOf_refuses spec) fun page _ => ?_
    refine .bind (inRangeOr_refuses _ "page size" 5 100 size) fun asked hasked => ?_
    obtain ⟨n, rfl⟩ := size_ok hasked
    refine .bind (.ok _) fun clamped hclamped => ?_
    cases hclamped
    exact .bind (.ok _) fun offset _ => .bind (sortField_refuses spec) fun sort _ => .ok _

theorem ofList_refuses : OnlyRefuses (ofList fields spec.raw order p) := by
  unfold ofList
  split
  · refine .bind (requireField_refuses (isKey_ofText? _)) fun title _ => ?_
    dsimp only
    split
    · refine .bind ?_ fun subtitle _ => ?_
      · intro fault h
        cases hf : requireField fields "subtitle_field" spec.raw.subtitleField with
        | ok f => rw [hf] at h; cases h
        | error fault' =>
          rw [hf] at h
          cases h
          exact requireField_refuses (isKey_ofText? _) _ hf
      · exact .bind (inRangeOr_refuses 10 "limit" 1 20 spec.limit) fun limit _ =>
          .bind (sortField_refuses spec) fun sort _ => .ok _
    · exact .bind (.ok _) fun subtitle _ => .bind (inRangeOr_refuses 10 "limit" 1 20 spec.limit)
        fun limit _ =>
        .bind (sortField_refuses spec) fun sort _ => .ok _
  · exact .refuse _

end

theorem ofSpec_refuses {cap : Int} (hr : Reckonable spec) (hnow : Clocked now) :
    OnlyRefuses (ofSpec fields spec cap now) := by
  unfold ofSpec ofRaw
  split
  · exact .refuse _
  · split
    · exact .refuse _
    · split
      · exact .refuse _
      · refine .bind (predicate_refuses hr) fun p _ => ?_
        split
        · exact ofKpi_refuses hnow
        · exact ofChart_refuses _
        · exact ofTable_refuses cap
        · exact ofList_refuses

/-- What is planned refers to fields of its entity, as far as a widget of its kind reads it; and a
specification that fits its form is planned unless it is refused. -/
theorem planned_or_refused (fields : List FieldMeta) (cap : Int) (now : Moment) :
    (∀ spec plan, ofRaw fields spec cap now = .ok plan → spec.FiltersKnown fields ∧
      ∃ kind : WidgetKind, spec.widgetType = .text kind.name ∧ spec.KnownFor fields kind) ∧
    ∀ spec, Reckonable spec → Clocked now →
      (∃ plan, ofSpec fields spec cap now = .ok plan) ∨
      ∃ cause, ofSpec fields spec cap now = .error (.query cause) := by
  refine ⟨fun spec plan h => (ofRaw_known h).2, fun spec hr hnow => ?_⟩
  cases h : ofSpec fields spec cap now with
  | ok plan => exact .inl ⟨plan, rfl⟩
  | error fault =>
    obtain ⟨cause, rfl⟩ := ofSpec_refuses hr hnow fault h
    exact .inr ⟨cause, rfl⟩

end Plan

theorem WidgetKind.name_injective : Function.Injective WidgetKind.name := by
  have hread (kind : WidgetKind) : ofName? kind.name = some kind := by
    rcases kind with _ | kind | _ | _
    · rfl
    · cases kind <;> rfl
    · rfl
    · rfl
  intro a b h
  exact Option.some.inj ((hread a).symm.trans ((congrArg ofName? h).trans (hread b)))

def dealList (sort : String) : Spec where
  tenantId := "t"
  entityId := "e"
  widgetType := "list"
  metricType := "count"
  targetField := none
  groupBy := none
  filters := [("stage", .text "won")]
  dateRange := some ⟨some ⟨1718409600000000, some 3600000000⟩, none⟩
  limit := some 5
  sortOrder := "asc"
  sortBy := some sort
  paging := none
  showTrend := false
  trendPeriodDays := 7
  columns := []
  titleField := some "title"
  subtitleField := some "stage"

def noon : Moment := ⟨1718452800000000, some 0⟩

/-- In the order of their amounts deals are planned, and in the order of nothing known they are refused. -/
theorem dealList_checked : (dealList "amount").raw.SortKnown dealFields ∧ Plan.Reckonable (dealList "nope") ∧
    Plan.Clocked noon ∧ ∃ cause, Plan.ofSpec dealFields (dealList "nope") 100 noon =
      .error (.query cause) := by
  obtain ⟨plan, hplan⟩ : ∃ plan, Plan.ofRaw dealFields (dealList "amount").raw 100 noon = .ok plan := ⟨_, rfl⟩
  obtain ⟨-, kind, hkind, hknown⟩ := (Plan.planned_or_refused dealFields 100 noon).1 _ plan hplan
  have hlist : kind = .list := WidgetKind.name_injective (Document.text.inj hkind).symm
  subst hlist
  have hr : Plan.Reckonable (dealList "nope") := by
    rintro _ ⟨⟩
    exact ⟨fun m hm => by cases hm; decide, fun m hm => by cases hm⟩
  have hnow : Plan.Clocked noon := ⟨by decide, by decide⟩
  refine ⟨hknown.2.2, hr, hnow, ?_⟩
  rcases (Plan.planned_or_refused dealFields 100 noon).2 (dealList "nope") hr hnow with ⟨plan, hplan⟩ | hcause
  · cases hplan
  · exact hcause

def countWithColumn (column : String) : Spec where
  tenantId := "t"
  entityId := "e"
  widgetType := "kpi"
  metricType := "count"
  targetField := none
  groupBy := none
  filters := []
  dateRange := none
  limit := none
  sortOrder := "desc"
  sortBy := none
  paging := none
  showTrend := false
  trendPeriodDays := 7
  columns := [column]
  titleField := none
  subtitleField := none

/-- Everything that a specification refers to is a field of the entity, whether or not a widget of its kind
reads it. -/
structure RawSpec.AllKnown (fields : List FieldMeta) (spec : RawSpec) : Prop where
  filters : spec.FiltersKnown fields
  target : spec.TargetKnown fields
  sort : spec.SortKnown fields
  group : spec.groupBy.isTruthy = true → Mentions fields spec.groupBy
  title : spec.titleField.isTruthy = true → Mentions fields spec.titleField
  subtitle : spec.subtitleField.isTruthy = true → Mentions fields spec.subtitleField
  columns : spec.ColumnsKnown fields

/-- A single figure has no columns, so none of them is looked up. -/
theorem stray_column_planned :
    ¬ ∀ (fields : List FieldMeta) (spec : Spec) (cap : Int) (now : Moment) (plan : Plan),
    Plan.ofSpec fields spec cap now = .ok plan → spec.raw.AllKnown fields := by
  intro hall
  obtain ⟨plan, hplan⟩ : ∃ plan, Plan.ofSpec dealFields (countWithColumn "nope") 100 noon = .ok plan :=
    ⟨_, rfl⟩
  obtain ⟨f, hmem, hkey, -⟩ := (hall _ _ _ _ _ hplan).columns _ rfl (.text "nope") List.mem_cons_self
  have hstray : ∀ f ∈ dealFields, f.key ≠ "nope" := by decide
  exact hstray f hmem (Document.text.inj hkey).symm

end RecordDesk.Widget
