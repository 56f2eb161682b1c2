import Mathlib
import RecordDesk.Proofs.Fallible
import RecordDesk.Widget.Plan
set_option autoImplicit false

namespace RecordDesk.Widget

namespace Plan

def predicates : Plan → List Predicate
  | .kpi value none _ => [value.predicate]
  | .kpi value (some q) _ => [value.predicate, q.current.predicate, q.previous.predicate]
  | .chart _ q => [q.predicate]
  | .table _ _ _ q => [q.predicate]
  | .list _ _ q => [q.predicate]

/-- Predicates that differ in their windows at most. -/
def SameScope (p q : Predicate) : Prop :=
  p.tenantId = q.tenantId ∧ p.entityId = q.entityId ∧ p.filters = q.filters

theorem SameScope.refl (p : Predicate) : SameScope p p := ⟨rfl, rfl, rfl⟩

theorem SameScope.window (p : Predicate) (start stop : Moment) (inclusive : Bool) :
    SameScope (p.window start stop inclusive) p := ⟨rfl, rfl, rfl⟩

variable {fields : List FieldMeta} {spec : RawSpec} {plan : Plan} {p : Predicate}

theorem predicate_owner (h : predicate fields spec = .ok p) : p.tenantId = spec.tenantId ∧
    p.entityId = spec.entityId := by
  obtain ⟨members, -, h⟩ := ok_of_bind h
  obtain ⟨filters, -, h⟩ := ok_of_bind h
  obtain ⟨range, -, h⟩ := ok_of_bind h
  obtain ⟨start, -, h⟩ := ok_of_bind h
  obtain ⟨stop, -, h⟩ := ok_of_bind h
  -- Whatever the window is, the rest of the predicate is the same.
  dsimp only at h
  split at h
  · split at h
    · obtain ⟨u, hu, -⟩ := ok_of_bind h
      cases hu
    · cases h
      exact ⟨rfl, rfl⟩
  · cases h
    exact ⟨rfl, rfl⟩

theorem trendQueries_scope {value : AggregateQuery} {days : Quantity} {now : Moment} {q : TrendQueries}
    (h : trendQueries value days now = .ok q) :
    SameScope q.current.predicate value.predicate ∧ SameScope q.previous.predicate value.predicate := by
  obtain ⟨now', -, h⟩ := ok_of_bind h
  obtain ⟨period, -, h⟩ := ok_of_bind h
  obtain ⟨middle, -, h⟩ := ok_of_bind h
  obtain ⟨first, -, h⟩ := ok_of_bind h
  cases h
  exact ⟨.window _ _ _ _, .window _ _ _ _⟩

theorem ofKpi_scope {metric : Metric} {now : Moment} (h : ofKpi fields spec metric p now = .ok plan) :
    ∀ q ∈ plan.predicates, SameScope q p := by
  obtain ⟨target, -, h⟩ := ok_of_bind h
  dsimp only at h
  split at h
  · obtain ⟨days, -, h⟩ := ok_of_bind h
    obtain ⟨trend, htrend, h⟩ := ok_of_bind h
    cases h
    obtain ⟨hcurrent, hprevious⟩ := trendQueries_scope htrend
    simpa [predicates] using ⟨SameScope.refl p, hcurrent, hprevious⟩
  · cases h
    simpa [predicates] using SameScope.refl p

theorem ofChart_scope {kind : ChartKind} {metric : Metric} {order : SortOrder}
    (h : ofChart fields spec kind metric order p = .ok plan) : ∀ q ∈ plan.predicates, SameScope q p := by
  unfold ofChart at h
  split at h
  · obtain ⟨field, -, h⟩ := ok_of_bind h
    obtain ⟨group, -, h⟩ := ok_of_bind h
    obtain ⟨target, -, h⟩ := ok_of_bind h
    obtain ⟨limit, -, h⟩ := ok_of_bind h
    cases h
    simpa [predicates] using SameScope.refl p
  · cases h

theorem ofTable_scope {order : SortOrder} {cap : Int} (h : ofTable fields spec order p cap = .ok plan) :
    ∀ q ∈ plan.predicates, SameScope q p := by
  obtain ⟨items, -, h⟩ := ok_of_bind h
  obtain ⟨columns, -, h⟩ := ok_of_bind h
  obtain ⟨page, -, h⟩ := ok_of_bind h
  obtain ⟨asked, -, h⟩ := ok_of_bind h
  obtain ⟨size, -, h⟩ := ok_of_bind h
  obtain ⟨offset, -, h⟩ := ok_of_bind h
  obtain ⟨sort, -, h⟩ := ok_of_bind h
  cases h
  simpa [predicates] using SameScope.refl p

theorem ofList_scope {order : SortOrder} (h : ofList fields spec order p = .ok plan) :
    ∀ q ∈ plan.predicates, SameScope q p := by
  unfold ofList at h
  split at h
  · obtain ⟨title, -, h⟩ := ok_of_bind h
    dsimp only at h
    split at h
    all_goals
      obtain ⟨subtitle, -, h⟩ := ok_of_bind h
      obtain ⟨limit, -, h⟩ := ok_of_bind h
      obtain ⟨sort, -, h⟩ := ok_of_bind h
      cases h
      simpa [predicates] using SameScope.refl p
  · cases h

theorem ofRaw_scope {cap : Int} {now : Moment} (h : ofRaw fields spec cap now = .ok plan) :
    ∃ base, predicate fields spec = .ok base ∧ ∀ q ∈ plan.predicates, SameScope q base := by
  unfold ofRaw at h
  split at h
  · cases h
  · split at h
    · cases h
    · split at h
      · cases h
      · obtain ⟨base, hbase, h⟩ := ok_of_bind h
        refine ⟨base, hbase, ?_⟩
        split at h
        · exact ofKpi_scope h
        · exact ofChart_scope h
        · exact ofTable_scope h
        · exact ofList_scope h

/-- All queries of a plan ask for records of the tenant that the specification names. -/
theorem ofSpec_tenant {spec : Spec} {cap : Int} {now : Moment} (h : ofSpec fields spec cap now = .ok plan) :
    ∀ q ∈ plan.predicates, q.tenantId = .text spec.tenantId := by
  obtain ⟨base, hbase, hscope⟩ := ofRaw_scope h
  intro q hq
  rw [(hscope q hq).1, (predicate_owner hbase).1]
  rfl

end Plan

end RecordDesk.Widget
