import RecordDesk.Proofs.Store.Overflow
import RecordDesk.Proofs.Widget.Sizes
import RecordDesk.Proofs.Widget.Trends
set_option autoImplicit false

namespace RecordDesk

open Widget

def Store.Answers (s : Store) (q : AggregateQuery) : Prop :=
  match q.groupBy with
  | none => ∃ x, s.aggregate q = .ok x
  | some key => ∃ groups, s.grouped q key = .ok groups

theorem Store.answers_iff {s : Store} {q : AggregateQuery} (hs : s.Sound) (hq : q.Unquoted)
    (hlimit : ∃ limit, q.limit.mapM Quantity.whole = .ok limit ∧ limit.all Cell.fitsWord = true) :
    s.Answers q ↔ s.Readable q ∧ s.SumsFit q := by
  unfold Answers
  cases hgroup : q.groupBy with
  | none => exact aggregate_ok_iff hs hq hgroup
  | some key => exact grouped_ok_iff hs hq hgroup hlimit

theorem Cell.fitsWord_of_le {i : Int} (hlow : 0 ≤ i) (hhigh : i ≤ 100) : Cell.fitsWord i = true :=
  Cell.fitsWord_of_natAbs (by omega)

namespace Widget.Plan

variable {fields : List FieldMeta} {spec : Spec} {cap : Int} {now : Moment} {plan : Plan} {s : Store}

def aggregates : Plan → List AggregateQuery
  | .kpi value none _ => [value]
  | .kpi value (some q) _ => [value, q.current, q.previous]
  | .chart _ q => [q]
  | .table .. => []
  | .list .. => []

def pages : Plan → List PageQuery
  | .kpi .. => []
  | .chart .. => []
  | .table _ _ _ q => [q]
  | .list _ _ q => [q]

def Answered (s : Store) (plan : Plan) : Prop :=
  (∀ q ∈ plan.aggregates, s.Answers q) ∧ ∀ q ∈ plan.pages, ∃ answer, s.page q = .ok answer

/-- The page of a table has a size that fits a word, and so has the number of rows before it. -/
def PageFits : Plan → Prop
  | .table _ page size _ =>
    ∃ n, size = .ofInt n ∧ Cell.fitsWord n = true ∧ Cell.fitsWord (Page.offset page n) = true
  | _ => True

theorem unquoted_of_fits {q : AggregateQuery} {raw : RawSpec} (h : q.Fits fields raw) : q.Unquoted :=
  ⟨fun f hf => (h.predicate.queryable f hf).2, fun key hkey => (h.target key hkey).2, fun key hkey =>
    (h.group key hkey).2⟩

theorem unquoted_of_page {q : PageQuery} {raw : RawSpec} (h : q.Fits fields raw) : q.Unquoted :=
  ⟨fun f hf => (h.predicate.queryable f hf).2, fun key hkey => (h.sort key hkey).2⟩

theorem fits_aggregates {raw : RawSpec} (h : plan.Fits fields raw) :
    ∀ q ∈ plan.aggregates, q.Fits fields raw := by
  cases plan with
  | kpi value trend days =>
    cases trend with
    | none => simpa [aggregates] using h.1
    | some q => simpa [aggregates] using ⟨h.1, h.2 q rfl⟩
  | chart kind q =>
    intro asked hasked
    obtain rfl := List.mem_singleton.1 hasked
    exact h
  | table columns page size q => simp [aggregates]
  | list title subtitle q => simp [aggregates]

theorem fits_pages {raw : RawSpec} (h : plan.Fits fields raw) : ∀ q ∈ plan.pages, q.Fits fields raw := by
  cases plan with
  | kpi value trend days => simp [pages]
  | chart kind q => simp [pages]
  | table columns page size q => simpa [pages] using h.2
  | list title subtitle q => simpa [pages] using h.2.2

theorem trendQueries_limit {value : AggregateQuery} {days : Quantity} {q : TrendQueries}
    (h : trendQueries value days now = .ok q) : q.current.limit = value.limit ∧
    q.previous.limit = value.limit := by
  obtain ⟨now', -, h⟩ := ok_of_bind h
  obtain ⟨period, -, h⟩ := ok_of_bind h
  obtain ⟨middle, -, h⟩ := ok_of_bind h
  obtain ⟨first, -, h⟩ := ok_of_bind h
  cases h
  exact ⟨rfl, rfl⟩

theorem limits_fit (h : ofSpec fields spec cap now = .ok plan) : ∀ q ∈ plan.aggregates,
    ∃ limit, q.limit.mapM Quantity.whole = .ok limit ∧ limit.all Cell.fitsWord = true := by
  have hnone {q : AggregateQuery} (hq : q.limit = none) :
      ∃ limit, q.limit.mapM Quantity.whole = .ok limit ∧ limit.all Cell.fitsWord = true := by
    rw [hq]
    exact ⟨none, rfl, rfl⟩
  cases plan with
  | kpi value trend days =>
    obtain ⟨metric, order, p, -, -, -, -, h⟩ := ofRaw_kpi h
    obtain ⟨target, -, h⟩ := ok_of_bind h
    dsimp only at h
    split at h
    · obtain ⟨days, -, h⟩ := ok_of_bind h
      obtain ⟨q, hq, h⟩ := ok_of_bind h
      cases h
      obtain ⟨hcurrent, hprevious⟩ := trendQueries_limit hq
      simp only [aggregates, List.forall_mem_cons]
      exact ⟨⟨none, rfl, rfl⟩, hnone hcurrent, hnone hprevious, by simp⟩
    · cases h
      simp only [aggregates, List.forall_mem_cons]
      exact ⟨⟨none, rfl, rfl⟩, by simp⟩
  | chart kind q =>
    obtain ⟨n, hlimit, hlow, hhigh⟩ := ofSpec_sized h
    rintro _ hq
    obtain rfl := List.mem_singleton.1 hq
    rw [hlimit]
    exact ⟨some n, rfl, by simpa using Cell.fitsWord_of_le (by omega) (by omega)⟩
  | table columns page size q => simp [aggregates]
  | list title subtitle q => simp [aggregates]

/-- The pages of a plan are answered just when they can be read and begin where the store can count to. -/
theorem pages_answered_iff (h : ofSpec fields spec cap now = .ok plan) (hs : s.Sound) :
    (∀ q ∈ plan.pages, ∃ answer, s.page q = .ok answer) ↔
    plan.PageFits ∧ ∀ q ∈ plan.pages, s.PageReadable q := by
  have hfits := fits_pages (ofRaw_known h).1
  have hsized := ofSpec_sized h
  cases plan with
  | kpi value trend days => simp [pages, PageFits]
  | chart kind q => simp [pages, PageFits]
  | table columns page size q =>
    obtain ⟨-, asked, -, -, rfl, hlimit, hoffset⟩ := hsized
    have hpage := Store.page_ok_iff hs (unquoted_of_page (hfits q List.mem_cons_self)) hoffset hlimit
    simp only [pages, List.forall_mem_singleton, PageFits, hpage]
    constructor
    · rintro ⟨hread, hoffset, hlimit⟩
      exact ⟨⟨_, rfl, hlimit, hoffset⟩, hread⟩
    · rintro ⟨⟨n, hn, hlimit, hoffset⟩, hread⟩
      cases hn
      exact ⟨hread, hoffset, hlimit⟩
  | list title subtitle q =>
    obtain ⟨n, hlimit, hlow, hhigh, hoffset⟩ := hsized
    have hpage := Store.page_ok_iff hs (unquoted_of_page (hfits q List.mem_cons_self)) hoffset hlimit
    simp only [pages, List.forall_mem_singleton, PageFits, hpage]
    exact ⟨fun hread => ⟨trivial, hread.1⟩, fun hread =>
      ⟨hread.2, rfl, Cell.fitsWord_of_le (by omega) (by omega)⟩⟩

/-- Over sound records a plan is answered just when a table's page begins where the store can count to,
every sum of its figures fits a word as it is added up, and no record comes to a key or a value that the
store cannot read. -/
theorem queries_answered_iff (hplan : ofSpec fields spec cap now = .ok plan) (hs : s.Sound) :
    plan.Answered s ↔ plan.PageFits ∧ (∀ q ∈ plan.aggregates, s.SumsFit q) ∧
      (∀ q ∈ plan.aggregates, s.Readable q) ∧ ∀ q ∈ plan.pages, s.PageReadable q := by
  have hfits := fits_aggregates (ofRaw_known hplan).1
  have haggregates : (∀ q ∈ plan.aggregates, s.Answers q) ↔
    ∀ q ∈ plan.aggregates, s.Readable q ∧ s.SumsFit q :=
    forall₂_congr fun q hq => Store.answers_iff hs (unquoted_of_fits (hfits q hq)) (limits_fit hplan q hq)
  rw [Answered, haggregates, pages_answered_iff hplan hs]
  constructor
  · rintro ⟨hfigures, hpage, hread⟩
    exact ⟨hpage, fun q hq => (hfigures q hq).2, fun q hq => (hfigures q hq).1, hread⟩
  · rintro ⟨hpage, hsums, hfigures, hread⟩
    exact ⟨fun q hq => ⟨hfigures q hq, hsums q hq⟩, hpage, hread⟩

end Widget.Plan

namespace Widget

theorem sound_dealBefore (id : String) (amount span : Int) : (dealBefore id amount span).fields.Sound :=
  ⟨⟨_, rfl⟩, rfl⟩

theorem sound_dealStore {deals : List RecordRow} (h : ∀ r ∈ deals, r.fields.Sound) :
    (dealStore deals).Sound :=
  ⟨⟨deals, rfl, h⟩, ⟨_, rfl⟩⟩

def hugeDeal (id : String) : RecordRow := dealBefore id 4611686018427387904 Moment.day

theorem sound_hugeDeals (ids : List String) : (dealStore (ids.map hugeDeal)).Sound := by
  refine sound_dealStore fun r hr => ?_
  obtain ⟨id, -, rfl⟩ := List.mem_map.1 hr
  exact sound_dealBefore ..

theorem hugeDeals_readable (ids : List String) : (dealStore (ids.map hugeDeal)).Readable amounts := by
  refine ⟨fun r _ _ before f after hsplit => absurd hsplit (by simp [amounts, weeklyQuery]), ?_⟩
  rintro r - key (hgroup | ⟨-, htarget, -⟩)
  · cases hgroup
  · cases htarget
    simp [Path.Nameable]

theorem hugeDeal_fits : (dealStore (["one"].map hugeDeal)).SumsFit amounts := by
  intro _ rows hrows
  have hperm : rows.Perm [hugeDeal "one"] := Store.select_perm hrows
  obtain rfl := List.perm_singleton.1 hperm
  exact Store.total_ok_iff.1 ⟨_, rfl⟩

theorem hugeDeals_overflow : ¬ (dealStore (["one", "two"].map hugeDeal)).SumsFit amounts := by
  intro hfit
  obtain ⟨rows, hrows⟩ := select_dealStore (["one", "two"].map hugeDeal) (p := amounts.predicate) rfl
  have hperm : rows.Perm (["one", "two"].map hugeDeal) := Store.select_perm hrows
  have hnumbers : rows.filterMap (Store.numberOf (some "amount")) = .replicate 2 (.int 4611686018427387904) :=
    List.perm_replicate.1 (hperm.filterMap _)
  have hsum := hfit rfl rows hrows (.replicate 2 4611686018427387904)
    ⟨[], by rw [List.append_nil]; exact hnumbers.symm⟩
  exact absurd hsum (by decide)

/-- The amount of one deal fits a word, and that of two does not. -/
theorem hugeDeals_answered : Plan.ofSpec dealFields (weekly .sum (some "amount") none).withoutTrend 100 noon
      = .ok (.kpi amounts none (.ofInt 7)) ∧
    (Plan.kpi amounts none (.ofInt 7)).Answered (dealStore (["one"].map hugeDeal)) ∧
    ¬ (Plan.kpi amounts none (.ofInt 7)).Answered (dealStore (["one", "two"].map hugeDeal)) := by
  have hplan : Plan.ofSpec dealFields (weekly .sum (some "amount") none).withoutTrend 100 noon
      = .ok (.kpi amounts none (.ofInt 7)) := rfl
  refine ⟨hplan, (Plan.queries_answered_iff hplan (sound_hugeDeals _)).2 ⟨trivial, ?_, ?_, ?_⟩,
    fun hanswered => ?_⟩
  · exact List.forall_mem_singleton.2 hugeDeal_fits
  · exact List.forall_mem_singleton.2 (hugeDeals_readable _)
  · exact List.forall_mem_nil _
  · obtain ⟨-, hsums, -, -⟩ := (Plan.queries_answered_iff hplan (sound_hugeDeals _)).1 hanswered
    exact hugeDeals_overflow (hsums amounts List.mem_cons_self)

def farPage : Document :=
  .object [("tenant_id", .text "t"), ("entity_id", .text "e"), ("widget_type", .text "table"),
    ("pagination", .object [("page", .ofInt 1000000000000000000)])]

theorem far_page_unanswered :
    ¬ ∀ (fields : List FieldMeta) (spec : Spec) (cap : Int) (now : Moment) (plan : Plan)
    (s : Store), spec.Accepted → Plan.ofSpec fields spec cap now = .ok plan → s.Sound → plan.Answered s := by
  intro hall
  obtain ⟨spec, columns, q, hspec, hplan⟩ : ∃ spec columns q, Spec.form .modelType farPage = .valid spec ∧
      Plan.ofSpec [] spec 100 noon = .ok (.table columns 1000000000000000000 (.ofInt 20) q) :=
      ⟨_, _, _, rfl, rfl⟩
  have hsound : (dealStore []).Sound := sound_dealStore fun _ h => (List.not_mem_nil h).elim
  have hanswered := hall [] spec 100 noon _ (dealStore []) ⟨_, _, hspec⟩ hplan hsound
  obtain ⟨⟨n, hn, -, hoffset⟩, -⟩ := (Plan.pages_answered_iff hplan hsound).1 hanswered.2
  cases hn
  exact absurd hoffset (by decide)

end Widget

end RecordDesk
