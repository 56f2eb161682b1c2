import RecordDesk.Proofs.Widget.Accepted
import RecordDesk.Proofs.Widget.Pages
set_option autoImplicit false

/-!
How much a plan asks for. Charts and lists are bounded by their own ranges; the page of a table is bounded
by the cap too, and that is all that keeps it from asking for nothing, or for everything.
-/

namespace RecordDesk

namespace Page

theorem clampSize_pos_iff {cap : Int} : (∀ size, 1 ≤ clampSize cap size ∧ clampSize cap size ≤ cap) ↔
    1 ≤ cap := by
  unfold clampSize
  constructor
  · intro h
    have hone := (h 1).1
    rw [if_neg (by decide)] at hone
    omega
  · intro hcap size
    split <;> omega

theorem maxSize_pos_iff {env : Environment} {standard : Int} : 1 ≤ maxSize env standard ↔
    1 ≤ standard ∨ ∃ text n, env.get? "API_MAX_PAGE_SIZE" = some text ∧
    Numeral.integer? text = some n ∧ 1 ≤ n := by
  unfold maxSize Environment.integer
  cases htext : env.get? "API_MAX_PAGE_SIZE" with
  | none => simp
  | some text =>
    cases hn : Numeral.integer? text with
    | none => simp [hn]
    | some n =>
      simp only [Option.some.injEq, hn, Option.getD_some]
      split <;> simp [hn] <;> omega

end Page

namespace Widget

namespace Plan

variable {fields : List FieldMeta} {cap : Int} {now : Moment} {plan : Plan}

def Sized (cap : Int) (spec : Spec) : Plan → Prop
  | .kpi .. => True
  | .chart _ q => ∃ n, q.limit = some (.ofInt n) ∧ 1 ≤ n ∧ n ≤ 50
  | .table _ page size q => page = (spec.paging.map (·.page)).getD 1 ∧ ∃ asked, 5 ≤ asked ∧ asked ≤ 100 ∧
      size = .ofInt (Page.clampSize cap asked) ∧ q.limit = size ∧
      q.offset = .ofInt (Page.offset page (Page.clampSize cap asked))
  | .list _ _ q => ∃ n, q.limit = .ofInt n ∧ 1 ≤ n ∧ n ≤ 20 ∧ q.offset = .ofInt 0

theorem inRangeOr_ok {absent low high : Int} {name : String} {size : Option Int} {q : Quantity}
    (h : inRangeOr absent name low high (.ofOption (size.map .ofInt)) = .ok q) (hlow : low ≤ absent)
    (hhigh : absent ≤ high) : ∃ n, q = .ofInt n ∧ low ≤ n ∧ n ≤ high := by
  cases size with
  | none =>
    cases h
    exact ⟨absent, rfl, hlow, hhigh⟩
  | some n =>
    obtain ⟨hl, hh, rfl⟩ := inRange_ok h
    exact ⟨n, rfl, hl, hh⟩

section

variable {spec : Spec} {metric : Metric} {order : SortOrder} {p : Predicate}

theorem ofChart_sized {k : ChartKind} (h : ofChart fields spec.raw k metric order p = .ok plan) :
    plan.Sized cap spec := by
  unfold ofChart at h
  split at h
  · obtain ⟨f, -, h⟩ := ok_of_bind h
    obtain ⟨group, -, h⟩ := ok_of_bind h
    obtain ⟨target, -, h⟩ := ok_of_bind h
    obtain ⟨limit, hlimit, h⟩ := ok_of_bind h
    obtain ⟨n, rfl, hlow, hhigh⟩ := inRangeOr_ok hlimit (by decide) (by decide)
    cases h
    exact ⟨n, rfl, hlow, hhigh⟩
  · cases h

theorem pageOf_raw {page : Int} (h : pageOf spec.raw.paging = .ok page) :
    page = (spec.paging.map (·.page)).getD 1 := by
  unfold Spec.raw at h
  cases hpaging : spec.paging with
  | none =>
    rw [hpaging] at h
    cases h
    rfl
  | some p =>
    rw [hpaging] at h
    cases h
    rfl

theorem ofTable_sized (h : ofTable fields spec.raw order p cap = .ok plan) : plan.Sized cap spec := by
  obtain ⟨columns, -, h⟩ := ok_of_bind h
  obtain ⟨page, hpage, h⟩ := ok_of_bind h
  obtain ⟨asked, hasked, h⟩ := ok_of_bind h
  obtain ⟨n, rfl, hlow, hhigh⟩ := asked_size hasked
  obtain ⟨size, hsize, h⟩ := ok_of_bind h
  cases hsize
  obtain ⟨offset, hoffset, h⟩ := ok_of_bind h
  cases hoffset
  obtain ⟨sortBy, -, h⟩ := ok_of_bind h
  cases h
  exact ⟨pageOf_raw hpage, n, hlow, hhigh, rfl, rfl, rfl⟩

theorem ofList_sized (h : ofList fields spec.raw order p = .ok plan) : plan.Sized cap spec := by
  unfold ofList at h
  split at h
  · obtain ⟨title, -, h⟩ := ok_of_bind h
    dsimp only at h
    split at h <;>
      · obtain ⟨subtitle, -, h⟩ := ok_of_bind h
        obtain ⟨limit, hlimit, h⟩ := ok_of_bind h
        obtain ⟨n, rfl, hlow, hhigh⟩ := inRangeOr_ok hlimit (by decide) (by decide)
        obtain ⟨sortBy, -, h⟩ := ok_of_bind h
        cases h
        exact ⟨n, rfl, hlow, hhigh, rfl⟩
  · cases h

end

theorem ofSpec_sized {spec : Spec} (h : ofSpec fields spec cap now = .ok plan) : plan.Sized cap spec := by
  unfold ofSpec ofRaw at h
  split at h
  · cases h
  · split at h
    · cases h
    · split at h
      · cases h
      · obtain ⟨p, -, h⟩ := ok_of_bind h
        split at h
        · have hkind := kind_ofKpi h
          cases plan with
          | kpi value trend days => trivial
          | _ => cases hkind
        · exact ofChart_sized h
        · exact ofTable_sized h
        · exact ofList_sized h

/-- A plan that asks for a positive and bounded number of rows, and for a page of a table where it
begins. -/
def Bounded (cap : Int) : Plan → Prop
  | .kpi .. => True
  | .chart _ q => ∃ n, q.limit = some (.ofInt n) ∧ 1 ≤ n ∧ n ≤ 50
  | .table _ page size q => ∃ n, size = .ofInt n ∧ 1 ≤ n ∧ n ≤ min 100 cap ∧ q.limit = .ofInt n ∧
      q.offset = .ofInt ((page - 1) * n) ∧ 0 ≤ (page - 1) * n
  | .list _ _ q => ∃ n, q.limit = .ofInt n ∧ 1 ≤ n ∧ n ≤ 20 ∧ q.offset = .ofInt 0

theorem Sized.bounded {spec : Spec} (h : plan.Sized cap spec) (hspec : spec.Accepted) (hcap : 1 ≤ cap) :
    plan.Bounded cap := by
  cases plan with
  | kpi value trend days => trivial
  | chart kind q => exact h
  | list title subtitle q => exact h
  | table columns page size q =>
    obtain ⟨hpage, asked, hlow, hhigh, rfl, hlimit, hoffset⟩ := h
    have hclamp : Page.clampSize cap asked = min asked cap := if_neg (by omega)
    have hone : 1 ≤ page := by
      cases hp : spec.paging with
      | none => simp [hpage, hp]
      | some p => simpa [hpage, hp] using hspec.page_pos hp
    have hbefore : Page.offset page (Page.clampSize cap asked) = (page - 1) * Page.clampSize cap asked := by
      rw [Page.offset, max_eq_left hone]
    rw [hbefore] at hoffset
    exact ⟨_, rfl, by omega, by omega, hlimit, hoffset, Int.mul_nonneg (by omega) (by omega)⟩

end Plan

/-- All sizes under a cap are bounded: those of pages, and those that plans of accepted specifications ask
for. -/
structure SizesBounded (cap : Int) : Prop where
  pages : ∀ size, 1 ≤ Page.clampSize cap size ∧ Page.clampSize cap size ≤ cap
  plans : ∀ (fields : List FieldMeta) (spec : Spec) (now : Moment) (plan : Plan), spec.Accepted →
    Plan.ofSpec fields spec cap now = .ok plan → plan.Bounded cap

theorem sizesBounded_iff {cap : Int} : SizesBounded cap ↔ 1 ≤ cap :=
  ⟨fun h => Page.clampSize_pos_iff.1 h.pages, fun hcap => ⟨Page.clampSize_pos_iff.2 hcap,
    fun _ _ _ _ hspec hplan => (Plan.ofSpec_sized hplan).bounded hspec hcap⟩⟩

theorem validate_cap (s : Settings) (env : Environment) (n : Int) :
    ({ s with apiMaxPageSize := n }.validate env).1 = (s.validate env).1 := by
  unfold Settings.validate
  obtain ⟨stage, said⟩ := Settings.stage env
  cases stage with
  | dev => dsimp only; split_ifs <;> rfl
  | prod => rfl

/-- Sizes are bounded just when the settings or the environment give a positive cap. Nothing checks the one
of the settings: the service starts with any, and where it counts and is not positive, it is the size of
every table's page. -/
theorem sizes_bounded_iff (s : Settings) (env : Environment) :
    (SizesBounded (Page.maxSize env s.apiMaxPageSize) ↔ 1 ≤ s.apiMaxPageSize ∨
      ∃ text n, env.get? "API_MAX_PAGE_SIZE" = some text ∧ Numeral.integer? text = some n ∧ 1 ≤ n) ∧
    (∀ n, ({ s with apiMaxPageSize := n }.validate env).1 = (s.validate env).1) ∧
    ∀ (fields : List FieldMeta) (spec : Spec) (now : Moment) (columns : List FieldMeta) (page : Int)
      (size : Quantity) (q : PageQuery), Page.maxSize env s.apiMaxPageSize < 1 →
      Plan.ofSpec fields spec (Page.maxSize env s.apiMaxPageSize) now = .ok (.table columns page size q) →
        size = .ofInt s.apiMaxPageSize ∧ q.limit = .ofInt s.apiMaxPageSize := by
  refine ⟨sizesBounded_iff.trans Page.maxSize_pos_iff, validate_cap s env, ?_⟩
  intro fields spec now columns page size q hcap hplan
  obtain ⟨-, asked, hlow, -, rfl, hlimit, -⟩ := Plan.ofSpec_sized hplan
  have hstandard : Page.maxSize env s.apiMaxPageSize = s.apiMaxPageSize := by
    unfold Page.maxSize at hcap ⊢
    dsimp only at hcap ⊢
    split at hcap
    · rename_i hbelow
      rw [if_pos hbelow]
    · omega
  have hclamp : Page.clampSize (Page.maxSize env s.apiMaxPageSize) asked = s.apiMaxPageSize := by
    rw [Page.clampSize, if_neg (by omega)]
    omega
  rw [hclamp] at hlimit ⊢
  exact ⟨rfl, hlimit⟩

def uncapped : Settings := { Settings.default with apiMaxPageSize := -1 }

def titleTable : Spec := { countWithColumn "title" with widgetType := "table" }

/-- By default all sizes are bounded, and without a cap a table asks for minus one rows. -/
theorem titleTable_uncapped : SizesBounded (Page.maxSize [] Settings.default.apiMaxPageSize) ∧
    ∃ columns size q, Plan.ofSpec dealFields titleTable (Page.maxSize [] uncapped.apiMaxPageSize) noon =
      .ok (.table columns 1 size q) ∧ q.limit = .ofInt (-1) := by
  refine ⟨(sizes_bounded_iff Settings.default []).1.2 (.inl (by decide)), ?_⟩
  obtain ⟨columns, size, q, hplan⟩ : ∃ columns size q,
      Plan.ofSpec dealFields titleTable (Page.maxSize [] uncapped.apiMaxPageSize) noon =
        .ok (.table columns 1 size q) :=
    ⟨_, _, _, rfl⟩
  exact ⟨columns, size, q, hplan,
    ((sizes_bounded_iff uncapped []).2.2 dealFields titleTable noon columns 1 size q (by decide) hplan).2⟩

theorem uncapped_read : Settings.read [] [("API_MAX_PAGE_SIZE", "-1")] = .valid uncapped := rfl

theorem uncapped_unbounded : ¬ ∀ (s : Settings) (env : Environment), Settings.read [] env = .valid s →
    (s.validate env).1 = .ok () → SizesBounded (Page.maxSize env s.apiMaxPageSize) := by
  intro hall
  have hcap := sizesBounded_iff.1 (hall uncapped [("API_MAX_PAGE_SIZE", "-1")] uncapped_read rfl)
  exact absurd hcap (by decide)

end Widget

end RecordDesk
