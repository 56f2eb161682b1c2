import RecordDesk.Api
import RecordDesk.Proofs.Tenancy.Requests
import RecordDesk.Proofs.Widget.Pages
set_option autoImplicit false

namespace RecordDesk.Api

/-- Whether a caller who asks for the log of executions, of one rule or one status or of all, is shown
one. -/
def logged (tenant : String) (ruleId status : Option String) (l : LogRow) : Bool :=
  l.tenantId == tenant && wants ruleId l.ruleId && wants status l.status

def statuses : List String := [Rule.Status.matched, .skipped, .failed].map Rule.Status.name

/-- The log of executions is shown a list of rows page by page. Pages up to the last one are always there,
others as far as the store counts. -/
structure LogPaged (d : Desk) (r : Request) (ruleId status : Option String) (limit size : Int)
    (rows : List LogRow) : Prop where
  covers : Page.Covers rows size (Page.pagesFor rows.length size.toNat) fun page => Page.slice size page rows
  shown : ∀ page query, logQueryForm query = .valid ⟨ruleId, status, page, limit⟩ → 1 ≤ page →
    page ≤ Page.pagesFor rows.length size.toNat ∨ Cell.fitsWord (Page.offset page size) = true →
    ((ruleLogs r query).run d).1 = .ok (.ofDocument 200 (Page.headers rows.length page size)
      (.list ((Page.slice size page rows).map logDocument)))

/-- The list that the log of executions is cut from: every row that is to be shown is there once, the latest
first. -/
structure LogsOf (logs : List LogRow) (tenant : String) (ruleId status : Option String)
    (rows : List LogRow) : Prop where
  total : Std.TransCmp LogRow.order
  once : rows.Perm (logs.filter (logged tenant ruleId status))
  ordered : rows.Pairwise fun a b => LogRow.order a b = .lt

variable {d : Desk} {r : Request} {tenant : String} {ruleId status : Option String} {limit : Int}
  {logs : List LogRow}

theorem logPaged_of_known (hkeys : d.store.logs.KeyedBy (·.id)) (hcap : 1 ≤ d.pageCap)
    (hlogs : d.store.logs.rows = some logs) (htenant : (r.header? "X-Tenant-Id").map strip = some tenant)
    (hne : tenant ≠ "") (hstatus : statuses.any (wants status) = true)
    (hfit : Cell.fitsWord (Page.clampSize d.pageCap limit) = true)
    (htotal : (logs.filter (logged tenant ruleId status)).length ≤ 2 ^ 53) :
    ∃ rows, LogsOf logs tenant ruleId status rows ∧
      LogPaged d r ruleId status limit (Page.clampSize d.pageCap limit) rows := by
  obtain ⟨rows, hrows, hperm, hstrict⟩ := Store.latestLogs_ok hkeys hlogs (logged tenant ruleId status)
  have hone : 1 ≤ Page.clampSize d.pageCap limit := by
    unfold Page.clampSize
    split <;> omega
  generalize hclamp : Page.clampSize d.pageCap limit = size at *
  obtain ⟨size, rfl⟩ := Int.eq_ofNat_of_zero_le (show 0 ≤ size by omega)
  refine ⟨rows, ⟨inferInstance, hperm, hstrict⟩, Page.slices_cover (by omega) rows,
    fun page query hquery hlow hreach => ?_⟩
  rw [← hperm.length_eq] at htotal
  have hoffset : Cell.fitsWord (Page.offset page size) = true :=
    hreach.elim (fun hhigh => Page.offset_fits hlow hhigh htotal) id
  have hread : (Handling.ofChecked ((logQueryForm query).under (.key "query"))).run d
      = (.ok ⟨ruleId, status, page, limit⟩, d) := by
    rw [hquery]
    rfl
  have hfound : (Handling.require (Desk.query (·.latestLogs (logged tenant ruleId status)))).run d =
      (.ok rows, d) := by
    rw [Handling.require, Handling.ofJob_run, Job.run_query, hrows]
  have hfits : ¬ (!Cell.fitsWord (Page.offset page size) || !Cell.fitsWord size) = true := by
    simp [hoffset, hfit]
  have hknown : ¬ (!(([Rule.Status.matched, .skipped, .failed].map Rule.Status.name).any (wants status))) =
      true := by
    rw [show ([Rule.Status.matched, .skipped, .failed].map Rule.Status.name).any (wants status) =
      true from hstatus]
    decide
  -- None of the steps of the handler refuses, and each leaves the desk as it is.
  rw [ruleLogs, Job.run_bind (caller_of_header htenant hne d), Job.run_bind hread]
  dsimp only
  rw [if_neg hknown]
  change ((Handling.require (Desk.query (·.latestLogs (logged tenant ruleId status))) >>=
    _ : Handling Response).run d).1 = _
  have hsize : Page.clampSize (Page.maxSize d.environment d.settings.apiMaxPageSize) limit = size := hclamp
  rw [Job.run_bind hfound, hsize, if_neg hfits]
  rfl

/-- Pages cover what they are pages of. The pages of a table are the records of its predicate, each once and
in order, cut into pieces of the page size; so are those of the log of executions. -/
theorem pages_cover (hrecords : d.store.records.KeyedBy (·.id)) (hlogs : d.store.logs.KeyedBy (·.id))
    (hcap : 1 ≤ d.pageCap) :
    (∀ spec columns rows page size total pages, Widget.Data.shown d spec =
      .ok (.table columns rows page size total pages) →
      total ≤ 2 ^ 53 → ∃ l : Widget.Listing, l.Of d spec ∧ l.Paged d spec columns size total pages) ∧
    ∀ (r : Request) (tenant : String) (ruleId status : Option String) (limit : Int) (logs : List LogRow),
      d.store.logs.rows = some logs → (r.header? "X-Tenant-Id").map strip = some tenant → tenant ≠ "" →
      statuses.any (wants status) = true → Cell.fitsWord (Page.clampSize d.pageCap limit) = true →
      (logs.filter (logged tenant ruleId status)).length ≤ 2 ^ 53 →
        ∃ rows, LogsOf logs tenant ruleId status rows ∧
        LogPaged d r ruleId status limit (Page.clampSize d.pageCap limit) rows :=
  ⟨fun _ _ _ _ _ _ _ hshown htotal => Widget.paged_of_shown hrecords hcap hshown htotal,
    fun _ _ _ _ _ _ hrows htenant hne hstatus hfit htotal =>
      logPaged_of_known hlogs hcap hrows htenant hne hstatus hfit htotal⟩

/-! A table of six records, with sort keys of several kinds, alike and absent ones among them; and a log of
three executions, one of which is another tenant's. -/

section

open Widget

def amountField : FieldMeta := ⟨"amount", "number", true, true, none⟩

def dealRecord (id : String) (amount : Document) (minute : Int) : RecordRow :=
  ⟨id, "t-1", "ent-1", .object [("amount", amount)], none, ⟨1718452800000000 + minute * 60000000, none⟩, none⟩

def dealRecords : List RecordRow :=
  [dealRecord "r-3" (.ofInt 3) 0, dealRecord "r-1" (.ofInt 3) 0, dealRecord "r-5" (.ofInt 1) 1,
    dealRecord "r-2" (.text "3") 1, dealRecord "r-4" .null 2, dealRecord "r-6" (.boolean true) 3]

def dealLog (id tenant : String) : LogRow :=
  ⟨id, tenant, "rule-1", "r-1", "matched", .object [], ⟨1718452800000000, none⟩⟩

def dealLogs : List LogRow := [dealLog "l-2" "t-1", dealLog "l-1" "t-1", dealLog "l-3" "t-2"]

def dealDesk : Desk where
  store := {
    entities := ⟨"entities", some [⟨"ent-1", "t-1", "Deals", "deals"⟩]⟩
    fields := ⟨"entity_fields", some [⟨"ent-1", amountField, false, 0⟩]⟩
    records := ⟨"entity_records", some dealRecords⟩
    logs := ⟨"rule_logs", some dealLogs⟩ }
  now := ⟨1718452800000000, some 0⟩

def dealTable : Spec where
  tenantId := "t-1"
  entityId := "ent-1"
  widgetType := "table"
  metricType := "count"
  targetField := none
  groupBy := none
  filters := []
  dateRange := none
  limit := some 5
  sortOrder := "asc"
  sortBy := some "amount"
  paging := none
  showTrend := false
  trendPeriodDays := 7
  columns := ["amount"]
  titleField := none
  subtitleField := none

def logRequest : Request := ⟨"GET", "/api/v1/rules/logs", [("X-Tenant-Id", "t-1")], .null⟩

theorem fields_dealDesk : dealDesk.store.entityFields "ent-1" = .ok [amountField] := by
  change Except.ok ((([⟨"ent-1", amountField, false, 0⟩] : List FieldRow).mergeSort _).map (·.field)) = _
  rw [List.mergeSort_singleton]
  rfl

def dealPredicate : Predicate := ⟨.text "t-1", .text "ent-1", [], none, none, true⟩

theorem select_dealDesk : dealDesk.store.select dealPredicate = .ok dealRecords := by
  have hsorted : dealRecords.mergeSort (fun a b => a.createdAt.wall ≤ b.createdAt.wall) = dealRecords :=
    List.mergeSort_of_pairwise (by decide)
  change ((dealRecords.mergeSort (fun a b => a.createdAt.wall ≤ b.createdAt.wall)).filterM _ :
    Except Fault (List RecordRow)) = _
  rw [hsorted]
  rfl

theorem shown_dealTable : ∃ rows, Data.shown dealDesk dealTable
    = .ok (.table (Data.columnsOf [amountField]) rows 1 5 6 2) := by
  have hplan : Plan.ofSpec [amountField] dealTable dealDesk.pageCap dealDesk.now
      = .ok (Plan.tablePage [amountField] 5 dealPredicate (some "amount") .asc 1) := by rfl
  have hshow : ∀ r ∈ dealRecords, r.Showable := by
    simp only [dealRecords, List.forall_mem_cons]
    exact ⟨⟨_, rfl⟩, ⟨_, rfl⟩, ⟨_, rfl⟩, ⟨_, rfl⟩, ⟨_, rfl⟩, ⟨_, rfl⟩, fun _ h => by cases h⟩
  have hcells : dealRecords.mapM (Store.keyed (some "amount"))
      = .ok (dealRecords.map fun r => (r.sortCell (some "amount"), r)) := by rfl
  have hcount : Page.count dealRecords.length 5 = .ok 2 :=
    Page.count_eq_pagesFor (by decide) (by decide +kernel) (by decide)
  have hpage := Data.ofPlan_tablePage [amountField] 5 .asc 1 select_dealDesk rfl hcells (by decide)
    (by decide) hcount
    fun r hr => hshow r (Store.arranged_perm.mem_iff.1 (List.mem_of_mem_drop (List.mem_of_mem_take hr)))
  exact ⟨_, (Data.shown_of_plan rfl fields_dealDesk hplan).trans hpage⟩

theorem dealTable_paged : (∃ l : Listing, l.Of dealDesk dealTable ∧
      l.Paged dealDesk dealTable (Data.columnsOf [amountField]) 5 6 2) ∧
    ∃ rows, LogsOf dealLogs "t-1" none (some "matched") rows ∧
      LogPaged dealDesk logRequest none (some "matched") 1 1 rows := by
  have hrecords : dealDesk.store.records.KeyedBy (·.id) := by
    rintro _ ⟨⟩
    decide
  have hlogs : dealDesk.store.logs.KeyedBy (·.id) := by
    rintro _ ⟨⟩
    decide
  have hcap : 1 ≤ dealDesk.pageCap := by decide
  obtain ⟨rows, hshown⟩ := shown_dealTable
  exact ⟨(pages_cover hrecords hlogs hcap).1 dealTable _ rows 1 5 6 2 hshown (by decide),
    (pages_cover hrecords hlogs hcap).2 logRequest "t-1" none (some "matched") 1 dealLogs rfl rfl
      (by decide) (by decide) (by decide) (by decide)⟩

end

end RecordDesk.Api
