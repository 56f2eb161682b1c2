import RecordDesk.Proofs.Rule.Stages
import RecordDesk.Proofs.Tenancy.Requests
set_option autoImplicit false

/-!
How far a tenant is isolated from the others. What it sees and does depends on rows of its own, and on
nothing else of the store but the users behind the names that it acts in. Whoever can be named can be seen:
the isolation holds for just those names that no other tenant's user goes by.
-/

namespace RecordDesk

/-- A text that a header hands over as it is, and that is not taken for a missing one. -/
structure Api.Sendable (s : String) : Prop where
  ascii : isAscii s = true
  stripped : strip s = s
  nonempty : s ≠ ""

/-- Desks that differ in rows of other tenants at most. -/
structure Desk.SameFor (tenant : String) (d d' : Desk) : Prop where
  outside : d' = { d with store := d'.store }
  rows : d.store.SameFor tenant d'.store
  sound : d.store.SoundFor tenant
  sound' : d'.store.SoundFor tenant

/-- A request was answered alike, had the same calls, notifications and log entries for a consequence, and
left the same rows of the tenant's behind. -/
structure Api.SameOutcome (tenant : String) (x x' : Except Fault Api.Response × Desk) : Prop where
  answer : x.1 = x'.1
  outside : x'.2 = { x.2 with store := x'.2.store }
  rows : x.2.store.SameFor tenant x'.2.store

namespace Api

variable {tenant : String} {named : String → Prop}

/-- Where the users behind the names are the same, nothing of other tenants is seen. -/
theorem sameOutcome_of_seen {d d' : Desk} {r : Request} (hd : d.SameFor tenant d')
    (hmade : d.store.MadeBy tenant named) (hr : r.From tenant named)
    (hseen : d.store.SameUsers named d'.store) :
    SameOutcome tenant ((answer r).run d) ((answer r).run d') := by
  have htwins : Desk.Twins tenant named [] d d' :=
    ⟨hd.outside, hd.rows, hd.sound, hd.sound', hseen, hmade, by simp⟩
  obtain ⟨hanswer, houtside, hstores⟩ := alike_answer hr d d' htwins
  exact ⟨hanswer, houtside, hstores.same⟩

/-! A desk at which a tenant learns who a user is: the maker of a record is kept, and a rule reports the
name and the address of the acting user. -/

section

def tagging (value : String) : Document :=
  .object [("type", .text "tag"), ("field", .text "by"), ("value", .text value)]

def reporter : Rule := ⟨"r", "R", .list [],
    .list [tagging "\x7b\x7buser.name\x7d\x7d", tagging "\x7b\x7buser.email\x7d\x7d"]⟩

def tagged (value : String) : Action.Result :=
  .ok "tag" [("field", .text "by"), ("value", .text value), ("operation", .text "set")]

def report (user : UserRef) : Rule.Evaluation :=
  ⟨true, 0, 0, 2, 0, [Rule.detailsMember [], ("action_results",
      .list [(tagged user.name).toDocument, (tagged user.email).toDocument])]⟩

theorem interpolate_name (c : Context) : Template.interpolate c.scope "\x7b\x7buser.name\x7d\x7d" =
    c.user.name := by
  have h : Template.interpolate c.scope "\x7b\x7buser.name\x7d\x7d" =
    String.ofList (c.user.name.toList ++ []) := rfl
  rw [h, List.append_nil, String.ofList_toList]

theorem interpolate_email (c : Context) : Template.interpolate c.scope "\x7b\x7buser.email\x7d\x7d" =
    c.user.email := by
  have h : Template.interpolate c.scope "\x7b\x7buser.email\x7d\x7d" =
    String.ofList (c.user.email.toList ++ []) := rfl
  rw [h, List.append_nil, String.ofList_toList]

theorem evaluate_reporter (c : Context) (d : Desk) : ∃ logs, Rule.evaluate Desk.surroundings reporter c d =
    (.ok (report c.user), { d with logs := logs }) := by
  rw [report, ← interpolate_name c, ← interpolate_email c]
  exact ⟨_, rfl⟩

theorem report_injective {user user' : UserRef}
    (h : (Document.object (report user).output).writable.toDocument
      = (Document.object (report user').output).writable.toDocument) :
    user.name = user'.name ∧ user.email = user'.email := by
  simpa [report, tagged, Rule.detailsMember, Action.Result.ok, Action.Result.toDocument, Document.writable,
    Document.writableItems, Document.writableMembers, Value.toDocument, Value.toItems,
    Value.toMembers] using h

def reporterRow (tenant : String) : RuleRow :=
  ⟨"r", tenant, "e", "R", reporter.conditions, reporter.actions, "both", true, ⟨0, none⟩⟩

def watched (tenant : String) (users : Table UserRow) : Store where
  tenants := ⟨"tenants", some [⟨tenant, "T"⟩]⟩
  users := users
  entities := ⟨"entities", some [⟨"e", tenant, "E", "e"⟩]⟩
  rules := ⟨"rules", some [reporterRow tenant]⟩

def watchedDesk (tenant : String) (users : Table UserRow) : Desk :=
  { store := watched tenant users, now := ⟨0, none⟩ }

variable {users users' : Table UserRow} {id : String} {found : Option UserRef}

theorem activeRules_of_watched {s : Store} (h : s.rules = ⟨"rules", some [reporterRow tenant]⟩) :
    s.activeRules tenant "e" "create" = .ok [reporter] := by
  have hfilter : List.filter (fun r : RuleRow => r.tenantId == tenant && r.entityId == "e" && r.isActive
      && (r.runOn == "create" || r.runOn == "both")) [reporterRow tenant] = [reporterRow tenant] := by
    simp [reporterRow]
  rw [Store.activeRules, h]
  show ((List.filter _ [reporterRow tenant]).mergeSort _).mapM _ = _
  rw [hfilter, List.mergeSort_singleton]
  rfl

theorem tenant?_of_watched {s : Store} (h : s.tenants = ⟨"tenants", some [⟨tenant, "T"⟩]⟩) :
    s.tenant? tenant = .ok (some ⟨tenant, "T"⟩) := by
  simp [Store.tenant?, Table.read, h]

def creationBy (tenant id : String) (r : Snapshot) : Rule.Event := ⟨tenant, "e", r, "create", some id⟩

theorem applyAll_watched (hid : id ≠ "") (hseen : users.seen id = .ok found) {r : Snapshot} {d : Desk}
    (hstore : d.store = { watched tenant users with records := d.store.records, named := d.store.named }) :
    (Rule.applyAll Desk.surroundings (creationBy tenant id r) d).2.store.logs.rows
      = some [Desk.logRow d ⟨tenant, "r", r.id, .matched, (report (found.getD .system)).output⟩] := by
  have hrules : Desk.surroundings.activeRules tenant "e" "create" d = (.ok [reporter], d) :=
    Prod.ext (activeRules_of_watched (by rw [hstore]; rfl)) rfl
  have htenant : Desk.surroundings.tenant tenant d = (.ok (some ⟨tenant, "T"⟩), d) := by
    refine Prod.ext ?_ rfl
    show (d.store.tenant? tenant).map _ = _
    rw [tenant?_of_watched (by rw [hstore]; rfl)]
    rfl
  have hentity : Desk.surroundings.entity "e" d = (.ok (some ⟨"e", "E", "e"⟩), d) := by
    refine Prod.ext ?_ rfl
    show (d.store.entity? "e").map _ = _
    rw [hstore]
    rfl
  have huser : Desk.surroundings.user id d = (.ok found, d) := by
    refine Prod.ext ?_ rfl
    show (d.store.user? id).map (·.map UserRow.ref) = _
    rw [Store.user?_seen, hstore]
    exact hseen
  have hscope := Rule.scope_found (e := creationBy tenant id r) htenant hentity
  have hactor : Rule.actor Desk.surroundings (creationBy tenant id r).userId d = (found.getD .system, d) :=
    Rule.actor_known rfl hid huser
  obtain ⟨logs, hevaluate⟩ :=
    evaluate_reporter (Rule.contextOf (creationBy tenant id r) ⟨tenant, "T"⟩ ⟨"e", "E", "e"⟩
    (found.getD .system) reporter) d
  have hlogs : d.store.logs = ⟨"rule_logs", some []⟩ := by rw [hstore]; rfl
  rw [Rule.applyAll_scoped (e := creationBy tenant id r) hrules hscope hactor]
  dsimp only
  rw [Rule.applyEach_cons (Rule.applyOne_decided hevaluate)]
  refine (Rule.conclude_view (fun d : Desk => d.store.logs.rows) (fun _ _ => rfl) _ _ _).trans ?_
  rw [show Desk.surroundings.persist = Desk.persist from rfl, Desk.persist_eq, hlogs]
  rfl

def created (tenant id : String) (found : Option UserRef) : RecordRow :=
  ⟨Store.rowName 1, tenant, "e", .object [], found.map fun _ => id, (⟨0, none⟩ : Moment).naive, none⟩

def createdDesk (tenant : String) (users : Table UserRow) (id : String) (found : Option UserRef) : Desk :=
  { watchedDesk tenant users with
    store := { watched tenant users with
      named := 1
      records := ⟨"entity_records", some [created tenant id found]⟩ } }

theorem store_watched (hid : id ≠ "") (hseen : users.seen id = .ok found) :
    ((Ingest.Operation.create).store tenant "e" (.object []) (some id)).run (watchedDesk tenant users)
      = (.ok (created tenant id found), createdDesk tenant users id found) := by
  have hentity : (Ingest.requireEntity tenant "e").run (watchedDesk tenant users)
      = (.ok ⟨"e", tenant, "E", "e"⟩, watchedDesk tenant users) := by
    refine Prod.ext ?_ (Ingest.looks_requireEntity tenant "e" _)
    have hfound : (watchedDesk tenant users).store.entity? "e" = .ok (some ⟨"e", tenant, "E", "e"⟩) := rfl
    rw [Ingest.requireEntity_run, hfound]
    simp [Except.map, Option.filter]
  have huser : (Ingest.knownUser (some id)).run (watchedDesk tenant users)
      = (.ok (found.map fun _ => id), watchedDesk tenant users) := by
    rw [Ingest.knownUser_run hid rfl, show (watchedDesk tenant users).store.users = users from rfl, hseen]
    rfl
  rw [Ingest.Operation.store, Job.run_bind hentity]
  refine (Job.run_bind huser).trans ?_
  rfl

theorem create_watched (tenant : String) (hid : id ≠ "") (hseen : users.seen id = .ok found) {s : Store}
    (hs : s = ((Ingest.create Ingest.standardEngine tenant "e" (.object []) (some id)).run
      (watchedDesk tenant users)).2.store) :
    s.records.rows = some [created tenant id found] ∧
    s.logs.rows = some [Desk.logRow (createdDesk tenant users id found)
      ⟨tenant, "r", Store.rowName 1, .matched, (report (found.getD .system)).output⟩] := by
  have hrules : s = (Ingest.applyRules Ingest.standardEngine (created tenant id found) "create" (some id)
      (createdDesk tenant users id found)).2.store := by
    have hrun := Ingest.Operation.run_eq Ingest.standardEngine tenant "e" (.object []) (some id) .create
    rw [hs, show Ingest.create _ _ _ _ _ = _ from hrun, Job.run_bind (store_watched hid hseen)]
    rfl
  have hkeeps := Ingest.keeps_applyRules Desk.frame_logsOnly Ingest.keeps_standardEngine Desk.keeps_log
    (created tenant id found) "create" (some id) (createdDesk tenant users id found)
  constructor
  · rw [hrules, hkeeps.records]
    rfl
  · rw [hrules, Ingest.applyRules_store]
    exact applyAll_watched hid hseen rfl

theorem found_id {user : UserRef} (h : users.seen id = .ok (some user)) : user.id = id := by
  rw [Table.seen] at h
  cases hrows : users.read with
  | error fault => rw [hrows] at h; cases h
  | ok rows =>
    rw [hrows] at h
    obtain ⟨u, hu, rfl⟩ := Option.map_eq_some_iff.1 (Except.ok.inj h)
    have hid := List.find?_some hu
    exact eq_of_beq hid

theorem seen_of_create (hid : id ≠ "") {found' : Option UserRef} (hseen : users.seen id = .ok found)
    (hseen' : users'.seen id = .ok found')
    (hsame : Store.SameFor tenant
      ((Ingest.create Ingest.standardEngine tenant "e" (.object []) (some id)).run
        (watchedDesk tenant users)).2.store
      ((Ingest.create Ingest.standardEngine tenant "e" (.object []) (some id)).run
        (watchedDesk tenant users')).2.store) :
    found = found' := by
  obtain ⟨hrecords, hlogs⟩ := create_watched tenant hid hseen rfl
  obtain ⟨hrecords', hlogs'⟩ := create_watched tenant hid hseen' rfl
  have hmaker := Table.rows_of_only hsame.records
  have hreport := Table.rows_of_only hsame.logs
  rw [hrecords, hrecords'] at hmaker
  rw [hlogs, hlogs'] at hreport
  simp only [created, Desk.logRow, Option.map_some, List.filter_cons, List.filter_nil,
    beq_self_eq_true, if_true, Option.some.injEq, List.cons.injEq, RecordRow.mk.injEq, LogRow.mk.injEq,
    and_true, true_and] at hmaker hreport
  obtain ⟨hname, hemail⟩ := report_injective hreport.2.1
  cases found with
  | none =>
    cases found' with
    | none => rfl
    | some user' => cases hmaker
  | some user =>
    cases found' with
    | none => cases hmaker
    | some user' =>
      have huserId : user.id = user'.id := (found_id hseen).trans (found_id hseen').symm
      cases user
      cases user'
      cases huserId
      cases hname
      cases hemail
      rfl

/-! The request that has the record created. -/

def creation (tenant id : String) : Request :=
  ⟨"POST", "/api/v1/entities/e/records", [("X-Tenant-Id", tenant), ("X-User-Id", id)],
    .object [("fields", .object [])]⟩

def recordsPath : List Char := "/api/v1/entities/e/records".toList

theorem unescaped_recordsPath : (Address.unescaped recordsPath).toList = recordsPath := by
  have hbytes : Address.bytes recordsPath =
    [47, 97, 112, 105, 47, 118, 49, 47, 101, 110, 116, 105, 116, 105, 101, 115,
    47, 101, 47, 114, 101, 99, 111, 114, 100, 115] := by
    change Address.bytes ['/', 'a', 'p', 'i', '/', 'v', '1', '/', 'e', 'n', 't', 'i', 't', 'i', 'e',
      's', '/', 'e', '/', 'r', 'e', 'c', 'o', 'r', 'd', 's'] = _
    cbv
  rw [Address.unescaped, hbytes]
  rfl

theorem read_recordsAddress : Address.read "/api/v1/entities/e/records" = .ok ⟨recordsPath, []⟩ := by
  have hread : Address.read "/api/v1/entities/e/records" = .ok (Address.ofPath recordsPath []) := by rfl
  rw [hread, Address.ofPath, unescaped_recordsPath, unescaped_recordsPath]

theorem place_recordsAddress : Route.ofAddress ⟨recordsPath, []⟩ =
    .ok (some (.records "e", ⟨recordsPath, []⟩)) := by
  rfl

theorem sent_creation (ht : Sendable tenant) (hid : Sendable id) :
    (creation tenant id).sent = .ok (creation tenant id) := by
  have htenantName : isAscii "X-Tenant-Id" = true := rfl
  have huserName : isAscii "X-User-Id" = true := rfl
  have hbody : unsendable? (creation tenant id).body = none := rfl
  rw [Request.sent, hbody]
  simp only [creation, List.any_cons, List.any_nil, htenantName, huserName, ht.ascii, hid.ascii]
  rfl

theorem tenantHeader_creation (tenant id : String) : (creation tenant id).header? "X-Tenant-Id" =
    some tenant := by
  rw [Request.header?, creation, List.find?_cons, beq_self_eq_true, Option.map_some]

theorem userHeader_creation (tenant id : String) : (creation tenant id).header? "X-User-Id" = some id := by
  have hnames : (lower "X-Tenant-Id" == lower "X-User-Id") = false := by rfl
  rw [Request.header?, creation, List.find?_cons, hnames, List.find?_cons, beq_self_eq_true, Option.map_some]

theorem caller_creation (ht : Sendable tenant) (hid : Sendable id) (d : Desk) :
    (creation tenant id).caller.run d = (.ok ⟨tenant, some id⟩, d) := by
  have htenant : ((creation tenant id).header? "X-Tenant-Id").map strip = some tenant := by
    rw [tenantHeader_creation, Option.map_some, ht.stripped]
  rw [caller_of_header htenant ht.nonempty, userHeader_creation, Option.map_some, hid.stripped,
    Option.filter_some, if_pos (bne_iff_ne.2 hid.nonempty)]

theorem form_creation (tenant id : String) (d : Desk) : ((creation tenant id).form recordForm).run d =
    (.ok [], d) := by
  have htenant : (lower "X-Tenant-Id" == lower "Content-Type") = false := by rfl
  have huser : (lower "X-User-Id" == lower "Content-Type") = false := by rfl
  have hheader : (creation tenant id).header? "Content-Type" = none := by
    rw [Request.header?, creation, List.find?_cons, htenant, List.find?_cons, huser]
    rfl
  have hsends : (creation tenant id).sendsDocument = true := by rw [Request.sendsDocument, hheader]
  unfold Request.form
  rw [hsends]
  rfl

theorem createRecord_creation (ht : Sendable tenant) (hid : Sendable id) (d : Desk) :
    ((createRecord (creation tenant id) "e").run d).2
      = ((Ingest.create Ingest.standardEngine tenant "e" (.object []) (some id)).run d).2 := by
  rw [createRecord, Job.run_bind (caller_creation ht hid d), Job.run_bind (form_creation tenant id d),
    Job.run_bind_desk (fun _ _ => rfl), Handling.ofJob_run]
  split <;> simp only [*]

theorem respond_desk {r : Request} {route : Route} {a : Address}
    (h : route.methods.contains r.method = true) (d : Desk) :
    (respond r (some (route, a)) d).2 = ((handle r a route).run d).2 := by
  simp only [respond, h, Bool.not_true, Bool.false_eq_true, if_false, bind, StateT.bind]
  rcases (handle r a route).run d with ⟨answered, d'⟩
  cases answered with
  | ok response => rfl
  | error response => rfl

theorem answer_creation (ht : Sendable tenant) (hid : Sendable id) (d : Desk) :
    ((answer (creation tenant id)).run d).2
      = ((Ingest.create Ingest.standardEngine tenant "e" (.object []) (some id)).run d).2 := by
  have hread : (liftM (Address.read (creation tenant id).address) : Job Address).run d =
      (.ok ⟨recordsPath, []⟩, d) := by
    rw [show (creation tenant id).address = "/api/v1/entities/e/records" from rfl, read_recordsAddress]
    rfl
  have hsent : (liftM (creation tenant id).sent : Job Request).run d = (.ok (creation tenant id), d) := by
    rw [sent_creation ht hid]
    rfl
  have hplace : (liftM (Route.ofAddress ⟨recordsPath, []⟩) : Job (Option (Route × Address))).run d
      = (.ok (some (.records "e", ⟨recordsPath, []⟩)), d) := by
    rw [place_recordsAddress]
    rfl
  have hmethod : (Route.records "e").methods.contains (creation tenant id).method = true := rfl
  rw [answer, Job.run_bind hread, Job.run_bind hsent, Job.run_bind hplace, Job.run_bind_desk fun _ _ => rfl,
    Job.run_liftState, respond_desk hmethod, handle]
  exact createRecord_creation ht hid d

theorem creation_from (ht : Sendable tenant) (hid : Sendable id) (hnamed : named id) :
    (creation tenant id).From tenant named := by
  refine ⟨by rw [tenantHeader_creation, Option.map_some, ht.stripped], fun user _ huser => ?_⟩
  rw [userHeader_creation, Option.map_some, hid.stripped] at huser
  exact Option.some.inj huser ▸ hnamed

theorem sameFor_watched (hown : users.only (·.tenantId == tenant) = users'.only (·.tenantId == tenant)) :
    (watchedDesk tenant users).SameFor tenant (watchedDesk tenant users') := by
  have hsound (users : Table UserRow) : (watched tenant users).SoundFor tenant := by
    constructor
    all_goals
      intro rows hrows
      cases hrows
      simp
  refine ⟨?_, ⟨rfl, hown, rfl, rfl, rfl, rfl, rfl, rfl⟩, hsound users, hsound users'⟩
  dsimp only [watchedDesk]

theorem seen_of_outcome (ht : Sendable tenant) (hid : Sendable id)
    (hown : users.only (·.tenantId == tenant) = users'.only (·.tenantId == tenant))
    (h : SameOutcome tenant ((answer (creation tenant id)).run (watchedDesk tenant users))
      ((answer (creation tenant id)).run (watchedDesk tenant users'))) : users.seen id = users'.seen id := by
  have hrows := h.rows
  rw [answer_creation ht hid, answer_creation ht hid] at hrows
  rcases Table.rows_both hown with ⟨hnone, hnone'⟩ | ⟨rows, rows', hsome, hsome', -⟩
  · rw [Table.seen, Table.seen, Table.read, Table.read, hnone, hnone', Table.name_of_only hown]
  · have hseen : users.seen id = .ok ((rows.find? (·.id == id)).map UserRow.ref) := by
      rw [Table.seen, Table.read_of_rows hsome]
      rfl
    have hseen' : users'.seen id = .ok ((rows'.find? (·.id == id)).map UserRow.ref) := by
      rw [Table.seen, Table.read_of_rows hsome']
      rfl
    rw [hseen, hseen', seen_of_create hid.nonempty hseen hseen' hrows]

/-- The isolation of a tenant from all users but those of certain names comes to this: these names lead to
the same users. -/
theorem isolated_iff (named : String → Prop) (ht : Sendable tenant) (hsendable : ∀ id, named id → Sendable id)
    (hown : users.only (·.tenantId == tenant) = users'.only (·.tenantId == tenant)) :
    (∀ (d d' : Desk) (r : Request), d.SameFor tenant d' → d.store.users = users → d'.store.users = users' →
        d.store.MadeBy tenant named → r.From tenant named →
        SameOutcome tenant ((answer r).run d) ((answer r).run d')) ↔
      ∀ id, named id → users.seen id = users'.seen id := by
  constructor
  · intro hisolated id hid
    have hsame := hisolated (watchedDesk tenant users) (watchedDesk tenant users') (creation tenant id)
      (sameFor_watched hown) rfl rfl (by rintro rows hrows; cases hrows; simp)
      (creation_from ht (hsendable id hid) hid)
    exact seen_of_outcome ht (hsendable id hid) hown hsame
  · rintro hseen d d' r hd rfl rfl hmade hr
    exact sameOutcome_of_seen hd hmade hr hseen

/-! A tenant with one user, and another tenant's user beside it. -/

def ownUser : UserRow := ⟨"u1", "t-1", "Ann", "ann@t-1"⟩

def strangeUser : UserRow := ⟨"u2", "t-2", "Eve", "eve@t-2"⟩

theorem sendable_tenant : Sendable "t-1" := ⟨rfl, rfl, by decide⟩

/-- Acting in the name of its own user the tenant sees nothing of the other one. -/
theorem stranger_unseen : SameOutcome "t-1"
    ((answer (creation "t-1" "u1")).run (watchedDesk "t-1" ⟨"users", some [ownUser]⟩))
    ((answer (creation "t-1" "u1")).run (watchedDesk "t-1" ⟨"users", some [ownUser, strangeUser]⟩)) := by
  have hown : (⟨"users", some [ownUser]⟩ : Table UserRow).only (·.tenantId == "t-1")
      = (⟨"users", some [ownUser, strangeUser]⟩ : Table UserRow).only (·.tenantId == "t-1") := rfl
  have hid : Sendable "u1" := ⟨rfl, rfl, by decide⟩
  refine (isolated_iff (· = "u1") sendable_tenant ?_ hown).2 ?_ _ _ _ (sameFor_watched hown) rfl rfl
    (by rintro rows hrows; cases hrows; simp) (creation_from sendable_tenant hid rfl)
  · rintro id rfl
    exact hid
  · rintro id rfl
    rfl

/-- A user of another tenant can be named, and the records of the tenant then tell that there is such a
user. -/
theorem stranger_seen : ¬ ∀ (tenant : String) (d d' : Desk) (r : Request), d.SameFor tenant d' →
    (r.header? "X-Tenant-Id").map strip = some tenant →
    SameOutcome tenant ((answer r).run d) ((answer r).run d') := by
  intro hisolated
  have hid : Sendable "u2" := ⟨rfl, rfl, by decide⟩
  have hrows := (hisolated "t-1" (watchedDesk "t-1" ⟨"users", some [ownUser]⟩)
    (watchedDesk "t-1" ⟨"users", some [ownUser, strangeUser]⟩) (creation "t-1" "u2") (sameFor_watched rfl)
    (by rw [tenantHeader_creation, Option.map_some, sendable_tenant.stripped])).rows
  rw [answer_creation sendable_tenant hid, answer_creation sendable_tenant hid] at hrows
  cases seen_of_create hid.nonempty rfl rfl hrows

end

end Api

end RecordDesk
