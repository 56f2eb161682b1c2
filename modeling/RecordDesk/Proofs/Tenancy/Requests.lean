import RecordDesk.Api
import RecordDesk.Proofs.Tenancy.Writes
set_option autoImplicit false

namespace RecordDesk

namespace Api

open Desk (Twins)

variable {tenant : String} {named : String → Prop} {own : List String} {α : Type} {P : Desk → Desk → Prop}

/-! Steps of the handling. -/

namespace Handling

theorem ofJob_run (refuse : Fault → Response) (job : Job α) (d : Desk) :
    (ofJob refuse job).run d = match job.run d with
    | (.ok a, d') => (.ok a, d')
    | (.error fault, d') => (.error (refuse fault), d') := rfl

theorem coupled_ofJob {Q : α → Desk → Desk → Prop} {E : Desk → Desk → Prop} {job job' : Job α}
    (refuse : Fault → Response) (h : Coupled P job.run job'.run (Coupled.Ending Q E)) :
    Coupled P (ofJob refuse job).run (ofJob refuse job').run (Coupled.Ending Q E) := by
  intro d d' hd
  obtain ⟨hanswer, hafter⟩ := h d d' hd
  rw [ofJob_run, ofJob_run]
  cases hj : job.run d with
  | mk r after =>
    cases hj' : job'.run d' with
    | mk r' after' =>
      rw [hj, hj'] at hanswer hafter
      obtain rfl : r = r' := hanswer
      cases r with
      | ok a => exact ⟨rfl, hafter⟩
      | error fault => exact ⟨rfl, hafter⟩

theorem alike_ofJob {job job' : Job α} (refuse : Fault → Response) (h : Alike P job.run job'.run) :
    Alike P (ofJob refuse job).run (ofJob refuse job').run :=
  Coupled.mono (coupled_ofJob refuse (.ending h fun _ _ h => h)) (fun _ _ h => h) fun r _ _ hr => by
    cases r <;> exact hr

theorem alike_ofExcept (x : Except Fault α) : Alike P (ofExcept x).run (ofExcept x).run := by
  cases x <;> exact .pure _

theorem alike_ofChecked (x : Checked α) : Alike P (ofChecked x).run (ofChecked x).run := by
  cases x <;> exact .pure _

end Handling

/-- Requests of a tenant in the name of certain users or of none. -/
structure Request.From (tenant : String) (named : String → Prop) (r : Request) : Prop where
  tenant : (r.header? "X-Tenant-Id").map strip = some tenant
  user : ∀ id, id ≠ "" → (r.header? "X-User-Id").map strip = some id → named id

theorem alike_form (r : Request) (read : Form.Reader α) : Alike P (r.form read).run (r.form read).run := by
  unfold Request.form
  split
  · exact .pure _
  · split
    · exact Handling.alike_ofChecked _
    · exact .pure _

theorem caller_of_header {r : Request} (htenant : (r.header? "X-Tenant-Id").map strip = some tenant)
    (hne : tenant ≠ "") (d : Desk) : r.caller.run d =
      (.ok ⟨tenant, ((r.header? "X-User-Id").map strip).filter (· != "")⟩, d) := by
  unfold Request.caller
  rw [htenant]
  split
  · contradiction
  · rename_i hempty
    exact absurd (Option.some.inj hempty) hne
  · rename_i hfound
    cases hfound
    rfl

theorem coupled_caller {r : Request} (hr : r.From tenant named) :
    Coupled P r.caller.run r.caller.run (Coupled.Ending (fun caller d d' => (caller.tenantId = tenant ∧
      ∀ id, id ≠ "" → caller.userId = some id → named id) ∧ P d d') P) := by
  unfold Request.caller
  rw [hr.tenant]
  split
  · exact fun d d' h => ⟨rfl, h⟩
  · exact fun d d' h => ⟨rfl, h⟩
  · rename_i id hne hid
    obtain rfl := Option.some.inj hid
    refine fun d d' h => ⟨rfl, ⟨rfl, fun user hne' huser => ?_⟩, h⟩
    obtain ⟨hheader, -⟩ := Option.filter_eq_some_iff.1 huser
    exact hr.user user hne' hheader

theorem alike_createRecord {r : Request} (hr : r.From tenant named) (entityId : String) :
    Alike (Twins tenant named own) (createRecord r entityId).run (createRecord r entityId).run := by
  refine Coupled.bindAlike (coupled_caller hr) fun caller => Coupled.facts fun hcaller => ?_
  obtain ⟨htenant, huser⟩ := hcaller
  refine Alike.bindExcept (alike_form r _) fun fields => ?_
  rw [htenant]
  refine Alike.bindExcept (Handling.alike_ofJob _ ?_) fun w => .pure _
  exact Ingest.Operation.alike_run huser entityId (.object fields) .create

theorem alike_updateRecord {r : Request} (hr : r.From tenant named) (entityId recordId : String) :
    Alike (Twins tenant named own) (updateRecord r entityId recordId).run
      (updateRecord r entityId recordId).run := by
  refine Coupled.bindAlike (coupled_caller hr) fun caller => Coupled.facts fun hcaller => ?_
  obtain ⟨htenant, huser⟩ := hcaller
  refine Alike.bindExcept (alike_form r _) fun fields => ?_
  rw [htenant]
  refine Alike.bindExcept (Handling.alike_ofJob _ ?_) fun w => .pure _
  exact Ingest.Operation.alike_run huser entityId (.object fields) (.update recordId .alike)

/-- How it is answered elsewhere that a write would not be accepted for an entity. -/
def refuseEntity : Fault → Response
  | .notFound _ => .refusal 404 "Entity not found"
  | _ => .broken

theorem entityOf_eq (tenantId entityId : String) :
    entityOf tenantId entityId = Handling.ofJob refuseEntity (Ingest.requireEntity tenantId entityId) := by
  funext d
  simp only [entityOf, Ingest.requireEntity, Handling.require, Handling.ofJob, bind, ExceptT.bind, ExceptT.mk,
    StateT.bind, Desk.query, Desk.ask, get, getThe, MonadStateOf.get, StateT.get, pure, StateT.pure]
  cases h : d.store.entity? entityId with
  | error fault =>
    have hrefuse : refuseEntity fault = .broken := by
      rw [Store.entity?, Table.read] at h
      split at h <;> cases h
      rfl
    show (Except.error Response.broken, d) = (Except.error (refuseEntity fault), d)
    rw [hrefuse]
  | ok found =>
    cases found with
    | none => rfl
    | some e => cases he : e.tenantId == tenantId <;> simp [ExceptT.bindCont, he] <;> rfl

theorem coupled_entityOf (entityId : String) :
    Coupled (Twins tenant named own) (entityOf tenant entityId).run (entityOf tenant entityId).run
      (Coupled.Ending (fun e d d' => e.id = entityId ∧ Twins tenant named (entityId :: own) d d')
        (Twins tenant named own)) := by
  rw [entityOf_eq]
  exact Handling.coupled_ofJob _ (Ingest.coupled_requireEntity entityId)

theorem alike_draftProblems {caller : Request.Caller} (hcaller : caller.tenantId = tenant) (draft : Draft) :
    Alike (Twins tenant named own) (draftProblems caller draft).run (draftProblems caller draft).run := by
  unfold draftProblems
  rw [hcaller]
  split
  · exact .pure _
  · exact .pure _
  · rename_i id _ _
    refine Coupled.bindAlike (coupled_entityOf id) fun entity => Coupled.facts fun hid => ?_
    rw [hid]
    have hfields : Alike (Twins tenant named (id :: own)) (Desk.query (·.entityFields id)).run
        (Desk.query (·.entityFields id)).run :=
      Desk.beside_query fun s s' h => h.same.entityFields_eq (h.owned id List.mem_cons_self)
    exact Coupled.mono (Alike.bindExcept (Handling.alike_ofJob _ hfields) fun fields => .pure _)
      (fun _ _ h => h) fun _ _ _ h => h.forget

theorem alike_testRule {r : Request} (hr : r.From tenant named) :
    Alike (Twins tenant named own) (testRule r).run (testRule r).run := by
  refine Coupled.bindAlike (coupled_caller hr) fun caller => Coupled.facts fun hcaller => ?_
  refine Alike.bindExcept (alike_form r _) fun draft => ?_
  refine Alike.bindExcept (alike_draftProblems hcaller.1 draft) fun warnings => ?_
  exact Alike.bindExcept (Handling.alike_ofExcept _) fun preview => .pure _

theorem alike_ruleLogs {r : Request} (hr : r.From tenant named) (query : Members) :
    Alike (Twins tenant named own) (ruleLogs r query).run (ruleLogs r query).run := by
  refine Coupled.bindAlike (coupled_caller hr) fun caller => Coupled.facts fun hcaller => ?_
  refine Alike.bindExcept (Handling.alike_ofChecked _) fun q => ?_
  dsimp only
  split
  · exact fun d d' h => ⟨rfl, h⟩
  · refine Job.coupled_get fun d d' hd => ?_
    rw [show d'.environment = d.environment by rw [hd.1], show d'.settings = d.settings by rw [hd.1]]
    have hlogs (wanted : LogRow → Bool) (hwanted : ∀ l, wanted l = true → l.tenantId = tenant) :
        Alike (Twins tenant named own) (Desk.query (·.latestLogs wanted)).run
          (Desk.query (·.latestLogs wanted)).run :=
      Desk.beside_query fun s s' h => h.same.latestLogs_eq hwanted
    refine Alike.bindExcept (R := Twins tenant named own) (Handling.alike_ofJob _ (hlogs _ fun l hl => ?_))
      (fun rows => ?_) d d' hd
    · simp only [Bool.and_eq_true, beq_iff_eq] at hl
      exact hl.1.1.trans hcaller.1
    · split <;> exact fun d d' h => ⟨rfl, h⟩

theorem alike_ofSpec {spec : Widget.Spec} (htenant : spec.tenantId = tenant) (hentity : spec.entityId ∈ own) :
    Alike (Twins tenant named own) (Widget.Data.ofSpec spec).run (Widget.Data.ofSpec spec).run := by
  have hfound : Alike (Twins tenant named own) (Desk.query (·.entity? spec.entityId)).run
      (Desk.query (·.entity? spec.entityId)).run := by
    refine Desk.beside_query fun s s' h => ?_
    obtain ⟨e, -, hleft, hright⟩ := h.same.entity?_eq h.sound h.sound' (h.owned _ hentity)
    rw [hleft, hright]
  have hfields : Alike (Twins tenant named own) (Desk.query (·.entityFields spec.entityId)).run
      (Desk.query (·.entityFields spec.entityId)).run :=
    Desk.beside_query fun s s' h => h.same.entityFields_eq (h.owned _ hentity)
  refine Alike.bindExcept hfound fun entity => ?_
  cases entity with
  | none => exact .pure _
  | some e =>
    refine Alike.bindExcept hfields fun fields => ?_
    refine Job.coupled_get fun d d' hd => ?_
    dsimp only
    rw [show d'.environment = d.environment by rw [hd.1], show d'.settings = d.settings by rw [hd.1],
      show d'.now = d.now by rw [hd.1]]
    refine Coupled.bindAlike (P := Twins tenant named own) (Job.coupled_lift _)
      (fun plan => Coupled.facts fun hplan => ?_) d d' hd
    refine Alike.bindExcept (Job.alike_liftState (Desk.storeless_log _).beside) fun _ => ?_
    refine Desk.beside_query fun s s' h => h.same.ofPlan_eq h.users h.made fun p hp => ?_
    rw [Widget.Plan.ofSpec_tenant hplan p hp, htenant]

theorem alike_widgetData {r : Request} (hr : r.From tenant named) :
    Alike (Twins tenant named own) (widgetData r).run (widgetData r).run := by
  refine Coupled.bindAlike (coupled_caller hr) fun caller => Coupled.facts fun hcaller => ?_
  refine Alike.bindExcept (alike_form r _) fun spec => ?_
  dsimp only
  rw [hcaller.1]
  split
  · exact fun d d' h => ⟨rfl, h⟩
  · rename_i hspec
    have htenant : spec.tenantId = tenant := by simpa using hspec
    refine Coupled.bindAlike (coupled_entityOf spec.entityId) fun entity => Coupled.facts fun _ => ?_
    have hdata : Alike (Twins tenant named (spec.entityId :: own)) (Widget.Data.ofSpec spec).run
        (Widget.Data.ofSpec spec).run := alike_ofSpec htenant List.mem_cons_self
    refine Coupled.mono (Alike.bindExcept (Job.alike_liftState hdata) fun data => ?_) (fun _ _ h => h)
      fun _ _ _ h => h.forget
    split
    · exact .pure _
    · exact .bindExcept (Job.alike_liftState (Desk.storeless_log _).beside) fun _ => .pure _
    · exact .pure _

theorem alike_logAll (entries : List Log.Entry) : Alike (Twins tenant named own)
    (entries.forM fun entry => liftM (Desk.log entry) : Handling Unit).run
    (entries.forM fun entry => liftM (Desk.log entry) : Handling Unit).run := by
  induction entries with
  | nil => exact .pure _
  | cons entry rest ih =>
    exact .bindExcept (Job.alike_liftState (Desk.storeless_log entry).beside) fun _ => ih

theorem alike_health : Alike (Twins tenant named own) health.run health.run := by
  unfold health
  refine Job.coupled_get fun d d' hd => ?_
  rw [show d'.environment = d.environment by rw [hd.1]]
  generalize Settings.stage d.environment = staged
  obtain ⟨stage, said⟩ := staged
  dsimp only
  exact Alike.bindExcept (R := Twins tenant named own) (alike_logAll said) (fun _ => .pure _) d d' hd

theorem alike_handle {r : Request} (hr : r.From tenant named) (a : Address) (route : Route) :
    Alike (Twins tenant named own) (handle r a route).run (handle r a route).run := by
  cases route with
  | health => exact alike_health
  | records entityId => exact alike_createRecord hr entityId
  | record entityId recordId => exact alike_updateRecord hr entityId recordId
  | ruleTest => exact alike_testRule hr
  | ruleLogs => exact alike_ruleLogs hr _
  | widgetData => exact alike_widgetData hr
  | guide => exact .pure _

theorem alike_respond {r : Request} (hr : r.From tenant named) (place : Option (Route × Address)) :
    Alike (Twins tenant named own) (respond r place) (respond r place) := by
  cases place with
  | none => exact .pure _
  | some place =>
    obtain ⟨route, a⟩ := place
    unfold respond
    dsimp only
    split
    · exact .pure _
    · refine .bind (alike_handle hr a route) fun response => ?_
      cases response <;> exact .pure _

theorem headers_of_sent {r r' : Request} (h : r.sent = .ok r') : r'.headers = r.headers := by
  unfold Request.sent at h
  split at h
  · cases h
  · split at h
    · cases h
    · cases h
      rfl

theorem Request.From.sent {r r' : Request} (hr : r.From tenant named) (h : r.sent = .ok r') :
    r'.From tenant named := by
  have hheader (name : String) : r'.header? name = r.header? name := by
    rw [Request.header?, Request.header?, headers_of_sent h]
  exact ⟨hheader _ ▸ hr.tenant, hheader "X-User-Id" ▸ hr.user⟩

/-- Every request of the tenant is answered alike at twin desks, and leaves them twins. -/
theorem alike_answer {r : Request} (hr : r.From tenant named) :
    Alike (Twins tenant named own) (answer r).run (answer r).run := by
  refine Coupled.bindAlike (Job.coupled_lift _) fun a => Coupled.facts fun _ => ?_
  refine Coupled.bindAlike (Job.coupled_lift _) fun r' => Coupled.facts fun hsent => ?_
  refine Coupled.bindAlike (Job.coupled_lift _) fun place => Coupled.facts fun _ => ?_
  exact Alike.bindExcept (Job.alike_liftState (alike_respond (hr.sent hsent) place)) fun response => .pure _

end Api

end RecordDesk
