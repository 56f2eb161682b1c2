import RecordDesk.Proofs.Desk.Steps
import RecordDesk.Proofs.Ingest.Stored
import RecordDesk.Proofs.Tenancy.Twins
set_option autoImplicit false

namespace RecordDesk

variable {tenant : String} {named : String → Prop} {own : List String}

namespace Job

variable {α : Type} {P : Desk → Desk → Prop}

theorem coupled_lift (x : Except Fault α) : Coupled P (liftM x : Job α).run (liftM x : Job α).run
    (Coupled.Ending (fun a d d' => x = .ok a ∧ P d d') P) := by
  cases x with
  | ok a => exact fun _ _ hd => ⟨rfl, rfl, hd⟩
  | error fault => exact fun _ _ hd => ⟨rfl, hd⟩

theorem coupled_get {ε : Type} {Q : Except ε α → Desk → Desk → Prop} {f f' : Desk → ExceptT ε (StateM Desk) α}
    (h : ∀ d d', P d d' → ((f d).run d).1 = ((f' d').run d').1 ∧
      Q ((f d).run d).1 ((f d).run d).2 ((f' d').run d').2) :
    Coupled P (do let d ← get; f d : ExceptT ε (StateM Desk) α).run
    (do let d ← get; f' d : ExceptT ε (StateM Desk) α).run Q :=
  h

theorem alike_liftState {ε : Type} {m m' : StateM Desk α} (h : Alike P m m') :
    Alike P (liftM m : ExceptT ε (StateM Desk) α).run (liftM m' : ExceptT ε (StateM Desk) α).run :=
  fun d d' hd => ⟨congrArg Except.ok (h d d' hd).1, (h d d' hd).2⟩

end Job

namespace Desk

abbrev Twins (tenant : String) (named : String → Prop) (own : List String) : Desk → Desk → Prop :=
  Beside (Store.Twins tenant named own)

theorem Twins.forget {id : String} {d d' : Desk} (h : Twins tenant named (id :: own) d d') :
    Twins tenant named own d d' :=
  ⟨h.1, h.2.forget⟩

theorem alike_persist {x : Rule.Execution} (hx : x.tenantId = tenant) :
    Alike (Twins tenant named own) (persist x) (persist x) := by
  rintro d d' ⟨hrest, h⟩
  have hrow : logRow d' x = logRow d x := by
    rw [hrest, logRow, logRow]
    dsimp only
    rw [h.same.named]
  rw [persist_eq, persist_eq, hrow]
  rcases Table.insert_same (·.id == ·.id) (logRow d x) h.same.logs (h.sound.log_ne_next rfl)
    (h.sound'.log_ne_next h.same.named.symm)
      with ⟨fault, hinsert, hinsert'⟩ | ⟨rows, rows', hrows, hrows', hinsert, hinsert'⟩
  · rw [hinsert, hinsert']
    exact ⟨rfl, by rw [hrest], h.withName⟩
  · rw [hinsert, hinsert']
    exact ⟨rfl, by rw [hrest], h.withName.addLog hrows hrows' hx⟩

theorem alike_surroundings {e : Rule.Event} (htenant : e.tenantId = tenant) (hentity : e.entityId ∈ own)
    (huser : ∀ id, id ≠ "" → e.userId = some id → named id) :
    surroundings.Alike (Twins tenant named own) e surroundings where
  nans := rfl
  tenant := by
    rw [htenant]
    refine beside_ask fun s s' h => ?_
    rw [h.same.tenant?_eq]
  entity := by
    refine beside_ask fun s s' h => ?_
    obtain ⟨entity, -, hfound, hfound'⟩ := h.same.entity?_eq h.sound h.sound' (h.owned e.entityId hentity)
    rw [hfound, hfound']
  user id hne hid := by
    refine beside_ask fun s s' h => ?_
    have hseen := h.users id (huser id hne hid)
    rw [← Store.user?_seen, ← Store.user?_seen] at hseen
    exact hseen
  persist x hx _ := alike_persist (hx.trans htenant)
  execute d c := (storeless_execute d c).beside
  log entry := (storeless_log entry).beside

end Desk

namespace Ingest

open Desk (Twins)

theorem alike_standardEngine {e : Rule.Event} (htenant : e.tenantId = tenant) (hentity : e.entityId ∈ own)
    (huser : ∀ id, id ≠ "" → e.userId = some id → named id) :
    Alike (Twins tenant named own) (standardEngine e) (standardEngine e) := by
  refine Rule.alike_applyAll (Desk.alike_surroundings htenant hentity huser) ?_
  rw [htenant]
  exact Desk.beside_ask fun s s' h => h.same.activeRules_eq e.entityId e.operation

theorem alike_applyRules {r : RecordRow} {userId : Option String} (operation : String)
    (htenant : r.tenantId = tenant) (hentity : r.entityId ∈ own)
    (huser : ∀ id, id ≠ "" → userId = some id → named id) :
    Alike (Twins tenant named own) (applyRules standardEngine r operation userId)
      (applyRules standardEngine r operation userId) := by
  have hask : Alike (Twins tenant named own) (askEngine standardEngine r operation userId)
      (askEngine standardEngine r operation userId) := by
    unfold askEngine
    split
    · exact alike_standardEngine htenant hentity huser
    · exact .pure _
  refine .bind hask fun answer => ?_
  cases answer with
  | ok batch => exact .pure _
  | error fault => exact .bind (Desk.storeless_log _).beside fun _ => .pure _

theorem requireEntity_run (entityId : String) (d : Desk) : ((requireEntity tenant entityId).run d).1
    = match (d.store.entity? entityId).map (·.filter (·.tenantId == tenant)) with
      | .ok (some e) => .ok e
      | .ok none => .error (.notFound "Entity")
      | .error fault => .error fault := by
  unfold requireEntity
  change (ExceptT.bindCont (m := StateM Desk) _ (d.store.entity? entityId) d).1 = _
  cases d.store.entity? entityId with
  | error fault => rfl
  | ok found =>
    cases found with
    | none => rfl
    | some e =>
      cases he : e.tenantId == tenant with
      | true => simp [ExceptT.bindCont, Except.map, Option.filter, he]; rfl
      | false => simp [ExceptT.bindCont, Except.map, Option.filter, he]; rfl

theorem coupled_requireEntity (entityId : String) :
    Coupled (Twins tenant named own) (requireEntity tenant entityId).run (requireEntity tenant entityId).run
      (Coupled.Ending (fun e d d' => e.id = entityId ∧ Twins tenant named (entityId :: own) d d')
        (Twins tenant named own)) := by
  intro d d' h
  have hd := looks_requireEntity tenant entityId d
  have hd' := looks_requireEntity tenant entityId d'
  refine ⟨?_, ?_⟩
  · rw [requireEntity_run, requireEntity_run, h.2.same.ownEntity_eq h.2.sound h.2.sound']
  · rw [hd, hd']
    cases hr : (requireEntity tenant entityId).run d with
    | mk r after =>
      cases r with
      | error fault => exact h
      | ok e =>
        obtain ⟨hfound, howned, -⟩ := requireEntity_ok hr
        refine ⟨Store.id_of_entity? hfound, h.1, { h.2 with owned := ?_ }⟩
        intro id hid
        rcases List.mem_cons.1 hid with rfl | hid
        · exact Store.owns_of_entity? hfound howned
        · exact h.2.owned id hid

theorem requireRecord_run (entityId id : String) (d : Desk) : ((requireRecord tenant entityId id).run d).1
    = match (d.store.record? id).map (·.filter (·.tenantId == tenant)) with
      | .ok (some r) => if r.entityId == entityId then .ok r else .error (.notFound "Record")
      | .ok none => .error (.notFound "Record")
      | .error fault => .error fault := by
  unfold requireRecord
  change (ExceptT.bindCont (m := StateM Desk) _ (d.store.record? id) d).1 = _
  cases d.store.record? id with
  | error fault => rfl
  | ok found =>
    cases found with
    | none => rfl
    | some r =>
      cases hr : r.tenantId == tenant with
      | true =>
        cases he : r.entityId == entityId <;>
            simp [ExceptT.bindCont, Except.map, Option.filter, hr, he] <;> rfl
      | false => simp [ExceptT.bindCont, Except.map, Option.filter, hr]; rfl

/-- Twin desks that hold a record of the tenant's. -/
structure Holding (tenant : String) (named : String → Prop) (own : List String)
    (entityId : String) (r : RecordRow) (d d' : Desk) : Prop where
  twins : Twins tenant named own d d'
  left : d.store.record? r.id = .ok (some r)
  right : d'.store.record? r.id = .ok (some r)
  tenant : r.tenantId = tenant
  entity : r.entityId = entityId

theorem coupled_requireRecord (entityId id : String) :
    Coupled (Twins tenant named own) (requireRecord tenant entityId id).run
      (requireRecord tenant entityId id).run
      (Coupled.Ending (Holding tenant named own entityId) (Twins tenant named own)) := by
  intro d d' h
  have hsame : ((requireRecord tenant entityId id).run d).1 =
      ((requireRecord tenant entityId id).run d').1 := by
    rw [requireRecord_run, requireRecord_run, h.2.same.ownRecord_eq h.2.sound h.2.sound']
  have hd := looks_requireRecord tenant entityId id d
  have hd' := looks_requireRecord tenant entityId id d'
  refine ⟨hsame, ?_⟩
  rw [hd, hd']
  cases hr : ((requireRecord tenant entityId id).run d).1 with
  | error fault => exact h
  | ok r =>
    have hrun : (requireRecord tenant entityId id).run d = (.ok r, d) := Prod.ext hr hd
    have hrun' : (requireRecord tenant entityId id).run d' = (.ok r, d') := Prod.ext (hsame ▸ hr) hd'
    obtain ⟨hfound, rfl, -⟩ := requireRecord_ok hrun
    obtain ⟨htenant, hentity⟩ := owned_of_requireRecord hrun
    exact ⟨h, hfound, (requireRecord_ok hrun').1, htenant, hentity⟩

theorem alike_requireFields {entityId : String} (hentity : entityId ∈ own) (fields : Document)
    {P : Desk → Desk → Prop} (hP : ∀ d d', P d d' → Twins tenant named own d d') :
    Alike P (requireFields entityId fields).run (requireFields entityId fields).run := by
  refine .bindExcept (fun d d' h => ⟨?_, h⟩) fun keys => ?_
  · exact (hP d d' h).2.same.requiredKeys_eq ((hP d d' h).2.owned entityId hentity)
  · split
    · exact .pure _
    · split
      · exact .pure _
      · exact .pure _
    · exact .pure _

theorem knownUser_run {userId : Option String} {id : String} (hid : id ≠ "")
    (hu : userId = some id) (d : Desk) :
    (knownUser userId).run d = ((d.store.users.seen id).map (·.map fun _ => id), d) := by
  rw [← Store.user?_seen]
  unfold knownUser
  split
  · cases hu
  · exact absurd (Option.some.inj hu).symm hid
  · cases hu
    change ExceptT.bindCont (m := StateM Desk) _ (d.store.user? id) d = _
    cases d.store.user? id with
    | error fault => rfl
    | ok found => cases found <;> rfl

theorem coupled_knownUser {userId : Option String} (huser : ∀ id, id ≠ "" → userId = some id → named id) :
    Coupled (Twins tenant named own) (knownUser userId).run (knownUser userId).run
      (Coupled.Ending (fun creator d d' => (∀ id, creator = some id → named id) ∧ Twins tenant named own d d')
        (Twins tenant named own)) := by
  have hnone : Coupled (Twins tenant named own) (pure none : Job (Option String)).run
    (pure none : Job (Option String)).run
      (Coupled.Ending (fun creator d d' => (∀ id, creator = some id → named id) ∧ Twins tenant named own d d')
        (Twins tenant named own)) := fun d d' h => ⟨rfl, by simp, h⟩
  cases hu : userId with
  | none => exact hnone
  | some id =>
    by_cases hempty : id = ""
    · rw [hempty]
      exact hnone
    · have hid := huser id hempty hu
      intro d d' h
      rw [knownUser_run hempty rfl, knownUser_run hempty rfl, h.2.users id hid]
      refine ⟨rfl, ?_⟩
      cases d'.store.users.seen id with
      | error fault => exact h
      | ok found =>
        refine ⟨fun creator hcreator => ?_, h⟩
        obtain ⟨-, -, rfl⟩ := Option.map_eq_some_iff.1 hcreator
        exact hid

def Stored (tenant : String) (named : String → Prop) (own : List String) (entityId : String) (row : RecordRow)
    (d d' : Desk) : Prop :=
  row.tenantId = tenant ∧ row.entityId = entityId ∧ Twins tenant named own d d'

theorem insertRecord_eq (row : RecordRow) (d : Desk) : (insertRecord none row).run d =
    if row.fields.isStorable then
      match d.store.records.insert (·.id == ·.id) { row with id := Store.rowName (d.store.named + 1) } with
      | .ok records => (.ok { row with id := Store.rowName (d.store.named + 1) },
          { d with store := { d.store with named := d.store.named + 1, records := records } })
      | .error fault => (.error fault, { d with store := { d.store with named := d.store.named + 1 } })
    else (.error unstorable, { d with store := { d.store with named := d.store.named + 1 } }) := by
  cases hs : row.fields.isStorable with
  | false => simp only [insertRecord, hs]; rfl
  | true =>
    simp only [insertRecord, hs, Bool.not_true, Bool.false_eq_true, if_false, if_true]
    change ExceptT.bindCont (m := StateM Desk) _ (d.store.records.insert (·.id == ·.id)
      { row with id := Store.rowName (d.store.named + 1) }) _ = _
    cases d.store.records.insert _ _ <;> rfl

theorem coupled_insertRecord {row : RecordRow} (htenant : row.tenantId = tenant)
    (hby : ∀ id, row.createdBy = some id → named id) :
    Coupled (Twins tenant named own) (insertRecord none row).run (insertRecord none row).run
      (Coupled.Ending (Stored tenant named own row.entityId) (Twins tenant named own)) := by
  rintro d d' ⟨hrest, h⟩
  rw [insertRecord_eq, insertRecord_eq, ← h.same.named]
  split
  · rcases Table.insert_same (·.id == ·.id)
      { row with id := Store.rowName (d.store.named + 1) } h.same.records
      (h.sound.record_ne_next rfl) (h.sound'.record_ne_next h.same.named.symm)
      with ⟨fault, hinsert, hinsert'⟩ | ⟨rows, rows', hrows, hrows', hinsert, hinsert'⟩
    · rw [hinsert, hinsert']
      exact ⟨rfl, by rw [hrest, h.same.named], h.same.named ▸ h.withName⟩
    · rw [hinsert, hinsert']
      obtain ⟨_, hold, hnew, -⟩ := Table.insert_ok hinsert
      obtain ⟨_, hold', hnew', -⟩ := Table.insert_ok hinsert'
      cases hrows.symm.trans hold
      cases hrows'.symm.trans hold'
      have hadded := h.withName.addRecord hrows hrows' { row with id := Store.rowName (d.store.named + 1) }
        htenant hby hnew hnew'
      rw [← h.same.named] at hadded
      exact ⟨rfl, htenant, rfl, by rw [hrest], hadded⟩
  · exact ⟨rfl, by rw [hrest], h.same.named ▸ h.withName⟩

theorem coupled_replaceFields {entityId : String} (nans : NaNs) (r : RecordRow) (fields : Document) :
    Coupled (Holding tenant named own entityId r) (replaceFields nans r fields).run
      (replaceFields nans r fields).run
      (Coupled.Ending (Stored tenant named own entityId) (Twins tenant named own)) := by
  unfold replaceFields
  split
  · exact fun d d' h => ⟨rfl, h.tenant, h.entity, h.twins⟩
  · split
    · exact fun d d' h => ⟨rfl, h.twins⟩
    · rintro d d' ⟨⟨hrest, h⟩, hleft, hright, htenant, hentity⟩
      have hstores := h.replaceRecord { r with fields := fields, updatedAt := some d.now.naive }
        hleft hright htenant rfl rfl rfl
      rw [hrest]
      exact ⟨rfl, htenant, hentity, rfl, hstores⟩

namespace Operation

theorem coupled_store {userId : Option String} (huser : ∀ id, id ≠ "" → userId = some id → named id)
    (entityId : String) (fields : Document) (op : Operation) :
    Coupled (Twins tenant named own) (op.store tenant entityId fields userId).run
      (op.store tenant entityId fields userId).run
      (Coupled.Ending (Stored tenant named (entityId :: own) entityId) (Twins tenant named own)) := by
  have hown : entityId ∈ entityId :: own := List.mem_cons_self
  cases op with
  | create =>
    refine .bindExcept (coupled_requireEntity entityId) fun _ => Coupled.facts fun _ => ?_
    refine .bindExcept (.ending (alike_requireFields hown fields fun _ _ h => h) fun _ _ h => h.forget)
      fun _ => ?_
    refine .bindExcept ((coupled_knownUser huser).weaken fun _ _ h => h.forget) fun creator => ?_
    refine .bindExcept ((Job.coupled_lift _).weaken fun _ _ h => h.2.forget) fun stored =>
      Coupled.facts fun _ => ?_
    refine Job.coupled_get ?_
    rintro d d' ⟨hby, h⟩
    rw [show d'.now = d.now by rw [h.1]]
    exact (coupled_insertRecord rfl hby).weaken (fun _ _ h => h.forget) d d' h
  | update id nans =>
    refine .bindExcept (coupled_requireEntity entityId) fun _ => Coupled.facts fun _ => ?_
    refine .bindExcept ((coupled_requireRecord entityId id).weaken fun _ _ h => h.forget) fun r => ?_
    refine .bindExcept (.ending (alike_requireFields hown fields fun _ _ h => h.twins) fun _ _ h =>
      h.twins.forget) fun _ => ?_
    refine .bindExcept ((Job.coupled_lift _).weaken fun _ _ h => h.twins.forget) fun _ =>
      Coupled.facts fun _ => ?_
    refine .bindExcept ((Job.coupled_lift _).weaken fun _ _ h => h.twins.forget) fun stored =>
      Coupled.facts fun _ => ?_
    exact (coupled_replaceFields nans r stored).weaken fun _ _ h => h.forget

/-- A record is written alike, and its rules do alike. -/
theorem alike_run {userId : Option String} (huser : ∀ id, id ≠ "" → userId = some id → named id)
    (entityId : String) (fields : Document) (op : Operation) :
    Alike (Twins tenant named own) (op.run standardEngine tenant entityId fields userId).run
      (op.run standardEngine tenant entityId fields userId).run := by
  rw [run_eq]
  refine Coupled.bindAlike (coupled_store huser entityId fields op) fun row => ?_
  refine Coupled.facts fun htenant => Coupled.facts fun hentity => ?_
  have hown : row.entityId ∈ entityId :: own := by rw [hentity]; exact List.mem_cons_self
  have hrules := alike_applyRules op.name htenant hown huser
  exact Coupled.mono (Alike.bindExcept (Job.alike_liftState hrules) fun n => .pure _) (fun _ _ h => h)
    fun _ _ _ h => h.forget

end Operation

end Ingest

end RecordDesk
