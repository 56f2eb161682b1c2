import RecordDesk.Proofs.Ingest.Frame
import RecordDesk.Proofs.Value.Wrapping
set_option autoImplicit false

/-!
What a write leaves in the store. A new row holds the document that was sent. A replaced row holds it too,
unless the store took the document for the one that was there.
-/

namespace RecordDesk

/-! Jobs step by step. -/

namespace Job

variable {α β : Type}

theorem run_bind_cont {ε β : Type} (m : ExceptT ε (StateM Desk) α) (f : α → ExceptT ε (StateM Desk) β)
    (d : Desk) : (m >>= f).run d = ExceptT.bindCont f (m.run d).1 (m.run d).2 := rfl

theorem run_bind {ε β : Type} {m : ExceptT ε (StateM Desk) α} {f : α → ExceptT ε (StateM Desk) β}
    {d d' : Desk} {a : α} (h : m.run d = (.ok a, d')) : (m >>= f).run d = (f a).run d' := by
  rw [run_bind_cont, h]
  rfl

theorem run_query (question : Store → Except Fault α) (d : Desk) :
    (Desk.query question).run d = (question d.store, d) := rfl

theorem run_liftState {ε : Type} (m : StateM Desk α) (d : Desk) :
    (liftM m : ExceptT ε (StateM Desk) α).run d = (.ok (m d).1, (m d).2) := rfl

theorem run_bind_desk {ε β : Type} {m : ExceptT ε (StateM Desk) α} {f : α → ExceptT ε (StateM Desk) β}
    (hf : ∀ a d, ((f a).run d).2 = d) (d : Desk) : ((m >>= f).run d).2 = (m.run d).2 := by
  rw [run_bind_cont]
  cases (m.run d).1 with
  | ok a => exact hf a _
  | error e => rfl

theorem bind_ok {m : Job α} {f : α → Job β} {d d' : Desk} {b : β} (h : (m >>= f).run d = (.ok b, d')) :
    ∃ a d1, m.run d = (.ok a, d1) ∧ (f a).run d1 = (.ok b, d') := by
  rw [run_bind_cont] at h
  cases hm : m.run d with
  | mk r d1 =>
    rw [hm] at h
    cases r with
    | ok a => exact ⟨a, d1, rfl, h⟩
    | error fault => cases h

theorem lift_ok {x : Except Fault α} {d d' : Desk} {a : α} (h : (liftM x : Job α).run d = (.ok a, d')) :
    x = .ok a ∧ d' = d := by
  cases x with
  | ok a' =>
    cases h
    exact ⟨rfl, rfl⟩
  | error fault => cases h

theorem lift_state_ok {m : StateM Desk α} {d d' : Desk} {a : α} (h : (liftM m : Job α).run d = (.ok a, d')) :
    m d = (a, d') := by
  have hrun : (liftM m : Job α).run d = (.ok (m d).1, (m d).2) := rfl
  rw [hrun] at h
  cases h
  rfl

def Looks (m : Job α) : Prop := ∀ d, (m.run d).2 = d

namespace Looks

theorem bind {m : Job α} {f : α → Job β} (hm : Looks m) (hf : ∀ a, Looks (f a)) : Looks (m >>= f) := by
  intro d
  rw [run_bind_cont, hm d]
  cases (m.run d).1 with
  | ok a => exact hf a d
  | error fault => rfl

theorem pure (a : α) : Looks (Pure.pure a : Job α) := fun _ => rfl

theorem throw (fault : Fault) : Looks (MonadExcept.throw fault : Job α) := fun _ => rfl

theorem query (question : Store → Except Fault α) : Looks (Desk.query question) := fun _ => rfl

theorem eq {m : Job α} (h : Looks m) {d d' : Desk} {r : Except Fault α} (hrun : m.run d = (r, d')) :
    d' = d := by
  rw [← h d, hrun]

end Looks

end Job

namespace Ingest

theorem mapM_keyText (members : Members) : (members.map fun m => (Document.text m.1, m.2)).mapM
    (fun e : Document × Document => e.1.keyText?.map fun key => (key, e.2)) = some members := by
  induction members with
  | nil => rfl
  | cons m rest ih =>
    rw [List.map_cons, List.mapM_cons, ih]
    rfl

theorem storedFields_object {members : Members} (h : (members.map (·.1)).Nodup) :
    storedFields (.object members) = .ok (.object members) := by
  have hwritten : Entries.written? (members.map fun m => (Document.text m.1, m.2)) = some members := by
    rw [Entries.written?, mapM_keyText, Option.map_some, Document.ofPairs_of_nodup h]
  have hpairs : (Document.object members).pairs = .ok (members.map fun m => (Document.text m.1, m.2)) := rfl
  simp only [storedFields, hpairs, bind, Except.bind, hwritten]
  rfl

theorem find?_append_of_new {rows : List RecordRow} {row : RecordRow}
    (h : rows.any (fun r => r.id == row.id) = false) :
    (rows ++ [row]).find? (fun r => r.id == row.id) = some row := by
  have hnone : rows.find? (fun r => r.id == row.id) = none :=
    List.find?_eq_none.2 fun r hr => List.any_eq_false.1 h r hr
  rw [List.find?_append, hnone]
  simp

theorem insertRecord_ok {named : Option String} {row row' : RecordRow} {d d' : Desk}
    (h : (insertRecord named row).run d = (.ok row', d')) :
    row'.fields = row.fields ∧ d'.store.record? row'.id = .ok (some row') := by
  unfold insertRecord at h
  obtain ⟨d0, d1, h1, h⟩ := Job.bind_ok h
  cases h1
  cases named
  all_goals
    obtain ⟨u, d2, h2, h⟩ := Job.bind_ok h
    cases h2
    dsimp only at h
    split at h
    · obtain ⟨u, d3, h3, h⟩ := Job.bind_ok h
      cases h3
    · obtain ⟨records, d3, h3, h⟩ := Job.bind_ok h
      obtain ⟨hinsert, rfl⟩ := Job.lift_ok h3
      obtain ⟨rows, hrows, hclash, rfl⟩ := Table.insert_ok hinsert
      obtain ⟨u, d4, h4, h⟩ := Job.bind_ok h
      cases h4
      cases h
      exact ⟨rfl, congrArg Except.ok (find?_append_of_new hclash)⟩

theorem record?_map {store : Store} {r row : RecordRow} (hr : store.record? r.id = .ok (some r))
    (hid : row.id = r.id) :
    { store with records := store.records.map fun other => if other.id == r.id then row else other }.record?
      row.id
      = .ok (some row) := by
  cases hrows : store.records.rows with
  | none =>
    rw [Store.record?, Table.read, hrows] at hr
    cases hr
  | some rows =>
    have hfind : rows.find? (fun other => other.id == r.id) = some r := by
      rw [Store.record?, Table.read, hrows] at hr
      exact Except.ok.inj hr
    have hsame : ((fun other : RecordRow => other.id == row.id) ∘ fun other =>
      if other.id == r.id then row else other)
        = fun other => other.id == r.id := by
      funext other
      by_cases ho : other.id = r.id <;> simp [ho, hid]
    rw [Store.record?, Table.read, Table.map, hrows]
    show Except.ok ((rows.map fun other => if other.id == r.id then row else other).find?
      fun other => other.id == row.id) = _
    rw [List.find?_map, hsame, hfind]
    simp

theorem replaceFields_ok {nans : NaNs} {r row : RecordRow} {fields : Document} {d d' : Desk}
    (hr : d.store.record? r.id = .ok (some r)) (h : (replaceFields nans r fields).run d = (.ok row, d')) :
    row.fields = (if r.fields.alike nans fields then r.fields else fields) ∧
    d'.store.record? row.id = .ok (some row) := by
  unfold replaceFields at h
  split at h
  · rename_i halike
    cases h
    rw [if_pos halike]
    exact ⟨rfl, hr⟩
  · rename_i halike
    rw [if_neg halike]
    split at h
    · cases h
    · obtain ⟨d0, d1, h1, h⟩ := Job.bind_ok h
      cases h1
      obtain ⟨u, d2, h2, h⟩ := Job.bind_ok h
      cases h2
      cases h
      refine ⟨rfl, ?_⟩
      exact record?_map hr rfl

theorem looks_requireEntity (tenantId entityId : String) : Job.Looks (requireEntity tenantId entityId) := by
  refine .bind (.query _) fun found => ?_
  cases found with
  | none => exact .throw _
  | some e =>
    dsimp only
    split
    · exact .pure _
    · exact .throw _

theorem looks_requireRecord (tenantId entityId id : String) :
    Job.Looks (requireRecord tenantId entityId id) := by
  refine .bind (.query _) fun found => ?_
  cases found with
  | none => exact .throw _
  | some r =>
    dsimp only
    split
    · exact .pure _
    · exact .throw _

theorem looks_requireFields (entityId : String) (fields : Document) :
    Job.Looks (requireFields entityId fields) := by
  refine .bind (.query _) fun keys => ?_
  split
  · exact .pure _
  · split
    · exact .pure _
    · exact .throw _
  · exact .throw _

theorem id_of_record? {store : Store} {id : String} {r : RecordRow} (h : store.record? id = .ok (some r)) :
    r.id = id := by
  unfold Store.record? Table.read at h
  cases hrows : store.records.rows with
  | none => rw [hrows] at h; cases h
  | some rows =>
    rw [hrows] at h
    have hfind : rows.find? (fun r => r.id == id) = some r := Except.ok.inj h
    simpa using List.find?_some hfind

theorem requireRecord_ok {tenantId entityId id : String} {r : RecordRow} {d d' : Desk}
    (h : (requireRecord tenantId entityId id).run d = (.ok r, d')) :
    d.store.record? id = .ok (some r) ∧ r.id = id ∧ d' = d := by
  have hd := (looks_requireRecord tenantId entityId id).eq h
  unfold requireRecord at h
  obtain ⟨found, d1, h1, rest⟩ := Job.bind_ok h
  obtain rfl := (Job.Looks.query _).eq h1
  have hfound : d1.store.record? id = .ok found := congrArg Prod.fst h1
  cases found with
  | none => cases rest
  | some r' =>
    dsimp only at rest
    split at rest
    · cases rest
      exact ⟨hfound, id_of_record? hfound, rfl⟩
    · cases rest

/-- How a write ended: the row that is stored under its name, and the rules that were applied to it. -/
structure Ended (engine : Engine) (operation : String) (userId : Option String)
    (fields : Document) (w : Written) (d' : Desk) : Prop where
  fields : w.record.fields = fields
  applied : ∃ d1, d1.store.record? w.record.id = .ok (some w.record) ∧
    applyRules engine w.record operation userId d1 = (w.triggered, d')

theorem create_ended {engine : Engine} {tenantId entityId : String} {members : Members}
    {userId : Option String} {w : Written} {d d' : Desk} (hn : (members.map (·.1)).Nodup)
    (h : (create engine tenantId entityId (.object members) userId).run d = (.ok w, d')) :
    Ended engine "create" userId (.object members) w d' := by
  unfold create at h
  obtain ⟨e, d1, h1, h⟩ := Job.bind_ok h
  obtain ⟨u, d2, h2, h⟩ := Job.bind_ok h
  obtain ⟨creator, d3, h3, h⟩ := Job.bind_ok h
  obtain ⟨stored, d4, h4, h⟩ := Job.bind_ok h
  obtain ⟨hstored, -⟩ := Job.lift_ok h4
  rw [storedFields_object hn] at hstored
  cases hstored
  obtain ⟨d5, d6, h5, h⟩ := Job.bind_ok h
  obtain ⟨row, d7, h7, h⟩ := Job.bind_ok h
  obtain ⟨n, d8, h8, h⟩ := Job.bind_ok h
  cases h
  obtain ⟨hfields, hrecord⟩ := insertRecord_ok h7
  exact ⟨hfields, d7, hrecord, Job.lift_state_ok h8⟩

theorem update_ended {engine : Engine} {tenantId entityId id : String} {members : Members}
    {userId : Option String} {nans : NaNs} {w : Written} {d d' : Desk} (hn : (members.map (·.1)).Nodup)
    (h : (update engine tenantId entityId id (.object members) userId nans).run d = (.ok w, d')) :
    ∃ old, d.store.record? id = .ok (some old) ∧ Ended engine "update" userId
      (if old.fields.alike nans (.object members) then old.fields else .object members) w d' := by
  unfold update at h
  obtain ⟨e, d1, h1, rest1⟩ := Job.bind_ok h
  obtain rfl := (looks_requireEntity _ _).eq h1
  obtain ⟨old, d2, h2, rest2⟩ := Job.bind_ok rest1
  obtain ⟨hold, hid, rfl⟩ := requireRecord_ok h2
  obtain ⟨u, d3, h3, rest3⟩ := Job.bind_ok rest2
  obtain rfl := (looks_requireFields _ _).eq h3
  obtain ⟨entries, d4, h4, rest4⟩ := Job.bind_ok rest3
  obtain ⟨-, rfl⟩ := Job.lift_ok h4
  obtain ⟨stored, d5, h5, rest5⟩ := Job.bind_ok rest4
  obtain ⟨hstored, rfl⟩ := Job.lift_ok h5
  rw [storedFields_object hn] at hstored
  cases hstored
  obtain ⟨row, d6, h6, rest6⟩ := Job.bind_ok rest5
  obtain ⟨n, d7, h7, rest7⟩ := Job.bind_ok rest6
  cases rest7
  obtain ⟨hfields, hrecord⟩ := replaceFields_ok (hid ▸ hold) h6
  exact ⟨old, hold, hfields, d6, hrecord, Job.lift_state_ok h7⟩

/-- The two ways to write the fields of a record. -/
inductive Operation where
  | create
  | update (id : String) (nans : NaNs)

namespace Operation

def name : Operation → String
  | .create => "create"
  | .update _ _ => "update"

def run (engine : Engine) (tenantId entityId : String) (fields : Document) (userId : Option String) :
    Operation → Job Written
  | .create => Ingest.create engine tenantId entityId fields userId
  | .update id nans => Ingest.update engine tenantId entityId id fields userId nans

def previous (d : Desk) : Operation → Option Document
  | .create => none
  | .update id _ => match d.store.record? id with
    | .ok (some r) => some r.fields
    | _ => none

/-- Whether a write does not see that fields are new. -/
def overlooks (old new : Document) : Operation → Bool
  | .create => false
  | .update _ nans => old.alike nans new

end Operation

/-- The store holds the members under the name of the record, and the rules were applied to a record that
has just these. -/
structure Takes (members : Members) (operation : String) (userId : Option String) (w : Written)
    (d' : Desk) : Prop where
  stored : ∃ row, d'.store.record? w.record.id = .ok (some row) ∧ row.fields = .object members
  applied : ∃ snapshot d1, snapshot.fields.toMembers = members ∧
    askEngine standardEngine w.record operation userId
      = standardEngine ⟨w.record.tenantId, w.record.entityId, snapshot, operation, userId⟩ ∧
    applyRules standardEngine w.record operation userId d1 = (w.triggered, d')

theorem Ended.stored {operation : String} {userId : Option String} {fields : Document}
    {w : Written} {d' : Desk} (h : Ended standardEngine operation userId fields w d') :
    d'.store.record? w.record.id = .ok (some w.record) := by
  obtain ⟨d1, hrecord, hrules⟩ := h.applied
  have hkeep := keeps_applyRules Desk.frame_logsOnly keeps_standardEngine Desk.keeps_log w.record
    operation userId d1
  rw [hrules] at hkeep
  rw [Store.record?, hkeep.records]
  exact hrecord

theorem Ended.takes {operation : String} {userId : Option String} {members : Members}
    {w : Written} {d' : Desk} (hj : (Document.object members).IsJson)
    (h : Ended standardEngine operation userId (.object members) w d') :
    Takes members operation userId w d' := by
  obtain ⟨d1, -, hrules⟩ := h.applied
  have hsnapshot : w.record.snapshot
      = .ok ⟨w.record.id, Value.ofMembers members, w.record.createdAt, w.record.updatedAt⟩ := by
    unfold RecordRow.snapshot
    rw [h.fields]
    rfl
  refine ⟨⟨w.record, h.stored, h.fields⟩,
    ⟨w.record.id, Value.ofMembers members, w.record.createdAt, w.record.updatedAt⟩, d1,
    Value.toMembers_ofMembers hj.isKept.2, ?_, hrules⟩
  unfold askEngine
  rw [hsnapshot]

/-- A write takes the fields that were sent, unless they are like the ones that were there and not the
same. -/
theorem run_takes_iff {op : Operation} {tenantId entityId : String} {members : Members}
    {userId : Option String} {w : Written} {d d' : Desk} (hj : (Document.object members).IsJson)
    (h : (op.run standardEngine tenantId entityId (.object members) userId).run d = (.ok w, d')) :
    Takes members op.name userId w d' ↔
      ∀ old, op.previous d = some old → op.overlooks old (.object members) = true →
      old = .object members := by
  cases op with
  | create =>
    have hended := create_ended hj.1 h
    exact ⟨fun _ old hold => absurd hold (by simp [Operation.previous]), fun _ => hended.takes hj⟩
  | update id nans =>
    obtain ⟨r, hr, hended⟩ := update_ended hj.1 h
    have hprevious : (Operation.update id nans).previous d = some r.fields := by
      rw [Operation.previous, hr]
    rw [hprevious]
    constructor
    · rintro htakes old hold halike
      cases hold
      obtain ⟨row, hrow, hfields⟩ := htakes.stored
      rw [hended.stored] at hrow
      cases hrow
      rw [← hfields, hended.fields]
      exact (if_pos halike).symm
    · intro hsame
      have hfields : (if r.fields.alike nans (.object members) then r.fields else .object members)
          = .object members := by
        split
        · rename_i halike
          exact hsame r.fields rfl halike
        · rfl
      rw [hfields] at hended
      exact hended.takes hj

/-! A desk with one record. -/

def deskWith (fields : Document) : Desk where
  store := {
    tenants := ⟨"tenants", some [⟨"t", "T"⟩]⟩
    entities := ⟨"entities", some [⟨"e", "t", "E", "e"⟩]⟩
    records := ⟨"entity_records", some [⟨"r", "t", "e", fields, none, ⟨0, none⟩, none⟩]⟩ }
  now := ⟨0, none⟩

theorem text_takes_truth : ∃ w d',
    (Operation.run standardEngine "t" "e" (.object [("a", .boolean true)]) none (.update "r" .alike)).run
      (deskWith (.object [("a", .text "x")])) = (.ok w, d') ∧
      Takes [("a", .boolean true)] "update" none w d' := by
  have hrun : ∃ w d', (Operation.run standardEngine "t" "e" (.object [("a", .boolean true)]) none
    (.update "r" .alike)).run
      (deskWith (.object [("a", .text "x")])) = (.ok w, d') := ⟨_, _, rfl⟩
  obtain ⟨w, d', hrun⟩ := hrun
  have hj : (Document.object [("a", .boolean true)]).IsJson :=
    ⟨by simp [Document.IsJsonPart], trivial, trivial⟩
  refine ⟨w, d', hrun, (run_takes_iff hj hrun).2 ?_⟩
  intro old hold halike
  cases hold
  cases halike

/-- One takes the place of no truth value. -/
theorem one_lost : ¬ ∀ (op : Operation) (tenantId entityId : String) (members : Members)
    (userId : Option String) (w : Written) (d d' : Desk), (Document.object members).IsJson →
    (op.run standardEngine tenantId entityId (.object members) userId).run d = (.ok w, d') →
    Takes members op.name userId w d' := by
  intro hall
  have hj : (Document.object [("a", .number (.int 1))]).IsJson :=
    ⟨by simp [Document.IsJsonPart], trivial, trivial⟩
  have hrun : ∃ w d', (Operation.run standardEngine "t" "e" (.object [("a", .number (.int 1))]) none
    (.update "r" .alike)).run
      (deskWith (.object [("a", .boolean true)])) = (.ok w, d') := ⟨_, _, rfl⟩
  obtain ⟨w, d', hrun⟩ := hrun
  obtain ⟨row, hrow, hfields⟩ := (hall _ _ _ _ _ _ _ _ hj hrun).stored
  obtain ⟨r, hr, hended⟩ := update_ended hj.1 hrun
  cases hr
  have halike : (Document.object [("a", .boolean true)]).alike .alike (.object [("a", .number (.int 1))]) =
    true := rfl
  have hkept := hended.fields
  rw [if_pos halike] at hkept
  rw [hended.stored] at hrow
  cases hrow
  rw [hkept] at hfields
  cases hfields

end Ingest

end RecordDesk
