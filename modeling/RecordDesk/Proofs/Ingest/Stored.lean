import RecordDesk.Proofs.Ingest.Replacement
import RecordDesk.Proofs.Store.Rows
set_option autoImplicit false

namespace RecordDesk

namespace Ingest

theorem requireEntity_ok {tenantId entityId : String} {e : EntityRow} {d d' : Desk}
    (h : (requireEntity tenantId entityId).run d = (.ok e, d')) :
    d.store.entity? entityId = .ok (some e) ∧ e.tenantId = tenantId ∧ d' = d := by
  have hd := (looks_requireEntity tenantId entityId).eq h
  unfold requireEntity at h
  obtain ⟨found, d1, h1, rest⟩ := Job.bind_ok h
  obtain rfl := (Job.Looks.query _).eq h1
  have hfound : d1.store.entity? entityId = .ok found := congrArg Prod.fst h1
  cases found with
  | none => cases rest
  | some e' =>
    dsimp only at rest
    split at rest
    · rename_i howned
      cases rest
      exact ⟨hfound, eq_of_beq howned, rfl⟩
    · cases rest

theorem owned_of_requireRecord {tenantId entityId id : String} {r : RecordRow} {d d' : Desk}
    (h : (requireRecord tenantId entityId id).run d = (.ok r, d')) : r.tenantId = tenantId ∧
    r.entityId = entityId := by
  unfold requireRecord at h
  obtain ⟨found, d1, h1, rest⟩ := Job.bind_ok h
  cases found with
  | none => cases rest
  | some r' =>
    dsimp only at rest
    split at rest
    · rename_i howned
      cases rest
      rw [Bool.and_eq_true] at howned
      exact ⟨eq_of_beq howned.1, eq_of_beq howned.2⟩
    · cases rest

theorem storedFields_ok {fields stored : Document} (h : storedFields fields = .ok stored) :
    ∃ members, stored = .object members := by
  unfold storedFields at h
  cases hpairs : fields.pairs with
  | error fault => rw [hpairs] at h; cases h
  | ok entries =>
    rw [hpairs] at h
    cases hwritten : entries.written? with
    | none => simp [hwritten, bind, Except.bind] at h
    | some members =>
      simp only [hwritten, bind, Except.bind] at h
      cases h
      exact ⟨members, rfl⟩

theorem object_of_alike {nans : NaNs} {d : Document} {members : Members}
    (h : d.alike nans (.object members) = true) : ∃ own, d = .object own := by
  cases d with
  | object own => exact ⟨own, rfl⟩
  | number n => cases n <;> simp [Document.alike, Document.sameKey, Document.rational?, Document.isNaN] at h
  | _ => simp [Document.alike, Document.sameKey, Document.rational?, Document.isNaN] at h

theorem looks_knownUser (userId : Option String) : Job.Looks (knownUser userId) := by
  unfold knownUser
  split
  · exact .pure _
  · exact .pure _
  · exact .bind (.query _) fun _ => .pure _

theorem insertRecord_new {row row' : RecordRow} {d d' : Desk}
    (h : (insertRecord none row).run d = (.ok row', d')) :
    row' = { row with id := Store.rowName (d.store.named + 1) } ∧ ∃ rows, d.store.records.rows = some rows ∧
      rows.any (·.id == row'.id) = false ∧
      d' = { d with store := { d.store with
        named := d.store.named + 1
        records := { d.store.records with rows := some (rows ++ [row']) } } } := by
  unfold insertRecord at h
  obtain ⟨d0, d1, h1, h⟩ := Job.bind_ok h
  cases h1
  obtain ⟨u, d2, h2, h⟩ := Job.bind_ok h
  cases h2
  dsimp only at h
  split at h
  · obtain ⟨u, d3, h3, h⟩ := Job.bind_ok h
    cases h3
  · obtain ⟨records, d3, h3, h⟩ := Job.bind_ok h
    obtain ⟨hinsert, rfl⟩ := Job.lift_ok h3
    obtain ⟨rows, hrows, hclash, rfl⟩ := Table.insert_ok hinsert
    obtain ⟨u, d4, h4, h⟩ := Job.bind_ok h
    cases h4
    cases h
    exact ⟨rfl, rows, hrows, hclash, rfl⟩

theorem replaceFields_new {nans : NaNs} {r row : RecordRow} {fields : Document} {d d' : Desk}
    (h : (replaceFields nans r fields).run d = (.ok row, d')) :
    row.id = r.id ∧ row.tenantId = r.tenantId ∧ row.entityId = r.entityId ∧ row.createdBy = r.createdBy ∧
      (row = r ∧ d' = d ∨
        d' = { d with store := { d.store with
          records := d.store.records.map fun other => if other.id == r.id then row else other } }) := by
  unfold replaceFields at h
  split at h
  · cases h
    exact ⟨rfl, rfl, rfl, rfl, .inl ⟨rfl, rfl⟩⟩
  · split at h
    · cases h
    · obtain ⟨d0, d1, h1, h⟩ := Job.bind_ok h
      cases h1
      obtain ⟨u, d2, h2, h⟩ := Job.bind_ok h
      cases h2
      cases h
      exact ⟨rfl, rfl, rfl, rfl, .inr rfl⟩

theorem only_others_append {t : Table RecordRow} {rows : List RecordRow} {row : RecordRow}
    (hrows : t.rows = some rows) :
    ({ t with rows := some (rows ++ [row]) } : Table RecordRow).only (·.id != row.id) =
      t.only (·.id != row.id) := by
  refine Table.only_of_rows rfl ?_
  rw [hrows]
  simp

theorem only_others_map {t : Table RecordRow} {r row : RecordRow} (hid : row.id = r.id) :
    (t.map fun other => if other.id == r.id then row else other).only (·.id != r.id) =
      t.only (·.id != r.id) := by
  refine Table.only_of_rows rfl ?_
  rw [Table.map, Option.map_map]
  congr 1
  funext rows
  induction rows with
  | nil => rfl
  | cons other rest ih =>
    simp only [Function.comp_apply] at ih ⊢
    rw [List.map_cons, List.filter_cons, List.filter_cons, ih]
    by_cases ho : other.id = r.id <;> simp [ho, hid]

theorem applyRules_eq (engine : Engine) (r : RecordRow) (operation : String)
    (userId : Option String) (d : Desk) :
    applyRules engine r operation userId d = (match (askEngine engine r operation userId d).1 with
      | .ok batch => pure batch.triggered
      | .error fault => do
        Desk.log ⟨loggerName, .error,
          s!"Rule evaluation failed tenant={r.tenantId} entity={r.entityId} record={r.id} " ++
            s!"operation={operation} err={fault.message}"⟩
        return 0 : StateM Desk Nat) (askEngine engine r operation userId d).2 := rfl

theorem applyRules_broken {engine : Engine} {r : RecordRow} {operation : String}
    {userId : Option String} {d : Desk}
    {fault : Fault} (h : (askEngine engine r operation userId d).1 = .error fault) :
    (applyRules engine r operation userId d).1 = 0 := by
  rw [applyRules_eq, h]
  rfl

theorem applyRules_store (engine : Engine) (r : RecordRow) (operation : String)
    (userId : Option String) (d : Desk) :
    (applyRules engine r operation userId d).2.store = (askEngine engine r operation userId d).2.store := by
  rw [applyRules_eq]
  cases (askEngine engine r operation userId d).1 <;> rfl

namespace Operation

def store (tenantId entityId : String) (fields : Document) (userId : Option String) :
    Operation → Job RecordRow
  | .create => do
    let _ ← requireEntity tenantId entityId
    requireFields entityId fields
    let creator ← knownUser userId
    let stored ← (storedFields fields : Except Fault Document)
    let now := (← get).now.naive
    insertRecord none ⟨"", tenantId, entityId, stored, creator, now, none⟩
  | .update id nans => do
    let _ ← requireEntity tenantId entityId
    let r ← requireRecord tenantId entityId id
    requireFields entityId fields
    let _ ← (r.fields.pairsOrNone : Except Fault Entries)
    let stored ← (storedFields fields : Except Fault Document)
    replaceFields nans r stored

theorem run_eq (engine : Engine) (tenantId entityId : String) (fields : Document) (userId : Option String)
    (op : Operation) : op.run engine tenantId entityId fields userId = (do
      let row ← op.store tenantId entityId fields userId
      return ⟨row, ← applyRules engine row op.name userId⟩) := by
  cases op with
  | create => simp only [run, Ingest.create, store, bind_assoc, name]
  | update id nans => simp only [run, Ingest.update, store, bind_assoc, name]

def names : Operation → Nat
  | .create => 1
  | .update _ _ => 0

/-- What storing a row comes to: it is there under its name, and every other row of every table is as
before. -/
structure Stores (op : Operation) (tenantId entityId : String) (d : Desk) (row : RecordRow) (d' : Desk) :
    Prop where
  tenant : row.tenantId = tenantId
  entity : row.entityId = entityId
  fields : ∃ members, row.fields = .object members
  owned : ∃ e, d.store.entity? entityId = .ok (some e) ∧ e.tenantId = tenantId
  found : d'.store.record? row.id = .ok (some row)
  others : d'.store.records.only (·.id != row.id) = d.store.records.only (·.id != row.id)
  named : d'.store.named = d.store.named + op.names
  rest : d' = { d with store := { d.store with records := d'.store.records, named := d'.store.named } }

section

variable {tenantId entityId : String} {fields : Document} {userId : Option String} {row : RecordRow}
  {d d' : Desk}

theorem stores_create (h : (store tenantId entityId fields userId .create).run d = (.ok row, d')) :
    Stores .create tenantId entityId d row d' := by
  obtain ⟨e, d1, h1, rest1⟩ := Job.bind_ok h
  obtain ⟨hentity, howned, rfl⟩ := requireEntity_ok h1
  obtain ⟨u, d2, h2, rest2⟩ := Job.bind_ok rest1
  obtain rfl := (looks_requireFields _ _).eq h2
  obtain ⟨creator, d3, h3, rest3⟩ := Job.bind_ok rest2
  obtain rfl := (looks_knownUser _).eq h3
  obtain ⟨stored, d4, h4, rest4⟩ := Job.bind_ok rest3
  obtain ⟨hfields, rfl⟩ := Job.lift_ok h4
  obtain ⟨d5, d6, h5, rest5⟩ := Job.bind_ok rest4
  cases h5
  obtain ⟨rfl, rows, hrows, hclash, rfl⟩ := insertRecord_new rest5
  exact {
    tenant := rfl
    entity := rfl
    fields := storedFields_ok hfields
    owned := ⟨e, hentity, howned⟩
    found := congrArg Except.ok (find?_append_of_new hclash)
    others := only_others_append hrows
    named := rfl
    rest := rfl }

theorem stores_update {id : String} {nans : NaNs}
    (h : (store tenantId entityId fields userId (.update id nans)).run d = (.ok row, d')) :
    Stores (.update id nans) tenantId entityId d row d' := by
  obtain ⟨e, d1, h1, rest1⟩ := Job.bind_ok h
  obtain ⟨hentity, howned, rfl⟩ := requireEntity_ok h1
  obtain ⟨r, d2, h2, rest2⟩ := Job.bind_ok rest1
  obtain ⟨hr, hid, rfl⟩ := requireRecord_ok h2
  obtain ⟨htenant, hin⟩ := owned_of_requireRecord h2
  obtain ⟨u, d3, h3, rest3⟩ := Job.bind_ok rest2
  obtain rfl := (looks_requireFields _ _).eq h3
  obtain ⟨entries, d4, h4, rest4⟩ := Job.bind_ok rest3
  obtain ⟨-, rfl⟩ := Job.lift_ok h4
  obtain ⟨stored, d5, h5, rest5⟩ := Job.bind_ok rest4
  obtain ⟨hstored, rfl⟩ := Job.lift_ok h5
  obtain ⟨members, rfl⟩ := storedFields_ok hstored
  obtain ⟨hfields, hfound⟩ := replaceFields_ok (hid ▸ hr) rest5
  obtain ⟨hid', htenant', hentity', -, hchange⟩ := replaceFields_new rest5
  refine {
    tenant := htenant'.trans htenant
    entity := hentity'.trans hin
    fields := ?_
    owned := ⟨e, hentity, howned⟩
    found := hfound
    others := ?_
    named := ?_
    rest := ?_ }
  · -- Fields that are like the ones before leave these in place.
    rw [hfields]
    split
    · rename_i halike
      exact object_of_alike halike
    · exact ⟨members, rfl⟩
  · rcases hchange with ⟨-, rfl⟩ | rfl
    · rfl
    · rw [hid']
      exact only_others_map hid'
  · rcases hchange with ⟨-, rfl⟩ | rfl <;> rfl
  · rcases hchange with ⟨-, rfl⟩ | rfl <;> rfl

theorem stores {op : Operation} (h : (op.store tenantId entityId fields userId).run d = (.ok row, d')) :
    Stores op tenantId entityId d row d' := by
  cases op with
  | create => exact stores_create h
  | update id nans => exact stores_update h

end

namespace Stores

variable {op : Operation} {tenantId entityId : String} {row : RecordRow} {d d' : Desk}

theorem tables (h : Stores op tenantId entityId d row d') :
    d'.store = { d.store with records := d'.store.records, named := d'.store.named } := by
  rw [h.rest]

theorem snapshot (h : Stores op tenantId entityId d row d') : ∃ snapshot, row.snapshot = .ok snapshot := by
  obtain ⟨members, hfields⟩ := h.fields
  unfold RecordRow.snapshot
  rw [hfields]
  exact ⟨_, rfl⟩

end Stores

end Operation

end Ingest

end RecordDesk
