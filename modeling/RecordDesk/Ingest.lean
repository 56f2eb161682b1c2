import RecordDesk.Desk
import RecordDesk.Document.Pairs
set_option autoImplicit false

/-!
Writing records. A record is stored first and rules are applied to it afterwards; nothing that a rule does
undoes or fails the write.
-/

namespace RecordDesk.Ingest

abbrev Engine := Rule.Event → StateM Desk (Except Fault Rule.Batch)

def standardEngine : Engine := Rule.applyAll Desk.surroundings

def loggerName : String := "record_ingest"

structure Written where
  record : RecordRow
  triggered : Nat

def requireEntity (tenantId entityId : String) : Job EntityRow := do
  match ← Desk.query (·.entity? entityId) with
  | some e => if e.tenantId == tenantId then return e else throw (.notFound "Entity")
  | none => throw (.notFound "Entity")

/-- Null and the empty text count as missing. -/
def isMissing (members : Members) (key : String) : Bool :=
  match members.lookup key with
  | none | some .null | some (.text "") => true
  | _ => false

/-- The required fields of the entity must be there; only for them do the fields have to be an object. -/
def requireFields (entityId : String) (fields : Document) : Job Unit := do
  let keys ← Desk.query (·.requiredKeys entityId)
  match keys, fields with
  | [], _ => return
  | _, .object members => match keys.filter (isMissing members) with
    | [] => return
    | missing => throw (.missingRequired missing)
  | _, d => throw (.withoutParts d.typeName)

def askEngine (engine : Engine) (r : RecordRow) (operation : String) (userId : Option String) :
    StateM Desk (Except Fault Rule.Batch) := do
  match r.snapshot with
  | .ok snapshot => engine ⟨r.tenantId, r.entityId, snapshot, operation, userId⟩
  | .error fault => return .error fault

/-- Applies rules to a stored record. An engine that breaks counts as no match. -/
def applyRules (engine : Engine) (r : RecordRow) (operation : String) (userId : Option String) :
    StateM Desk Nat := do
  match ← askEngine engine r operation userId with
  | .ok batch => return batch.triggered
  | .error fault =>
    Desk.log ⟨loggerName, .error,
      s!"Rule evaluation failed tenant={r.tenantId} entity={r.entityId} record={r.id} " ++
        s!"operation={operation} err={fault.message}"⟩
    return 0

/-- The creator of a record is a user that is known. -/
def knownUser (userId : Option String) : Job (Option String) := do
  match userId with
  | none | some "" => return none
  | some id => return (← Desk.query (·.user? id)).map fun _ => id

def unstorable : Fault := .unstorable "fields hold what is no document"

/-- The fields of a record as they are stored: an object, made of pairs if need be. -/
def storedFields (fields : Document) : Except Fault Document := do
  match (← fields.pairs).written? with
  | some members => return .object members
  | none => throw unstorable

/-- Stores a new row under the next name, unless it has one. -/
def insertRecord (named : Option String) (row : RecordRow) : Job RecordRow := do
  let d ← get
  let (id, store) := match named with
    | some id => (id, d.store)
    | none => d.store.withName
  set { d with store := store }
  if !row.fields.isStorable then throw unstorable
  let row := { row with id := id }
  let records ← store.records.insert (·.id == ·.id) row
  set { d with store := { store with records := records } }
  return row

def create (engine : Engine) (tenantId entityId : String) (fields : Document) (userId : Option String) :
    Job Written := do
  let _ ← requireEntity tenantId entityId
  requireFields entityId fields
  let creator ← knownUser userId
  let stored ← (storedFields fields : Except Fault Document)
  let now := (← get).now.naive
  let row ← insertRecord none ⟨"", tenantId, entityId, stored, creator, now, none⟩
  return ⟨row, ← applyRules engine row "create" userId⟩

def requireRecord (tenantId entityId id : String) : Job RecordRow := do
  match ← Desk.query (·.record? id) with
  | some r =>
    if r.tenantId == tenantId && r.entityId == entityId then return r else throw (.notFound "Record")
  | none => throw (.notFound "Record")

/-- Replaces the fields of a row. Fields that are like the stored ones are not written at all. -/
def replaceFields (nans : NaNs) (r : RecordRow) (fields : Document) : Job RecordRow := do
  if r.fields.alike nans fields then return r
  else if !fields.isStorable then throw unstorable
  else
    let d ← get
    let row := { r with fields := fields, updatedAt := some d.now.naive }
    let records := d.store.records.map fun other => if other.id == r.id then row else other
    set { d with store := { d.store with records := records } }
    return row

/-- The fields that are replaced have to be an object too, or pairs. Where the new ones are read from a
document, as the stored ones are, not-a-numbers in both are alike. -/
def update (engine : Engine) (tenantId entityId id : String) (fields : Document) (userId : Option String)
    (nans : NaNs := .apart) : Job Written := do
  let _ ← requireEntity tenantId entityId
  let r ← requireRecord tenantId entityId id
  requireFields entityId fields
  let _ ← (r.fields.pairsOrNone : Except Fault Entries)
  let stored ← (storedFields fields : Except Fault Document)
  let row ← replaceFields nans r stored
  return ⟨row, ← applyRules engine row "update" userId⟩

end RecordDesk.Ingest
