import RecordDesk.Condition
import RecordDesk.Rule
import RecordDesk.Store.Cell
set_option autoImplicit false

/-!
The store of the service: its tables and their rows. A table can be gone; then whoever needs it fails.
-/

namespace RecordDesk

structure Table (α : Type) where
  name : String
  /-- The rows in the order of their insertion. -/
  rows : Option (List α) := some []

namespace Table

variable {α : Type}

def noSuch (name : String) : Fault := .storage ("no such table: " ++ name)

def read (t : Table α) : Except Fault (List α) :=
  match t.rows with
  | some rows => .ok rows
  | none => .error (noSuch t.name)

def insert (t : Table α) (clash : α → α → Bool) (row : α) : Except Fault (Table α) := do
  let rows ← t.read
  if rows.any (clash · row) then .error (.duplicate t.name)
  else .ok { t with rows := some (rows ++ [row]) }

def insertAll (t : Table α) (clash : α → α → Bool) (rows : List α) : Except Fault (Table α) :=
  rows.foldlM (fun t row => t.insert clash row) t

/-- The table gone; it cannot go twice. -/
def drop (t : Table α) : Except Fault (Table α) := do
  let _ ← t.read
  return { t with rows := none }

def map (t : Table α) (f : α → α) : Table α := { t with rows := t.rows.map (·.map f) }

end Table

structure TenantRow where
  id : String
  name : String

structure UserRow where
  id : String
  tenantId : String
  name : String
  email : String

structure EntityRow where
  id : String
  tenantId : String
  name : String
  slug : String

/-- Within a tenant the short names of entities are distinct. -/
def EntityRow.clash (a b : EntityRow) : Bool :=
  a.id == b.id || (a.tenantId == b.tenantId && a.slug == b.slug)

structure FieldRow where
  entityId : String
  field : FieldMeta
  isRequired : Bool
  position : Int

/-- The keys of an entity's fields are distinct. -/
def FieldRow.clash (a b : FieldRow) : Bool := a.entityId == b.entityId && a.field.key == b.field.key

structure RecordRow where
  id : String
  tenantId : String
  entityId : String
  fields : Document
  createdBy : Option String
  createdAt : Moment
  updatedAt : Option Moment

structure RuleRow where
  id : String
  tenantId : String
  entityId : String
  name : String
  conditions : Document
  actions : Document
  runOn : String
  isActive : Bool
  createdAt : Moment

structure LogRow where
  id : String
  tenantId : String
  ruleId : String
  recordId : String
  status : String
  output : Document
  createdAt : Moment

structure Store where
  tenants : Table TenantRow := ⟨"tenants", some []⟩
  users : Table UserRow := ⟨"users", some []⟩
  entities : Table EntityRow := ⟨"entities", some []⟩
  fields : Table FieldRow := ⟨"entity_fields", some []⟩
  records : Table RecordRow := ⟨"entity_records", some []⟩
  rules : Table RuleRow := ⟨"rules", some []⟩
  logs : Table LogRow := ⟨"rule_logs", some []⟩
  /-- How many row names were given out. -/
  named : Nat := 0

namespace Store

def rowName (n : Nat) : String := "id-" ++ padded 4 n

def withName (s : Store) : String × Store :=
  (rowName (s.named + 1), { s with named := s.named + 1 })

def drop (s : Store) (table : String) : Except Fault Store := do
  match table with
  | "tenants" => return { s with tenants := ← s.tenants.drop }
  | "users" => return { s with users := ← s.users.drop }
  | "entities" => return { s with entities := ← s.entities.drop }
  | "entity_fields" => return { s with fields := ← s.fields.drop }
  | "entity_records" => return { s with records := ← s.records.drop }
  | "rules" => return { s with rules := ← s.rules.drop }
  | "rule_logs" => return { s with logs := ← s.logs.drop }
  | other => throw (Table.noSuch other)

def tenant? (s : Store) (id : String) : Except Fault (Option TenantRow) := do
  return (← s.tenants.read).find? (·.id == id)

def user? (s : Store) (id : String) : Except Fault (Option UserRow) := do
  return (← s.users.read).find? (·.id == id)

def entity? (s : Store) (id : String) : Except Fault (Option EntityRow) := do
  return (← s.entities.read).find? (·.id == id)

def record? (s : Store) (id : String) : Except Fault (Option RecordRow) := do
  return (← s.records.read).find? (·.id == id)

/-- The fields of an entity by position; of equals the older first. -/
def entityFields (s : Store) (entityId : String) : Except Fault (List FieldMeta) := do
  let rows := (← s.fields.read).filter (·.entityId == entityId)
  return (rows.mergeSort fun a b => a.position ≤ b.position).map (·.field)

def requiredKeys (s : Store) (entityId : String) : Except Fault (List String) := do
  return ((← s.fields.read).filter fun f => f.entityId == entityId && f.isRequired).map (·.field.key)

/-- Something in a collection, and nothing where the document is empty or zero. -/
def orEmpty (d : Document) : Document := if d.isTruthy then d else .list []

/-- Earlier rows first, and of rows of one time those with the lesser name. -/
def earlier (timeA timeB : Moment) (idA idB : String) : Bool :=
  timeA.wall < timeB.wall || (timeA.wall == timeB.wall && idA ≤ idB)

def later (timeA timeB : Moment) (idA idB : String) : Bool :=
  timeB.wall < timeA.wall || (timeA.wall == timeB.wall && idA ≤ idB)

def allLogs (s : Store) : Except Fault (List LogRow) := do
  return (← s.logs.read).mergeSort fun a b => earlier a.createdAt b.createdAt a.id b.id

def latestLogs (s : Store) (wanted : LogRow → Bool) : Except Fault (List LogRow) := do
  return ((← s.logs.read).filter wanted).mergeSort fun a b => later a.createdAt b.createdAt a.id b.id

def activeRules (s : Store) (tenantId entityId operation : String) : Except Fault (List Rule) := do
  let rows := (← s.rules.read).filter fun r =>
    r.tenantId == tenantId && r.entityId == entityId && r.isActive
      && (r.runOn == operation || r.runOn == "both")
  let rows := rows.mergeSort fun a b => earlier a.createdAt b.createdAt a.id b.id
  rows.mapM fun r => do
    return ⟨r.id, r.name, .list (← (orEmpty r.conditions).sequence), .list (← (orEmpty r.actions).sequence)⟩

end Store

def RecordRow.snapshot (r : RecordRow) : Except Fault Snapshot := do
  return ⟨r.id, ← Fields.of? r.fields, r.createdAt, r.updatedAt⟩

end RecordDesk
