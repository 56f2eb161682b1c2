set_option autoImplicit false

/-!
The expressions by which a query reads a field out of a stored document. Keys and values are parameters
only; they never become part of the expression's text.
-/

namespace RecordDesk.Construct

inductive Dialect where
  | sqlite | postgresql
  deriving DecidableEq, Repr

def Dialect.ofName? : String → Option Dialect
  | "sqlite" => some .sqlite
  | "postgresql" => some .postgresql
  | _ => none

inductive Kind where
  /-- The number under a key. -/
  | number (key : String)
  /-- The scalar under a key. -/
  | value (key : String)
  /-- Whether what is under a key equals a document. -/
  | equals (key json : String)
  deriving DecidableEq, Repr

structure Statement where
  sql : String
  parameters : List String
  deriving DecidableEq, Repr

def placeholder (number : Nat) : Dialect → String
  | .sqlite => "?"
  | .postgresql => "%(param_" ++ toString number ++ ")s::VARCHAR"

def parameterName (number : Nat) : String := s!"param_{number}"

def path (parameter : String) : String := "'$.\"' || " ++ parameter ++ " || '\"'"

def ofSqlite (column : String) : Kind → Statement
  | .number key =>
    ⟨s!"CASE WHEN json_type({column}, " ++ path "?" ++ ") IN ('integer', 'real') THEN json_extract("
      ++ column ++ ", " ++ path "?" ++ ") END", [key, key]⟩
  | .value key =>
    ⟨"CASE json_type(" ++ column ++ ", " ++ path "?"
      ++ ") WHEN 'true' THEN 'true' WHEN 'false' THEN 'false' ELSE json_extract(" ++ column ++ ", "
      ++ path "?" ++ ") END", [key, key]⟩
  | .equals key json =>
    ⟨"(json_extract(" ++ column ++ ", " ++ path "?" ++ ") = json_extract(?, '$'))", [key, json]⟩

def ofPostgresql (column : String) : Kind → Statement
  | .number key =>
    ⟨"CASE WHEN jsonb_typeof(" ++ column ++ " -> CAST(" ++ placeholder 1 .postgresql
      ++ " AS TEXT)) = 'number' THEN CAST(" ++ column ++ " ->> CAST(" ++ placeholder 2 .postgresql
      ++ " AS TEXT) AS NUMERIC) END", [key, key]⟩
  | .value key => ⟨"(" ++ column ++ " ->> CAST(" ++ placeholder 1 .postgresql ++ " AS TEXT))", [key]⟩
  | .equals key json =>
    ⟨"((" ++ column ++ " -> CAST(" ++ placeholder 1 .postgresql ++ " AS TEXT)) = CAST("
      ++ placeholder 2 .postgresql ++ " AS JSONB))", [key, json]⟩

def statement (column : String) (kind : Kind) : Dialect → Statement
  | .sqlite => ofSqlite column kind
  | .postgresql => ofPostgresql column kind

def column : String := "fields"

end RecordDesk.Construct
