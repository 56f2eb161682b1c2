import RecordDesk.Document
import RecordDesk.Text.Printable
set_option autoImplicit false

/-!
How a document is shown in a message. By itself it is shown as people read it; inside a collection it is
spelled: a text stands between quotes, and a day, a moment, a decimal or a wrapped value as what makes it.
-/

namespace RecordDesk

namespace Document

def hexText (width n : Nat) : String := String.ofList (Quoted.hex width n)

def shownChar (quote c : Char) : String :=
  if c = quote then String.ofList ['\\', quote]
  else if c = '\\' then "\\\\"
  else if c = '\n' then "\\n"
  else if c = '\r' then "\\r"
  else if c = '\t' then "\\t"
  else if isPrintable c then String.singleton c
  else if c.toNat < 0x100 then "\\x" ++ hexText 2 c.toNat
  else if c.toNat < 0x10000 then "\\u" ++ hexText 4 c.toNat
  else "\\U" ++ hexText 8 c.toNat

/-- Between single quotes, or double ones where only that saves escapes. -/
def quoted (s : String) : String :=
  let cs := s.toList
  let quote := if cs.contains '\'' && !cs.contains '"' then '"' else '\''
  String.singleton quote ++ String.join (cs.map (shownChar quote)) ++ String.singleton quote

def tuple : List String → String
  | [part] => "(" ++ part ++ ",)"
  | parts => "(" ++ String.intercalate ", " parts ++ ")"

def namedPart (name : String) (n : Int) : List String := if n = 0 then [] else [name ++ "=" ++ toString n]

/-- Days, seconds and microseconds; of a negative span only the days are negative. -/
def spelledSpan (microseconds : Int) : String :=
  let days := microseconds.fdiv Moment.day
  let rest := microseconds - days * Moment.day
  let parts := namedPart "days" days ++ namedPart "seconds" (rest / Moment.second)
    ++ namedPart "microseconds" (rest % Moment.second)
  "datetime.timedelta(" ++ (if parts.isEmpty then "0" else String.intercalate ", " parts) ++ ")"

def spelledOffset (offset : Int) : String :=
  if offset = 0 then "datetime.timezone.utc" else "datetime.timezone(" ++ spelledSpan offset ++ ")"

def civilParts (d : Date) : List String :=
  let c := d.civil
  [toString c.year, toString c.month, toString c.day]

/-- Hours and minutes, and seconds and microseconds down to the last that is not zero. -/
def clockParts (microseconds : Nat) : List String :=
  let seconds := microseconds / 1000000
  let fraction := microseconds % 1000000
  [toString (seconds / 3600), toString (seconds / 60 % 60)]
    ++ (if seconds % 60 = 0 ∧ fraction = 0 then [] else [toString (seconds % 60)])
    ++ (if fraction = 0 then [] else [toString fraction])

def spelledTemporal : Temporal → String
  | .date d => "datetime.date(" ++ String.intercalate ", " (civilParts d) ++ ")"
  | .moment m =>
    let parts := civilParts m.date ++ clockParts (m.wall - m.date.day * Moment.day).toNat
      ++ (m.offset.map fun o => "tzinfo=" ++ spelledOffset o).toList
    "datetime.datetime(" ++ String.intercalate ", " parts ++ ")"

def spelledAs (kind : Kind) (payload : String) : String :=
  "Value(kind=<ValueKind." ++ upper kind.name ++ ": '" ++ kind.name ++ "'>, data=" ++ payload ++ ")"

mutual

def spelledValue : Value → String
  | .null => spelledAs .null "None"
  | .text s => spelledAs .text (quoted s)
  | .number n => spelledAs .number (n.text Number.shownNames)
  | .boolean b => spelledAs .boolean (if b then "True" else "False")
  | .date t => spelledAs .date (spelledTemporal t)
  | .array items => spelledAs .array (tuple (spelledItems items))
  | .object members => spelledAs .object (tuple (spelledMembers members))

def spelledItems : List Value → List String
  | [] => []
  | v :: rest => spelledValue v :: spelledItems rest

def spelledMembers : List (String × Value) → List String
  | [] => []
  | (k, v) :: rest => tuple [quoted k, spelledValue v] :: spelledMembers rest

end

mutual

def shownInside : Document → String
  | .null => "None"
  | .boolean b => if b then "True" else "False"
  | .number n => n.text Number.shownNames
  | .text s => quoted s
  | .date t => spelledTemporal t
  | .decimal d => "Decimal('" ++ d.text ++ "')"
  | .wrapped v => spelledValue v
  | .list items => "[" ++ String.intercalate ", " (shownItems items) ++ "]"
  | .object members => "\x7b" ++ String.intercalate ", " (shownMembers members) ++ "\x7d"

def shownItems : List Document → List String
  | [] => []
  | d :: rest => d.shownInside :: shownItems rest

def shownMembers : List (String × Document) → List String
  | [] => []
  | (k, d) :: rest => (quoted k ++ ": " ++ d.shownInside) :: shownMembers rest

end

def shown : Document → String
  | .text s => s
  | .date t => t.shown
  | .decimal d => d.text
  | .wrapped v => v.asText
  | d => d.shownInside

end Document

end RecordDesk
