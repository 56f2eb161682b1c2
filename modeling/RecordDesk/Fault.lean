set_option autoImplicit false

/-!
Everything that can go wrong, as causes. The wording of each cause is in one place, `Fault.message`.
-/

namespace RecordDesk

inductive Step where
  | key (name : String)
  | index (i : Int)
  deriving DecidableEq, Repr

inductive IssueKind where
  | missing | stringType | modelType | modelAttributesType | listType | dictType
  | intType | intParsing | intParsingSize | intFromFloat | finiteNumber
  | boolType | boolParsing | floatType | floatParsing
  | literalError | greaterThanEqual | lessThanEqual
  | unionTagNotFound | unionTagInvalid
  | datetimeType | datetimeParsing | datetimeFromDateParsing
  deriving DecidableEq, Repr

def IssueKind.name : IssueKind → String
  | .missing => "missing"
  | .stringType => "string_type"
  | .modelType => "model_type"
  | .modelAttributesType => "model_attributes_type"
  | .listType => "list_type"
  | .dictType => "dict_type"
  | .intType => "int_type"
  | .intParsing => "int_parsing"
  | .intParsingSize => "int_parsing_size"
  | .intFromFloat => "int_from_float"
  | .finiteNumber => "finite_number"
  | .boolType => "bool_type"
  | .boolParsing => "bool_parsing"
  | .floatType => "float_type"
  | .floatParsing => "float_parsing"
  | .literalError => "literal_error"
  | .greaterThanEqual => "greater_than_equal"
  | .lessThanEqual => "less_than_equal"
  | .unionTagNotFound => "union_tag_not_found"
  | .unionTagInvalid => "union_tag_invalid"
  | .datetimeType => "datetime_type"
  | .datetimeParsing => "datetime_parsing"
  | .datetimeFromDateParsing => "datetime_from_date_parsing"

structure Issue where
  path : List Step
  kind : IssueKind
  deriving DecidableEq, Repr

/-- Where and why a text is no document. Positions count code points from zero. -/
structure ReadFault where
  what : String
  line : Nat
  column : Nat
  position : Nat
  deriving DecidableEq, Repr

def ReadFault.message (f : ReadFault) : String :=
  s!"{f.what}: line {f.line} column {f.column} (char {f.position})"

/-- Why a widget's specification was refused before any record was read. -/
inductive QueryFault where
  | unsupportedWidget (name : String)
  | unsupportedMetric (name : String)
  | unsupportedSortOrder (name : String)
  | unknownField (role key : String)
  | notFilterable (key : String)
  | notSortable (key : String)
  | notQueryable (key : String)
  | needsTarget (metric : String)
  | needsGroup
  | needsTitle
  | outOfRange (name : String) (low high : Int)
  | windowReversed
  | noEntity
  deriving DecidableEq, Repr

def QueryFault.message : QueryFault → String
  | .unsupportedWidget name => s!"Unsupported widget type: {name}"
  | .unsupportedMetric name => s!"Unsupported metric type: {name}"
  | .unsupportedSortOrder name => s!"Unsupported sort order: {name}"
  | .unknownField role key => s!"Unknown {role} '{key}'"
  | .notFilterable key => s!"Field '{key}' is not filterable"
  | .notSortable key => s!"Field '{key}' is not sortable"
  | .notQueryable key => s!"Field '{key}' cannot be queried"
  | .needsTarget metric => s!"{metric} requires target_field"
  | .needsGroup => "Chart widgets require group_by field"
  | .needsTitle => "List widgets require title_field"
  | .outOfRange name low high => s!"{name} must be between {low} and {high}"
  | .windowReversed => "date_range.start must not be after date_range.end"
  | .noEntity => "Entity not found"

inductive Fault where
  /-- An integer too large for a binary64 number. -/
  | numberTooLarge
  | quotientTooLarge
  | infinityToInteger
  | nanToInteger
  | dateOutOfRange
  /-- An integer that the record store's 64 bits cannot hold. -/
  | integerTooWide
  /-- An integer of more digits than are read or written; of a text that is read it is known how many. -/
  | numeralTooLong (digits : Option Nat)
  /-- A written collection inside more others than are read. -/
  | nestedTooDeep (collection : String)
  | unknownEncoding (label : String)
  /-- A label of an encoding with a NUL in it. -/
  | nullInLabel
  /-- A form that does not fit; `subject` names what was expected. -/
  | invalid (subject : String) (issues : List Issue)
  | query (cause : QueryFault)
  | template (cause : ReadFault)
  | malformedAction (type : String) (issues : Nat)
  | collaborator (text : String)
  | notFound (what : String)
  | missingRequired (keys : List String)
  /-- Settings that the service does not start with. -/
  | configuration (text : String)
  /-- A step outside the program failed; the text is all that is known of it. -/
  | external (text : String)
  /-- The record store refused a statement. -/
  | storage (text : String)
  | unstorable (text : String)
  /-- A row with the key of another. -/
  | duplicate (table : String)
  /-- A document of a kind that the work at hand cannot use. -/
  | unsuitable (text : String)
  /-- Parts are asked of a document that has none. -/
  | withoutParts (kind : String)
  /-- An item of a list of pairs that is no pair. -/
  | unpaired (index length : Nat)
  /-- A decimal that is no number is compared, or decimals are reckoned with that have no result. -/
  | invalidDecimal
  | infiniteDecimalToInteger
  | nanDecimalToInteger
  /-- A text that is no number where one is needed. -/
  | notNumeric (shown : String)
  | notInteger (shown : String)
  /-- A decimal that no binary64 number stands for. -/
  | nanToFloat
  | divisionByZero
  /-- A span of more days than are counted. -/
  | spanTooLong (days : Int)
  /-- A number that a written document cannot have. -/
  | unwritableNumber
  /-- An address that a request cannot be sent to. -/
  | badAddress
  /-- A header with a character that headers cannot have. -/
  | unsendableHeader
  | tooManyRedirects
  deriving Repr

def Fault.message : Fault → String
  | .numberTooLarge => "int too large to convert to float"
  | .quotientTooLarge => "integer division result too large for a float"
  | .infinityToInteger => "cannot convert float infinity to integer"
  | .nanToInteger => "cannot convert float NaN to integer"
  | .dateOutOfRange => "date value out of range"
  | .integerTooWide => "Python int too large to convert to SQLite INTEGER"
  | .numeralTooLong digits =>
    let counted := match digits with
      | some n => s!": value has {n} digits"
      | none => ""
    "Exceeds the limit (4300 digits) for integer string conversion" ++ counted
      ++ "; use sys.set_int_max_str_digits() to increase the limit"
  | .nestedTooDeep collection =>
    s!"maximum recursion depth exceeded while decoding a JSON {collection} from a unicode string"
  | .unknownEncoding label => s!"unknown encoding: {label}"
  | .nullInLabel => "embedded null character"
  | .invalid subject issues =>
    let noun := if issues.length = 1 then "validation error" else "validation errors"
    s!"{issues.length} {noun} for {subject}"
  | .query cause => cause.message
  | .template cause => s!"Interpolated payload is not valid JSON: {cause.message}"
  | .malformedAction type issues => s!"Invalid {type} action: {issues} validation error(s)"
  | .collaborator text => text
  | .notFound what => s!"{what} not found"
  | .missingRequired keys => "Missing required fields: " ++ String.intercalate ", " keys
  | .configuration text => text
  | .external text => text
  | .storage text => "(sqlite3.OperationalError) " ++ text
  | .unstorable text => text
  | .duplicate table => s!"(sqlite3.IntegrityError) UNIQUE constraint failed: {table}.id"
  | .unsuitable text => text
  | .withoutParts kind => s!"'{kind}' object has no such attribute"
  | .unpaired index length =>
    s!"dictionary update sequence element #{index} has length {length}; 2 is required"
  | .invalidDecimal => "invalid operation on a decimal"
  | .infiniteDecimalToInteger => "cannot convert Infinity to integer"
  | .nanDecimalToInteger => "cannot convert NaN to integer"
  | .notNumeric shown => s!"could not convert string to float: {shown}"
  | .notInteger shown => s!"invalid literal for int() with base 10: {shown}"
  | .nanToFloat => "cannot convert signaling NaN to float"
  | .divisionByZero => "float division by zero"
  | .spanTooLong days =>
    if days < -0x80000000 ∨ 0x7fffffff < days then "Python int too large to convert to C int"
    else s!"days={days}; must have magnitude <= 999999999"
  | .unwritableNumber => "Out of range float values are not JSON compliant"
  | .badAddress => "invalid address"
  | .unsendableHeader => "headers are ASCII texts"
  | .tooManyRedirects => "Exceeded maximum allowed redirects."

/-- Whether the account of a fault goes on below its first line; then nothing follows it in an entry. -/
def Fault.fillsEntry : Fault → Bool
  | .storage _ | .unstorable _ | .duplicate _ | .invalid .. => true
  | _ => false

end RecordDesk
