import RecordDesk.Document
import RecordDesk.Text.Encoding
set_option autoImplicit false

/-!
Addresses of requests: a path in parts and a query of named texts. Characters may stand as themselves or as
the escaped bytes of their written form. A scheme and a host in front say only how the service is reached.
-/

namespace RecordDesk.Api

structure Address where
  /-- The path, with what was escaped in it. -/
  path : List Char
  /-- The query as it was written. -/
  query : List Char

namespace Address

/-- The value of a hexadecimal digit of either case. -/
def hexDigit? (c : Char) : Option Nat :=
  if '0' ≤ c ∧ c ≤ '9' then some (c.toNat - 48)
  else if 'a' ≤ c ∧ c ≤ 'f' then some (c.toNat - 87)
  else if 'A' ≤ c ∧ c ≤ 'F' then some (c.toNat - 55)
  else none

def byte? (high low : Char) : Option UInt8 := do
  return (16 * (← hexDigit? high) + (← hexDigit? low)).toUInt8

/-- The bytes of an escaped text; a percent sign without two digits stands for itself. -/
def bytes : List Char → List UInt8
  | [] => []
  | '%' :: high :: low :: rest => match byte? high low with
    | some b => b :: bytes rest
    | none => '%'.toUInt8 :: bytes (high :: low :: rest)
  | c :: rest => (String.singleton c).toUTF8.toList ++ bytes rest

def unescaped (s : List Char) : String := String.ofList (Encoding.utf8.decode (bytes s))

/-- The pieces between separators; there is always at least one. -/
def pieces (separator : Char) (s : List Char) : List (List Char) :=
  s.foldr (fun c done => match done with
    | [] => [[c]]
    | piece :: rest => if c = separator then [] :: done else (c :: piece) :: rest) [[]]

/-- The path without its dot segments; two dots take the segment before them away. -/
def withoutDots (path : List Char) : List Char :=
  let kept := (pieces '/' path).foldl (fun done piece =>
    if piece = ['.'] then done
    else if piece = ['.', '.'] then (if done = [[]] then done else done.tail)
    else piece :: done) []
  ['/'].intercalate kept.reverse

def isSchemeChar (c : Char) : Bool := c.isAlphanum || c == '+' || c == '.' || c == '-'

def scheme (s : List Char) : List Char × List Char :=
  match s.span isSchemeChar with
  | (name, ':' :: rest) => if name.head?.all Char.isAlpha then (name, rest) else ([], s)
  | _ => ([], s)

def authority (s : List Char) : List Char × List Char :=
  match s with
  | '/' :: '/' :: rest => rest.span fun c => c != '/' && c != '?' && c != '#'
  | _ => ([], s)

/-- The host and the port of an authority, after a name at the sign that may be in front. A host between
brackets may hold colons. -/
def hostAndPort (s : List Char) : List Char × List Char :=
  let s := (s.reverse.takeWhile (· != '@')).reverse
  let (host, rest) := if s.head? = some '[' && s.contains ']'
    then let (host, rest) := s.span (· != ']'); (host, rest.drop 1)
    else s.span (· != ':')
  (host, rest.drop 1)

/-- Reads an escaped path. An escape may itself be escaped once. -/
def ofPath (path query : List Char) : Address :=
  ⟨(unescaped (unescaped path).toList).toList, query⟩

/-- Splits a text in a path and a query; what follows a number sign is for the caller alone. -/
def parts (s : List Char) : List Char × List Char :=
  let (path, query) := (s.takeWhile (· != '#')).span (· != '?')
  (path, query.drop 1)

def maxLength : Nat := 65536

def isSendable (s : List Char) : Bool :=
  s.length ≤ maxLength && s.all fun c => 32 ≤ c.toNat && c.toNat != 127

/-- Reads an address. Slashes in front of a path are one, unless a scheme and a host come before them. -/
def read (text : String) : Except Fault Address := do
  let s := text.toList
  if !isSendable s then throw .badAddress
  let (scheme, afterScheme) := scheme s
  let (authority, rest) := authority afterScheme
  let (host, port) := hostAndPort authority
  if !port.isEmpty && (Numeral.integer? (String.ofList port)).isNone then throw .badAddress
  let (path, query) := parts rest
  let bare := scheme.isEmpty && authority.isEmpty
  if bare && (['/', '/'].isPrefixOf path || [':'].isPrefixOf path) then throw .badAddress
  let path := if bare then path else withoutDots path
  if scheme.isEmpty || host.isEmpty then
    return ofPath (withoutDots ('/' :: path.dropWhile (· == '/'))) query
  else return ofPath (if path.isEmpty then ['/'] else path) query

def segments (a : Address) : List String := (pieces '/' (a.path.drop 1)).map String.ofList

def withoutEndSlashes? (a : Address) : Option Address :=
  if a.path.getLast? = some '/' then some ⟨(a.path.reverse.dropWhile (· == '/')).reverse, a.query⟩ else none

/-- An address that a caller is sent on to. Nothing in its path is escaped any more, and what the path holds
is read once again. -/
def again (a : Address) : Address :=
  let (path, query) := parts (if a.query.isEmpty then a.path else a.path ++ '?' :: a.query)
  ofPath (withoutDots path) query

/-- One parameter. A plus sign is a blank, and a name without a value has the empty one. -/
def parameter (s : List Char) : String × Document :=
  let s := s.map fun c => if c = '+' then ' ' else c
  let (name, value) := s.span (· != '=')
  (unescaped name, .text (unescaped (value.drop 1)))

def parameters (a : Address) : Members :=
  Members.ofPairs (((pieces '&' a.query).filter (!·.isEmpty)).map parameter)

end Address

end RecordDesk.Api
