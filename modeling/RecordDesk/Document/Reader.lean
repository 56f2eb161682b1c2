import RecordDesk.Document
set_option autoImplicit false

/-!
Reading a written document. A fault carries the place where reading stopped; places are kept as the number
of characters that were left, and turned into line and column only at the end.
-/

namespace RecordDesk

namespace Document

inductive ReadError where
  | malformed (fault : ReadFault)
  | numeralTooLong (digits : Nat)
  /-- A collection inside too many others. -/
  | tooDeep (collection : String)
  deriving Repr

inductive Stop where
  /-- What was wrong, and how many characters were left. -/
  | malformed (what : String) (left : Nat)
  | numeralTooLong (digits left : Nat)

/-- How many characters were left. -/
def Stop.left : Stop → Nat
  | .malformed _ left | .numeralTooLong _ left => left

abbrev Scan (α : Type) := Except Stop (α × List Char)

def isSpace (c : Char) : Bool := c == ' ' || c == '\t' || c == '\n' || c == '\r'

def skipSpace (s : List Char) : List Char := s.dropWhile isSpace

def expectingValue (s : List Char) : Stop := .malformed "Expecting value" s.length

def hexValue? (c : Char) : Option Nat :=
  if c.isDigit then some (c.toNat - 48)
  else if 'a' ≤ c ∧ c ≤ 'f' then some (c.toNat - 87)
  else if 'A' ≤ c ∧ c ≤ 'F' then some (c.toNat - 55)
  else none

def hexUnit? (a b c d : Char) : Option Nat := do
  let a ← hexValue? a
  let b ← hexValue? b
  let c ← hexValue? c
  let d ← hexValue? d
  return ((a * 16 + b) * 16 + c) * 16 + d

def isHighHalf (n : Nat) : Bool := 0xd800 ≤ n && n ≤ 0xdbff
def isLowHalf (n : Nat) : Bool := 0xdc00 ≤ n && n ≤ 0xdfff
def joinHalves (high low : Nat) : Char := Char.ofNat (0x10000 + (high - 0xd800) * 0x400 + (low - 0xdc00))

/-- The character of a 16-bit unit; half a pair on its own has none and shows as the replacement. -/
def unitChar (n : Nat) : Char :=
  if isHighHalf n || isLowHalf n then Char.ofNat 0xfffd else Char.ofNat n

def escapedChar? : Char → Option Char
  | '"' => some '"'
  | '\\' => some '\\'
  | '/' => some '/'
  | 'b' => some (Char.ofNat 8)
  | 'f' => some (Char.ofNat 12)
  | 'n' => some '\n'
  | 'r' => some '\r'
  | 't' => some '\t'
  | _ => none

/-- The unit escape after a `u`, which needs a character behind it; `none` if it is not one. -/
def unitEscape? : List Char → Option (Nat × List Char)
  | a :: b :: c :: d :: e :: rest => (hexUnit? a b c d).map (·, e :: rest)
  | _ => none

/-- The low half that may follow a high one, or the fault of a broken escape in its place. -/
def lowHalf (s : List Char) : Scan (Option Nat) :=
  match s with
  | '\\' :: 'u' :: a :: b :: c :: d :: e :: rest =>
    match hexUnit? a b c d with
    | none => .error (.malformed "Invalid \\uXXXX escape" (s.length - 1))
    | some n => if isLowHalf n then .ok (some n, e :: rest) else .ok (none, s)
  | _ => .ok (none, s)

def unterminated (opening : List Char) : Stop := .malformed "Unterminated string starting at" opening.length

/-- Reads a text up to its closing quote. `opening` is what was left at the opening quote. -/
def readText (opening : List Char) : Nat → List Char → List Char → Scan String
  | 0, _, _ => .error (unterminated opening)
  | fuel + 1, done, s =>
    match s with
    | [] => .error (unterminated opening)
    | '"' :: rest => .ok (String.ofList done.reverse, rest)
    | '\\' :: rest =>
      match rest with
      | [] => .error (unterminated opening)
      | 'u' :: more =>
        match unitEscape? more with
        | none => .error (.malformed "Invalid \\uXXXX escape" rest.length)
        | some (n, after) =>
          if isHighHalf n then
            match lowHalf after with
            | .error e => .error e
            | .ok (some low, after) => readText opening fuel (joinHalves n low :: done) after
            | .ok (none, after) => readText opening fuel (unitChar n :: done) after
          else readText opening fuel (unitChar n :: done) after
      | c :: more =>
        match escapedChar? c with
        | some x => readText opening fuel (x :: done) more
        | none => .error (.malformed "Invalid \\escape" s.length)
    | c :: rest =>
      if c.toNat < 32 then .error (.malformed "Invalid control character at" s.length)
      else readText opening fuel (c :: done) rest

def takeDigits (s : List Char) : List Char × List Char := s.span Char.isDigit

def fraction (s : List Char) : List Char × List Char :=
  match s with
  | '.' :: d :: rest => if d.isDigit then takeDigits (d :: rest) else ([], s)
  | _ => ([], s)

def exponent (s : List Char) : Option Int × List Char :=
  match s with
  | e :: rest =>
    if e == 'e' || e == 'E' then
      let (minus, body) := Numeral.sign rest
      match takeDigits body with
      | ([], _) => (none, s)
      | (ds, after) =>
        let n : Int := Numeral.ofDigits (ds.map fun c => c.toNat - 48)
        (some (if minus then -n else n), after)
    else (none, s)
  | [] => (none, s)

/-- The digits in front of the point: a zero alone, or digits that start with another. -/
def wholePart (s : List Char) : List Char × List Char :=
  match s with
  | '0' :: rest => (['0'], rest)
  | _ => takeDigits s

def minusSign : List Char → Bool × List Char
  | '-' :: rest => (true, rest)
  | s => (false, s)

def readNumber (s : List Char) : Scan Document :=
  let (minus, body) := minusSign s
  match wholePart body with
  | ([], _) => .error (expectingValue s)
  | (whole, afterWhole) =>
    let (frac, afterFraction) := fraction afterWhole
    let (exp?, rest) := exponent afterFraction
    let n := Numeral.ofDigits ((whole ++ frac).map fun c => c.toNat - 48)
    if frac.isEmpty && exp?.isNone then
      if Numeral.digitLimit < whole.length then .error (.numeralTooLong whole.length s.length)
      else .ok (.number (.int (if minus then -n else n)), rest)
    else .ok (.number (.float (Binary64.ofDecimal minus n (exp?.getD 0 - frac.length))), rest)

def words : List (List Char × Document) := [
  ("null".toList, .null), ("true".toList, .boolean true), ("false".toList, .boolean false),
  ("NaN".toList, .number (.float .nan)), ("Infinity".toList, .number (.float (.infinite false))),
  ("-Infinity".toList, .number (.float (.infinite true)))]

def readWord (s : List Char) : Option (Document × List Char) :=
  (words.find? fun w => w.1.isPrefixOf s).map fun w => (w.2, s.drop w.1.length)

mutual

def readValue : Nat → List Char → Scan Document
  | 0, s => .error (expectingValue s)
  | fuel + 1, s =>
    match s with
    | '"' :: rest => (readText s fuel [] rest).map fun (t, rest) => (.text t, rest)
    | '[' :: rest => match skipSpace rest with
      | ']' :: rest => .ok (.list [], rest)
      | rest => readItems fuel [] rest
    | '\x7b' :: rest => match skipSpace rest with
      | '\x7d' :: rest => .ok (.object [], rest)
      | rest => readMembers fuel [] rest
    | _ => match readWord s with
      | some found => .ok found
      | none => readNumber s

def readItems : Nat → List Document → List Char → Scan Document
  | 0, _, s => .error (expectingValue s)
  | fuel + 1, done, s =>
    match readValue fuel s with
    | .error e => .error e
    | .ok (d, rest) => match skipSpace rest with
      | ']' :: rest => .ok (.list (d :: done).reverse, rest)
      | ',' :: rest => readItems fuel (d :: done) (skipSpace rest)
      | rest => .error (.malformed "Expecting ',' delimiter" rest.length)

def readMembers : Nat → List (String × Document) → List Char → Scan Document
  | 0, _, s => .error (expectingValue s)
  | fuel + 1, done, s =>
    match s with
    | '"' :: rest => match readText s fuel [] rest with
      | .error e => .error e
      | .ok (key, rest) => match skipSpace rest with
        | ':' :: rest => match readValue fuel (skipSpace rest) with
          | .error e => .error e
          | .ok (d, rest) => match skipSpace rest with
            | '\x7d' :: rest => .ok (.object (Members.ofPairs ((key, d) :: done).reverse), rest)
            | ',' :: rest => readMembers fuel ((key, d) :: done) (skipSpace rest)
            | rest => .error (.malformed "Expecting ',' delimiter" rest.length)
        | rest => .error (.malformed "Expecting ':' delimiter" rest.length)
    | _ => .error (.malformed "Expecting property name enclosed in double quotes" s.length)

end

/-- How many collections may stand in each other. -/
def nestingLimit : Nat := 980

/-- The first collection that stands too deep, from a depth on and inside a quoted text or not. -/
def tooDeep? : Nat → Bool → List Char → Option String
  | depth, true, '\\' :: _ :: rest => tooDeep? depth true rest
  | depth, true, c :: rest => tooDeep? depth (c != '"') rest
  | depth, false, c :: rest =>
    if c == '[' || c == '\x7b' then
      if nestingLimit ≤ depth then some (if c == '[' then "array" else "object")
      else tooDeep? (depth + 1) false rest
    else if c == ']' || c == '\x7d' then tooDeep? (depth - 1) false rest
    else tooDeep? depth (c == '"') rest
  | _, _, [] => none

def locate (what : String) (s : List Char) (left : Nat) : ReadFault :=
  let before := s.take (s.length - left)
  let lastLine := (before.reverse.takeWhile (· != '\n')).length
  ⟨what, before.count '\n' + 1, lastLine + 1, before.length⟩

def scan (s : List Char) : Except Stop Document :=
  if s.head? = some (Char.ofNat 0xfeff) then
    .error (.malformed "Unexpected UTF-8 BOM (decode using utf-8-sig)" s.length)
  else
    match readValue (2 * s.length + 2) (skipSpace s) with
    | .error e => .error e
    | .ok (d, rest) => match skipSpace rest with
      | [] => .ok d
      | rest => .error (.malformed "Extra data" rest.length)

/-- Reads a text that is one document with spaces around it. What was read up to a fault must not nest too
deep either, and that counts before the fault. -/
def read (text : String) : Except ReadError Document :=
  let s := text.toList
  match scan s with
  | .ok d => match tooDeep? 0 false s with
    | none => .ok d
    | some collection => .error (.tooDeep collection)
  | .error stop => match tooDeep? 0 false (s.take (s.length - stop.left)) with
    | some collection => .error (.tooDeep collection)
    | none => match stop with
      | .malformed what left => .error (.malformed (locate what s left))
      | .numeralTooLong digits _ => .error (.numeralTooLong digits)

end Document

end RecordDesk
