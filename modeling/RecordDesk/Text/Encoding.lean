import RecordDesk.Text.Casing
set_option autoImplicit false

/-!
Character encodings of a received body. Which labels there are and what each makes of the bytes is up to the
platform. Of the encodings here bytes that stand for nothing become replacement characters, one for each
longest piece that could have been the start of a character.
-/

namespace RecordDesk

/-- What an encoding makes of some bytes: their text, or the words in which it refuses them. -/
abbrev Codec := List UInt8 → Except String (List Char)

/-- The encodings of a platform by their labels. -/
abbrev Codecs := String → Option Codec

inductive Encoding where
  | utf8 | latin1 | ascii | utf16le | cp1252
  deriving DecidableEq, Repr

namespace Encoding

def replacement : Char := Char.ofNat 0xfffd

def name : Encoding → String
  | .utf8 => "utf_8"
  | .latin1 => "latin_1"
  | .ascii => "ascii"
  | .utf16le => "utf_16_le"
  | .cp1252 => "cp1252"

/-- Its other names; in these a full stop may also stand for an underscore. -/
def aliases : Encoding → List String
  | .utf8 => ["u8", "utf", "utf8", "utf8_ucs2", "utf8_ucs4", "cp65001"]
  | .latin1 => ["8859", "cp819", "csisolatin1", "ibm819", "iso8859", "iso8859_1", "iso_8859_1",
      "iso_8859_1_1987", "iso_ir_100", "l1", "latin", "latin1"]
  | .ascii => ["646", "ansi_x3.4_1968", "ansi_x3_4_1968", "ansi_x3.4_1986", "cp367", "csascii", "ibm367",
      "iso646_us", "iso_646.irv_1991", "iso_ir_6", "us", "us_ascii"]
  | .utf16le => ["unicodelittleunmarked", "utf_16le"]
  | .cp1252 => ["1252", "windows_1252"]

def isLabelChar (c : Char) : Bool := c.isAlphanum || c == '.'

/-- A label with every run of other characters between two label characters made one underscore. -/
def normalized : List Char → List Char
  | [] => []
  | c :: rest =>
    if isLabelChar c then c.toLower :: normalized rest
    else match rest with
      | d :: _ => if isLabelChar d then '_' :: normalized rest else normalized rest
      | [] => []

def goesBy (label : List Char) (e : Encoding) : Bool :=
  let underscored := label.map fun c => if c = '.' then '_' else c
  e.name == String.ofList label || e.aliases.contains (String.ofList label)
    || e.aliases.contains (String.ofList underscored)

def ofLabel? (label : String) : Option Encoding :=
  let label := normalized (label.toList.dropWhile fun c => !isLabelChar c)
  [utf8, latin1, ascii, utf16le, cp1252].find? (goesBy label)

def leadRange? (lead : Nat) : Option (Nat × Nat × Nat) :=
  if 0xc2 ≤ lead ∧ lead ≤ 0xdf then some (0x80, 0xbf, 1)
  else if lead = 0xe0 then some (0xa0, 0xbf, 2)
  else if lead = 0xed then some (0x80, 0x9f, 2)
  else if 0xe1 ≤ lead ∧ lead ≤ 0xef then some (0x80, 0xbf, 2)
  else if lead = 0xf0 then some (0x90, 0xbf, 3)
  else if 0xf1 ≤ lead ∧ lead ≤ 0xf3 then some (0x80, 0xbf, 3)
  else if lead = 0xf4 then some (0x80, 0x8f, 3)
  else none

/-- A character that has begun: its bits so far, the bytes that may come next, and how many are to come. -/
structure Pending where
  bits : Nat
  low : Nat
  high : Nat
  missing : Nat

def start (b : Nat) : List Char × Option Pending :=
  if b < 0x80 then ([Char.ofNat b], none)
  else match leadRange? b with
    | none => ([replacement], none)
    | some (low, high, missing) => ([], some ⟨b % Nat.pow 2 (6 - missing), low, high, missing⟩)

def stepUtf8 (pending : Option Pending) (b : Nat) : List Char × Option Pending :=
  match pending with
  | none => start b
  | some p =>
    if p.low ≤ b ∧ b ≤ p.high then
      let bits := p.bits * 64 + b % 64
      if p.missing ≤ 1 then ([Char.ofNat bits], none) else ([], some ⟨bits, 0x80, 0xbf, p.missing - 1⟩)
    else
      let (chars, next) := start b
      (replacement :: chars, next)

/-- Decodes from a character that may have begun; `done` holds what was read, the last character first. -/
def decodeUtf8 (done : List Char) (pending : Option Pending) : List UInt8 → List Char
  | [] => (if pending.isSome then replacement :: done else done).reverse
  | b :: rest =>
    let (chars, next) := stepUtf8 pending b.toNat
    decodeUtf8 (chars.reverse ++ done) next rest

def isHigh (unit : Nat) : Bool := 0xd800 ≤ unit && unit ≤ 0xdbff
def isLow (unit : Nat) : Bool := 0xdc00 ≤ unit && unit ≤ 0xdfff

/-- Decodes pairs of bytes, the lower first. `high` is half a pair whose other half is looked for. -/
def decodeUtf16le (done : List Char) (high : Option Nat) : List UInt8 → List Char
  | [] => (if high.isSome then replacement :: done else done).reverse
  | [_] => (replacement :: done).reverse
  | a :: b :: rest =>
    let unit := a.toNat + 256 * b.toNat
    match high with
    | some h =>
      if isLow unit then
        decodeUtf16le (Char.ofNat (0x10000 + (h - 0xd800) * 0x400 + (unit - 0xdc00)) :: done) none rest
      else if isHigh unit then decodeUtf16le (replacement :: done) (some unit) rest
      else decodeUtf16le (Char.ofNat unit :: replacement :: done) none rest
    | none =>
      if isHigh unit then decodeUtf16le done (some unit) rest
      else if isLow unit then decodeUtf16le (replacement :: done) none rest
      else decodeUtf16le (Char.ofNat unit :: done) none rest

/-- The code points of the bytes 128 to 159; zero where there is none. -/
def cp1252Upper : Array Nat := #[
  0x20ac, 0, 0x201a, 0x0192, 0x201e, 0x2026, 0x2020, 0x2021, 0x02c6, 0x2030, 0x0160, 0x2039, 0x0152, 0,
  0x017d, 0, 0, 0x2018, 0x2019, 0x201c, 0x201d, 0x2022, 0x2013, 0x2014, 0x02dc, 0x2122, 0x0161, 0x203a,
  0x0153, 0, 0x017e, 0x0178]

def cp1252Char (b : UInt8) : Char :=
  let n := b.toNat
  if n < 0x80 ∨ 0xa0 ≤ n then Char.ofNat n
  else match cp1252Upper[n - 0x80]? with
    | none | some 0 => replacement
    | some code => Char.ofNat code

def asciiChar (b : UInt8) : Char := if b.toNat < 0x80 then Char.ofNat b.toNat else replacement

def decode (bytes : List UInt8) : Encoding → List Char
  | .utf8 => decodeUtf8 [] none bytes
  | .latin1 => bytes.map fun b => Char.ofNat b.toNat
  | .ascii => bytes.map asciiChar
  | .utf16le => decodeUtf16le [] none bytes
  | .cp1252 => bytes.map cp1252Char

/-- A platform that has these encodings. None of them refuses anything. -/
def codecs : Codecs := fun label => (ofLabel? label).map fun e bytes => .ok (e.decode bytes)

end Encoding

end RecordDesk
