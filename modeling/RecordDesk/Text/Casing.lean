import RecordDesk.Text.Casing.Table
set_option autoImplicit false

/-!
Lower, upper and title case of any text. A capital sigma becomes a final sigma where a cased character
stands before it and none after it, ignorable characters passed over.
-/

namespace RecordDesk.Casing

def inRanges (ranges : Array (Nat × Nat)) (c : Char) : Bool :=
  ranges.any fun r => decide (r.1 ≤ c.toNat) && decide (c.toNat ≤ r.2)

def isCased (c : Char) : Bool :=
  if c.toNat < 128 then c.isAlpha else inRanges casedRanges c

def isIgnorable (c : Char) : Bool := inRanges ignorableRanges c

def shifted (runs : Array Run) (c : Char) : Char :=
  match runs.find? (·.covers c.toNat) with
  | some r => Char.ofNat (c.toNat + r.shift).toNat
  | none => c

def special (table : Array (Nat × List Nat)) (c : Char) : Option (List Char) :=
  (table.find? (·.1 == c.toNat)).map fun entry => entry.2.map Char.ofNat

def lowerChar (c : Char) : List Char :=
  if c.toNat < 128 then [c.toLower]
  else if c.toNat = 0x130 then ['i', Char.ofNat 0x307]
  else [shifted lowerRuns c]

def upperChar (c : Char) : List Char :=
  if c.toNat < 128 then [c.toUpper]
  else (special upperSpecial c).getD [shifted upperRuns c]

def titleChar (c : Char) : List Char :=
  (special titleSpecial c).getD (upperChar c)

def meetsCased (s : List Char) : Bool :=
  match s.dropWhile isIgnorable with
  | [] => false
  | c :: _ => isCased c

def lowerSigma (before after : List Char) : Char :=
  if meetsCased before && !meetsCased after then 'ς' else 'σ'

/-- `before` holds what was read, the nearest character first. -/
def lowerFrom (before : List Char) : List Char → List Char
  | [] => []
  | c :: rest =>
    (if c = 'Σ' then [lowerSigma before rest] else lowerChar c) ++ lowerFrom (c :: before) rest

/-- A character after a cased one is lowered, any other gets its title case. -/
def titleFrom (before : List Char) : List Char → List Char
  | [] => []
  | c :: rest =>
    let inWord := match before with
      | [] => false
      | b :: _ => isCased b
    (if inWord then (if c = 'Σ' then [lowerSigma before rest] else lowerChar c) else titleChar c)
      ++ titleFrom (c :: before) rest

end RecordDesk.Casing

namespace RecordDesk

def lower (s : String) : String := String.ofList (Casing.lowerFrom [] s.toList)
def upper (s : String) : String := String.ofList (s.toList.flatMap Casing.upperChar)
def title (s : String) : String := String.ofList (Casing.titleFrom [] s.toList)

end RecordDesk
