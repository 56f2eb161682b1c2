import RecordDesk.Calendar
import RecordDesk.Text.Numeral
set_option autoImplicit false

/-!
Moments as they are entered: a day and a time, or a count of seconds. A day alone is its midnight; a count
larger than the watershed counts milliseconds.
-/

namespace RecordDesk

namespace Moment

def twoDigits? (a b : Char) : Option Nat := do
  return 10 * (← asciiDigitValue? a) + (← asciiDigitValue? b)

/-- A day in front of a text, and the rest. The year may be 0 here, which the calendar does not have. -/
def readDay? : List Char → Option (Date × List Char)
  | a :: b :: c :: d :: '-' :: e :: f :: '-' :: g :: h :: rest => do
    let century ← twoDigits? a b
    let year ← twoDigits? c d
    let month ← twoDigits? e f
    let day ← twoDigits? g h
    let civil : Civil := ⟨(100 * century + year : Nat), month, day⟩
    if Date.isDay civil then some (Date.ofCivil civil, rest) else none
  | _ => none

def microseconds (ds : List Nat) : Nat :=
  Numeral.ofDigits (ds.take 6) * Nat.pow 10 (6 - ds.length)

def readSeconds? : List Char → Option (Nat × List Char)
  | ':' :: a :: b :: rest => do
    let seconds ← twoDigits? a b
    if 59 < seconds then none
    else match rest with
      | '.' :: more | ',' :: more => match Numeral.digits asciiDigitValue? more with
        | ([], _) => none
        | (ds, rest) => some (seconds * 1000000 + microseconds ds, rest)
      | _ => some (seconds * 1000000, rest)
  | ':' :: _ => none
  | s => some (0, s)

def readClock? : List Char → Option (Nat × List Char)
  | a :: b :: ':' :: c :: d :: rest => do
    let hours ← twoDigits? a b
    let minutes ← twoDigits? c d
    let (micros, rest) ← readSeconds? rest
    if 23 < hours || 59 < minutes then none
    else some ((hours * 60 + minutes) * 60000000 + micros, rest)
  | _ => none

/-- An offset as it is entered: hours and minutes, the colon may be left out, and the minus may be
typographic. -/
def readOffset? : List Char → Option (Option Int)
  | [] => some none
  | ['Z'] | ['z'] => some (some 0)
  | s :: a :: b :: rest => do
    let sign : Int ← if s = '+' then some 1 else if s = '-' || s = '−' then some (-1) else none
    let hours ← twoDigits? a b
    let minutes ← match rest with
      | [':', c, d] | [c, d] => twoDigits? c d
      | _ => none
    if 23 < hours || 59 < minutes then none
    else some (some (sign * ((hours * 60 + minutes) * 60000000 : Nat)))
  | _ => none

def isSeparator (c : Char) : Bool := c == 'T' || c == 't' || c == ' ' || c == '_'

/-- A day, a separator, a time of day and perhaps an offset. -/
def readFull? (s : List Char) : Option Moment := do
  let (day, rest) ← readDay? s
  match rest with
  | [] => none
  | c :: rest =>
    if !isSeparator c then none
    else
      let (micros, rest) ← readClock? rest
      let offset ← readOffset? rest
      return ⟨day.day * Moment.day + micros, offset⟩

/-- Counts above this magnitude are milliseconds. -/
def watershed : Int := 20000000000

def countUnit (pastWatershed : Bool) : Int := if pastWatershed then 1000 else second

def firstSecond : Int := (Date.ofCivil ⟨0, 1, 1⟩).day * 86400
def lastSecond : Int := (Date.last.day + 1) * 86400 - 1

def ofMicroseconds? (total : Int) : Option Moment :=
  if firstSecond ≤ total.fdiv second && total.fdiv second ≤ lastSecond
  then some ⟨total, some 0⟩ else none

def ofCount? (count : Int) : Option Moment :=
  ofMicroseconds? (count * countUnit (decide (watershed < count.natAbs)))

/-- What a count has above its whole part is rounded to microseconds. -/
def ofFloat? (x : Binary64) : Option Moment := do
  let whole ← x.floor?
  let unit := countUnit ((Binary64.ofInt watershed).less x.abs)
  let micros ← ((x - Binary64.ofInt whole) * Binary64.ofInt unit).round?
  ofMicroseconds? (whole * unit + micros)

/-- A count in digits. With a point behind its whole part, which may be missing, it can have any decimal
form. -/
def readCount? (s : List Char) : Option Moment :=
  match Numeral.signedInteger? asciiDigitValue? s with
  | some n => ofCount? n
  | none =>
    if (Numeral.digits asciiDigitValue? (Numeral.sign s).2).2.head? = some '.'
    then (Numeral.number? asciiDigitValue? s).bind ofFloat? else none

/-- Any text that stands for a moment, of the year 0 too. -/
def read? (text : String) : Option Moment :=
  let s := text.toList
  (readFull? s).orElse fun _ =>
    (readCount? s).orElse fun _ =>
      match readDay? s with
      | some (d, []) => some (midnight d)
      | _ => none

end Moment

end RecordDesk
