import RecordDesk.Calendar
import RecordDesk.Text.Numeral
set_option autoImplicit false

/-!
Days and moments in the written forms of ISO 8601: a day by its month or by its week, with hyphens or
without, and behind any one character a time with colons or without, which an offset may follow.
-/

namespace RecordDesk

namespace Date

/-- The Monday of a year's first week, the one with the fourth of January in it. -/
def firstMonday (year : Int) : Int :=
  let fourth := (ofCivil ⟨year, 1, 4⟩).day
  fourth - (fourth + 3) % 7

/-- A day by its week; a year has as many weeks as there are to the next year's first. -/
def ofWeek? (year week weekday : Nat) : Option Date :=
  let monday := firstMonday year + 7 * ((week : Int) - 1)
  if 1 ≤ week ∧ monday < firstMonday (year + 1) ∧ 1 ≤ weekday ∧ weekday ≤ 7
  then some ⟨monday + weekday - 1⟩ else none

end Date

namespace Iso

def number? (count : Nat) (s : List Char) : Option (Nat × List Char) := do
  let ds ← (s.take count).mapM asciiDigitValue?
  if ds.length = count then some (Numeral.ofDigits ds, s.drop count) else none

def skip? (c : Char) : List Char → Option (List Char)
  | d :: rest => if d = c then some rest else none
  | [] => none

/-- The day of a week behind a hyphen. A hyphen that a time follows belongs to the time. -/
def weekdayBehindHyphen? (s : List Char) : Option (Nat × List Char) :=
  match s with
  | '-' :: rest =>
    if Numeral.startsWithDigit asciiDigitValue? (rest.drop 1) then some (1, s) else number? 1 rest
  | _ => some (1, s)

/-- The day of a week without a hyphen. Of the digits that follow, a time takes an even number and one more
for what stands in front of it. -/
def weekday? (s : List Char) : Option (Nat × List Char) :=
  let count := (Numeral.digits asciiDigitValue? s).1.length
  if count = 1 ∨ (2 ≤ count ∧ count % 2 = 0) then number? 1 s else some (1, s)

/-- A day in front of a text, and the rest. -/
def day? (s : List Char) : Option (Date × List Char) := do
  let (year, rest) ← number? 4 s
  let hyphens := rest.head? = some '-'
  let rest := if hyphens then rest.drop 1 else rest
  match rest with
  | 'W' :: rest =>
    let (week, rest) ← number? 2 rest
    let (weekday, rest) ← if hyphens then weekdayBehindHyphen? rest else weekday? rest
    return (← Date.ofWeek? year week weekday, rest)
  | rest =>
    let (month, rest) ← number? 2 rest
    let rest ← if hyphens then skip? '-' rest else some rest
    let (day, rest) ← number? 2 rest
    return (← Date.ofCivil? ⟨year, month, day⟩, rest)

def part? (colons : Bool) (s : List Char) : Option (Nat × List Char) :=
  match colons, s with
  | true, ':' :: rest => number? 2 rest
  | true, s => some (0, s)
  | false, s => if Numeral.startsWithDigit asciiDigitValue? s then number? 2 s else some (0, s)

def fraction? : List Char → Option (Nat × List Char)
  | '.' :: rest | ',' :: rest => match Numeral.digits asciiDigitValue? rest with
    | ([], _) => none
    | (ds, rest) => some (Numeral.ofDigits (ds.take 6) * Nat.pow 10 (6 - ds.length), rest)
  | s => some (0, s)

def clock? (s : List Char) : Option (Nat × List Char) := do
  let (hours, rest) ← number? 2 s
  let colons := rest.head? = some ':'
  let (minutes, rest) ← part? colons rest
  let (seconds, rest) ← part? colons rest
  let (micros, rest) ← fraction? rest
  if hours < 24 ∧ minutes < 60 ∧ seconds < 60
  then some (((hours * 60 + minutes) * 60 + seconds) * 1000000 + micros, rest) else none

def offset? : List Char → Option (Option Int)
  | [] => some none
  | ['Z'] => some (some 0)
  | sign :: s => do
    let (micros, rest) ← clock? s
    if !rest.isEmpty then none
    else if sign = '-' then some (some (-(micros : Int)))
    else if sign = '+' ∨ sign = 'Z' then some (some micros)
    else none

/-- The moment that a text is. A day alone is its midnight. -/
def moment? (s : List Char) : Option Moment := do
  let (day, rest) ← day? s
  if rest.isEmpty then return .midnight day
  let (micros, rest) ← clock? (rest.drop 1)
  return ⟨day.day * Moment.day + micros, ← offset? rest⟩

end Iso

def Moment.ofIso? (text : String) : Option Moment := (Iso.moment? text.toList).filter Moment.inRange

def Date.ofIso? (text : String) : Option Date :=
  match Iso.day? text.toList with
  | some (d, []) => if first.day ≤ d.day ∧ d.day ≤ last.day then some d else none
  | _ => none

end RecordDesk
