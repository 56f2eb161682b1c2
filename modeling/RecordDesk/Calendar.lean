import RecordDesk.Numeric.Shortest
set_option autoImplicit false

/-!
Days and moments of the proleptic Gregorian calendar, years 1 to 9999. A moment is what a clock on the
wall shows, with the offset from universal time if that is known.
-/

namespace RecordDesk

def padded (width n : Nat) : String :=
  let digits := Nat.toDigits 10 n
  String.ofList (List.replicate (width - digits.length) '0' ++ digits)

/-- A day by its number; day 0 is 1970-01-01. -/
structure Date where
  day : Int
  deriving DecidableEq, Repr

structure Civil where
  year : Int
  month : Nat
  day : Nat
  deriving DecidableEq, Repr

namespace Date

def isLeap (year : Int) : Bool := year % 4 = 0 && (year % 100 ≠ 0 || year % 400 = 0)

def monthLength (year : Int) (month : Nat) : Nat :=
  if month = 2 then (if isLeap year then 29 else 28)
  else if month = 4 ∨ month = 6 ∨ month = 9 ∨ month = 11 then 30 else 31

/-- Counts days in eras of 400 years that start on the first of March. -/
def ofCivil (c : Civil) : Date :=
  let year := if c.month ≤ 2 then c.year - 1 else c.year
  let era := year.fdiv 400
  let yearOfEra := year - era * 400
  let monthFromMarch : Int := (c.month + 9) % 12
  let dayOfYear := (153 * monthFromMarch + 2) / 5 + c.day - 1
  let dayOfEra := yearOfEra * 365 + yearOfEra / 4 - yearOfEra / 100 + dayOfYear
  ⟨era * 146097 + dayOfEra - 719468⟩

def isDay (c : Civil) : Bool :=
  1 ≤ c.month && c.month ≤ 12 && 1 ≤ c.day && c.day ≤ monthLength c.year c.month

def ofCivil? (c : Civil) : Option Date :=
  if 1 ≤ c.year ∧ c.year ≤ 9999 ∧ isDay c then some (ofCivil c) else none

def civil (d : Date) : Civil :=
  let z := d.day + 719468
  let era := z.fdiv 146097
  let dayOfEra := z - era * 146097
  let yearOfEra := (dayOfEra - dayOfEra / 1460 + dayOfEra / 36524 - dayOfEra / 146096) / 365
  let dayOfYear := dayOfEra - (365 * yearOfEra + yearOfEra / 4 - yearOfEra / 100)
  let monthFromMarch := (5 * dayOfYear + 2) / 153
  let day := dayOfYear - (153 * monthFromMarch + 2) / 5 + 1
  let month := if monthFromMarch < 10 then monthFromMarch + 3 else monthFromMarch - 9
  ⟨yearOfEra + era * 400 + (if month ≤ 2 then 1 else 0), month.toNat, day.toNat⟩

def iso (d : Date) : String :=
  let c := d.civil
  padded 4 c.year.toNat ++ "-" ++ padded 2 c.month ++ "-" ++ padded 2 c.day

def first : Date := ofCivil ⟨1, 1, 1⟩
def last : Date := ofCivil ⟨9999, 12, 31⟩

end Date

/-- Microseconds since 1970-01-01T00:00 on the wall clock, and the clock's offset in microseconds. -/
structure Moment where
  wall : Int
  offset : Option Int
  deriving DecidableEq, Repr

namespace Moment

def second : Int := 1000000
def day : Int := 86400 * second

def date (m : Moment) : Date := ⟨m.wall.fdiv day⟩

/-- Microseconds since the epoch; a wall time without offset is taken as universal time. -/
def instant (m : Moment) : Int := m.wall - m.offset.getD 0

def inRange (m : Moment) : Bool :=
  decide (Date.first.day ≤ m.date.day) && decide (m.date.day ≤ Date.last.day)

def utc (m : Moment) : Moment := ⟨m.instant, some 0⟩

/-- What the wall clock shows, with the offset forgotten. -/
def naive (m : Moment) : Moment := ⟨m.wall, none⟩

def addMicroseconds (m : Moment) (n : Int) : Moment := ⟨m.wall + n, m.offset⟩

def midnight (d : Date) : Moment := ⟨d.day * day, none⟩

/-- Milliseconds since the epoch: seconds are rounded to a number first, then scaled. -/
def epochMillis (m : Moment) : Binary64 :=
  Binary64.ofQuotient m.instant second * Binary64.ofInt 1000

/-- Two moments are equal when both name the same instant or both lack an offset and look the same. -/
def same (a b : Moment) : Bool :=
  a.offset.isSome == b.offset.isSome && a.instant == b.instant

def clockText (microseconds : Nat) : String :=
  let seconds := microseconds / 1000000
  padded 2 (seconds / 3600) ++ ":" ++ padded 2 (seconds / 60 % 60) ++ ":" ++ padded 2 (seconds % 60)
    ++ (if microseconds % 1000000 = 0 then "" else "." ++ padded 6 (microseconds % 1000000))

/-- Seconds of an offset are shown only when there are any. -/
def offsetText (offset : Int) : String :=
  let size := offset.natAbs
  (if offset < 0 then "-" else "+") ++
    (if size % 60000000 = 0
     then padded 2 (size / 3600000000) ++ ":" ++ padded 2 (size / 60000000 % 60)
     else clockText size)

def written (separator : String) (m : Moment) : String :=
  m.date.iso ++ separator ++ clockText (m.wall - m.date.day * day).toNat
    ++ (m.offset.map offsetText).getD ""

def iso (m : Moment) : String := m.written "T"

def shown (m : Moment) : String := m.written " "

end Moment

inductive Temporal where
  | date (d : Date)
  | moment (m : Moment)
  deriving DecidableEq, Repr

namespace Temporal

def iso : Temporal → String
  | .date d => d.iso
  | .moment m => m.iso

def shown : Temporal → String
  | .date d => d.iso
  | .moment m => m.shown

/-- A day is never equal to a moment. -/
def same : Temporal → Temporal → Bool
  | .date a, .date b => a == b
  | .moment a, .moment b => a.same b
  | _, _ => false

/-- A day counts from its midnight. -/
def epochMillis : Temporal → Binary64
  | .date d => (Moment.midnight d).epochMillis
  | .moment m => m.epochMillis

end Temporal

end RecordDesk
