import RecordDesk.Calendar
import RecordDesk.Numeric.Number
set_option autoImplicit false

namespace RecordDesk.Span

def dayLimit : Nat := 999999999

def checked (microseconds : Int) : Except Fault Int :=
  let days := microseconds.fdiv Moment.day
  if dayLimit < days.natAbs then .error (.spanTooLong days) else .ok microseconds

/-- So many units of some microseconds each. The fraction of a number is multiplied as a binary64 number and
rounded, a half to the even neighbour. -/
def ofNumber (unit : Int) : Number → Except Fault Int
  | .int i => checked (i * unit)
  | .float x => match x.truncate? with
    | none => .error (if x.isNaN then .nanToInteger else .infinityToInteger)
    | some whole =>
      let part := ((x - Binary64.ofInt whole) * Binary64.ofInt unit).roundEven?.getD 0
      checked (whole * unit + part)

end RecordDesk.Span

namespace RecordDesk

def Moment.after (m : Moment) (span : Int) : Except Fault Moment :=
  let later := m.addMicroseconds span
  if later.inRange then .ok later else .error .dateOutOfRange

end RecordDesk
