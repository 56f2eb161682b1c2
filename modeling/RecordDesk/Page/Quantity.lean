import RecordDesk.Page
import RecordDesk.Quantity
set_option autoImplicit false

/-!
Pages by counts that nobody has checked. Of integers all is said in `RecordDesk.Page`; other counts follow
the same rules with the arithmetic of their kind.
-/

namespace RecordDesk.Quantity

def clamped (cap : Int) : Quantity → Except Fault Quantity
  | .number (.int n) => .ok (ofInt (Page.clampSize cap n))
  | q => do
    if ← q.isBelow 1 then return ofInt 1
    if ← q.isAbove cap then return ofInt cap
    return q

def offset : (page size : Quantity) → Except Fault Quantity
  | .number (.int page), .number (.int size) => .ok (ofInt (Page.offset page size))
  | page, size => do (← (← page.atLeast 1).predecessor).times size

def pageCount : (total size : Quantity) → Except Fault Int
  | .number (.int total), .number (.int size) => Page.count total size
  | total, size => do if ← size.isBelow 1 then return 0 else total.ceilQuotient size

end RecordDesk.Quantity
