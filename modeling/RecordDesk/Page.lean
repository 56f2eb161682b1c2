import RecordDesk.Numeric.Number
import RecordDesk.Settings
set_option autoImplicit false

namespace RecordDesk.Page

def defaultSize : Int := 20

/-- The cap on a page's size; one below 1 is not taken. -/
def maxSize (env : Environment) (standard : Int) : Int :=
  let n := env.integer "API_MAX_PAGE_SIZE" standard
  if n < 1 then standard else n

/-- At least one row, and no more than the cap. -/
def clampSize (cap size : Int) : Int := if size < 1 then 1 else min size cap

def offset (page size : Int) : Int := (max page 1 - 1) * size

def count (total size : Int) : Except Fault Int :=
  if size < 1 then .ok 0
  else match (Binary64.ofQuotient total size).ceil? with
    | some n => .ok n
    | none => .error .quotientTooLarge

def shownHeaders (total page size : String) : List (String × String) :=
  [("X-Total-Count", total), ("X-Page", page), ("X-Page-Size", size)]

def headers (total page size : Int) : List (String × String) :=
  shownHeaders (toString total) (toString page) (toString size)

end RecordDesk.Page
