import RecordDesk.Document
set_option autoImplicit false

/-!
Objects made of pairs. An object is a collection of pairs already; of other collections each item has to be
a pair, a text of two characters included. Keys may be of any kind that things can be looked up by, and a
later pair takes the place of an earlier one with its key.
-/

namespace RecordDesk

abbrev Entries := List (Document × Document)

namespace Document

/-- The exact value of a number of any kind; a truth value is one or zero. -/
def rational? : Document → Option Rat
  | .boolean b => some (if b then 1 else 0)
  | .number (.int i) => some i
  | .number (.float x) => x.toRat?
  | .decimal d => d.toRat?
  | _ => none

/-- Whether two documents are the same key. Numbers are by their value, whatever their kinds. -/
def sameKey (a b : Document) : Bool :=
  match a, b with
  | .null, .null => true
  | .text s, .text t => s == t
  | .date s, .date t => s.same t
  | .wrapped v, .wrapped w => Value.exact .apart v w
  | .number (.float (.infinite m)), .number (.float (.infinite n)) => m == n
  | a, b => match a.rational?, b.rational? with
    | some x, some y => x == y
    | _, _ => false

end Document

/-- The entries with one more; under a key that is there it takes the place of what was. -/
def Entries.set (entries : Entries) (entry : Document × Document) : Entries :=
  if entries.any fun e => e.1.sameKey entry.1
  then entries.map fun e => if e.1.sameKey entry.1 then (e.1, entry.2) else e
  else entries ++ [entry]

namespace Document

def pair (index : Nat) (d : Document) : Except Fault (Document × Document) :=
  match d.sequence? with
  | none => .error (.unsuitable s!"element #{index} is no sequence")
  | some [k, v] =>
    if k.isKey then .ok (k, v) else .error (.unsuitable ("unhashable type: '" ++ k.typeName ++ "'"))
  | some ds => .error (.unpaired index ds.length)

def pairsFrom (done : Entries) : Nat → List Document → Except Fault Entries
  | _, [] => .ok done
  | index, d :: rest => do pairsFrom (done.set (← d.pair index)) (index + 1) rest

def pairs : Document → Except Fault Entries
  | .object members => .ok (members.map fun m => (.text m.1, m.2))
  | d => do pairsFrom [] 0 (← d.sequence)

/-- As `pairs`, where empty things and zeros have none. -/
def pairsOrNone (d : Document) : Except Fault Entries :=
  if d.isTruthy then d.pairs else .ok []

def keyText? : Document → Option String
  | .text s => some s
  | .null => some "null"
  | .boolean b => some (if b then "true" else "false")
  | .number n => some (n.text Number.documentNames)
  | _ => none

end Document

namespace Entries

/-- The entries as members of a written document, if every key can be written. -/
def written? (entries : Entries) : Option Members :=
  (entries.mapM fun (e : Document × Document) => e.1.keyText?.map fun key => (key, e.2)).map Members.ofPairs

def members (entries : Entries) : Members :=
  Members.ofPairs (entries.filterMap fun e => match e.1 with
    | .text s => some (s, e.2)
    | _ => none)

def strayStep? : Document → Option Step
  | .text _ => none
  | .boolean b => some (.index (if b then 1 else 0))
  | .number (.int i) =>
    some (if -0x8000000000000000 ≤ i ∧ i < 0x8000000000000000 then .index i else .key (toString i))
  | .number n => some (.key (n.text Number.shownNames))
  | _ => some (.key "None")

def strays (entries : Entries) : List Step := entries.filterMap fun e => strayStep? e.1

end Entries

end RecordDesk
