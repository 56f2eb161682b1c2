import RecordDesk.Numeric.Binary64
set_option autoImplicit false

/-!
The fewest decimal digits that read back as a given binary64 number, and their layout as text.
-/

namespace RecordDesk

/-- The number `coefficient * 10 ^ exponent`. -/
structure Decimal where
  coefficient : Nat
  exponent : Int
  deriving DecidableEq, Repr

def digitText (n : Nat) : String := String.ofList (Nat.toDigits 10 n)

def digitCount (n : Nat) : Nat := (Nat.toDigits 10 n).length

namespace Decimal

/-- Moves zeros at the end of the coefficient into the exponent, as many as the fuel allows. -/
def dropZeros : Nat → Decimal → Decimal
  | 0, d => d
  | fuel + 1, d =>
    if d.coefficient ≠ 0 ∧ d.coefficient % 10 = 0
    then dropZeros fuel ⟨d.coefficient / 10, d.exponent + 1⟩
    else d

/-- The `p` with `10 ^ (p - 1) ≤ num / den < 10 ^ p`, for a positive quotient. -/
def point (num den : Nat) : Int :=
  if den ≤ num then digitCount (num / den) else 1 - (digitCount ((den - 1) / num) : Int)

/-- The two neighbours of `num / den` on the grid of multiples of `10 ^ exponent`, the nearer first, and
halfway between them the one with an even coefficient. -/
def neighbours (num den : Nat) (exponent : Int) : List Decimal :=
  let top := num * Nat.pow 10 (-exponent).toNat
  let bottom := den * Nat.pow 10 exponent.toNat
  let below := top / bottom
  let twice := 2 * (top % bottom)
  if twice < bottom ∨ (twice = bottom ∧ below % 2 = 0)
  then [⟨below, exponent⟩, ⟨below + 1, exponent⟩]
  else [⟨below + 1, exponent⟩, ⟨below, exponent⟩]

end Decimal

namespace Binary64

/-- The first grid, from one digit to seventeen, on which a neighbour of the number reads back as it. -/
def shortest : Binary64 → Decimal
  | .finite _ units h =>
    if units = 0 then ⟨0, 0⟩
    else
      let point := Decimal.point units one
      let grids := (List.range 17).map fun digits => point - (digits + 1 : Nat)
      let hit := grids.findSome? fun exponent =>
        (Decimal.neighbours units one exponent).find? fun d =>
          ofDecimal false d.coefficient d.exponent = .finite false units h
      (hit.getD ⟨0, 0⟩).dropZeros 18
  | _ => ⟨0, 0⟩

structure Names where
  infinite : String
  nan : String

/-- Digits stand positionally for magnitudes from `0.0001` to below `10 ^ 16` and always show a
fraction; others carry a signed exponent of at least two digits. -/
def layout (d : Decimal) : String :=
  let digits := Nat.toDigits 10 d.coefficient
  let point : Int := digits.length + d.exponent
  if -4 < point ∧ point ≤ 16 then
    if 0 ≤ d.exponent then
      String.ofList (digits ++ List.replicate d.exponent.toNat '0') ++ ".0"
    else if 0 < point then
      String.ofList (digits.take point.toNat ++ '.' :: digits.drop point.toNat)
    else
      "0." ++ String.ofList (List.replicate (-point).toNat '0' ++ digits)
  else
    let power := point - 1
    let fraction := if digits.length = 1 then [] else '.' :: digits.drop 1
    let exponent := digitText power.natAbs
    String.ofList (digits.take 1 ++ fraction) ++ (if power < 0 then "e-" else "e+")
      ++ (if exponent.length < 2 then "0" ++ exponent else exponent)

def text (names : Names) (x : Binary64) : String :=
  let sign := if x.negative then "-" else ""
  match x with
  | .nan => names.nan
  | .infinite _ => sign ++ names.infinite
  | .finite .. => sign ++ layout x.shortest

end Binary64

end RecordDesk
