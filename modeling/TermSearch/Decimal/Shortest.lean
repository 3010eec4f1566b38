import TermSearch.Decimal.Binary64

/-! The shortest decimal that reads back as a given binary number: among the decimals that round to
it, one on the coarsest grid of powers of ten, and there the nearest. -/

namespace TermSearch.Decimal

structure Scaled where
  digits : Nat
  exponent : Int
deriving DecidableEq

/-- The decimals that round to `value`, in quarters of the last binary place: `center`, the ends
`low` and `high`, and whether the ends themselves round to it. -/
structure Neighborhood where
  low : Nat
  center : Nat
  high : Nat
  power : Int
  closed : Bool

/-- Below a power of two the neighbouring number is only half as far away. -/
def Neighborhood.of (significand : Nat) (power : Int) : Neighborhood where
  low := 4 * significand - (if significand = Binary64.leadingUnit && -1074 < power then 1 else 2)
  center := 4 * significand
  high := 4 * significand + 2
  power := power - 2
  closed := significand % 2 = 0

namespace Neighborhood

/-- A point `d` of the grid `10 ^ k` and a count `x` of binary places are compared as
`d * gridUnit k` with `x * placeUnit k`. -/
def gridUnit (v : Neighborhood) (k : Int) : Nat :=
  Nat.pow 10 k.toNat <<< (-v.power).toNat

def placeUnit (v : Neighborhood) (k : Int) : Nat :=
  Nat.pow 10 (-k).toNat <<< v.power.toNat

def holds (v : Neighborhood) (k : Int) (d : Nat) : Bool :=
  let point := d * v.gridUnit k
  let low := v.low * v.placeUnit k
  let high := v.high * v.placeUnit k
  if v.closed then low ≤ point && point ≤ high else low < point && point < high

def gridPoint? (tieUp : Bool) (v : Neighborhood) (k : Int) : Option Nat :=
  let unit := v.gridUnit k
  let center := v.center * v.placeUnit k
  let below := center / unit
  let rest := 2 * (center - below * unit)
  match below != 0 && v.holds k below, v.holds k (below + 1) with
  | true, true =>
    if rest < unit || (rest = unit && !tieUp && below % 2 = 0) then some below
    else some (below + 1)
  | true, false => some below
  | false, true => some (below + 1)
  | false, false => none

def coarsest (tieUp : Bool) (v : Neighborhood) (finest : Int) : Nat → Option Scaled
  | 0 => (v.gridPoint? tieUp finest).map (⟨·, finest⟩)
  | n + 1 =>
    match v.gridPoint? tieUp (finest + (n + 1 : Nat)) with
    | some d => some ⟨d, finest + (n + 1 : Nat)⟩
    | none => coarsest tieUp v finest n

end Neighborhood

/-- No two neighbouring numbers are closer than `10 ^ (-324)`, and none reaches `10 ^ 309`. -/
def shortest (tieUp : Bool) (significand : Nat) (power : Int) : Scaled :=
  ((Neighborhood.of significand power).coarsest tieUp (-324) 632).getD ⟨0, 0⟩

end TermSearch.Decimal
