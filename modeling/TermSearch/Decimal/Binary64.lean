/-! Binary floating-point numbers of 64 bits, kept as the word that stores them, so that every
not-a-number keeps its payload and equality of words stays apart from equality of numbers. -/

namespace TermSearch.Decimal

structure Binary64 where
  bits : UInt64
deriving DecidableEq

inductive Binary64.Reading where
  | notANumber
  | infinite (negative : Bool)
  | finite (negative : Bool) (significand : Nat) (power : Int)
deriving DecidableEq

namespace Binary64

def isNegative (x : Binary64) : Bool :=
  x.bits >>> 63 == 1

def exponentField (x : Binary64) : Nat :=
  (x.bits >>> 52 &&& 0x7FF).toNat

def fractionField (x : Binary64) : Nat :=
  (x.bits &&& 0xFFFFFFFFFFFFF).toNat

/-- The leading digit of a significand, which is stored only for the smallest numbers. -/
def leadingUnit : Nat :=
  0x10000000000000

def read (x : Binary64) : Reading :=
  if x.exponentField = 0x7FF then
    if x.fractionField = 0 then .infinite x.isNegative else .notANumber
  else if x.exponentField = 0 then .finite x.isNegative x.fractionField (-1074)
  else .finite x.isNegative (leadingUnit + x.fractionField) (x.exponentField - 1075)

def isNaN (x : Binary64) : Bool :=
  x.read == .notANumber

def isZero (x : Binary64) : Bool :=
  x.exponentField = 0 && x.fractionField = 0

def sameNumber (x y : Binary64) : Bool :=
  !x.isNaN && !y.isNaN && (x == y || x.isZero && y.isZero)

end Binary64

/-- The nearest number with at most 53 significant binary digits, an even one at a tie. -/
def nearestWhole (n : Nat) : Nat :=
  let unit := 1 <<< (n.log2 - 52)
  let low := n / unit
  let rest := 2 * (n % unit)
  (if rest < unit || (rest = unit && low % 2 = 0) then low else low + 1) * unit

theorem nearestWhole_of_lt {n : Nat} (h : n < 0x20000000000000) : nearestWhole n = n := by
  have hl : n.log2 - 52 = 0 := by
    by_cases hn : n = 0
    · subst hn; rfl
    · have := (Nat.log2_lt (k := 53) hn).2 h
      omega
  simp [nearestWhole, hl, Nat.mod_one]

end TermSearch.Decimal
