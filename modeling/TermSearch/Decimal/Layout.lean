import TermSearch.Decimal.Binary64
import TermSearch.Decimal.Shortest
import TermSearch.Text.Numeral

/-! Written forms of binary numbers: the shortest digits that read back, laid out with a point or
with a power of ten. -/

namespace TermSearch.Decimal

open Text (numeral)

structure Layout where
  /-- Whether the point is written when it stands after this many digits. -/
  pointed : Int → Bool
  /-- What follows a whole number that is written with a point. -/
  wholeEnd : List Char
  /-- A value halfway between two shortest forms takes the larger, or else the even one. -/
  tieUp : Bool

def Layout.literal : Layout where
  pointed _ := true
  wholeEnd := []
  tieUp := true

def Layout.report : Layout where
  pointed p := -5 < p && p ≤ 16
  wholeEnd := ['.', '0']
  tieUp := false

def withPoint (wholeEnd ds : List Char) (p : Int) : List Char :=
  if p ≤ 0 then '0' :: '.' :: List.replicate p.natAbs '0' ++ ds
  else if ds.length ≤ p.toNat then ds ++ List.replicate (p.toNat - ds.length) '0' ++ wholeEnd
  else ds.take p.toNat ++ '.' :: ds.drop p.toNat

def withExponent (ds : List Char) (p : Int) : List Char :=
  let exponent := 'e' :: (if p < 1 then '-' else '+') :: numeral (p - 1).natAbs
  match ds with
  | [] => exponent
  | [d] => d :: exponent
  | d :: rest => d :: '.' :: rest ++ exponent

def Scaled.write (layout : Layout) (s : Scaled) : List Char :=
  let ds := numeral s.digits
  let p := ds.length + s.exponent
  if layout.pointed p then withPoint layout.wholeEnd ds p else withExponent ds p

def Binary64.write (layout : Layout) (x : Binary64) : List Char :=
  let signed (negative : Bool) (s : List Char) := if negative then '-' :: s else s
  match x.read with
  | .notANumber => "NaN".toList
  | .infinite negative => signed negative "inf".toList
  | .finite negative 0 _ => signed negative ('0' :: layout.wholeEnd)
  | .finite negative significand power =>
    signed negative ((shortest layout.tieUp significand power).write layout)

end TermSearch.Decimal
