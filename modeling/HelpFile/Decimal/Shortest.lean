import HelpFile.Decimal.Binary64
import HelpFile.Text.Basic

/-!
# Shortest decimals

The shortest decimal that reads back as a given number, and of several of that length the nearest.
-/
namespace HelpFile.Binary64

/-- `digits` as the places behind a decimal point, times `10 ^ point`. -/
structure Digits where
  digits : Nat
  point : Int

structure Interval where
  low : Ratio
  value : Ratio
  high : Ratio
  closed : Bool

def Ratio.lt (a b : Ratio) : Bool := a.num * b.den < b.num * a.den

def Interval.holds (i : Interval) (r : Ratio) : Bool :=
  if i.closed then !r.lt i.low && !i.high.lt r else i.low.lt r && r.lt i.high

/-- The interval of `mantissa * 2 ^ exponent`. Below a power of two the numbers lie twice as
close. -/
def intervalOf (mantissa : Nat) (exponent : Int) : Interval :=
  let quarter (n : Nat) : Ratio := Ratio.scale ⟨n, 1⟩ 2 (exponent - 2)
  let below := if mantissa = Nat.pow 2 52 && exponent > -1074 then 1 else 2
  { low := quarter (4 * mantissa - below)
    value := quarter (4 * mantissa)
    high := quarter (4 * mantissa + 2)
    closed := mantissa % 2 == 0 }

def pointOf (r : Ratio) : Int :=
  if r.den ≤ r.num then (Nat.toDigits 10 (r.num / r.den)).length
  else 1 - search 400 1 (r.num * 10)
where
  search : Nat → Nat → Nat → Int
    | 0, places, _ => places
    | steps + 1, places, num =>
      if r.den ≤ num then places else search steps (places + 1) (num * 10)

/-- The decimal with `count` digits that the interval holds and that is nearest to its value, if
there is one. Between two equally near the even one is taken. -/
def withDigits? (i : Interval) (point : Int) (count : Nat) : Option Nat :=
  let unit : Int := point - count
  let scaled := i.value.scale 10 (-unit)
  let floor := scaled.num / scaled.den
  let holds (n : Nat) : Bool := i.holds (Ratio.scale ⟨n, 1⟩ 10 unit)
  if holds floor then
    if holds (floor + 1) then some scaled.round else some floor
  else if holds (floor + 1) then some (floor + 1) else none

/-- Tries one digit more each time; seventeen always suffice. -/
def shortestFrom (i : Interval) (point : Int) : (tries count : Nat) → Digits
  | 0, count => ⟨(i.value.scale 10 (count - point)).round, point⟩
  | tries + 1, count =>
    match withDigits? i point count with
    | some digits => ⟨digits, if digits = Nat.pow 10 count then point + 1 else point⟩
    | none => shortestFrom i point tries (count + 1)

def shortest (mantissa : Nat) (exponent : Int) : Digits :=
  let i := intervalOf mantissa exponent
  shortestFrom i (pointOf i.value) 16 1

def significant (digits : Nat) : Text :=
  match ((Text.decimal digits).reverse.dropWhile (· == '0')).reverse with
  | [] => ['0']
  | kept => kept

/-- Positional notation from `0.0001` up to sixteen digits in front of the point, and always with a
place behind it; otherwise an exponent of at least two digits. -/
def place (digits : Text) (point : Int) : Text :=
  if point ≤ -4 || 16 < point then
    let exponent := point - 1
    let size := Text.decimal exponent.natAbs
    let tail := 'e' :: (if exponent < 0 then '-' else '+') ::
      (List.replicate (2 - size.length) '0' ++ size)
    match digits with
    | d :: r :: more => d :: '.' :: r :: more ++ tail
    | single => single ++ tail
  else if point ≤ 0 then '0' :: '.' :: List.replicate (-point).toNat '0' ++ digits
  else
    let front := point.toNat
    let whole := digits.take front ++ List.replicate (front - digits.length) '0'
    match digits.drop front with
    | [] => whole ++ ['.', '0']
    | fraction => whole ++ '.' :: fraction

def toText : Binary64 → Text
  | nan => ['n', 'a', 'n']
  | infinite negative => sign negative ++ ['i', 'n', 'f']
  | finite negative 0 _ => sign negative ++ ['0', '.', '0']
  | finite negative mantissa exponent =>
    let d := shortest mantissa exponent
    sign negative ++ place (significant d.digits) d.point
where
  sign (negative : Bool) : Text := if negative then ['-'] else []

end HelpFile.Binary64
