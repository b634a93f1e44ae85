/-!
# Binary floating-point numbers

Numbers of 53 binary digits with exponents from -1074 to 971, the infinities, and not-a-number.
A decimal is rounded to the nearest of them; halfway between two, to the one with the even mantissa.
-/
namespace HelpFile

/-- A finite number is `mantissa * 2 ^ exponent`, with its sign; zero has a sign, too. -/
inductive Binary64 where
  | finite (negative : Bool) (mantissa : Nat) (exponent : Int)
  | infinite (negative : Bool)
  | nan
  deriving DecidableEq

namespace Binary64

structure Ratio where
  num : Nat
  den : Nat

def Ratio.scale (r : Ratio) (base : Nat) (power : Int) : Ratio :=
  if 0 ≤ power then { r with num := r.num * Nat.pow base power.toNat }
  else { r with den := r.den * Nat.pow base (-power).toNat }

/-- The nearest natural; of two, the even one. -/
def Ratio.round (r : Ratio) : Nat :=
  let q := r.num / r.den
  let twice := 2 * (r.num % r.den)
  if twice < r.den then q
  else if r.den < twice then q + 1
  else if q % 2 = 0 then q else q + 1

def exponentFor (r : Ratio) : Int :=
  let guess : Int := (r.num.log2 : Int) - (r.den.log2 : Int) - 53
  let exponent := if (r.scale 2 (-guess)).round < Nat.pow 2 53 then guess else guess + 1
  max exponent (-1074)

def ofRatio (negative : Bool) (r : Ratio) : Binary64 :=
  let exponent := exponentFor r
  let mantissa := (r.scale 2 (-exponent)).round
  let (mantissa, exponent) :=
    if mantissa = Nat.pow 2 53 then (Nat.pow 2 52, exponent + 1) else (mantissa, exponent)
  if 971 < exponent then .infinite negative else .finite negative mantissa exponent

/-- The number nearest to `digits * 10 ^ scale`. Numbers far out of range are settled by the count
of their digits. -/
def ofDecimal (negative : Bool) (digits : Nat) (scale : Int) : Binary64 :=
  let magnitude : Int := (Nat.toDigits 10 digits).length + scale
  if digits = 0 || magnitude < -400 then .finite negative 0 (-1074)
  else if 400 < magnitude then .infinite negative
  else ofRatio negative (Ratio.scale ⟨digits, 1⟩ 10 scale)

end Binary64
end HelpFile
