/-! # Doubles as exact numbers

A finite double is a whole number times a power of two. This module takes a double apart into these
two and puts the nearest double to a fraction together again, all in exact arithmetic.

* `Binary.ofFloat` — what the bits of a double say;
* `Binary.nearest` — the double nearest to a fraction, a half going to the even mantissa. -/

namespace TokenAudit

/-- What the bits of a double say. -/
inductive Binary
  /-- Not a number. -/
  | nan
  /-- Beyond all numbers, on one side or the other. -/
  | infinite (negative : Bool)
  /-- The number `mantissa * 2 ^ exponent` with a sign, which zero has as well. -/
  | finite (negative : Bool) (mantissa : Nat) (exponent : Int)
  deriving DecidableEq, Repr

namespace Binary

/-- The least exponent of a double. -/
def leastExponent : Int := -1074

/-- Reads the sign bit, the eleven bits of the exponent and the fifty-two of the fraction. -/
def ofBits (bits : UInt64) : Binary :=
  let negative := bits >>> 63 == 1
  let exponent := ((bits >>> 52) &&& 0x7FF).toNat
  let fraction := (bits &&& 0xFFFFFFFFFFFFF).toNat
  if exponent = 2047 then
    if fraction = 0 then .infinite negative else .nan
  else if exponent = 0 then .finite negative fraction leastExponent
  else .finite negative (1 <<< 52 + fraction) (exponent - 1075)

/-- What the bits of a double say. -/
def ofFloat (x : Float) : Binary := ofBits x.toBits

/-- The quotient of two numbers rounded to a whole number, a half going to the even one. -/
def roundHalfEven (num den : Nat) : Nat :=
  let quotient := num / den
  let rest := num % den
  if 2 * rest < den then quotient
  else if den < 2 * rest then quotient + 1
  else quotient + quotient % 2

/-- The bits of the non-negative double nearest to `num / den`. -/
def nearestBits (num den : Nat) : UInt64 :=
  if num = 0 then 0
  else
    let guess : Int := (num.log2 : Int) - den.log2 - 53
    -- the guess is the right exponent or one too small
    let fits (e : Int) : Bool :=
      if 0 ≤ e then num < den <<< (e.toNat + 53) else num <<< (-e).toNat < den <<< 53
    let exponent := max (if fits guess then guess else guess + 1) leastExponent
    let mantissa :=
      if 0 ≤ exponent then roundHalfEven num (den <<< exponent.toNat)
      else roundHalfEven (num <<< (-exponent).toNat) den
    -- a mantissa rounded up to the next power of two carries into the exponent by itself
    let bits := (exponent - leastExponent).toNat <<< 52 + mantissa
    if 2047 <<< 52 ≤ bits then 0x7FF0000000000000 else UInt64.ofNat bits

/-- The double nearest to `num / den` with a sign. -/
def nearest (negative : Bool) (num den : Nat) : Float :=
  let magnitude := Float.ofBits (nearestBits num den)
  if negative then -magnitude else magnitude

end Binary

end TokenAudit
