import TokenAudit.Decimal.Binary

/-! # Shortest decimals

The decimal with the fewest digits that reads back as a given double, and of those the nearest to
it. A decimal reads back when it lies between the halfway points to the neighbouring doubles; the
halfway points themselves belong to the double when its mantissa is even.

* `Decimal.shortest` — the digits and the exponent, in exact arithmetic;
* `Decimal.Layout` — where the decimal point goes, and `Decimal.render`, the text;
* `Decimal.fixed` — a given number of places after the point. -/

namespace TokenAudit

/-- The number `digits * 10 ^ exponent`. -/
structure Decimal where
  /-- The significant digits as one number. -/
  digits : Nat
  /-- The power of ten they are multiplied by. -/
  exponent : Int
  deriving DecidableEq, Repr

namespace Decimal

/-- How many decimal digits a number has; zero has one. -/
def width (n : Nat) : Nat := (Nat.toDigits 10 n).length

/-- How many digits the fraction `num / den` has before the decimal point; when it is below one, the
number of zeros after the point counts negatively. -/
def magnitude (num den : Nat) : Int :=
  if den ≤ num then width (num / den)
  else
    let w := width (den / num)
    if den = num * Nat.pow 10 (w - 1) then 2 - w else 1 - w

/-- Takes zeros off the end of the digits; `count` bounds how many. -/
def withoutZeros : (count : Nat) → Decimal → Decimal
  | 0, d => d
  | count + 1, d =>
    if d.digits ≠ 0 ∧ d.digits % 10 = 0 then withoutZeros count ⟨d.digits / 10, d.exponent + 1⟩
    else d

/-- The point of the grid of multiples of `10 ^ k` that is nearest to `num / den` among the two next
to it, provided it lies from `low / den` to `high / den`; the ends count if `closed`. -/
def onGrid (num den low high : Nat) (closed : Bool) (k : Int) : Option Decimal :=
  let scale := Nat.pow 10 (-k).toNat
  let step := den * Nat.pow 10 k.toNat
  let below := num * scale / step
  let rest := num * scale % step
  let reaches (a b : Nat) : Bool := if closed then a ≤ b else a < b
  let belowHits := reaches (low * scale) (below * step)
  let aboveHits := reaches ((below + 1) * step) (high * scale)
  let belowIsNearer := 2 * rest < step || (2 * rest == step && below % 2 == 0)
  if belowHits && (belowIsNearer || !aboveHits) then some ⟨below, k⟩
  else if aboveHits then some ⟨below + 1, k⟩
  else none

/-- The shortest decimal that reads back as `mantissa * 2 ^ exponent`, for a mantissa above zero. -/
def shortest (mantissa : Nat) (exponent : Int) : Decimal :=
  let unit := 1 <<< (exponent - 2).toNat
  let den := 1 <<< (2 - exponent).toNat
  let num := 4 * mantissa * unit
  -- below a power of two the doubles lie twice as close
  let gap := if mantissa = 1 <<< 52 ∧ exponent ≠ Binary.leastExponent then unit else 2 * unit
  let places := magnitude num den
  let found := (List.range 17).findSome? fun (n : Nat) =>
    onGrid num den (num - gap) (num + 2 * unit) (mantissa % 2 == 0) (places - n - 1)
  withoutZeros 17 (found.getD ⟨0, 0⟩)

/-! ## Layout -/

/-- Where the decimal point goes. With `p` digits before the point (zeros after the point count
negatively), a number is written without an exponent when `least ≤ p` and `p ≤ most`. -/
structure Layout where
  /-- The least `p` written without an exponent. -/
  least : Int
  /-- The greatest `p` written without an exponent. -/
  most : Int
  deriving DecidableEq, Repr

/-- `count` zeros. -/
def zeros (count : Nat) : List Char := List.replicate count '0'

/-- The text of an exponent, which always has a sign. -/
def exponentText (e : Int) : List Char := (if e < 0 then '-' else '+') :: Nat.toDigits 10 e.natAbs

/-- The text of a decimal above zero. Without an exponent there is always a digit on both sides of
the point; with one, the point is left out when there is a single digit. -/
def layOut (layout : Layout) (d : Decimal) : List Char :=
  let digits := Nat.toDigits 10 d.digits
  let before : Int := digits.length + d.exponent
  if layout.least ≤ before ∧ before ≤ layout.most then
    if 0 ≤ d.exponent then digits ++ zeros d.exponent.toNat ++ ['.', '0']
    else if 0 < before then digits.take before.toNat ++ '.' :: digits.drop before.toNat
    else ['0', '.'] ++ zeros (-before).toNat ++ digits
  else
    let fraction := digits.drop 1
    digits.take 1 ++ (if fraction.isEmpty then [] else '.' :: fraction) ++
      'e' :: exponentText (before - 1)

/-- The text of a double: shortest digits in the given layout, `none` if it is no finite number. -/
def render (layout : Layout) (x : Float) : Option String :=
  match Binary.ofFloat x with
  | .finite negative mantissa exponent =>
    let sign := if negative then ['-'] else []
    let body := if mantissa = 0 then ['0', '.', '0'] else layOut layout (shortest mantissa exponent)
    some (String.ofList (sign ++ body))
  | _ => none

/-- The text of a double with a fixed number of places after the point, a half going to the even
digit; `none` if it is no finite number. -/
def fixed (places : Nat) (x : Float) : Option String :=
  match Binary.ofFloat x with
  | .finite negative mantissa exponent =>
    let scaled :=
      Binary.roundHalfEven (mantissa <<< exponent.toNat * Nat.pow 10 places)
        (1 <<< (-exponent).toNat)
    let digits := Nat.toDigits 10 scaled
    let filled := zeros (places + 1 - digits.length) ++ digits
    let whole := filled.take (filled.length - places)
    let fraction := filled.drop (filled.length - places)
    let point := if places = 0 then [] else ['.']
    some (String.ofList ((if negative then ['-'] else []) ++ whole ++ point ++ fraction))
  | _ => none

/-! ## Rounding -/

/-- A double rounded to two places after the point, a half going away from zero: the hundredfold is
rounded to a whole number and divided by a hundred. -/
def roundToCents (x : Float) : Float := (x * 100.0).round / 100.0

end Decimal

end TokenAudit
