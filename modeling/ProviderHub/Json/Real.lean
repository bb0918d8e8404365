/-!
Non-integral JSON numbers.

A JSON number with a fraction, an exponent, or a magnitude that no 64-bit integer holds is kept as
an IEEE 754 double, given by its bit pattern.

* `Real64.ofDecimal?`: the double nearest to `m · 10^e`, a tie going to the even mantissa, and
  `none` past the largest finite double;
* `Real64.ofParts?`: the double that the reader of JSON text takes for `m · 10^e`, which is near but
  not always nearest;
* `Real64.shortest`: the fewest decimal digits that read back as the same double, and of those
  the nearest;
* `Real64.render`: positional notation while the decimal point falls in `(-5, 16]`, and
  scientific notation outside.
-/

namespace ProviderHub

/-- A finite IEEE 754 double, as its bit pattern. -/
structure Real64 where
  bits : UInt64
deriving DecidableEq, Repr, Inhabited

namespace Real64

/-- The largest exponent `q` of a finite double `mantissa · 2^q`. -/
def maxExponent : Int := 971

/-- The exponent of the subnormal doubles. -/
def minExponent : Int := -1074

/-- `num / den` to the nearest natural number, a tie going to the even one. -/
def roundDiv (num den : Nat) : Nat :=
  let q := num / den
  let twice := 2 * (num % den)
  if den < twice ∨ (twice = den ∧ q % 2 = 1) then q + 1 else q

/-- The fraction `m · b^e`, as numerator and denominator. -/
def scaled (m b : Nat) (e : Int) : Nat × Nat :=
  if 0 ≤ e then (m * b.pow e.toNat, 1) else (m, b.pow (-e).toNat)

/-- The exponent at which the fraction `num / den` has a mantissa of at most 53 bits, by the
lengths of its two parts; one too small at most. -/
def exponentOf (num den : Nat) : Int :=
  max minExponent ((Nat.log2 num : Int) - Nat.log2 den - 53)

/-- The mantissa of `num / den` at the exponent `q`. -/
def mantissaAt (num den : Nat) (q : Int) : Nat :=
  if 0 ≤ q then roundDiv num (den <<< q.toNat) else roundDiv (num <<< (-q).toNat) den

/-- The bit pattern of `± mantissa · 2^q`, for a mantissa below `2^53` that is at least `2^52`
unless `q` is the subnormal exponent. -/
def pack (negative : Bool) (mantissa : Nat) (q : Int) : Real64 :=
  let sign := if negative then 1 <<< 63 else 0
  let body :=
    if mantissa < 1 <<< 52 then mantissa
    else ((q - minExponent + 1).toNat <<< 52) + (mantissa - (1 <<< 52))
  ⟨UInt64.ofNat (sign + body)⟩

/-- The double nearest to `± num / den`, or `none` past the largest finite one. The exponent found
from the lengths may be one too small, and rounding may carry, so up to two steps upward follow. -/
def ofFraction? (negative : Bool) (num den : Nat) : Option Real64 :=
  let q := exponentOf num den
  let fit := [q, q + 1, q + 2].find? fun q => mantissaAt num den q < 1 <<< 53
  match fit with
  | some q => if maxExponent < q then none else some (pack negative (mantissaAt num den q) q)
  | none => none

/-- The double nearest to `± m · 10^e`. Decimals that lie far outside the range of doubles are
settled by their number of digits. -/
def ofDecimal? (negative : Bool) (m : Nat) (e : Int) : Option Real64 :=
  let digits : Int := (Nat.toDigits 10 m).length
  if m = 0 ∨ digits + e < -400 then some (pack negative 0 minExponent)
  else if 400 < digits + e then none
  else
    let (num, den) := scaled m 10 e
    ofFraction? negative num den

/-- The sign bit. -/
def isNegative (r : Real64) : Bool := 1 <<< 63 ≤ r.bits.toNat

/-- Mantissa and exponent: the magnitude is `mantissa · 2^exponent`. -/
def parts (r : Real64) : Nat × Int :=
  let body : Nat := r.bits.toNat % (1 <<< 63)
  let field : Nat := body >>> 52
  if field = 0 then (body, minExponent)
  else (body % (1 <<< 52) + (1 <<< 52), (field : Int) - 1 + minExponent)

/-- The magnitude, as numerator and denominator. -/
def fraction (r : Real64) : Nat × Nat := scaled r.parts.1 2 r.parts.2

/-- The double nearest to the product of two magnitudes, or `none` past the largest finite one. -/
def mul? (r s : Real64) : Option Real64 :=
  ofFraction? false (r.fraction.1 * s.fraction.1) (r.fraction.2 * s.fraction.2)

/-- The double nearest to the quotient of two magnitudes, or `none` past the largest finite one. -/
def div? (r s : Real64) : Option Real64 :=
  ofFraction? false (r.fraction.1 * s.fraction.2) (r.fraction.2 * s.fraction.1)

/-- The double nearest to a power of ten. -/
def powTen? (n : Nat) : Option Real64 := ofFraction? false (Nat.pow 10 n) 1

/-- A magnitude times `10^e`, by one product or quotient of doubles if the power is a double. A
smaller power is divided by in steps of `10^308`, which lead to zero sooner or later. -/
def scale? (f : Real64) (e : Int) : Option Real64 :=
  if e.natAbs ≤ 308 then
    (powTen? e.natAbs).bind fun power => if 0 ≤ e then f.mul? power else f.div? power
  else if f.parts.1 = 0 then some f
  else if 0 ≤ e then none
  else (powTen? 308).bind fun power => (f.div? power).bind fun f => scale? f (e + 308)
termination_by e.natAbs
decreasing_by omega

/-- The double that is read for `± m · 10^e`, or `none` past the largest finite one. The digits are
rounded before they are scaled, and each step of the scaling rounds again. -/
def ofParts? (negative : Bool) (m : Nat) (e : Int) : Option Real64 :=
  (ofFraction? false m 1).bind fun f =>
    (f.scale? e).map fun f => pack negative f.parts.1 f.parts.2

/-- The grid points `d · 10^(point - n)` just below and just above the magnitude `num / den`, the
nearer first; of two equally near the even one first. -/
def neighbours (num den : Nat) (exponent : Int) : List Nat :=
  let (n, d) := if 0 ≤ exponent then (num, den * Nat.pow 10 exponent.toNat)
    else (num * Nat.pow 10 (-exponent).toNat, den)
  let low := n / d
  let near := roundDiv n d
  if near = low then [low, low + 1] else [low + 1, low]

/-- The decimal exponent of the first digit of `num / den`, by search upward from below. -/
def leadingExponent (num den : Nat) : Int :=
  let start : Int := ((Nat.toDigits 10 num).length : Int) - (Nat.toDigits 10 den).length - 1
  let below (e : Int) : Bool :=
    if 0 ≤ e then den * Nat.pow 10 e.toNat ≤ num else den ≤ num * Nat.pow 10 (-e).toNat
  if below (start + 2) then start + 2 else if below (start + 1) then start + 1 else start

/-- Digits and decimal exponent of the shortest decimal that reads back as this double: the value
is `digits · 10^exponent`. -/
def shortest (r : Real64) : Nat × Int :=
  let (m, q) := r.parts
  if m = 0 then (0, 0)
  else
    let (num, den) := scaled m 2 q
    let lead := leadingExponent num den
    let candidates := (List.range 17).flatMap fun (n : Nat) =>
      let e : Int := lead - n
      (neighbours num den e).map fun d => (d, e)
    let back := candidates.find? fun (d, e) =>
      ofDecimal? r.isNegative d e == some r
    back.getD (m, 0)

/-- The digits without trailing zeros, and the exponent raised to match. -/
def stripZeros (d : Nat) (e : Int) : Nat × Int :=
  if d ≠ 0 ∧ d % 10 = 0 then stripZeros (d / 10) (e + 1) else (d, e)
termination_by d

/-- The text of a double: at least one digit on both sides of the point in positional notation,
and no point after a single digit in scientific notation. -/
def render (r : Real64) : String :=
  let sign := if r.isNegative then "-" else ""
  let (d, e) := stripZeros r.shortest.1 r.shortest.2
  if d = 0 then sign ++ "0.0"
  else
    let digits := Nat.toDigits 10 d
    let n : Int := digits.length
    let point := n + e
    let body :=
      if 0 ≤ e ∧ point ≤ 16 then
        digits ++ List.replicate e.toNat '0' ++ ['.', '0']
      else if 0 < point ∧ point ≤ 16 then
        digits.take point.toNat ++ '.' :: digits.drop point.toNat
      else if -5 < point ∧ point ≤ 0 then
        '0' :: '.' :: (List.replicate (-point).toNat '0' ++ digits)
      else
        let tail := if digits.length = 1 then [] else '.' :: digits.drop 1
        digits.take 1 ++ tail ++ 'e' :: (toString (point - 1)).toList
    sign ++ String.ofList body

end Real64

end ProviderHub
