/-!
Decimal numerals of natural numbers.

A numeral is a non-empty run of figures, with an optional plus sign in front. It is read from the
left, and the first figure at which it goes wrong decides the fault.

* `Numeral.parse`: the number, or what is wrong with the text;
* `Numeral.nat64?`: a number of 64 bits.
-/

namespace ProviderHub.Numeral

/-- What can be wrong with a numeral. -/
inductive Fault where
  | empty
  | invalidDigit
  | tooLarge
deriving DecidableEq, Repr

/-- The wording of a fault. -/
def Fault.message : Fault → String
  | .empty => "cannot parse integer from empty string"
  | .invalidDigit => "invalid digit found in string"
  | .tooLarge => "number too large to fit in target type"

/-- Reads figures after a number read so far, which must stay below a bound. -/
def figures (bound : Nat) : Nat → List Char → Except Fault Nat
  | n, [] => .ok n
  | n, c :: rest =>
    if c.isDigit then
      let next := 10 * n + (c.toNat - '0'.toNat)
      if next < bound then figures bound next rest else .error .tooLarge
    else .error .invalidDigit

/-- The number below a bound that a text writes. -/
def parse (bound : Nat) (cs : List Char) : Except Fault Nat :=
  match cs with
  | [] => .error .empty
  | ['+'] => .error .invalidDigit
  | '+' :: rest => figures bound 0 rest
  | cs => figures bound 0 cs

/-- The number of 64 bits that a text writes. -/
def nat64? (cs : List Char) : Option Nat := (parse UInt64.size cs).toOption

end ProviderHub.Numeral
