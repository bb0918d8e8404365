/-!
Punycode: the ASCII form of a domain label.

The basic characters come first; the others follow as the distances of an insertion sequence,
written in a mixed-radix numeral whose weights adapt to the distances so far.
-/

namespace ProviderHub.Punycode

/-- The digit of a value below 36: letters first, then figures. -/
def digit (n : Nat) : Char :=
  if n < 26 then Char.ofNat ('a'.toNat + n) else Char.ofNat ('0'.toNat + (n - 26))

/-- Scales a large distance down until it fits, and gives the bias of what is left. -/
def damp (delta k : Nat) : Nat :=
  if 455 < delta then damp (delta / 35) (k + 36) else k + 36 * delta / (delta + 38)
termination_by delta

/-- The bias after a distance, given how many characters have been placed. -/
def adapt (delta count : Nat) (first : Bool) : Nat :=
  let delta := if first then delta / 700 else delta / 2
  damp (delta + delta / count) 0

/-- The threshold of the digit at weight position `k`. -/
def threshold (k bias : Nat) : Nat :=
  if k ≤ bias then 1 else if bias + 26 ≤ k then 26 else k - bias

theorem threshold_pos (k bias : Nat) : 0 < threshold k bias := by
  unfold threshold
  split
  · omega
  · split <;> omega

/-- The numeral of a distance. It ends, since every threshold is positive. -/
def numeral (bias k q : Nat) : List Char :=
  let t := threshold k bias
  if q < t then [digit q]
  else digit (t + (q - t) % (36 - t)) :: numeral bias (k + 36) ((q - t) / (36 - t))
termination_by q
decreasing_by
  have := threshold_pos k bias
  exact Nat.lt_of_le_of_lt (Nat.div_le_self _ _) (by omega)

/-- Where the encoder stands: the distance, the bias, and the characters placed. -/
structure Place where
  delta : Nat
  bias : Nat
  placed : Nat
  out : List Char

/-- The encoder's pass over the label for one code point. -/
def pass (basics code : Nat) : List Char → Place → Place
  | [], p => p
  | c :: rest, p =>
    if c.toNat < code then pass basics code rest { p with delta := p.delta + 1 }
    else if c.toNat = code then
      pass basics code rest
        { delta := 0
          bias := adapt p.delta (p.placed + 1) (p.placed == basics)
          placed := p.placed + 1
          out := p.out ++ numeral p.bias 36 p.delta }
    else pass basics code rest p

/-- The passes for the code points of the label in increasing order, none below `start`. -/
def passes (basics : Nat) (label : List Char) : List Nat → Nat → Place → Place
  | [], _, p => p
  | code :: codes, start, p =>
    let p := { p with delta := p.delta + (code - start) * (p.placed + 1) }
    let p := pass basics code label p
    passes basics label codes (code + 1) { p with delta := p.delta + 1 }

/-- The Punycode of a label. -/
def encode (label : List Char) : List Char :=
  let basic := label.filter fun c => c.toNat < 0x80
  let others := ((label.filter fun c => 0x80 ≤ c.toNat).map Char.toNat).mergeSort.eraseDups
  let start := if basic.isEmpty then [] else basic ++ ['-']
  (passes basic.length label others 0x80 ⟨0, 72, basic.length, start⟩).out

end ProviderHub.Punycode
