/-!
UTF-8 bytes.

* `Utf8.encode`: the bytes of a text;
* `Utf8.decode?`: the text of bytes, `none` unless they are well formed: no overlong form, no
  surrogate, nothing above U+10FFFF, no byte left over.
-/

namespace ProviderHub.Utf8

/-- Bytes of a text. -/
def encode (cs : List Char) : List UInt8 := cs.flatMap String.utf8EncodeChar

/-- Whether a byte continues a sequence. -/
def isContinuation (b : UInt8) : Bool := 0x80 ≤ b && b < 0xC0

/-- The six bits that a continuation byte carries. -/
def bits6 (b : UInt8) : Nat := b.toNat % 64

/-- A scalar value that needs its sequence's length: at least `least`, and no surrogate. -/
def scalar? (least n : Nat) : Option Char :=
  if least ≤ n ∧ n.isValidChar then some (Char.ofNat n) else none

/-- The text that well-formed bytes write. -/
def decode? : List UInt8 → Option (List Char)
  | [] => some []
  | a :: rest =>
    if a < 0x80 then (decode? rest).map (Char.ofNat a.toNat :: ·)
    else if a < 0xC0 then none
    else if a < 0xE0 then
      match rest with
      | b :: rest =>
        if isContinuation b then do
          let c ← scalar? 0x80 (a.toNat % 32 * 64 + bits6 b)
          (decode? rest).map (c :: ·)
        else none
      | [] => none
    else if a < 0xF0 then
      match rest with
      | b :: c :: rest =>
        if isContinuation b && isContinuation c then do
          let ch ← scalar? 0x800 ((a.toNat % 16 * 64 + bits6 b) * 64 + bits6 c)
          (decode? rest).map (ch :: ·)
        else none
      | _ => none
    else if a < 0xF8 then
      match rest with
      | b :: c :: d :: rest =>
        if isContinuation b && isContinuation c && isContinuation d then do
          let ch ← scalar? 0x10000
            (((a.toNat % 8 * 64 + bits6 b) * 64 + bits6 c) * 64 + bits6 d)
          (decode? rest).map (ch :: ·)
        else none
      | _ => none
    else none

/-- The number of bytes of a text. -/
def size (cs : List Char) : Nat := cs.foldr (Char.utf8Size · + ·) 0

end ProviderHub.Utf8
