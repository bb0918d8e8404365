import ProviderHub.Text.Utf8

/-!
Percent-encoding.

A byte that may not stand for itself in a part of a URL is written `%XX`. Which ASCII characters
those are depends on the part; every byte of a non-ASCII character is always encoded.

* `Percent.Part`: the parts of a URL, and `Percent.Part.reserves` their reserved characters;
* `Percent.encode`, `Percent.decode`.
-/

namespace ProviderHub.Percent

/-- The parts of a URL that reserve different characters. -/
inductive Part where
  /-- Opaque hosts and opaque paths. -/
  | plain
  | fragment
  | query
  /-- The query of a special scheme. -/
  | specialQuery
  | path
  | userinfo
deriving Repr, DecidableEq

/-- Control characters and non-ASCII characters, which every part reserves. -/
def isControl (c : Char) : Bool := c.toNat < 0x20 || 0x7F ≤ c.toNat

/-- Whether a part reserves a character. -/
def Part.reserves : Part → Char → Bool
  | .plain, c => isControl c
  | .fragment, c => isControl c || [' ', '"', '<', '>', '\x60'].contains c
  | .query, c => isControl c || [' ', '"', '#', '<', '>'].contains c
  | .specialQuery, c => isControl c || [' ', '"', '#', '<', '>', '\x27'].contains c
  | .path, c => isControl c || [' ', '"', '<', '>', '\x60', '#', '?', '\x7b', '\x7d'].contains c
  | .userinfo, c => isControl c ||
    [' ', '"', '<', '>', '\x60', '#', '?', '\x7b', '\x7d', '/', ':', ';', '=', '@', '[', '\\', ']',
      '^', '|'].contains c

/-- A hexadecimal digit in upper case. -/
def hexDigit (n : Nat) : Char := (Nat.digitChar n).toUpper

/-- The escape of a byte. -/
def escape (b : UInt8) : List Char := ['%', hexDigit (b.toNat / 16), hexDigit (b.toNat % 16)]

/-- A character as it is written in a part. -/
def encodeChar (part : Part) (c : Char) : List Char :=
  if part.reserves c then (String.utf8EncodeChar c).flatMap escape else [c]

/-- A text as it is written in a part. -/
def encode (part : Part) (cs : List Char) : List Char := cs.flatMap (encodeChar part)

/-- The value of a hexadecimal digit. -/
def hexValue? (c : Char) : Option Nat :=
  if '0' ≤ c ∧ c ≤ '9' then some (c.toNat - '0'.toNat)
  else if 'a' ≤ c ∧ c ≤ 'f' then some (c.toNat - 'a'.toNat + 10)
  else if 'A' ≤ c ∧ c ≤ 'F' then some (c.toNat - 'A'.toNat + 10)
  else none

/-- The bytes of a text with its escapes undone; a percent sign that starts no escape stands for
itself. -/
def decode : List Char → List UInt8
  | '%' :: a :: b :: rest =>
    match hexValue? a, hexValue? b with
    | some x, some y => UInt8.ofNat (16 * x + y) :: decode rest
    | _, _ => UInt8.ofNat '%'.toNat :: decode (a :: b :: rest)
  | c :: rest => String.utf8EncodeChar c ++ decode rest
  | [] => []

end ProviderHub.Percent
