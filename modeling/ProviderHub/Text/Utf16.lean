/-!
UTF-16 columns.

Editors count columns in UTF-16 code units. A column cuts a line at the first character boundary
that has at least that many units before it, so a column inside a surrogate pair rounds up, and a
column past the end cuts at the end.

* `Utf16.units`, `Utf16.size`: the code units of a character and of a text;
* `Utf16.take`, `Utf16.drop`: the two sides of the cut.
-/

namespace ProviderHub.Utf16

/-- The code units of a character. -/
def units (c : Char) : Nat := if c.toNat < 0x10000 then 1 else 2

/-- The code units of a text. -/
def size (cs : List Char) : Nat := cs.foldr (units · + ·) 0

/-- The text before a column. -/
def take : Nat → List Char → List Char
  | 0, _ => []
  | _ + 1, [] => []
  | n + 1, c :: cs => c :: take (n + 1 - units c) cs

/-- The text from a column on. -/
def drop : Nat → List Char → List Char
  | 0, cs => cs
  | _ + 1, [] => []
  | n + 1, c :: cs => drop (n + 1 - units c) cs

end ProviderHub.Utf16
