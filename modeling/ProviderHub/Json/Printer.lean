import ProviderHub.Json.Basic

/-!
JSON text.

* `Json.render`: compact text, without blanks, fields in the order of the value;
* `Json.pretty`: indented text by two blanks a level, as shown to a person.

Only the quote, the backslash and the control characters are escaped, the five that have a short
form by it and the others by `\u00xx`.
-/

namespace ProviderHub.Json

/-- A hexadecimal digit in lower case. -/
def hexDigit (n : Nat) : Char := Nat.digitChar n

/-- One character inside a JSON string. -/
def escapeChar (c : Char) : List Char :=
  if c = '"' then ['\\', '"']
  else if c = '\\' then ['\\', '\\']
  else if c = '\n' then ['\\', 'n']
  else if c = '\r' then ['\\', 'r']
  else if c = '\t' then ['\\', 't']
  else if c = '\x08' then ['\\', 'b']
  else if c = '\x0c' then ['\\', 'f']
  else if c.toNat < 0x20 then
    ['\\', 'u', '0', '0', hexDigit (c.toNat / 16), hexDigit (c.toNat % 16)]
  else [c]

/-- A quoted JSON string. -/
def quote (s : String) : List Char :=
  '"' :: (s.toList.flatMap escapeChar ++ ['"'])

mutual

/-- The characters of a value's compact text. -/
def chars : Json → List Char
  | .null => ['n', 'u', 'l', 'l']
  | .bool true => ['t', 'r', 'u', 'e']
  | .bool false => ['f', 'a', 'l', 's', 'e']
  | .int n => (toString n).toList
  | .real r => r.render.toList
  | .str s => quote s
  | .arr [] => ['[', ']']
  | .arr (v :: rest) => '[' :: (chars v ++ itemChars rest)
  | .obj [] => ['\x7b', '\x7d']
  | .obj ((k, v) :: rest) => '\x7b' :: (quote k ++ ':' :: (chars v ++ fieldChars rest))

/-- The items after the first one, with the closing bracket. -/
def itemChars : List Json → List Char
  | [] => [']']
  | v :: rest => ',' :: (chars v ++ itemChars rest)

/-- The fields after the first one, with the closing brace. -/
def fieldChars : List (String × Json) → List Char
  | [] => ['\x7d']
  | (k, v) :: rest => ',' :: (quote k ++ ':' :: (chars v ++ fieldChars rest))

end

/-- The compact text of a value. -/
def render (v : Json) : String := String.ofList v.chars

/-- A line break and two blanks per level. -/
def newline (level : Nat) : List Char := '\n' :: List.replicate (2 * level) ' '

mutual

/-- The characters of a value's indented text, standing at a level of nesting. -/
def prettyChars (level : Nat) : Json → List Char
  | .arr [] => ['[', ']']
  | .arr (v :: rest) =>
    '[' :: (newline (level + 1) ++ prettyChars (level + 1) v ++ prettyItems level rest)
  | .obj [] => ['\x7b', '\x7d']
  | .obj ((k, v) :: rest) =>
    '\x7b' :: (newline (level + 1) ++ quote k ++ ':' :: ' ' :: (prettyChars (level + 1) v
      ++ prettyFields level rest))
  | .null => chars .null
  | .bool b => chars (.bool b)
  | .int n => chars (.int n)
  | .real r => chars (.real r)
  | .str s => quote s

/-- The items after the first one of an array at a level, with the closing bracket. -/
def prettyItems (level : Nat) : List Json → List Char
  | [] => newline level ++ [']']
  | v :: rest =>
    ',' :: (newline (level + 1) ++ prettyChars (level + 1) v ++ prettyItems level rest)

/-- The fields after the first one of an object at a level, with the closing brace. -/
def prettyFields (level : Nat) : List (String × Json) → List Char
  | [] => newline level ++ ['\x7d']
  | (k, v) :: rest =>
    ',' :: (newline (level + 1) ++ quote k ++ ':' :: ' ' :: (prettyChars (level + 1) v
      ++ prettyFields level rest))

end

/-- The indented text of a value. -/
def pretty (v : Json) : String := String.ofList (v.prettyChars 0)

end ProviderHub.Json
