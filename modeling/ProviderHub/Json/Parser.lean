import ProviderHub.Json.Basic

/-!
Reading JSON text.

The text is cut into tokens, and the tokens are folded over a stack of open arrays and objects.

* `Json.Token.scan`: the first token of a text, with what follows it;
* `Json.tokens?`: all tokens of a text;
* `Json.Open`, `Json.assemble`: the stack machine that builds the value;
* `Json.parse?`: the value of a text, if it is exactly one value nested at most `maxDepth` deep,
  with blanks around tokens.
-/

namespace ProviderHub.Json

/-- How deep arrays and objects may be nested in a text. -/
def maxDepth : Nat := 127

/-- A lexical unit of JSON text: punctuation, or a whole scalar. -/
inductive Token where
  | openArr
  | closeArr
  | openObj
  | closeObj
  | comma
  | colon
  | scalar (value : Json)
deriving Repr, DecidableEq

/-- Blank characters between tokens. -/
def isBlank (c : Char) : Bool := c = ' ' || c = '\n' || c = '\r' || c = '\t'

/-- The value of a hexadecimal digit. -/
def hexValue? (c : Char) : Option Nat :=
  if '0' ≤ c ∧ c ≤ '9' then some (c.toNat - '0'.toNat)
  else if 'a' ≤ c ∧ c ≤ 'f' then some (c.toNat - 'a'.toNat + 10)
  else if 'A' ≤ c ∧ c ≤ 'F' then some (c.toNat - 'A'.toNat + 10)
  else none

/-- The value of four hexadecimal digits. -/
def hex4? (a b c d : Char) : Option Nat := do
  let a ← hexValue? a
  let b ← hexValue? b
  let c ← hexValue? c
  let d ← hexValue? d
  some (((a * 16 + b) * 16 + c) * 16 + d)

/-- The character named by the letter after a backslash, `u` apart. -/
def shortEscape? (c : Char) : Option Char :=
  if c = '"' ∨ c = '\\' ∨ c = '/' then some c
  else if c = 'n' then some '\n'
  else if c = 'r' then some '\r'
  else if c = 't' then some '\t'
  else if c = 'b' then some '\x08'
  else if c = 'f' then some '\x0c'
  else none

/-- The rest of a string up to its closing quote, and what follows it. A high surrogate must be
followed by a low one, and no control character stands unescaped. -/
def scanString : List Char → Option (List Char × List Char)
  | [] => none
  | '"' :: rest => some ([], rest)
  | '\\' :: 'u' :: a :: b :: c :: d :: '\\' :: 'u' :: e :: f :: g :: h :: rest => do
    let high ← hex4? a b c d
    if 0xD800 ≤ high ∧ high < 0xDC00 then
      let low ← hex4? e f g h
      if 0xDC00 ≤ low ∧ low < 0xE000 then
        let (text, rest) ← scanString rest
        some (Char.ofNat (0x10000 + (high - 0xD800) * 0x400 + (low - 0xDC00)) :: text, rest)
      else none
    else if 0xDC00 ≤ high ∧ high < 0xE000 then none
    else
      let (text, rest) ← scanString ('\\' :: 'u' :: e :: f :: g :: h :: rest)
      some (Char.ofNat high :: text, rest)
  | '\\' :: 'u' :: a :: b :: c :: d :: rest => do
    let unit ← hex4? a b c d
    if 0xD800 ≤ unit ∧ unit < 0xE000 then none
    else
      let (text, rest) ← scanString rest
      some (Char.ofNat unit :: text, rest)
  | '\\' :: c :: rest => do
    let c ← shortEscape? c
    let (text, rest) ← scanString rest
    some (c :: text, rest)
  | c :: rest =>
    if c.toNat < 0x20 ∨ c = '\\' then none
    else do
      let (text, rest) ← scanString rest
      some (c :: text, rest)

/-- The natural number that a list of decimal digits writes. -/
def digitsValue (ds : List Char) : Nat :=
  ds.foldl (fun n c => 10 * n + (c.toNat - '0'.toNat)) 0

/-- The digits at the front of a text, and what follows them. -/
def scanDigits (cs : List Char) : List Char × List Char :=
  (cs.takeWhile Char.isDigit, cs.dropWhile Char.isDigit)

/-- The fraction of a number: its digits, none where there is no point. -/
def scanFraction : List Char → Option (List Char × List Char)
  | '.' :: rest =>
    let (ds, rest) := scanDigits rest
    if ds.isEmpty then none else some (ds, rest)
  | cs => some ([], cs)

/-- The digits of an exponent after its sign. -/
def scanExponentDigits (negative : Bool) (cs : List Char) : Option (Option Int × List Char) :=
  let (ds, rest) := scanDigits cs
  if ds.isEmpty then none
  else
    let n : Int := digitsValue ds
    some (some (if negative then -n else n), rest)

/-- The exponent of a number, if one is written. -/
def scanExponent : List Char → Option (Option Int × List Char)
  | c :: rest =>
    if c = 'e' ∨ c = 'E' then
      match rest with
      | '+' :: rest => scanExponentDigits false rest
      | '-' :: rest => scanExponentDigits true rest
      | rest => scanExponentDigits false rest
    else some (none, c :: rest)
  | [] => some (none, [])

/-- The whole part of a number: a single zero, or digits that start with none. -/
def scanWhole (cs : List Char) : Option (List Char × List Char) :=
  match cs with
  | '0' :: rest => some (['0'], rest)
  | _ =>
    let (ds, rest) := scanDigits cs
    if ds.isEmpty then none else some (ds, rest)

/-- A number with further digits behind it, as long as it fits an unsigned 64-bit word, and the
digits that are left over. -/
def takeDigits (n : Nat) : List Char → Nat × List Char
  | [] => (n, [])
  | c :: cs =>
    let longer := 10 * n + (c.toNat - '0'.toNat)
    if longer < UInt64.size then takeDigits longer cs else (n, c :: cs)

/-- The double of a number from its parts. Whole digits that are left over only move the point, and
those of the fraction are dropped. An exponent that no signed 32-bit word holds gives zero, or no
number if it is positive and there is something to scale. -/
def readReal? (negative : Bool) (whole fraction : List Char) (exponent : Int) : Option Real64 :=
  let (n, skipped) := takeDigits 0 whole
  let (m, dropped) := takeDigits n fraction
  let point : Int := (skipped.length : Int) + dropped.length - fraction.length
  if 1 <<< 31 ≤ exponent.natAbs then
    if 0 < exponent ∧ m ≠ 0 then none else some (Real64.pack negative 0 Real64.minExponent)
  else Real64.ofParts? negative m (point + exponent)

/-- The value of a number from its parts: an integer if it is written as one, fits 64 bits and is
not a negative zero. -/
def numberValue? (negative : Bool) (whole fraction : List Char) (exponent : Option Int) :
    Option Json :=
  let n := digitsValue whole
  if fraction.isEmpty ∧ exponent.isNone ∧ !negative ∧ n < UInt64.size then some (.int n)
  else if fraction.isEmpty ∧ exponent.isNone ∧ negative ∧ 0 < n ∧ n ≤ 1 <<< 63 then
    some (.int (-(n : Int)))
  else (readReal? negative whole fraction (exponent.getD 0)).map .real

/-- A number after its sign. -/
def scanNumber (negative : Bool) (cs : List Char) : Option (Json × List Char) := do
  let (whole, rest) ← scanWhole cs
  let (fraction, rest) ← scanFraction rest
  let (exponent, rest) ← scanExponent rest
  let value ← numberValue? negative whole fraction exponent
  some (value, rest)

/-- The first token of a text, which starts with the given character, and what follows it. -/
def Token.scan (c : Char) (rest : List Char) : Option (Token × List Char) :=
  if c = '[' then some (.openArr, rest)
  else if c = ']' then some (.closeArr, rest)
  else if c = '\x7b' then some (.openObj, rest)
  else if c = '\x7d' then some (.closeObj, rest)
  else if c = ',' then some (.comma, rest)
  else if c = ':' then some (.colon, rest)
  else if c = '"' then
    (scanString rest).map fun (text, rest) => (.scalar (.str (String.ofList text)), rest)
  else if c = '-' then (scanNumber true rest).map fun (v, rest) => (.scalar v, rest)
  else if c.isDigit then (scanNumber false (c :: rest)).map fun (v, rest) => (.scalar v, rest)
  else
    match c, rest with
    | 'n', 'u' :: 'l' :: 'l' :: rest => some (.scalar .null, rest)
    | 't', 'r' :: 'u' :: 'e' :: rest => some (.scalar (.bool true), rest)
    | 'f', 'a' :: 'l' :: 's' :: 'e' :: rest => some (.scalar (.bool false), rest)
    | _, _ => none

/-! ### Reading goes forward: what follows a token is never longer than what followed its start -/

theorem scanString_length_le {cs text rest : List Char} (h : scanString cs = some (text, rest)) :
    rest.length ≤ cs.length := by
  fun_induction scanString cs generalizing text rest with
  | case1 => simp at h
  | case2 => simp_all
  | case3 a b c d e f g k tail ihPair ihUnit =>
    obtain ⟨high, -, h⟩ := Option.bind_eq_some_iff.1 h
    split at h
    · obtain ⟨low, -, h⟩ := Option.bind_eq_some_iff.1 h
      split at h
      · obtain ⟨⟨_, _⟩, hs, h⟩ := Option.bind_eq_some_iff.1 h
        have := ihPair hs
        grind
      · simp at h
    · split at h
      · simp at h
      · obtain ⟨⟨_, _⟩, hs, h⟩ := Option.bind_eq_some_iff.1 h
        have := ihUnit hs
        grind
  | case4 a b c d tail _ ih =>
    obtain ⟨unit, -, h⟩ := Option.bind_eq_some_iff.1 h
    split at h
    · simp at h
    · obtain ⟨⟨_, _⟩, hs, h⟩ := Option.bind_eq_some_iff.1 h
      have := ih hs
      grind
  | case5 c tail _ _ ih =>
    obtain ⟨_, -, h⟩ := Option.bind_eq_some_iff.1 h
    obtain ⟨⟨_, _⟩, hs, h⟩ := Option.bind_eq_some_iff.1 h
    have := ih hs
    grind
  | case6 => simp at h
  | case7 c tail _ _ _ _ _ ih =>
    obtain ⟨⟨_, _⟩, hs, h⟩ := Option.bind_eq_some_iff.1 h
    have := ih hs
    grind

theorem length_snd_scanDigits_le (cs : List Char) : (scanDigits cs).2.length ≤ cs.length :=
  (List.dropWhile_suffix _).length_le

theorem scanWhole_length_lt {cs ds rest : List Char} (h : scanWhole cs = some (ds, rest)) :
    rest.length < cs.length := by
  unfold scanWhole at h
  split at h
  · grind
  · cases cs with
    | nil => simp [scanDigits] at h
    | cons c tail =>
      have := length_snd_scanDigits_le tail
      by_cases hc : c.isDigit <;> simp [scanDigits, hc] at h this
      grind

theorem scanFraction_length_le {cs ds rest : List Char} (h : scanFraction cs = some (ds, rest)) :
    rest.length ≤ cs.length := by
  unfold scanFraction at h
  split at h
  · next tail =>
    have := length_snd_scanDigits_le tail
    grind
  · grind

theorem scanExponentDigits_length_le {negative : Bool} {cs rest : List Char} {e : Option Int}
    (h : scanExponentDigits negative cs = some (e, rest)) : rest.length ≤ cs.length := by
  have := length_snd_scanDigits_le cs
  grind [scanExponentDigits]

theorem scanExponent_length_le {cs rest : List Char} {e : Option Int}
    (h : scanExponent cs = some (e, rest)) : rest.length ≤ cs.length := by
  unfold scanExponent at h
  split at h
  · split at h
    · split at h <;> have := scanExponentDigits_length_le h <;> grind
    · grind
  · grind

theorem scanNumber_length_lt {negative : Bool} {cs rest : List Char} {value : Json}
    (h : scanNumber negative cs = some (value, rest)) : rest.length < cs.length := by
  simp only [scanNumber, Option.bind_eq_bind, Option.bind_eq_some_iff, Prod.exists] at h
  obtain ⟨_, _, hw, _, _, hf, _, _, he, _, _, h⟩ := h
  have := scanWhole_length_lt hw
  have := scanFraction_length_le hf
  have := scanExponent_length_le he
  grind

theorem Token.scan_length_le {c : Char} {cs rest : List Char} {token : Token}
    (h : Token.scan c cs = some (token, rest)) : rest.length ≤ cs.length := by
  unfold Token.scan at h
  iterate 6 (split at h; · grind)
  split at h
  · obtain ⟨_, hs, h⟩ := Option.map_eq_some_iff.1 h
    have := scanString_length_le hs
    grind
  split at h
  · obtain ⟨_, hs, h⟩ := Option.map_eq_some_iff.1 h
    have := scanNumber_length_lt hs
    grind
  split at h
  · obtain ⟨_, hs, h⟩ := Option.map_eq_some_iff.1 h
    have := scanNumber_length_lt hs
    grind
  split at h <;> grind

/-- The tokens of a text. -/
def tokens? (cs : List Char) : Option (List Token) :=
  match cs with
  | [] => some []
  | c :: rest =>
    if isBlank c then tokens? rest
    else
      match h : Token.scan c rest with
      | none => none
      | some (token, rest') =>
        have := Token.scan_length_le h
        (tokens? rest').map (token :: ·)
termination_by cs.length

/-- An array or object that is still open: what it holds so far, newest first. An object also
holds the key whose value is awaited. -/
inductive Open where
  | arr (items : List Json)
  | obj (fields : List (String × Json))
  | objAt (fields : List (String × Json)) (key : String)
deriving Repr

/-- What the next token may be. -/
inductive Expect where
  /-- A value. -/
  | value
  /-- A value, or the end of the array just opened. -/
  | valueOrClose
  /-- A key. -/
  | key
  /-- A key, or the end of the object just opened. -/
  | keyOrClose
  /-- The colon after a key. -/
  | colon
  /-- A comma or the end of the innermost open value. -/
  | commaOrClose
  /-- Nothing: the value is complete. -/
  | done (value : Json)
deriving Repr

/-- The state after a complete value, given the open values around it. -/
def close (value : Json) : List Open → Option (List Open × Expect)
  | [] => some ([], .done value)
  | .arr items :: stack => some (.arr (value :: items) :: stack, .commaOrClose)
  | .objAt fields key :: stack => some (.obj ((key, value) :: fields) :: stack, .commaOrClose)
  | .obj _ :: _ => none

/-- One step of the machine that builds a value from its tokens. -/
def advance (stack : List Open) (expect : Expect) (token : Token) :
    Option (List Open × Expect) :=
  match expect, token, stack with
  | .value, .scalar v, stack => close v stack
  | .valueOrClose, .scalar v, stack => close v stack
  | .value, .openArr, stack =>
    if stack.length < maxDepth then some (.arr [] :: stack, .valueOrClose) else none
  | .valueOrClose, .openArr, stack =>
    if stack.length < maxDepth then some (.arr [] :: stack, .valueOrClose) else none
  | .value, .openObj, stack =>
    if stack.length < maxDepth then some (.obj [] :: stack, .keyOrClose) else none
  | .valueOrClose, .openObj, stack =>
    if stack.length < maxDepth then some (.obj [] :: stack, .keyOrClose) else none
  | .valueOrClose, .closeArr, .arr items :: stack => close (.arr items.reverse) stack
  | .commaOrClose, .closeArr, .arr items :: stack => close (.arr items.reverse) stack
  | .commaOrClose, .comma, .arr items :: stack => some (.arr items :: stack, .value)
  | .keyOrClose, .closeObj, .obj fields :: stack => close (object fields.reverse) stack
  | .commaOrClose, .closeObj, .obj fields :: stack => close (object fields.reverse) stack
  | .commaOrClose, .comma, .obj fields :: stack => some (.obj fields :: stack, .key)
  | .key, .scalar (.str key), .obj fields :: stack => some (.objAt fields key :: stack, .colon)
  | .keyOrClose, .scalar (.str key), .obj fields :: stack =>
    some (.objAt fields key :: stack, .colon)
  | .colon, .colon, stack => some (stack, .value)
  | _, _, _ => none

/-- The state after a list of tokens. -/
def assemble (stack : List Open) (expect : Expect) : List Token → Option (List Open × Expect)
  | [] => some (stack, expect)
  | token :: rest => (advance stack expect token).bind fun (stack, expect) =>
    assemble stack expect rest

/-- The value that a text writes. -/
def parseChars? (cs : List Char) : Option Json :=
  match (tokens? cs).bind (assemble [] .value) with
  | some ([], .done value) => some value
  | _ => none

/-- The value that a text writes. -/
def parse? (text : String) : Option Json := parseChars? text.toList

end ProviderHub.Json
