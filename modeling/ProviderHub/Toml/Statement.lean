import ProviderHub.Json.Parser
import ProviderHub.Text.Split
import ProviderHub.Toml.Node

/-!
The statements of a TOML text: table headers and pairs of a dotted key and a value.

Every reader here takes the text from where it starts and gives what it read and what is left.
-/

namespace ProviderHub.Toml

/-- How deep arrays and inline tables may be nested, and how many parts a key may have. -/
def maxNesting : Nat := 79

/-- A line of a TOML text. -/
inductive Statement where
  /-- `[a.b]` -/
  | header (path : List String)
  /-- `[[a.b]]` -/
  | arrayHeader (path : List String)
  /-- `a.b = value` -/
  | pair (path : List String) (value : Toml)
deriving Repr

/-! ### Blanks and comments -/

/-- Blanks within a line. -/
def isBlank (c : Char) : Bool := c = ' ' || c = '\t'

/-- The text after blanks. -/
def skipBlanks (cs : List Char) : List Char := cs.dropWhile isBlank

/-- Characters that may stand in comments and strings. -/
def isPrintable (c : Char) : Bool := c = '\t' || (0x20 ≤ c.toNat && c.toNat != 0x7F)

/-- The text after a comment, if one starts here; none if it holds a control character. -/
def skipComment (cs : List Char) : Option (List Char) :=
  match cs with
  | '#' :: rest =>
    match rest.dropWhile isPrintable with
    | [] => some []
    | '\n' :: rest => some ('\n' :: rest)
    | '\r' :: '\n' :: rest => some ('\n' :: rest)
    | _ => none
  | _ => some cs

/-- The text after the end of a line, which a comment may precede. -/
def endLine (cs : List Char) : Option (List Char) := do
  match ← skipComment (skipBlanks cs) with
  | [] => some []
  | '\n' :: rest => some rest
  | '\r' :: '\n' :: rest => some rest
  | _ => none

/-- The text after blanks, line ends and comments; the first argument bounds their number. -/
def skipLines : Nat → List Char → Option (List Char)
  | 0, cs => some cs
  | n + 1, cs => do
    match ← skipComment (skipBlanks cs) with
    | '\n' :: rest => skipLines n rest
    | '\r' :: '\n' :: rest => skipLines n rest
    | cs => some cs

/-! ### Strings -/

/-- The character of a number of hexadecimal digits. -/
def hexChar (digits : List Char) : Option Char := do
  let ds ← digits.mapM Json.hexValue?
  let n := ds.foldl (fun n d => 16 * n + d) 0
  if n.isValidChar then some (Char.ofNat n) else none

/-- An escape after its backslash. -/
def escape : List Char → Option (Char × List Char)
  | 'b' :: rest => some ('\x08', rest)
  | 't' :: rest => some ('\t', rest)
  | 'n' :: rest => some ('\n', rest)
  | 'f' :: rest => some ('\x0c', rest)
  | 'r' :: rest => some ('\r', rest)
  | '"' :: rest => some ('"', rest)
  | '\\' :: rest => some ('\\', rest)
  | 'u' :: rest => if rest.length < 4 then none else do some (← hexChar (rest.take 4), rest.drop 4)
  | 'U' :: rest => if rest.length < 8 then none else do some (← hexChar (rest.take 8), rest.drop 8)
  | _ => none

/-- The rest of a basic string on one line. The first argument bounds its length. -/
def basicString : Nat → List Char → Option (List Char × List Char)
  | 0, _ => none
  | n + 1, cs =>
    match cs with
    | '"' :: rest => some ([], rest)
    | '\\' :: rest => do
      let (c, rest) ← escape rest
      let (text, rest) ← basicString n rest
      some (c :: text, rest)
    | c :: rest =>
      if isPrintable c then do
        let (text, rest) ← basicString n rest
        some (c :: text, rest)
      else none
    | [] => none

/-- The rest of a literal string on one line. -/
def literalString : List Char → Option (List Char × List Char)
  | [] => none
  | c :: rest =>
    if c = '\x27' then some ([], rest)
    else if isPrintable c then (literalString rest).map fun (text, rest) => (c :: text, rest)
    else none

/-- The end of a string over several lines: three to five quotes, of which all but three belong to
the text. -/
def closeQuotes (quote : Char) (cs : List Char) : Option (List Char × List Char) :=
  let n := (cs.takeWhile (· = quote)).length
  if 3 ≤ n ∧ n ≤ 5 then some (List.replicate (n - 3) quote, cs.drop n) else none

/-- Whether the next character is a white space or a line end. -/
def isLineBlank (c : Char) : Bool := c = ' ' || c = '\t' || c = '\n' || c = '\r'

/-- The rest of a string over several lines. The first argument bounds its length; `quote` is the
kind of quote, and only the double one knows escapes. -/
def longString (quote : Char) : Nat → List Char → Option (List Char × List Char)
  | 0, _ => none
  | n + 1, cs =>
    match closeQuotes quote cs with
    | some result => some result
    | none =>
      match cs with
      | [] => none
      | c :: rest =>
        if c = '\\' && quote = '"' then
          match skipBlanks rest with
          | '\n' :: rest => longString quote n (rest.dropWhile isLineBlank)
          | '\r' :: '\n' :: rest => longString quote n (rest.dropWhile isLineBlank)
          | _ => do
            let (c, rest) ← escape rest
            let (text, rest) ← longString quote n rest
            some (c :: text, rest)
        else if c = '\r' then
          match rest with
          | '\n' :: rest => (longString quote n rest).map fun (text, rest) => ('\n' :: text, rest)
          | _ => none
        else if c = '\n' || isPrintable c then
          (longString quote n rest).map fun (text, rest) => (c :: text, rest)
        else none

/-- A text without a line end at its start. -/
def dropLineEnd : List Char → List Char
  | '\n' :: rest => rest
  | '\r' :: '\n' :: rest => rest
  | cs => cs

/-- A string of any of the four kinds. -/
def string? (cs : List Char) : Option (String × List Char) :=
  let result := match cs with
    | '"' :: '"' :: '"' :: rest => longString '"' (rest.length + 1) (dropLineEnd rest)
    | '\x27' :: '\x27' :: '\x27' :: rest => longString '\x27' (rest.length + 1) (dropLineEnd rest)
    | '"' :: rest => basicString (rest.length + 1) rest
    | '\x27' :: rest => literalString rest
    | _ => none
  result.map fun (text, rest) => (String.ofList text, rest)

/-! ### Keys -/

/-- Characters of bare keys. -/
def isKeyChar (c : Char) : Bool := c.isAlphanum || c = '_' || c = '-'

/-- One part of a key. -/
def simpleKey (cs : List Char) : Option (String × List Char) :=
  match cs with
  | '"' :: rest => (basicString (rest.length + 1) rest).map fun (t, rest) => (String.ofList t, rest)
  | '\x27' :: rest => (literalString rest).map fun (t, rest) => (String.ofList t, rest)
  | _ =>
    let name := cs.takeWhile isKeyChar
    if name.isEmpty then none else some (String.ofList name, cs.dropWhile isKeyChar)

/-- A dotted key, with the blanks after it. The first argument bounds its parts. -/
def dottedKey : Nat → List Char → Option (List String × List Char)
  | 0, _ => none
  | n + 1, cs => do
    let (key, rest) ← simpleKey (skipBlanks cs)
    match skipBlanks rest with
    | '.' :: rest =>
      let (keys, rest) ← dottedKey n rest
      some (key :: keys, rest)
    | rest => some ([key], rest)

/-! ### Numbers and dates -/

/-- Characters of numbers and dates. -/
def isScalarChar (c : Char) : Bool :=
  c.isAlphanum || c = '+' || c = '-' || c = '.' || c = '_' || c = ':'

/-- Digits with single underscores between them, without these. -/
def plainDigits? (isDigit : Char → Bool) (cs : List Char) : Option (List Char) :=
  if Text.splitOn '_' cs |>.all fun part => !part.isEmpty && part.all isDigit then
    some (cs.filter (· != '_'))
  else none

/-- The value of digits to a base. -/
def digitsToBase (base : Nat) (ds : List Char) : Nat :=
  ds.foldl (fun n c => base * n + (Json.hexValue? c).getD 0) 0

/-- A text without its sign, and whether the sign is a minus. -/
def dropSign : List Char → Bool × List Char
  | '+' :: rest => (false, rest)
  | '-' :: rest => (true, rest)
  | rest => (false, rest)

/-- An integer of 64 bits. -/
def integer? (cs : List Char) : Option Int :=
  let based (base : Nat) (ds : List Char) : Option Int :=
    (plainDigits? (fun c => match Json.hexValue? c with
      | some d => d < base
      | none => false) ds).bind fun ds =>
        let n := digitsToBase base ds
        if n < 1 <<< 63 then some n else none
  match cs with
  | '0' :: 'x' :: ds => based 16 ds
  | '0' :: 'o' :: ds => based 8 ds
  | '0' :: 'b' :: ds => based 2 ds
  | _ =>
    let (negative, ds) := dropSign cs
    (plainDigits? Char.isDigit ds).bind fun ds =>
      if ds.length > 1 ∧ ds.head? = some '0' then none
      else
        let n := digitsToBase 10 ds
        if negative then if n ≤ 1 <<< 63 then some (-(n : Int)) else none
        else if n < 1 <<< 63 then some n else none

/-- The exponent of a number, zero where it is missing. -/
def exponent? : List Char → Option Int
  | [] => some 0
  | e :: rest =>
    if e = 'e' || e = 'E' then
      let (negative, ds) := dropSign rest
      (plainDigits? Char.isDigit ds).map fun ds =>
        let n : Int := digitsToBase 10 ds
        if negative then -n else n
    else none

/-- Whether a text is a number with a fraction or an exponent, or one of the special numbers. One
that is too large is no number, unless it is negative. -/
def isFloat (cs : List Char) : Bool :=
  let (negative, body) := dropSign cs
  if body = ['i', 'n', 'f'] || body = ['n', 'a', 'n'] then true
  else
    let inWhole (c : Char) : Bool := c.isDigit || c = '_'
    let tail := body.dropWhile inWhole
    let (fraction, tail) := match tail with
      | '.' :: rest => (some (rest.takeWhile inWhole), rest.dropWhile inWhole)
      | rest => (none, rest)
    let digits := do
      let whole ← plainDigits? Char.isDigit (body.takeWhile inWhole)
      let part ← match fraction with
        | some ds => plainDigits? Char.isDigit ds
        | none => some []
      let e ← exponent? tail
      some (whole, part, e)
    match digits with
    | some (whole, part, e) =>
      !(whole.length > 1 && whole.head? == some '0') && (fraction.isSome || !tail.isEmpty) &&
        (negative ||
          (Real64.ofDecimal? false (digitsToBase 10 (whole ++ part)) (e - part.length)).isSome)
    | none => false

/-- Whether two digits write a number between two bounds. -/
def twoDigits (low high : Nat) (a b : Char) : Bool :=
  a.isDigit && b.isDigit &&
    (let n := 10 * (a.toNat - '0'.toNat) + (b.toNat - '0'.toNat)
     low ≤ n && n ≤ high)

/-- Whether a text is a time of day. -/
def isTime (cs : List Char) : Bool :=
  match cs with
  | a :: b :: ':' :: c :: d :: ':' :: e :: f :: rest =>
    twoDigits 0 23 a b && twoDigits 0 59 c d && twoDigits 0 60 e f &&
      (match rest with
        | [] => true
        | '.' :: ds => !ds.isEmpty && ds.all Char.isDigit
        | _ => false)
  | _ => false

/-- The number of days of a month. -/
def daysOf (year month : Nat) : Nat :=
  if month = 2 then if year % 4 = 0 ∧ (year % 100 ≠ 0 ∨ year % 400 = 0) then 29 else 28
  else if month = 4 ∨ month = 6 ∨ month = 9 ∨ month = 11 then 30
  else 31

/-- Whether a text is a date. -/
def isDate (cs : List Char) : Bool :=
  match cs with
  | [a, b, c, d, '-', e, f, '-', g, h] =>
    [a, b, c, d].all Char.isDigit && twoDigits 1 12 e f &&
      twoDigits 1 (daysOf (digitsToBase 10 [a, b, c, d]) (digitsToBase 10 [e, f])) g h
  | _ => false

/-- A time without its offset from the prime meridian, if it has one that is well formed. -/
def dropOffset (cs : List Char) : List Char :=
  match cs.reverse with
  | 'Z' :: rest => rest.reverse
  | 'z' :: rest => rest.reverse
  | d :: c :: ':' :: b :: a :: sign :: rest =>
    if (sign = '+' || sign = '-') && twoDigits 0 23 a b && twoDigits 0 59 c d then rest.reverse
    else cs
  | _ => cs

/-- Whether a text is a date, a time, or both. -/
def isDateTime (cs : List Char) : Bool :=
  isTime cs || isDate cs ||
    (isDate (cs.take 10) &&
      (match cs.drop 10 with
        | sep :: time => (sep = 'T' || sep = 't' || sep = ' ') && isTime (dropOffset time)
        | [] => false))

/-- A number, truth value or date. A blank may divide a date from a time. -/
def scalar? (cs : List Char) : Option (Toml × List Char) :=
  let word := cs.takeWhile isScalarChar
  let rest := cs.dropWhile isScalarChar
  let long := match isDate word, rest with
    | true, ' ' :: more => word ++ ' ' :: more.takeWhile isScalarChar
    | _, _ => word
  if long != word && isDateTime long then some (.date (String.ofList long), cs.drop long.length)
  else if word = ['t', 'r', 'u', 'e'] then some (.bool true, rest)
  else if word = ['f', 'a', 'l', 's', 'e'] then some (.bool false, rest)
  else
    match integer? word with
    | some n => some (.int n, rest)
    | none =>
      if isFloat word then some (.float (String.ofList word), rest)
      else if isDateTime word then some (.date (String.ofList word), rest)
      else none

/-! ### Values -/

mutual

/-- A value. The first argument bounds the number of items, the second the nesting. -/
def value : Nat → Nat → List Char → Option (Toml × List Char)
  | 0, _, _ => none
  | n + 1, depth, cs =>
    match cs with
    | '[' :: rest => if depth = 0 then none else items n (depth - 1) [] rest
    | '\x7b' :: rest =>
      if depth = 0 then none
      else
        match skipBlanks rest with
        | '\x7d' :: rest => some (.table [], rest)
        | rest => pairs n (depth - 1) [] rest
    | '"' :: _ => (string? cs).map fun (s, rest) => (.str s, rest)
    | '\x27' :: _ => (string? cs).map fun (s, rest) => (.str s, rest)
    | _ => scalar? cs

/-- The rest of an array, after the items read so far, newest first. -/
def items : Nat → Nat → List Toml → List Char → Option (Toml × List Char)
  | 0, _, _, _ => none
  | n + 1, depth, read, cs => do
    match ← skipLines cs.length cs with
    | ']' :: rest => some (.arr read.reverse, rest)
    | cs =>
      let (v, rest) ← value n depth cs
      match ← skipLines rest.length rest with
      | ',' :: rest => items n depth (v :: read) rest
      | ']' :: rest => some (.arr (v :: read).reverse, rest)
      | _ => none

/-- The rest of an inline table, after the pairs read so far. -/
def pairs : Nat → Nat → Entries → List Char → Option (Toml × List Char)
  | 0, _, _, _ => none
  | n + 1, depth, read, cs => do
    let (path, rest) ← dottedKey maxNesting cs
    match rest with
    | '=' :: rest =>
      let (v, rest) ← value n depth (skipBlanks rest)
      let read ← setDotted v path read
      match skipBlanks rest with
      | ',' :: rest => pairs n depth read rest
      | '\x7d' :: rest => some (.table (entriesToToml read), rest)
      | _ => none
    | _ => none

end

/-! ### Statements -/

/-- The statement on a line that is neither blank nor a comment. -/
def statement? (cs : List Char) : Option (Statement × List Char) :=
  match cs with
  | '[' :: '[' :: rest => do
    let (path, rest) ← dottedKey maxNesting rest
    match rest with
    | ']' :: ']' :: rest => some (.arrayHeader path, ← endLine rest)
    | _ => none
  | '[' :: rest => do
    let (path, rest) ← dottedKey maxNesting rest
    match rest with
    | ']' :: rest => some (.header path, ← endLine rest)
    | _ => none
  | _ => do
    let (path, rest) ← dottedKey maxNesting cs
    match rest with
    | '=' :: rest =>
      let (v, rest) ← value (cs.length + 1) maxNesting (skipBlanks rest)
      some (.pair path v, ← endLine rest)
    | _ => none

/-- The statements of a text. The first argument bounds their number. -/
def statements : Nat → List Char → Option (List Statement)
  | 0, _ => none
  | n + 1, cs => do
    match ← skipLines cs.length cs with
    | [] => some []
    | cs =>
      let (s, rest) ← statement? cs
      let more ← statements n rest
      some (s :: more)

end ProviderHub.Toml
