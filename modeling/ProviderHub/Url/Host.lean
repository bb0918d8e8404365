import ProviderHub.Text.Case
import ProviderHub.Text.Split
import ProviderHub.Url.Percent
import ProviderHub.Url.Punycode

/-!
Hosts of URLs.

* `Host.domain?`: the host of a special scheme, a domain in ASCII or an IPv4 address;
* `Host.plain?`: the host of any other scheme, which is kept as written;
* `Host.ipv6?`: an IPv6 address between brackets, in its shortest form.

All three give the text of the host.
-/

namespace ProviderHub.Host

/-! ### Numbers of addresses -/

/-- A number of an IPv4 address: decimal, octal after `0`, hexadecimal after `0x`. -/
def ipv4Number? (cs : List Char) : Option Nat :=
  let (base, ds) : Nat × List Char :=
    match cs with
    | '0' :: 'x' :: rest => (16, rest)
    | '0' :: 'X' :: rest => (16, rest)
    | '0' :: c :: rest => (8, c :: rest)
    | cs => (10, cs)
  if cs.isEmpty then none
  else ds.foldl (fun acc c => do
    let n ← acc
    let d ← Percent.hexValue? c
    if d < base then some (n * base + d) else none) (some 0)

/-- The labels of a domain without the empty one after a final dot. -/
def addressLabels (cs : List Char) : List (List Char) :=
  let parts := Text.splitOn '.' cs
  if parts.length > 1 ∧ parts.getLast? = some [] then parts.dropLast else parts

/-- Whether a domain's last label is a number, so that it must be an address. -/
def endsInNumber (cs : List Char) : Bool :=
  match (addressLabels cs).getLast? with
  | some last => (!last.isEmpty && last.all Char.isDigit) ||
      (match last with
        | '0' :: x :: rest => (x = 'x' || x = 'X') && rest.all fun c => (Percent.hexValue? c).isSome
        | _ => false)
  | none => false

/-- The value of an address whose last number fills the remaining bytes. -/
def ipv4Value? (numbers : List Nat) : Option Nat :=
  match numbers.getLast? with
  | none => none
  | some last =>
    let firsts := numbers.dropLast
    if numbers.length > 4 ∨ firsts.any (· > 255) ∨ 1 <<< (8 * (4 - firsts.length)) ≤ last then none
    else some (firsts.zipIdx.foldl (fun value (n, i) => value + (n <<< (8 * (3 - i)))) last)

/-- The dotted text of an IPv4 address. -/
def ipv4Text (n : Nat) : List Char :=
  let byte (i : Nat) : List Char := (toString ((n >>> (8 * i)) % 256)).toList
  Text.joinWith '.' [byte 3, byte 2, byte 1, byte 0]

/-- The text of the IPv4 address that a domain writes. -/
def ipv4? (cs : List Char) : Option (List Char) := do
  let numbers ← (addressLabels cs).mapM ipv4Number?
  let value ← ipv4Value? numbers
  some (ipv4Text value)

/-! ### IPv6 -/

/-- A group of an IPv6 address. -/
def group? (cs : List Char) : Option Nat :=
  if cs.isEmpty ∨ cs.length > 4 then none
  else cs.foldl (fun acc c => do
    let n ← acc
    let d ← Percent.hexValue? c
    some (n * 16 + d)) (some 0)

/-- A byte of the dotted tail of an IPv6 address, without a leading zero. -/
def dottedByte? (cs : List Char) : Option Nat :=
  if cs.isEmpty ∨ cs.length > 3 ∨ !cs.all Char.isDigit ∨ (cs.length > 1 ∧ cs.head? = some '0') then
    none
  else
    let n := cs.foldl (fun n c => 10 * n + (c.toNat - '0'.toNat)) 0
    if n ≤ 255 then some n else none

/-- The groups between colons; the last one may be a dotted IPv4 address. -/
def groups? : List (List Char) → Option (List Nat)
  | [] => some []
  | [last] =>
    if last.contains '.' then do
      let bytes ← (Text.splitOn '.' last).mapM dottedByte?
      match bytes with
      | [a, b, c, d] => some [256 * a + b, 256 * c + d]
      | _ => none
    else (group? last).map ([·])
  | part :: rest => do
    let g ← group? part
    let gs ← groups? rest
    some (g :: gs)

/-- The colon-separated groups of one side of `::`; an empty side has none. -/
def side? (cs : List Char) : Option (List Nat) :=
  if cs.isEmpty then some [] else groups? (Text.splitOn ':' cs)

/-- The text before and after the first double colon. -/
def cutDoubleColon : List Char → Option (List Char × List Char)
  | ':' :: ':' :: rest => some ([], rest)
  | c :: rest => (cutDoubleColon rest).map fun (a, b) => (c :: a, b)
  | [] => none

/-- The eight groups of an IPv6 address. -/
def ipv6Groups? (cs : List Char) : Option (List Nat) :=
  match cutDoubleColon cs with
  | none => do
    let gs ← groups? (Text.splitOn ':' cs)
    if gs.length = 8 then some gs else none
  | some (left, right) => do
    if left.contains '.' then none
    else
      let ls ← side? left
      let rs ← side? right
      if ls.length + rs.length ≤ 7 then
        some (ls ++ List.replicate (8 - ls.length - rs.length) 0 ++ rs)
      else none

/-- The length of the run of zeros at the start. -/
def zeroRun (gs : List Nat) : Nat := (gs.takeWhile (· == 0)).length

/-- Start and length of the longest run of at least two zero groups, the first of the longest. -/
def longestZeros (gs : List Nat) : Option (Nat × Nat) :=
  (List.range gs.length).foldl (fun best i =>
    let n := zeroRun (gs.drop i)
    let record := match best with
      | some (_, m) => m
      | none => 1
    if record < n then some (i, n) else best) none

/-- A group in lower-case hexadecimal. -/
def groupText (n : Nat) : List Char := Nat.toDigits 16 n

/-- The shortest text of an IPv6 address. -/
def ipv6Text (gs : List Nat) : List Char :=
  match longestZeros gs with
  | some (start, n) =>
    Text.joinWith ':' ((gs.take start).map groupText) ++ [':', ':'] ++
      Text.joinWith ':' ((gs.drop (start + n)).map groupText)
  | none => Text.joinWith ':' (gs.map groupText)

/-- The bracketed text of the IPv6 address that stands between brackets. -/
def ipv6? (cs : List Char) : Option (List Char) :=
  match cs.reverse with
  | ']' :: inner => (ipv6Groups? inner.reverse).map fun gs => '[' :: (ipv6Text gs ++ [']'])
  | _ => none

/-! ### Hosts -/

/-- Characters that no host may hold. -/
def forbidden (c : Char) : Bool :=
  c.toNat = 0 || ['\t', '\n', '\r', ' ', '#', '/', ':', '<', '>', '?', '@', '[', '\\', ']', '^',
    '|'].contains c

/-- Characters that no domain may hold. -/
def forbiddenInDomain (c : Char) : Bool :=
  forbidden c || c = '%' || c.toNat < 0x20 || c.toNat = 0x7F

/-- A label in ASCII. -/
def asciiLabel (label : List Char) : List Char :=
  if label.all fun c => c.toNat < 0x80 then label
  else ['x', 'n', '-', '-'] ++ Punycode.encode label

/-- A domain in lower case and ASCII. -/
def asciiDomain? (cs : List Char) : Option (List Char) :=
  let labels := Text.splitOn '.' (cs.map Case.lower)
  let ascii := Text.joinWith '.' (labels.map asciiLabel)
  if ascii.isEmpty ∨ ascii.any forbiddenInDomain then none else some ascii

/-- The host of a special scheme. -/
def domain? (cs : List Char) : Option (List Char) :=
  match cs with
  | '[' :: rest => ipv6? rest
  | _ => do
    let decoded ← Utf8.decode? (Percent.decode cs)
    let ascii ← asciiDomain? decoded
    if endsInNumber ascii then ipv4? ascii else some ascii

/-- The host of a scheme that is not special. -/
def plain? (cs : List Char) : Option (List Char) :=
  match cs with
  | '[' :: rest => ipv6? rest
  | _ => if cs.any forbidden then none else some (Percent.encode .plain cs)

end ProviderHub.Host
