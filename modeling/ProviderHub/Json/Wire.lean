import ProviderHub.Json.Basic
import ProviderHub.Url.Parser

/-!
Records on the wire.

A type of the protocol is written as a JSON value and read back from one. A record is read from an
object by its keys, or from an array that lists its fields in order; unknown keys are ignored, and
an array may not be longer than the record.

* `Wire`: a type with a JSON form;
* `Record`: the two shapes of a record, and `Slot` what it has for a field;
* `Record.required`, `Record.optional`, `Record.nullable`, `Record.defaulted`: the four kinds of
  fields.
-/

namespace ProviderHub

/-- A type with a JSON form. -/
class Wire (α : Type) where
  /-- The JSON form of a value. -/
  encode : α → Json
  /-- The value that a JSON value stands for. -/
  decode? : Json → Option α

export Wire (encode decode?)

/-! ### Scalars -/

instance : Wire Json where
  encode v := v
  decode? v := some v

instance : Wire Bool where
  encode b := .bool b
  decode?
    | .bool b => some b
    | _ => none

instance : Wire String where
  encode s := .str s
  decode?
    | .str s => some s
    | _ => none

/-- A natural number below a bound. -/
def natBelow? (bound : Nat) : Json → Option Nat
  | .int n => if 0 ≤ n ∧ n < bound then some n.toNat else none
  | _ => none

/-- An integer between two bounds, both included. -/
def intBetween? (low high : Int) : Json → Option Int
  | .int n => if low ≤ n ∧ n ≤ high then some n else none
  | _ => none

/-- A natural number of 64 bits. -/
def nat64? (v : Json) : Option Nat := natBelow? UInt64.size v

instance : Wire UInt8 where
  encode n := .int n.toNat
  decode? v := (natBelow? UInt8.size v).map UInt8.ofNat

instance : Wire UInt32 where
  encode n := .int n.toNat
  decode? v := (natBelow? UInt32.size v).map UInt32.ofNat

instance : Wire Int32 where
  encode n := .int n.toInt
  decode? v := (intBetween? Int32.minValue.toInt Int32.maxValue.toInt v).map Int32.ofInt

instance : Wire Int64 where
  encode n := .int n.toInt
  decode? v := (intBetween? Int64.minValue.toInt Int64.maxValue.toInt v).map Int64.ofInt

instance : Wire Url where
  encode u := .str u.toString
  decode?
    | .str s => Url.parse? s
    | _ => none

instance {α : Type} [Wire α] : Wire (List α) where
  encode xs := .arr (xs.map encode)
  decode?
    | .arr items => items.mapM decode?
    | _ => none

/-- The value of a name out of a fixed list; a name may also be written as the only key of an
object, over `null`. -/
def named? {α : Type} (names : List (String × α)) : Json → Option α
  | .str name => names.lookup name
  | .obj [(name, .null)] => names.lookup name
  | _ => none

/-- The value of a number out of a fixed list. -/
def numbered? {α : Type} (numbers : List (Nat × α)) (v : Json) : Option α :=
  (natBelow? UInt8.size v).bind fun n => numbers.lookup n

/-! ### Records -/

/-- What a record has for a field. -/
inductive Slot where
  | present (value : Json)
  /-- The object has no such key. -/
  | absent
  /-- The array ends before the field. -/
  | cutOff
deriving Repr, DecidableEq

/-- A record as it stands on the wire. -/
inductive Record where
  | keyed (fields : List (String × Json))
  | listed (items : List Json)
deriving Repr

namespace Record

/-- The record of a JSON value, given the number of its fields. -/
def ofJson? (arity : Nat) : Json → Option Record
  | .obj fields => some (.keyed fields)
  | .arr items => if items.length ≤ arity then some (.listed items) else none
  | _ => none

/-- What a record has for its field at a position, under a key. -/
def slot (r : Record) (index : Nat) (key : String) : Slot :=
  match r with
  | .keyed fields =>
    match fields.lookup key with
    | some v => .present v
    | none => .absent
  | .listed items =>
    match items[index]? with
    | some v => .present v
    | none => .cutOff

variable {α : Type} [Wire α]

/-- A field that must be there. -/
def required (r : Record) (index : Nat) (key : String) : Option α :=
  match r.slot index key with
  | .present v => decode? v
  | _ => none

/-- The value under a field that may be missing; `null` is the same as missing. -/
def ofNullable? : Json → Option (Option α)
  | .null => some none
  | v => (decode? v).map some

/-- A field that may be missing. -/
def optional (r : Record) (index : Nat) (key : String) : Option (Option α) :=
  match r.slot index key with
  | .present v => ofNullable? v
  | _ => some none

/-- A field whose key may be missing from an object, but whose place in an array must be filled. -/
def nullable (r : Record) (index : Nat) (key : String) : Option (Option α) :=
  match r.slot index key with
  | .present v => ofNullable? v
  | .absent => some none
  | .cutOff => none

/-- A field that has a default where it is missing; `null` is not missing. -/
def defaulted (r : Record) (index : Nat) (key : String) (default : α) : Option α :=
  match r.slot index key with
  | .present v => decode? v
  | _ => some default

end Record

/-! ### Writing records -/

/-- A field that is always written. -/
def field {α : Type} [Wire α] (key : String) (value : α) : List (String × Json) :=
  [(key, encode value)]

/-- A field that is written only if it has a value. -/
def fieldIfSome {α : Type} [Wire α] (key : String) (value : Option α) : List (String × Json) :=
  match value with
  | some v => [(key, encode v)]
  | none => []

/-- A list that is written only if it is not empty. -/
def fieldIfAny {α : Type} [Wire α] (key : String) (values : List α) : List (String × Json) :=
  if values.isEmpty then [] else [(key, encode values)]

/-- The object with the given groups of fields. -/
def fields (groups : List (List (String × Json))) : Json := Json.object groups.flatten

end ProviderHub
