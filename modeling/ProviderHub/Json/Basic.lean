import ProviderHub.Json.Real

/-!
JSON values.

An object is a list of fields; every object that the library builds or reads lists its keys in
strictly increasing code point order, so that equal objects are equal values and printing is
canonical.

* `Json.insertField`: writing a field replaces an earlier one of the same key;
* `Json.object`: an object from fields in any order, the last field of a key winning;
* `Json.get?`, `Json.at?`: the field of an object, and the value at the end of a path of keys.
-/

namespace ProviderHub

/-- A JSON value. Integers that fit a signed or an unsigned 64-bit word are `int`, all other
numbers are `real`. -/
inductive Json where
  | null
  | bool (value : Bool)
  | int (value : Int)
  | real (value : Real64)
  | str (value : String)
  | arr (items : List Json)
  | obj (fields : List (String × Json))
deriving Inhabited, Repr

namespace Json

/-! ### Equality -/

mutual

/-- Equality of values is decidable. -/
def decEq : (v w : Json) → Decidable (v = w)
  | .null, .null => isTrue rfl
  | .bool b, .bool c => if h : b = c then isTrue (h ▸ rfl) else isFalse fun e => h (by cases e; rfl)
  | .int m, .int n => if h : m = n then isTrue (h ▸ rfl) else isFalse fun e => h (by cases e; rfl)
  | .real r, .real s => if h : r = s then isTrue (h ▸ rfl) else isFalse fun e => h (by cases e; rfl)
  | .str s, .str t => if h : s = t then isTrue (h ▸ rfl) else isFalse fun e => h (by cases e; rfl)
  | .arr vs, .arr ws =>
    match decEqItems vs ws with
    | isTrue h => isTrue (h ▸ rfl)
    | isFalse h => isFalse fun e => h (by cases e; rfl)
  | .obj fs, .obj gs =>
    match decEqFields fs gs with
    | isTrue h => isTrue (h ▸ rfl)
    | isFalse h => isFalse fun e => h (by cases e; rfl)
  | .null, .bool _ | .null, .int _ | .null, .real _ | .null, .str _ | .null, .arr _
  | .null, .obj _ => isFalse nofun
  | .bool _, .null | .bool _, .int _ | .bool _, .real _ | .bool _, .str _ | .bool _, .arr _
  | .bool _, .obj _ => isFalse nofun
  | .int _, .null | .int _, .bool _ | .int _, .real _ | .int _, .str _ | .int _, .arr _
  | .int _, .obj _ => isFalse nofun
  | .real _, .null | .real _, .bool _ | .real _, .int _ | .real _, .str _ | .real _, .arr _
  | .real _, .obj _ => isFalse nofun
  | .str _, .null | .str _, .bool _ | .str _, .int _ | .str _, .real _ | .str _, .arr _
  | .str _, .obj _ => isFalse nofun
  | .arr _, .null | .arr _, .bool _ | .arr _, .int _ | .arr _, .real _ | .arr _, .str _
  | .arr _, .obj _ => isFalse nofun
  | .obj _, .null | .obj _, .bool _ | .obj _, .int _ | .obj _, .real _ | .obj _, .str _
  | .obj _, .arr _ => isFalse nofun

/-- Equality of lists of items is decidable. -/
def decEqItems : (vs ws : List Json) → Decidable (vs = ws)
  | [], [] => isTrue rfl
  | v :: vs, w :: ws =>
    match decEq v w, decEqItems vs ws with
    | isTrue h, isTrue hs => isTrue (h ▸ hs ▸ rfl)
    | isFalse h, _ => isFalse fun e => h (by cases e; rfl)
    | _, isFalse h => isFalse fun e => h (by cases e; rfl)
  | [], _ :: _ | _ :: _, [] => isFalse nofun

/-- Equality of lists of fields is decidable. -/
def decEqFields : (fs gs : List (String × Json)) → Decidable (fs = gs)
  | [], [] => isTrue rfl
  | (k, v) :: fs, (l, w) :: gs =>
    if hk : k = l then
      match decEq v w, decEqFields fs gs with
      | isTrue h, isTrue hs => isTrue (hk ▸ h ▸ hs ▸ rfl)
      | isFalse h, _ => isFalse fun e => h (by cases e; rfl)
      | _, isFalse h => isFalse fun e => h (by cases e; rfl)
    else isFalse fun e => hk (by cases e; rfl)
  | [], _ :: _ | _ :: _, [] => isFalse nofun

end

instance : DecidableEq Json := decEq

/-! ### Objects -/

/-- The fields with `key` set to `value`, in increasing order of keys if they were so before. -/
def insertField (key : String) (value : Json) : List (String × Json) → List (String × Json)
  | [] => [(key, value)]
  | (k, v) :: rest =>
    if key < k then (key, value) :: (k, v) :: rest
    else if key = k then (key, value) :: rest
    else (k, v) :: insertField key value rest

/-- The fields of a list in increasing order of keys; of two fields with one key the later wins. -/
def sortFields (fields : List (String × Json)) : List (String × Json) :=
  fields.foldl (fun acc (k, v) => insertField k v acc) []

/-- The object with the given fields. -/
def object (fields : List (String × Json)) : Json := .obj (sortFields fields)

/-- The value under a key, if this is an object that has it. -/
def get? (key : String) : Json → Option Json
  | .obj fields => fields.lookup key
  | _ => none

/-- The value at the end of a path of object keys. -/
def at? : List String → Json → Option Json
  | [], v => some v
  | key :: path, v => (v.get? key).bind (at? path)

/-- Whether this is an object with the key; a `null` under the key counts. -/
def hasKey (key : String) (v : Json) : Bool := (v.get? key).isSome

/-- A natural number as a JSON value. -/
def nat (n : Nat) : Json := .int n

/-- The value, or `null` when there is none. -/
def orNull : Option Json → Json
  | some v => v
  | none => .null

/-- The value with all its strings changed, keys included. -/
def mapStrings (f : String → String) : Json → Json
  | .str s => .str (f s)
  | .arr items => .arr (mapItems f items)
  | .obj fields => object (mapFields f fields)
  | v => v
where
  mapItems (f : String → String) : List Json → List Json
    | [] => []
    | v :: rest => mapStrings f v :: mapItems f rest
  mapFields (f : String → String) : List (String × Json) → List (String × Json)
    | [] => []
    | (k, v) :: rest => (f k, mapStrings f v) :: mapFields f rest

/-- How deep arrays and objects are nested; a scalar has depth zero. -/
def depth : Json → Nat
  | .arr items => 1 + depthItems items
  | .obj fields => 1 + depthFields fields
  | _ => 0
where
  depthItems : List Json → Nat
    | [] => 0
    | v :: rest => max v.depth (depthItems rest)
  depthFields : List (String × Json) → Nat
    | [] => 0
    | (_, v) :: rest => max v.depth (depthFields rest)

end Json

end ProviderHub
