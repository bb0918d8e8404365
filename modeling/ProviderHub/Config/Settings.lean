import ProviderHub.Completion.Trim
import ProviderHub.Provider.Feature

/-!
Settings.

Every setting has a default, so that a file may name any part of them.

* `Settings.ofJson?`: the settings of a JSON value;
* `Settings.render`: the text of a settings file;
* `Settings.capacity?`: how many batches of a feature are cached;
* `Settings.lowerLimit`: what a client's options do to the completion limit;
* `Settings.overview`: the values that a session runs with.
-/

namespace ProviderHub

/-- Settings of the caches. -/
structure CacheSettings where
  completionCapacity : Nat := 12
  codeActionCapacity : Nat := 10
  codeLensCapacity : Nat := 10
  callHierarchyCapacity : Nat := 2
  sweepDelayMs : Nat := 100
deriving DecidableEq, Repr, Inhabited

/-- All settings. -/
structure Settings where
  completion : CompletionLimits := ⟨300, 2000⟩
  cache : CacheSettings := {}
  watchDebounceMs : Nat := 100
  requestTimeoutSecs : Nat := 120
deriving DecidableEq, Repr, Inhabited

namespace Settings

/-- A number of 64 bits, with a default where it is missing. -/
def number (r : Record) (index : Nat) (key : String) (default : Nat) : Option Nat :=
  match r.slot index key with
  | .present v => nat64? v
  | _ => some default

/-- A section, with its defaults where it is missing. -/
def sectionOf {α : Type} (r : Record) (index : Nat) (key : String) (arity : Nat) (default : α)
    (read : Record → Option α) : Option α :=
  match r.slot index key with
  | .present v => (Record.ofJson? arity v).bind read
  | _ => some default

/-- Completion limits from their section. -/
def readCompletion (r : Record) : Option CompletionLimits := do
  let maxItems ← number r 0 "max_items" 300
  let gracefulThreshold ← number r 1 "graceful_threshold" 2000
  some { maxItems, gracefulThreshold }

/-- Cache settings from their section. -/
def readCache (r : Record) : Option CacheSettings := do
  let completionCapacity ← number r 0 "completion_capacity" 12
  let codeActionCapacity ← number r 1 "code_action_capacity" 10
  let codeLensCapacity ← number r 2 "code_lens_capacity" 10
  let callHierarchyCapacity ← number r 3 "call_hierarchy_capacity" 2
  let sweepDelayMs ← number r 4 "sweep_delay_ms" 100
  some { completionCapacity, codeActionCapacity, codeLensCapacity, callHierarchyCapacity,
         sweepDelayMs }

/-- The settings of a JSON value. -/
def ofJson? (v : Json) : Option Settings := do
  let r ← Record.ofJson? 4 v
  let completion ← sectionOf r 0 "completion" 2 ⟨300, 2000⟩ readCompletion
  let cache ← sectionOf r 1 "cache" 5 {} readCache
  let watchDebounceMs ← sectionOf r 2 "watch" 1 100 fun r => number r 0 "debounce_ms" 100
  let requestTimeoutSecs ← sectionOf r 3 "server" 1 120 fun r =>
    number r 0 "request_timeout_secs" 120
  some { completion, cache, watchDebounceMs, requestTimeoutSecs }

/-- The sections and their entries, in order. -/
def sections (s : Settings) : List (String × List (String × Nat)) :=
  [("completion",
      [("max_items", s.completion.maxItems),
        ("graceful_threshold", s.completion.gracefulThreshold)]),
    ("cache",
      [("completion_capacity", s.cache.completionCapacity),
        ("code_action_capacity", s.cache.codeActionCapacity),
        ("code_lens_capacity", s.cache.codeLensCapacity),
        ("call_hierarchy_capacity", s.cache.callHierarchyCapacity),
        ("sweep_delay_ms", s.cache.sweepDelayMs)]),
    ("watch", [("debounce_ms", s.watchDebounceMs)]),
    ("server", [("request_timeout_secs", s.requestTimeoutSecs)])]

/-- The settings as JSON. -/
def toJson (s : Settings) : Json :=
  Json.object (s.sections.map fun (name, entries) =>
    (name, Json.object (entries.map fun (key, n) => (key, Json.nat n))))

instance : Wire Settings where
  encode := toJson
  decode? := ofJson?

/-- The text of a section. -/
def renderSection (name : String) (entries : List (String × Nat)) : String :=
  "[" ++ name ++ "]\n" ++
    String.join (entries.map fun (key, n) => key ++ " = " ++ toString n ++ "\n")

/-- The text of a settings file. -/
def render (s : Settings) : String :=
  "\n".intercalate (s.sections.map fun (name, entries) => renderSection name entries)

/-- How many batches of a feature are cached; only features with a second phase have a cache. -/
def capacity? (s : Settings) : Feature → Option Nat
  | .completion => some s.cache.completionCapacity
  | .codeAction => some s.cache.codeActionCapacity
  | .codeLens => some s.cache.codeLensCapacity
  | .callHierarchy => some s.cache.callHierarchyCapacity
  | _ => none

/-- How long a request may take. -/
def requestTimeoutMs (s : Settings) : Nat := 1000 * s.requestTimeoutSecs

/-- The limit after a client's options, which may only lower it, and not to zero. -/
def lowerLimit (s : Settings) (options : Json) : Settings :=
  match (options.at? ["completion", "maxItems"]).bind nat64? with
  | some n =>
    if 0 < n ∧ n < s.completion.maxItems then
      { s with completion := { s.completion with maxItems := n } }
    else s
  | none => s

/-- The values that a session runs with. -/
def overview (s : Settings) : Json :=
  let capacities := [Feature.completion, .codeAction, .codeLens, .callHierarchy, .hover].map
    fun f => (f.name, Json.orNull ((s.capacity? f).map Json.nat))
  Json.object
    [("maxItems", Json.nat s.completion.maxItems),
      ("gracefulThreshold", Json.nat s.completion.gracefulThreshold),
      ("capacity", Json.object capacities),
      ("sweepDelayMs", Json.nat s.cache.sweepDelayMs),
      ("watchDebounceMs", Json.nat s.watchDebounceMs),
      ("requestTimeoutSecs", Json.nat s.requestTimeoutSecs)]

end Settings

end ProviderHub
