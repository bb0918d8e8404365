import ProviderHub.Config.Settings
import ProviderHub.Text.Alphabet
import ProviderHub.Text.Numeral
import ProviderHub.Toml.Parser

/-!
Settings files.

There is a file for the user and one for the project. The project's is laid over the user's, and
the environment over both.

* `ConfigError`: what can go wrong;
* `Config.load`: the settings in force;
* `Config.create`: the text of a new file, unless there is one already.
-/

namespace ProviderHub

/-- What is found at a path. -/
inductive FileState where
  | absent
  | text (content : String)
  /-- A file that is no text. -/
  | binary
  | directory
deriving DecidableEq, Repr, Inhabited

/-- Whether there is something at a path. -/
def FileState.isThere : FileState → Bool
  | .absent => false
  | _ => true

/-- What can go wrong with settings. -/
inductive ConfigError where
  | parse (detail : String)
  | notFound (what : String)
  | invalidValue (key message : String)
  | io (detail : String)
deriving DecidableEq, Repr

/-- The wording of a fault. -/
def ConfigError.message : ConfigError → String
  | .parse detail => "Config parse error: " ++ detail
  | .notFound what => what
  | .invalidValue key message => "Invalid value for '" ++ key ++ "': " ++ message
  | .io detail => detail

/-- The fault of a file that is no text. -/
def ConfigError.notText : ConfigError := .io "stream did not contain valid UTF-8"

/-- The fault of a directory in the place of a file. -/
def ConfigError.isDirectory : ConfigError := .io "Is a directory (os error 21)"

namespace Config

/-- The table in a file; a missing file is an empty one. -/
def readTable (path : String) : FileState → Except ConfigError Toml
  | .absent => .ok (.table [])
  | .binary => .error .notText
  | .directory => .error .isDirectory
  | .text content =>
    match Toml.parse? content with
    | some table => .ok table
    | none => .error (.parse (path ++ ": invalid document"))

/-- The variable that sets the completion limit. -/
def maxItemsVariable : String := "SWITCHBOARD_MAX_COMPLETION_ITEMS"

/-- The variable that sets the delay of watch registrations. -/
def debounceVariable : String := "SWITCHBOARD_WATCH_DEBOUNCE_MS"

/-- The number in a variable of the environment. -/
def readVariable (key value : String) : Except ConfigError Nat :=
  match Numeral.parse UInt64.size (Text.trim value.toList) with
  | .ok n => .ok n
  | .error fault => .error (.invalidValue key fault.message)

/-- The settings with the environment laid over them. -/
def overrideBy (env : String → Option String) (s : Settings) : Except ConfigError Settings := do
  let s ← match env maxItemsVariable with
    | some value =>
      (readVariable maxItemsVariable value).map fun n =>
        { s with completion := { s.completion with maxItems := n } }
    | none => .ok s
  match env debounceVariable with
  | some value =>
    (readVariable debounceVariable value).map fun n => { s with watchDebounceMs := n }
  | none => .ok s

/-- The settings in a table. -/
def settingsOf (table : Toml) : Except ConfigError Settings :=
  match Settings.ofJson? table.toJson with
  | some s => .ok s
  | none => .error (.parse "invalid type")

/-- Where the two files are. -/
structure Paths where
  user : String
  project : String
deriving Repr, DecidableEq

/-- The path of one of the files. -/
def Paths.get (p : Paths) (user : Bool) : String := if user then p.user else p.project

/-- The settings in force, or those of the user alone. -/
def load (paths : Paths) (userOnly : Bool) (read : String → FileState)
    (env : String → Option String) : Except ConfigError Settings := do
  let user ← readTable paths.user (read paths.user)
  if userOnly then settingsOf user
  else
    let project ← readTable paths.project (read paths.project)
    let settings ← settingsOf (user.overlay project)
    overrideBy env settings

/-- The fault of a file that is there already. -/
def alreadyThere (path : String) : ConfigError :=
  .invalidValue "config" ("Config already exists: " ++ path ++ ". Use --force to overwrite.")

/-- The text of a new settings file. -/
def create (path : String) (force : Bool) (found : FileState) : Except ConfigError String :=
  if found.isThere && !force then .error (alreadyThere path)
  else if found = .directory then .error .isDirectory
  else .ok (Settings.render {})

end Config

end ProviderHub
