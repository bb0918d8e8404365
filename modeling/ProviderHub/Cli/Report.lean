import ProviderHub.Cli.Arguments
import ProviderHub.Config.Files

/-!
What the command line says about settings files.

* `Surroundings`: where the program runs;
* `Cli.settings`: the settings that a server runs with;
* `Cli.displayReport`, `Cli.pathReport`, `Cli.initReport`: what is printed.
-/

namespace ProviderHub

/-- Where the program runs. -/
structure Surroundings where
  directory : String
  env : String → Option String
  read : String → FileState

namespace Cli

/-- A path below another one. -/
def join (path name : String) : String :=
  if path = "" then name else if path.toList.getLast? = some '/' then path ++ name else path ++ "/" ++ name

/-- The directory of the user's settings. -/
def userDirectory (env : String → Option String) : String :=
  match env "XDG_CONFIG_HOME", env "HOME" with
  | some path, _ => path
  | none, some path => join path ".config"
  | none, none => "."

/-- Where the settings files of a project are. -/
def pathsFor (s : Surroundings) (root : String) : Config.Paths where
  user := join (join (userDirectory s.env) "switchboard") "config.toml"
  project := join (join root ".switchboard") "config.toml"

/-- Where the settings files are. -/
def paths (s : Surroundings) : Config.Paths := pathsFor s s.directory

/-- The settings that a server runs with. -/
def settings (s : Surroundings) (root : Option String) (timeoutSecs : Option Nat) :
    Except ConfigError Settings := do
  let loaded ← Config.load (pathsFor s (root.getD s.directory)) false s.read s.env
  .ok { loaded with requestTimeoutSecs := timeoutSecs.getD loaded.requestTimeoutSecs }

/-! ### Reports -/

/-- What is printed when all went well. -/
def success (fields : List (String × Json)) : Json :=
  Json.object (("success", .bool true) :: fields)

/-- What is printed otherwise. -/
def failure (e : ConfigError) : Json :=
  Json.object [("success", .bool false), ("error", .str e.message)]

/-- The path of a file as it is printed: that of the project's without the directory. -/
def shownPath (s : Surroundings) (user : Bool) : String :=
  let path := (paths s).get user
  if user then path
  else
    match Text.dropPrefix? (join s.directory "").toList path.toList with
    | some rest => String.ofList rest
    | none => path

/-- The name of a file's level. -/
def level (user : Bool) : String := if user then "global" else "project"

/-- The settings in force, or those of the user. -/
def displayReport (s : Surroundings) (user : Bool) : Json :=
  match Config.load (paths s) user s.read s.env with
  | .error e => failure e
  | .ok loaded =>
    success
      [("level", .str (if user then "global" else "merged")),
        ("config", loaded.toJson),
        ("runtime", Json.object
          [("max_completion_items", Json.nat loaded.completion.maxItems),
            ("watch_debounce_ms", Json.nat loaded.watchDebounceMs),
            ("request_timeout_secs", Json.nat loaded.requestTimeoutSecs)])]

/-- Where a file is, and whether it is there. -/
def pathReport (s : Surroundings) (user : Bool) : Json :=
  success
    [("level", .str (level user)), ("path", .str (shownPath s user)),
      ("exists", .bool (s.read ((paths s).get user)).isThere)]

/-- The path and the text of a file that is to be written. -/
def initFile (s : Surroundings) (user force : Bool) : Except ConfigError (String × String) :=
  let path := (paths s).get user
  (Config.create path force (s.read path)).map (path, ·)

/-- What is printed after a file was to be written. -/
def initReport (s : Surroundings) (user : Bool) : Except ConfigError Unit → Json
  | .error e => failure e
  | .ok _ =>
    success
      [("status", .str "created"), ("path", .str (shownPath s user)), ("level", .str (level user))]

end Cli

end ProviderHub
