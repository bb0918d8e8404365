import ProviderHub.Cli.Report
import ProviderHub.Rehearsal.Dialogue
import ProviderHub.Rehearsal.FileTree

/-!
The program on a file tree in memory.

* `Terminal.run`: what it prints, says, writes and ends with.
-/

namespace ProviderHub

/-- Where and how the program is run. -/
structure Terminal where
  directory : String
  env : String → Option String
  files : FileTree
  /-- What its client says. -/
  messages : List Json := []

/-- What a run of the program leaves. -/
structure Terminal.Outcome where
  code : Nat
  printed : Option Json := none
  /-- What the client heard. -/
  heard : List Json := []
  files : FileTree

namespace Terminal

/-- A path from the directory on. -/
def resolve (t : Terminal) (path : String) : String :=
  if path.toList.head? = some '/' then path else Cli.join t.directory path

/-- What the program sees. -/
def surroundings (t : Terminal) : Surroundings where
  directory := t.directory
  env := t.env
  read path := t.files.look (t.resolve path)

/-- The directory of a file. -/
def directoryOf (path : String) : String :=
  "/" ++ "/".intercalate (FileTree.partsOf path).dropLast

/-- Writes a file and makes the directories above it. -/
def write (t : Terminal) (path text : String) : Except ConfigError FileTree :=
  let path := t.resolve path
  match t.files.makeDirectory (directoryOf path) with
  | (false, _) => .error (.io "Not a directory (os error 20)")
  | (true, files) =>
    match files.write path text with
    | (true, files) => .ok files
    | (false, _) => .error .isDirectory

/-- Writes a settings file. -/
def runInit (t : Terminal) (user force : Bool) : Outcome :=
  let s := t.surroundings
  match Cli.initFile s user force >>= fun (path, text) => t.write path text with
  | .ok files => { code := 0, printed := some (Cli.initReport s user (.ok ())), files }
  | .error e => { code := 0, printed := some (Cli.initReport s user (.error e)), files := t.files }

/-- Runs the program. -/
def run (t : Terminal) (args : List String) : Outcome :=
  let s := t.surroundings
  match Invocation.parse t.env args with
  | .error .misuse => { code := 2, files := t.files }
  | .error _ => { code := 0, files := t.files }
  | .ok (.config (.init user force)) => t.runInit user force
  | .ok (.config (.display user)) =>
    { code := 0, printed := some (Cli.displayReport s user), files := t.files }
  | .ok (.config (.path user)) =>
    { code := 0, printed := some (Cli.pathReport s user), files := t.files }
  | .ok (.serve root timeoutSecs) =>
    match Cli.settings s root timeoutSecs with
    | .error _ => { code := 2, files := t.files }
    | .ok settings =>
      let (heard, code) := Dialogue.hold settings t.messages
      { code, heard, files := t.files }

end Terminal

end ProviderHub
