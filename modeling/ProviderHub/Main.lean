import ProviderHub.Cli.Report
import ProviderHub.Cli.Serve

/-!
The program.

Arguments, files and streams are read and written here; what is done with them is said elsewhere.
-/

namespace ProviderHub.Program

/-- The system's number for a path that leads through a file. -/
def notADirectory : UInt32 := 20

/-- What is found at a path. What cannot be read is as good as a directory. -/
def readFile (path : String) : IO FileState := do
  try
    let bytes ← IO.FS.readBinFile path
    return match Utf8.decode? bytes.toList with
      | some cs => .text (String.ofList cs)
      | none => .binary
  catch
    | .noFileOrDirectory .. => return .absent
    | .inappropriateType _ code _ => return if code = notADirectory then .absent else .directory
    | _ => return .directory

/-- The directory of a file. -/
def directoryOf (path : String) : String :=
  String.ofList ((path.toList.reverse.dropWhile (· ≠ '/')).drop 1).reverse

/-- Writes a file and makes the directories above it. -/
def writeFile (path text : String) : IO (Except ConfigError Unit) := do
  try
    IO.FS.createDirAll (directoryOf path)
    IO.FS.writeFile path text
    return .ok ()
  catch e => return .error (.io (toString e))

/-- The variables that count. -/
def variableNames : List String :=
  [Config.maxItemsVariable, Config.debounceVariable, Invocation.timeoutVariable, "XDG_CONFIG_HOME",
    "HOME"]

/-- The surroundings for a project in a directory: its variables and its settings files. -/
def lookAround (root : Option String) : IO Surroundings := do
  let directory := toString (← IO.currentDir)
  let values ← variableNames.filterMapM fun name => do return (← IO.getEnv name).map (name, ·)
  let env (name : String) : Option String := values.lookup name
  let bare : Surroundings := { directory, env, read := fun _ => .absent }
  let paths := Cli.pathsFor bare (root.getD directory)
  let user ← readFile paths.user
  let project ← readFile paths.project
  return { bare with read := fun path => if path = paths.user then user else project }

/-- The text about the program. -/
def usage : String :=
  "Usage: switchboard <COMMAND>\n\n" ++
  "Commands:\n" ++
  "  serve [--root <ROOT>] [--request-timeout-secs <SECS>]\n" ++
  "  config init [--global] [--force]\n" ++
  "  config show [--global]\n" ++
  "  config path [--global]\n"

/-- Runs a command on settings files. -/
def runConfig (action : ConfigAction) : IO UInt32 := do
  let s ← lookAround none
  let report ← match action with
    | .init user force =>
      match Cli.initFile s user force with
      | .ok (path, text) => do pure (Cli.initReport s user (← writeFile path text))
      | .error e => pure (Cli.initReport s user (.error e))
    | .display user => pure (Cli.displayReport s user)
    | .path user => pure (Cli.pathReport s user)
  IO.println report.pretty
  return 0

/-- A server on its clock. -/
abbrev Running := Timed (Server Empty) Session.SessionTimer

/-- Writes the messages for the client. -/
def writeOutput (t : Running) : IO Running := do
  let (messages, server) := t.state.takeOutput
  let out ← IO.getStdout
  for message in messages do
    out.write ⟨(Frame.write message).toArray⟩
  out.flush
  return { t with state := server }

/-- What arrives on the standard input, as soon as something does. -/
def nextInput : IO (Task (Except IO.Error ByteArray)) := do
  let input ← IO.getStdin
  IO.asTask (input.read 65536)

/-- Serves until the connection ends. -/
partial def serveLoop (machine : Machine (Server Empty) Session.SessionTimer) (t : Running)
    (input : Task (Except IO.Error ByteArray)) (time : Nat) : IO UInt32 := do
  let t ← writeOutput t
  if let some exit := t.state.exit then return (Serve.exitCode exit).toUInt32
  let now ← IO.monoMsNow
  if ← IO.hasFinished input then
    let bytes := (input.get.toOption.getD .empty).toList
    let server := if bytes.isEmpty then t.state.finishInput else (t.state.feed bytes).getD t.state
    let input ← if bytes.isEmpty then pure input else nextInput
    serveLoop machine (machine.advance (now - time) { t with state := server }) input now
  else
    IO.sleep 1
    serveLoop machine (machine.advance (now - time) t) input now

/-- Serves a client on the standard streams. -/
def runServe (root : Option String) (timeoutSecs : Option Nat) : IO UInt32 := do
  let s ← lookAround root
  match Cli.settings s root timeoutSecs with
  | .error e =>
    IO.eprintln ("switchboard: Failed to load configuration: " ++ e.message)
    return 2
  | .ok settings =>
    let machine := Serve.machine fun _ => true
    serveLoop machine (machine.rest { state := .ofSettings settings }) (← nextInput)
      (← IO.monoMsNow)

end ProviderHub.Program

open ProviderHub Program in
/-- Does what the arguments ask for. -/
def main (args : List String) : IO UInt32 := do
  let timeout ← IO.getEnv Invocation.timeoutVariable
  match Invocation.parse (fun name => if name = Invocation.timeoutVariable then timeout else none)
    args with
  | .ok (.serve root timeoutSecs) => runServe root timeoutSecs
  | .ok (.config action) => runConfig action
  | .error .help =>
    IO.print usage
    return 0
  | .error .version =>
    IO.println "switchboard 1.0.0"
    return 0
  | .error .misuse =>
    IO.eprint usage
    return 2
