import ProviderHub.Text.Numeral
import ProviderHub.Text.Split

/-!
The command line.

* `Invocation`: what the program is asked to do;
* `Options.parse`: the options of a command, each given once;
* `Invocation.parse`: the invocation of a list of arguments, or why there is none.
-/

namespace ProviderHub

/-- What is done with settings files. -/
inductive ConfigAction where
  | init (user force : Bool)
  | display (user : Bool)
  | path (user : Bool)
deriving DecidableEq, Repr

/-- What the program is asked to do. -/
inductive Invocation where
  | serve (root : Option String) (timeoutSecs : Option Nat)
  | config (action : ConfigAction)
deriving DecidableEq, Repr

/-- Why nothing is done. -/
inductive Refusal where
  /-- A text about the program was asked for. -/
  | help
  /-- The version was asked for. -/
  | version
  /-- The arguments are wrong. -/
  | misuse
deriving DecidableEq, Repr

/-! ### Options -/

/-- The options of a command. -/
structure OptionSpec where
  /-- Options without a value, with a short form if they have one. -/
  flags : List (String × Option Char) := []
  /-- Options with a value, and which values are right. -/
  values : List (String × (String → Bool)) := []

/-- The options that were given. -/
structure Options where
  flags : List String := []
  values : List (String × String) := []
deriving DecidableEq, Repr

namespace Options

/-- Whether an option without a value was given. -/
def has (o : Options) (name : String) : Bool := o.flags.contains name

/-- The value of an option. -/
def get? (o : Options) (name : String) : Option String := o.values.lookup name

/-- One more option without a value; none is given twice. -/
def addFlag (o : Options) (name : String) : Except Refusal Options :=
  if o.has name then .error .misuse else .ok { o with flags := o.flags ++ [name] }

/-- One more option with a value. -/
def addValue (spec : OptionSpec) (o : Options) (name value : String) : Except Refusal Options :=
  match spec.values.lookup name with
  | some isRight =>
    if (o.get? name).isSome || !isRight value then .error .misuse
    else .ok { o with values := o.values ++ [(name, value)] }
  | none => .error .misuse

/-- A run of short options. -/
def addShort (spec : OptionSpec) : List Char → Options → Except Refusal Options
  | [], o => .ok o
  | 'h' :: _, _ => .error .help
  | 'V' :: _, _ => .error .version
  | c :: rest, o => do
    match spec.flags.find? (·.2 = some c) with
    | some (name, _) => addShort spec rest (← o.addFlag name)
    | none => .error .misuse

/-- The name and the value of an option that are joined by an equals sign. -/
def splitValue (cs : List Char) : String × Option String :=
  match cs.dropWhile (· ≠ '=') with
  | [] => (String.ofList cs, none)
  | _ :: value => (String.ofList (cs.takeWhile (· ≠ '=')), some (String.ofList value))

/-- Whether an argument is the value of the option before it. -/
def isValue (arg : String) : Bool := arg.toList.head? ≠ some '-' || arg = "-"

/-- A long option, and the arguments after it. -/
def addLong (spec : OptionSpec) (o : Options) (cs : List Char) (next : List String) :
    Except Refusal (Options × Bool) :=
  match splitValue cs with
  | ("help", none) => .error .help
  | ("version", none) => .error .version
  | (name, some value) => (o.addValue spec name value).map (·, false)
  | (name, none) =>
    if spec.flags.any (·.1 = name) then (o.addFlag name).map (·, false)
    else
      match next with
      | value :: _ =>
        if isValue value then (o.addValue spec name value).map (·, true) else .error .misuse
      | [] => .error .misuse

/-- The options of a command. The first argument that is wrong or that asks for a text decides; no
argument is anything but an option. -/
def parse (spec : OptionSpec) : List String → Options → Except Refusal Options
  | [], o => .ok o
  | arg :: rest, o =>
    match arg.toList with
    | ['-', '-'] => if rest.isEmpty then .ok o else .error .misuse
    | '-' :: '-' :: cs =>
      match addLong spec o cs rest with
      | .error e => .error e
      | .ok (o, false) => parse spec rest o
      | .ok (o, true) => parse spec (rest.drop 1) o
    | '-' :: c :: cs =>
      match addShort spec (c :: cs) o with
      | .error e => .error e
      | .ok o => parse spec rest o
    | _ => .error .misuse
termination_by args => args.length

end Options

/-! ### Commands -/

/-- A tree of commands by their names. -/
inductive CommandTree where
  | leaf
  | node (children : List (String × CommandTree))

/-- All commands. -/
def commandTree : CommandTree :=
  .node
    [("serve", .leaf),
      ("config", .node [("init", .leaf), ("show", .leaf), ("path", .leaf), ("help", .leaf)]),
      ("help", .leaf)]

/-- What asking for help on a command comes to. -/
def helpOn : CommandTree → List String → Refusal
  | _, [] => .help
  | .leaf, _ :: _ => .misuse
  | .node children, name :: rest =>
    match children.lookup name with
    | some child => helpOn child rest
    | none => .misuse

/-- The part of the tree under a command. -/
def CommandTree.child (t : CommandTree) (name : String) : CommandTree :=
  match t with
  | .leaf => .leaf
  | .node children => (children.lookup name).getD .leaf

namespace Invocation

/-- The variable that sets the time for requests. -/
def timeoutVariable : String := "SWITCHBOARD_REQUEST_TIMEOUT_SECS"

/-- The number of seconds that a text gives. -/
def seconds? (text : String) : Option Nat := Numeral.nat64? text.toList

/-- The options of `serve`. -/
def serveSpec : OptionSpec where
  values := [("root", (· ≠ "")), ("request-timeout-secs", fun s => (seconds? s).isSome)]

/-- The options of the commands on settings files. -/
def userSpec : OptionSpec where
  flags := [("global", none)]

/-- The options of `config init`. -/
def initSpec : OptionSpec where
  flags := [("global", none), ("force", some 'f')]

/-- The invocation of `serve`. The environment gives the time for requests if no option does. -/
def parseServe (env : String → Option String) (args : List String) :
    Except Refusal Invocation := do
  let o ← Options.parse serveSpec args {}
  match o.get? "request-timeout-secs", env timeoutVariable with
  | some text, _ => .ok (.serve (o.get? "root") (seconds? text))
  | none, none => .ok (.serve (o.get? "root") none)
  | none, some text =>
    match seconds? text with
    | some n => .ok (.serve (o.get? "root") (some n))
    | none => .error .misuse

/-- What an argument in the place of a command comes to. -/
def withoutCommand (arg : String) : Refusal :=
  match arg.toList with
  | '-' :: c :: cs =>
    match Options.parse {} [String.ofList ('-' :: c :: cs)] {} with
    | .error e => e
    | .ok _ => .misuse
  | _ => .misuse

/-- The invocation of `config`. -/
def parseConfig : List String → Except Refusal Invocation
  | [] => .error .misuse
  | "init" :: args => do
    let o ← Options.parse initSpec args {}
    .ok (.config (.init (o.has "global") (o.has "force")))
  | "show" :: args => do
    let o ← Options.parse userSpec args {}
    .ok (.config (.display (o.has "global")))
  | "path" :: args => do
    let o ← Options.parse userSpec args {}
    .ok (.config (.path (o.has "global")))
  | "help" :: args => .error (helpOn (commandTree.child "config") args)
  | arg :: _ => .error (withoutCommand arg)

/-- The invocation of a list of arguments. -/
def parse (env : String → Option String) : List String → Except Refusal Invocation
  | [] => .error .misuse
  | "serve" :: args => parseServe env args
  | "config" :: args => parseConfig args
  | "help" :: args => .error (helpOn commandTree args)
  | arg :: _ => .error (withoutCommand arg)

end Invocation

end ProviderHub
