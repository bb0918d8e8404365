import ProviderHub.Session.State

/-!
The life of a session.

* `Session.start`: the client introduces itself, once;
* `Session.shutdown`: cancels all requests and stops all background work;
* `Session.capabilities`: what the client is told about the server.
-/

namespace ProviderHub

namespace Session

variable {π : Type}

/-! ### Capabilities -/

/-- The options of completion. -/
def completionOptions (s : Session π) : List (String × Json) :=
  [("resolveProvider", .bool true),
    ("triggerCharacters", encode s.language.providers.completionTriggers)]

/-- The options of signature help. -/
def signatureOptions (s : Session π) : List (String × Json) :=
  [("triggerCharacters", encode s.language.providers.signatureTriggers)]

/-- The options of commands. -/
def commandOptions (s : Session π) : List (String × Json) :=
  [("commands", encode (cachedCommandId :: s.language.commands.ids))]

/-- The capabilities that do not depend on the providers. -/
def fixedCapabilities : List (String × Json) :=
  [("positionEncoding", .str "utf-16"),
    ("textDocumentSync", Json.object [("openClose", .bool true), ("change", .int 1)]),
    ("hoverProvider", .bool true),
    ("definitionProvider", .bool true),
    ("referencesProvider", .bool true),
    ("renameProvider", .bool true),
    ("documentFormattingProvider", .bool true),
    ("codeActionProvider", Json.object [("resolveProvider", .bool true)]),
    ("codeLensProvider", Json.object [("resolveProvider", .bool true)]),
    ("documentLinkProvider", Json.object [("resolveProvider", .bool false)]),
    ("callHierarchyProvider", .bool true)]

/-- The capabilities that depend on the providers. -/
def providerCapabilities (s : Session π) : List (String × Json) :=
  [("completionProvider", Json.object s.completionOptions),
    ("signatureHelpProvider", Json.object s.signatureOptions),
    ("executeCommandProvider", Json.object s.commandOptions)]

/-- What the client is told about the server. With `later` set, what depends on the providers is
registered when they are there. -/
def capabilities (s : Session π) (later : Bool) : Json :=
  Json.object
    (if later then fixedCapabilities else fixedCapabilities ++ s.providerCapabilities)

/-- The capability of a method, for documents of all kinds. -/
def featureCapability (method : String) (options : List (String × Json)) : Capability :=
  { id := "switchboard/" ++ method, method, options := Json.object options }

/-- The capabilities that are registered when the providers are there. -/
def laterCapabilities (s : Session π) : List Capability :=
  [featureCapability Method.completion (("documentSelector", .null) :: s.completionOptions),
    featureCapability Method.signatureHelp (("documentSelector", .null) :: s.signatureOptions),
    featureCapability Method.executeCommand s.commandOptions]

/-- Registers features as soon as the gates are open. -/
def registerFeatures (s : Session π) : Session π :=
  if s.features = .waiting ∧ s.language.startup.isReady then
    let (_, client) := s.client.request Method.registerCapability
      (some (registrationParams s.laterCapabilities)) .features
    { s with client, features := .requested }
  else s

/-! ### Start and end -/

/-- The name and the version of the server. -/
def serverInfo : Json := Json.object [("name", .str "switchboard"), ("version", .str "1.0.0")]

/-- The client introduces itself. -/
def start (s : Session π) (p : InitializeParams) : Except RpcError Json × Session π :=
  if s.initializeReceived then (.error (.invalidRequest "initialize was already received"), s)
  else
    let options := p.initializationOptions.getD .null
    let limits := (s.settings.lowerLimit options).completion
    let s := { s with initializeReceived := true, language := { s.language with limits } }
    let s := if p.dynamicWatchers then { s with watch := s.watch.enable } else s
    let (_, s) := s.openGate .configured options
    let s :=
      if p.dynamicFeatures then { s with features := .waiting, jobs := s.jobs ++ [.features] }
      else s
    (.ok (Json.object
      [("capabilities", s.capabilities p.dynamicFeatures), ("serverInfo", serverInfo)]), s)

/-- Stops all background work and cancels what is in flight. -/
def shutdown (s : Session π) : Session π :=
  if s.shutdownRequested then s
  else
    let s := s.inFlight.foldl (fun s (_, number) => s.cancelTask number) s
    { s with
      shutdownRequested := true
      inFlight := []
      features := if s.features = .idle then .idle else .stopped
      watch := s.watch.shutdown
      language := s.language.shutdown }

/-- Why a request other than the first one is refused, if it is. -/
def refusal? (s : Session π) : Option RpcError :=
  if !s.initializeReceived then some .notInitialized
  else if s.shutdownRequested then some (.invalidRequest "Server is shutting down")
  else none

end Session

end ProviderHub
