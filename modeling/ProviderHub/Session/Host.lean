import ProviderHub.Session.Step

/-!
What the program around a session can do with it.

* `Session.registerProvider`, `Session.registerCommand`: who answers from now on;
* `Session.closeDocument`, `Session.editDocument`: what else is done to documents;
* `Session.notify`, `Session.request`: messages to the client.
-/

namespace ProviderHub.Session

variable {π : Type}

/-- Registers a provider of a feature. -/
def registerProvider (s : Session π) (feature : Feature) (selector : Selector) (provider : π)
    (metadata : Metadata) : ProviderId × Session π :=
  let (id, providers) := s.language.providers.register feature selector provider metadata
  (id, { s with language := { s.language with providers } })

/-- Removes a provider of a feature, and tells whether it was there. -/
def unregisterProvider (s : Session π) (feature : Feature) (id : ProviderId) : Bool × Session π :=
  let (found, providers) := s.language.providers.unregister feature id
  (found, { s with language := { s.language with providers } })

/-- Gives a command a handler. -/
def registerCommand (s : Session π) (id : String) (handler : π) : Session π :=
  { s with language := { s.language with commands := s.language.commands.register id handler } }

/-- Takes a command's handler away, and tells whether there was one. -/
def unregisterCommand (s : Session π) (id : String) : Bool × Session π :=
  let (found, commands) := s.language.commands.unregister id
  (found, { s with language := { s.language with commands } })

/-- Closes a document, and counts the batches that are deleted with it. -/
def closeDocument (s : Session π) (uri : Url) : Nat × Session π :=
  let (count, language) := s.language.close uri
  (count, { s with language })

/-- Gives an open document a new text, and tells whether it did. -/
def editDocument (s : Session π) (uri : Url) (version : Int32) (text : String) :
    Bool × Session π :=
  let (done, documents) := s.language.documents.change uri version text
  (done, { s with language := { s.language with documents } })

/-- Sends a notification to the client, and tells whether there is a connection for it. -/
def notify (s : Session π) (method : String) (params : Option Json) : Bool × Session π :=
  let (sent, client) := s.client.notify method params
  (sent, { s with client })

/-- Forgets what was noted for the host: messages, questions, and ends of its requests. -/
def clearNotes (s : Session π) : Session π :=
  { s with client := s.client.takeQueue.2, asked := [], finished := [] }

end ProviderHub.Session
