import ProviderHub.Clock
import ProviderHub.Rpc.Frame
import ProviderHub.Session.Step

/-!
A session at the end of a byte stream.

* `Server.feed`, `Server.finishInput`: bytes arrive, or the client closes its side;
* `Server.settle`, `Server.machine`: do all that can be done, now or when timers end;
* `Server.takeOutput`: the messages for the client.
-/

namespace ProviderHub

/-- How a connection ended. -/
inductive Exit where
  /-- The client left; with `orderly` it had asked the server to shut down before. -/
  | left (orderly : Bool)
  /-- The input ended inside a message. -/
  | truncated
deriving DecidableEq, Repr

/-- A session at the end of a byte stream. -/
structure Server (π : Type) where
  session : Session π
  /-- The bytes that have not been read. -/
  input : List UInt8 := []
  /-- Whether the client has closed its side. -/
  inputEnded : Bool := false
  /-- How the connection ended, once it has. -/
  exit : Option Exit := none

namespace Server

variable {π : Type}

/-- The state at the beginning. -/
def ofSettings (settings : Settings) : Server π := { session := .ofSettings settings }

/-- The connection ends, and with it the session. -/
def leave (s : Server π) (exit : Exit) : Server π :=
  let session := s.session.shutdown
  let (ended, client) := session.client.close
  { s with
    session := { session with client, jobs := session.jobs ++ ended.map .answered }
    exit := some exit }

/-- Reads and handles messages until more bytes are needed or the connection ends. The number bounds
the messages. -/
def readMessages : Nat → Server π → Server π
  | 0, s => s
  | bound + 1, s =>
    if s.exit.isSome then s
    else
      match Frame.read s.inputEnded s.input with
      | .message m rest =>
        let s := { s with input := rest }
        match s.session.handle m with
        | (.next, session) => readMessages bound { s with session }
        | (.exit, session) =>
          { s with session }.leave (.left session.shutdownRequested)
      | .invalid rest =>
        let session := s.session.send (encode (Response.failure none .parseError))
        readMessages bound { s with session, input := rest }
      | .truncated => s.leave .truncated
      | .finished => s.leave (.left false)
      | .waiting => s

/-- Reads and handles all messages that have arrived. Each takes at least one byte. -/
def read (s : Server π) : Server π := readMessages (s.input.length + 1) s

/-- Bytes arrive. Gives nothing once the connection has ended. -/
def feed (s : Server π) (bytes : List UInt8) : Option (Server π) :=
  if s.exit.isSome then none else some { s with input := s.input ++ bytes }.read

/-- The client closes its side. -/
def finishInput (s : Server π) : Server π := { s with inputEnded := true }.read

/-- How many jobs are done in one go. -/
def jobBound : Nat := 1000000

/-- Does all that can be done. -/
def settle (host : Host π) (s : Server π) : Server π :=
  { s with session := s.session.settle host jobBound }

/-- A server that runs by its timers. -/
def machine (host : Host π) : Machine (Server π) Session.SessionTimer where
  wanted s := s.session.timers
  fire timer s := { s with session := s.session.fire timer }
  settle := settle host

/-- Takes the messages for the client. -/
def takeOutput (s : Server π) : List Json × Server π :=
  let (messages, client) := s.session.client.takeQueue
  (messages, { s with session := { s.session with client } })

end Server

end ProviderHub
