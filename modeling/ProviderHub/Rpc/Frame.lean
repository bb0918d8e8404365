import ProviderHub.Rpc.Message
import ProviderHub.Text.Alphabet
import ProviderHub.Text.Numeral

/-!
Frames: messages on a byte stream.

A frame is a block of header lines, of which one gives the number of bytes in the body, a blank
line, and the body.

* `Frame.write`: the frame of a JSON value;
* `Frame.read`: the next message on the bytes at hand, or why there is none, and what is left;
* `Frame.readAll`: all that a finished stream holds;
* `Frame.breaksDown`, `Frame.readAll?`: the buffer of a body has a largest size, and the reader
  breaks down where the headers ask for more.
-/

namespace ProviderHub.Frame

/-- The frame of a JSON value, as text. -/
def writeText (v : Json) : List Char :=
  let body := v.chars
  "Content-Length: ".toList ++ (toString (Utf8.size body)).toList ++ ['\r', '\n', '\r', '\n'] ++ body

/-- The frame of a JSON value. -/
def write (v : Json) : List UInt8 := Utf8.encode (writeText v)

/-- What a header line says. -/
inductive Line where
  /-- The headers end. -/
  | blank
  /-- The body has this many bytes. -/
  | length (bytes : Nat)
  /-- A header without meaning here. -/
  | other
  /-- A length that is no number, or a line that is no text. -/
  | invalid
deriving DecidableEq, Repr

/-- What a header line says. -/
def Line.ofBytes (bytes : List UInt8) : Line :=
  match Utf8.decode? bytes with
  | none => .invalid
  | some cs =>
    let cs := Text.trim cs
    if cs.isEmpty then .blank
    else
      match Text.dropPrefix? "Content-Length:".toList cs with
      | some value =>
        match Numeral.nat64? (Text.trim value) with
        | some n => .length n
        | none => .invalid
      | none => .other

/-- What the header lines of a frame come to. -/
inductive Headers where
  /-- The body has this many bytes, and the rest starts with it. -/
  | complete (length : Nat) (rest : List UInt8)
  /-- The headers are wrong; the rest is what follows the line that showed it. -/
  | invalid (rest : List UInt8)
  /-- The stream ended inside the headers. -/
  | truncated
  /-- The stream ended before the headers. -/
  | finished
  /-- More bytes are needed. -/
  | waiting
deriving Repr

/-- The end of the headers. -/
def endHeaders (length : Option Nat) (rest : List UInt8) : Headers :=
  match length with
  | some n => .complete n rest
  | none => .invalid rest

/-- Reads header lines. `line` holds the current line's bytes, newest first; `length` the length
given so far; `seen` whether there was a line before; `ended` whether the stream has ended. -/
def readHeaders (ended : Bool) (line : List UInt8) (length : Option Nat) (seen : Bool) :
    List UInt8 → Headers
  | [] =>
    if ended then
      if line.isEmpty then if seen then .truncated else .finished
      else
        match Line.ofBytes line.reverse with
        | .blank => endHeaders length []
        | .invalid => .invalid []
        | .length _ | .other => .truncated
    else .waiting
  | b :: rest =>
    if b = 10 then
      match Line.ofBytes (b :: line).reverse with
      | .blank => endHeaders length rest
      | .invalid => .invalid rest
      | .length n => readHeaders ended [] (some n) true rest
      | .other => readHeaders ended [] length true rest
    else readHeaders ended (b :: line) length seen rest

/-- What comes next on a stream. -/
inductive Next where
  | message (m : Message) (rest : List UInt8)
  /-- Something that is no message; reading can go on with the rest. -/
  | invalid (rest : List UInt8)
  /-- The stream ended inside a frame. -/
  | truncated
  /-- The stream ended between frames. -/
  | finished
  /-- More bytes are needed. -/
  | waiting
deriving Repr

/-- The message of a body. -/
def ofBody? (body : List UInt8) : Option Message := do
  let cs ← Utf8.decode? body
  (Message.parse (String.ofList cs)).toOption

/-- The next message on the bytes at hand. -/
def read (ended : Bool) (bytes : List UInt8) : Next :=
  match readHeaders ended [] none false bytes with
  | .complete n rest =>
    let body := rest.take n
    if body.length = n then
      match ofBody? body with
      | some m => .message m (rest.drop n)
      | none => .invalid (rest.drop n)
    else if ended then .truncated
    else .waiting
  | .invalid rest => .invalid rest
  | .truncated => .truncated
  | .finished => .finished
  | .waiting => .waiting

/-- What a finished stream holds: messages and what is no message, and how it ended. The first
argument bounds the number of frames. -/
def readUpTo : Nat → List UInt8 → List Next
  | 0, _ => []
  | n + 1, bytes =>
    match read true bytes with
    | .message m rest => .message m rest :: readUpTo n rest
    | .invalid rest => .invalid rest :: readUpTo n rest
    | next => [next]

/-- What a finished stream holds. Every frame takes at least one byte. -/
def readAll (bytes : List UInt8) : List Next := readUpTo (bytes.length + 1) bytes

/-! ### Buffers -/

/-- The largest size of a buffer, which is the largest signed word. -/
def maxBuffer : Nat := (1 <<< 63) - 1

/-- Whether the reader breaks down on the bytes at hand. It asks for a buffer as soon as the headers
are complete, before it looks at the body. -/
def breaksDown (ended : Bool) (bytes : List UInt8) : Bool :=
  match readHeaders ended [] none false bytes with
  | .complete n _ => maxBuffer < n
  | _ => false

/-- What a finished stream holds, unless the reader breaks down on it. The first argument bounds the
number of frames. -/
def readUpTo? : Nat → List UInt8 → Option (List Next)
  | 0, _ => some []
  | n + 1, bytes =>
    if breaksDown true bytes then none
    else
      match read true bytes with
      | .message m rest => (readUpTo? n rest).map (.message m rest :: ·)
      | .invalid rest => (readUpTo? n rest).map (.invalid rest :: ·)
      | next => some [next]

/-- What a finished stream holds, unless the reader breaks down on it. -/
def readAll? (bytes : List UInt8) : Option (List Next) := readUpTo? (bytes.length + 1) bytes

end ProviderHub.Frame
