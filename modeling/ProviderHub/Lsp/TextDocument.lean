import ProviderHub.Lsp.Basic
import ProviderHub.Text.Alphabet
import ProviderHub.Text.Utf16

/-!
Text documents.

* `TextDocument.line?`: a line without its line break;
* `TextDocument.before`: the part of a line before a position;
* `TextDocument.wordAt`: the word that ends at a position.
-/

namespace ProviderHub

/-- A document with its full text. -/
structure TextDocument where
  uri : Url
  languageId : String
  version : Int32
  text : String
deriving DecidableEq, Repr, Inhabited

instance : Wire TextDocument where
  encode d := fields
    [field "uri" d.uri, field "languageId" d.languageId, field "version" d.version,
      field "text" d.text]
  decode? v := do
    let r ← Record.ofJson? 4 v
    let uri ← r.required 0 "uri"
    let languageId ← r.required 1 "languageId"
    let version ← r.required 2 "version"
    let text ← r.required 3 "text"
    some { uri, languageId, version, text }

/-- A document by its name. -/
structure TextDocumentIdentifier where
  uri : Url
deriving DecidableEq, Repr, Inhabited

instance : Wire TextDocumentIdentifier where
  encode d := fields [field "uri" d.uri]
  decode? v := do
    let r ← Record.ofJson? 1 v
    let uri ← r.required 0 "uri"
    some { uri }

/-- Whether a character belongs to a word: letters, numbers, underscore and dollar sign. -/
def isWordChar (c : Char) : Bool := Text.isAlphanumeric c || c = '_' || c = '$'

/-- The word at the end of a text: its longest ending of word characters. -/
def lastWord (cs : List Char) : List Char := (cs.reverse.takeWhile isWordChar).reverse

/-- The number of bytes before a UTF-16 column of a line. -/
def byteOffset (line : List Char) (column : Nat) : Nat := Utf8.size (Utf16.take column line)

namespace TextDocument

/-- The lines of a text: what stands between the line feeds, less one carriage return at the
end. -/
def linesOf (text : List Char) : List (List Char) :=
  (Text.splitOn '\n' text).map (Text.dropLast '\r')

/-- A line without its line break. -/
def line? (d : TextDocument) (line : Nat) : Option (List Char) := (linesOf d.text.toList)[line]?

/-- The part of a line before a position; nothing where there is no such line. -/
def before (d : TextDocument) (p : Position) : List Char :=
  match d.line? p.line.toNat with
  | some line => Utf16.take p.character.toNat line
  | none => []

/-- The word that ends at a position. -/
def wordAt (d : TextDocument) (p : Position) : List Char := lastWord (d.before p)

end TextDocument

end ProviderHub
