import ProviderHub.Lsp.TextDocument

/-!
The table of open documents.

* `Documents.openDocument`: opens a document, in place of one of the same name;
* `Documents.change`: a new text, unless the document is not open or its version is newer;
* `Documents.close`: closes a document.
-/

namespace ProviderHub

/-- The open documents, each under its own name. -/
structure Documents where
  docs : List TextDocument := []
deriving Repr, Inhabited

namespace Documents

/-- The open document of a name. -/
def get? (t : Documents) (uri : Url) : Option TextDocument := t.docs.find? (·.uri == uri)

/-- The table without the document of a name. -/
def erase (t : Documents) (uri : Url) : Documents := ⟨t.docs.filter (·.uri != uri)⟩

/-- Opens a document. -/
def openDocument (t : Documents) (d : TextDocument) : Documents := ⟨(t.erase d.uri).docs ++ [d]⟩

/-- Gives an open document a new text, and tells whether it did. -/
def change (t : Documents) (uri : Url) (version : Int32) (text : String) : Bool × Documents :=
  match t.get? uri with
  | some d =>
    if version < d.version then (false, t)
    else (true, t.openDocument { d with version, text })
  | none => (false, t)

/-- Closes a document, and gives what was open. -/
def close (t : Documents) (uri : Url) : Option TextDocument × Documents :=
  (t.get? uri, t.erase uri)

end Documents

end ProviderHub
