import ProviderHub.Lsp.TextDocument

/-!
Document selectors.

A selector is a list of filters, and matches a document as well as its best filter does. A filter
names a language, or constrains scheme and language; the wildcard matches anything, but less well
than the exact name.

* `DocumentFilter.score`, `Selector.score`: how well a document matches, zero for not at all.
-/

namespace ProviderHub

/-- How well something matches: not at all, by the wildcard, by its name. -/
inductive MatchScore where
  | none
  | wildcard
  | exact
deriving DecidableEq, Repr, Inhabited

namespace MatchScore

/-- The number of a score. -/
def number : MatchScore → Nat
  | .none => 0
  | .wildcard => 5
  | .exact => 10

/-- The better of two scores. -/
def best (a b : MatchScore) : MatchScore := if a.number < b.number then b else a

end MatchScore

/-- A condition on documents. -/
inductive DocumentFilter where
  /-- The documents of a language, or all documents. -/
  | language (name : String)
  /-- The documents of a scheme and a language, where they are given. -/
  | fields (scheme language : Option String)
deriving DecidableEq, Repr, Inhabited

namespace DocumentFilter

/-- The name that matches anything. -/
def wildcard : String := "*"

/-- The filter that any document passes. -/
def any : DocumentFilter := .language wildcard

/-- How well a constraint is met, `none` if it is not. -/
def fieldScore (constraint : Option String) (actual : String) : Option MatchScore :=
  match constraint with
  | none => some .none
  | some value =>
    if value = wildcard then some .wildcard
    else if value = actual then some .exact
    else none

/-- How well a document of a scheme and a language passes a filter. -/
def score (f : DocumentFilter) (scheme languageId : String) : MatchScore :=
  match f with
  | .language name =>
    if name = wildcard then .wildcard
    else if name = languageId then .exact
    else .none
  | .fields s l =>
    match fieldScore s scheme, fieldScore l languageId with
    | some a, some b => a.best b
    | _, _ => .none

end DocumentFilter

instance : Wire DocumentFilter where
  encode
    | .language name => .str name
    | .fields scheme language =>
      fields [fieldIfSome "scheme" scheme, fieldIfSome "language" language]
  decode?
    | .str name => some (.language name)
    | .obj fields => do
      let r := Record.keyed fields
      let scheme ← r.optional 0 "scheme"
      let language ← r.optional 1 "language"
      some (.fields scheme language)
    | _ => none

/-- The documents that some filter matches. -/
structure Selector where
  filters : List DocumentFilter
deriving DecidableEq, Repr, Inhabited

instance : Wire Selector where
  encode s := encode s.filters
  decode? v := (decode? v).map Selector.mk

namespace Selector

/-- The best of a score and those of some filters. No filter is looked at after an exact match. -/
def bestFrom (scheme languageId : String) (best : MatchScore) : List DocumentFilter → MatchScore
  | [] => best
  | f :: rest =>
    let best := best.best (f.score scheme languageId)
    if best = .exact then best else bestFrom scheme languageId best rest

/-- How well a document of a scheme and a language matches. -/
def scoreParts (s : Selector) (scheme languageId : String) : MatchScore :=
  bestFrom scheme languageId .none s.filters

/-- How well a document matches. -/
def score (s : Selector) (d : TextDocument) : MatchScore :=
  s.scoreParts d.uri.scheme d.languageId

end Selector

end ProviderHub
