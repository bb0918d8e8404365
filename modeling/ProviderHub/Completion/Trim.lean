import ProviderHub.Completion.Fuzzy
import ProviderHub.Lsp.Completion
import ProviderHub.Lsp.TextDocument

/-!
Trimming of long completion lists.

A list within the limit is left alone. Of a longer one the items that do not match what was typed
are dropped, and if still too many are left, the best ones stay.

* `Trim.wordFor`: the text that an item is matched with;
* `Trim.before`: the order of the items: matched ones by score, then the others by sort text, equal
  ones in the order in which they came;
* `Trim.apply`: the trimmed list.
-/

namespace ProviderHub

/-- Limits on completion lists. -/
structure CompletionLimits where
  /-- The longest list that is sent. -/
  maxItems : Nat
  /-- Lists from this length on are matched exactly, shorter ones gracefully. -/
  gracefulThreshold : Nat
deriving DecidableEq, Repr, Inhabited

namespace Trim

/-- An item of a list that is being trimmed, with its place and its score. -/
structure Candidate where
  index : Nat
  score : Option Int
  item : CompletionItem
deriving DecidableEq, Repr

/-- The text that an item is matched with: what its edit would replace before the cursor, if it
replaces text of the cursor's line, and otherwise the word before the cursor. -/
def wordFor (before : List Char) (position : Position) (word : List Char)
    (item : CompletionItem) : List Char :=
  match item.textEdit with
  | some edit =>
    let start := edit.range.start
    if start.line = position.line ∧ start.character ≤ position.character then
      Utf16.drop start.character.toNat before
    else word
  | none => word

/-- The score of an item; none if there is nothing to match it with, or if it does not match. -/
def scoreFor (graceful : Bool) (word : List Char) (item : CompletionItem) : Option Int :=
  if word.isEmpty then none
  else if graceful then Fuzzy.gracefulScore word item.filterText.toList
  else Fuzzy.score word item.filterText.toList

/-- The items that may stay, in the order in which they came. -/
def candidates (graceful : Bool) (wordOf : CompletionItem → List Char)
    (items : List CompletionItem) : List Candidate :=
  items.zipIdx.filterMap fun (item, index) =>
    let score := scoreFor graceful (wordOf item) item
    if score.isSome ∨ (wordOf item).isEmpty then some { index, score, item } else none

/-- Whether one candidate goes before another, or is the same one. -/
def before (a b : Candidate) : Bool :=
  match a.score, b.score with
  | some s, some t => t < s || (s = t && a.index ≤ b.index)
  | some _, none => true
  | none, some _ => false
  | none, none =>
    a.item.sortText < b.item.sortText ||
      (a.item.sortText = b.item.sortText && a.index ≤ b.index)

/-- The candidates that stay. -/
def select (limit : Nat) (cs : List Candidate) : List Candidate :=
  if limit < cs.length then (cs.mergeSort before).take limit else cs

/-- The list within the limits, for a cursor in a document. -/
def apply (limits : CompletionLimits) (document : TextDocument) (position : Position)
    (list : CompletionList) : CompletionList :=
  let total := list.items.length
  if total ≤ limits.maxItems then list
  else
    let before := document.before position
    let wordOf := wordFor before position (lastWord before)
    let kept := select limits.maxItems
      (candidates (total < limits.gracefulThreshold) wordOf list.items)
    { isIncomplete := list.isIncomplete || kept.length < total
      items := kept.map Candidate.item }

end Trim

end ProviderHub
