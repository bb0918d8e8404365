import ProviderHub.Text.Case

/-!
Fuzzy matching of a typed pattern with a proposed word.

The characters of the pattern must occur in the word in order, whatever their case. A match is
worth more where it stands at the start of the word or of a part of it, in the same case, and in a
run, and less for every gap.

The best match is found row by row: a row holds, for every place in the word, the best score of
the pattern so far with its last character at that place. All scores fit a 32-bit word, and so does
the mark `unmatched` below every score.

* `Fuzzy.score`: the score of the best match, `none` if there is none or a text is too long;
* `Fuzzy.attempt`: one exchange of neighbouring characters, made in the pattern and taken back;
* `Fuzzy.gracefulScore`: the score after exchanges that are tried one after the other.
-/

namespace ProviderHub.Fuzzy

/-- Longer patterns and words are not scored. -/
def maxLength : Nat := 128

/-- The graceful score tries at most this many exchanges. -/
def maxExchanges : Nat := 7

/-- The graceful score exchanges characters of patterns that are at least this long. -/
def minExchanged : Nat := 3

/-- Every matched character. -/
def matchGain : Int := 1

/-- A character matched in its own case. -/
def sameCaseGain : Int := 1

/-- A character matched right after the one before it. -/
def consecutiveGain : Int := 16

/-- A character after a separator. -/
def boundaryGain : Int := 32

/-- The first character of the word. -/
def startGain : Int := 48

/-- An upper-case character after a lower-case one. -/
def humpGain : Int := 24

/-- Every character of a gap after its first one. -/
def gapLoss : Int := 3

/-- The first character of a gap. -/
def gapStartLoss : Int := 5

/-- A match of the pattern with two characters exchanged. -/
def exchangeLoss : Int := 10

/-- The mark of a place where the pattern so far does not match; below every score. -/
def unmatched : Int := -0x40000000

/-- Characters that divide a word into parts. -/
def isSeparator (c : Char) : Bool :=
  ['_', '-', '.', ' ', '/', '\\', ':', '$', '"', '\x27', '(', '<'].contains c

/-- What a character gains by its place, given the one before it. -/
def placeGain (previous : Option Char) (c : Char) : Int :=
  match previous with
  | none => startGain
  | some p =>
    if isSeparator p then boundaryGain
    else if Case.isLower p && Case.isUpper c then humpGain
    else 0

/-- A character of the word, with what it gains by its place. -/
structure Letter where
  char : Char
  gain : Int
deriving Repr, DecidableEq

/-- The letters of a word, given the character before it. -/
def letters : Option Char → List Char → List Letter
  | _, [] => []
  | previous, c :: rest => ⟨c, placeGain previous c⟩ :: letters (some c) rest

/-- What matching a pattern character with a letter gains. -/
def letterGain (p : Char) (l : Letter) : Int :=
  matchGain + l.gain + (if l.char = p then sameCaseGain else 0)

/-- A score with something added, unless there is none. -/
def plus (score change : Int) : Int := if unmatched < score then score + change else score

/-- The next row of the table. `two` and `one` are the cells of the previous row two places and one
place back, and `gapped` is the best score that reaches this place over a gap. On the `first` row
every match starts from zero. -/
def nextRow (first : Bool) (p : Char) (two one gapped : Int) : List (Letter × Int) → List Int
  | [] => []
  | (l, here) :: rest =>
    let gapped := max gapped (plus two (-gapStartLoss))
    let base := if first then 0 else max (plus one consecutiveGain) gapped
    let cell :=
      if Case.lower l.char = Case.lower p ∧ unmatched < base then base + letterGain p l
      else unmatched
    cell :: nextRow first p one here (plus gapped (-gapLoss)) rest

/-- The row after one more pattern character. -/
def row (first : Bool) (word : List Letter) (previous : List Int) (p : Char) : List Int :=
  nextRow first p unmatched unmatched unmatched (word.zip previous)

/-- The last row of the table, for a pattern after its first character. -/
def rows (word : List Letter) : List Int → List Char → List Int
  | previous, [] => previous
  | previous, p :: rest => rows word (row false word previous p) rest

/-- The last row of the table. -/
def lastRow (pattern word : List Char) : List Int :=
  let letters := letters none word
  match pattern with
  | [] => []
  | p :: rest => rows letters (row true letters (word.map fun _ => unmatched) p) rest

/-- Whether the pattern occurs in the word in order, whatever the case. -/
def occursIn (pattern word : List Char) : Bool :=
  (pattern.map Case.lower).isSublist (word.map Case.lower)

/-- The score of the best match of a pattern with a word. -/
def score (pattern word : List Char) : Option Int :=
  if pattern.isEmpty then some 0
  else if word.length < pattern.length ∨ maxLength < pattern.length ∨ maxLength < word.length then
    none
  else if occursIn pattern word then
    ((lastRow pattern word).filter (unmatched < ·)).max?
  else none

/-- A list with the entries at `i` and `i + 1` exchanged. -/
def exchange {α : Type} : Nat → List α → List α
  | 0, a :: b :: rest => b :: a :: rest
  | i + 1, a :: rest => a :: exchange i rest
  | _, xs => xs

/-- The pattern as it stands while exchanges are tried, and the best score so far. -/
structure Attempts where
  pattern : List Char
  best : Option Int
deriving Repr, DecidableEq

/-- Tries one exchange: the characters at `i` and `i + 1` change places, the pattern is scored, and
they change back. Equal characters are passed over. -/
def attempt (word : List Char) (a : Attempts) (i : Nat) : Attempts :=
  if a.pattern[i]? = a.pattern[i + 1]? then a
  else
    let permuted := exchange i a.pattern
    let found := (score permuted word).map (· - exchangeLoss)
    { pattern := exchange i permuted, best := Option.merge max a.best found }

/-- The places that an exchange is tried at. -/
def exchangePlaces (pattern : List Char) : List Nat :=
  List.range (min (pattern.length - 1) maxExchanges)

/-- The score of the pattern as typed, or else the best score after one exchange. -/
def gracefulScore (pattern word : List Char) : Option Int :=
  match score pattern word with
  | some s => some s
  | none =>
    if pattern.length < minExchanged then none
    else ((exchangePlaces pattern).foldl (attempt word) ⟨pattern, none⟩).best

end ProviderHub.Fuzzy
