/-!
Cutting texts at a separator.

* `Text.splitOn`: the parts between the separators, an empty text having one empty part;
* `Text.joinWith`: the parts with the separator between them;
* `Text.dropPrefix?`: what follows a given beginning.
-/

namespace ProviderHub.Text

/-- The parts of a text between the separators. -/
def splitOn (sep : Char) : List Char → List (List Char)
  | [] => [[]]
  | c :: rest =>
    if c = sep then [] :: splitOn sep rest
    else
      match splitOn sep rest with
      | [] => [[c]]
      | part :: parts => (c :: part) :: parts

/-- The parts with the separator between them. -/
def joinWith (sep : Char) : List (List Char) → List Char
  | [] => []
  | [part] => part
  | part :: rest => part ++ sep :: joinWith sep rest

/-- What follows `start` in a text that begins with it. -/
def dropPrefix? : List Char → List Char → Option (List Char)
  | [], cs => some cs
  | _ :: _, [] => none
  | a :: start, c :: cs => if a = c then dropPrefix? start cs else none

/-- The text without its last character, if that is `c`. -/
def dropLast (c : Char) (cs : List Char) : List Char :=
  match cs.reverse with
  | last :: rest => if last = c then rest.reverse else cs
  | [] => cs

/-- The text without any `c` at its end. -/
def trimEnd (c : Char) (cs : List Char) : List Char :=
  (cs.reverse.dropWhile (· = c)).reverse

end ProviderHub.Text
