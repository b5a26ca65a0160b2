import InterfaceDocs.Text.Blank

/-!
# Cutting texts into pieces

`splitOn` cuts a text at every occurrence of a separator, `lines` cuts it into lines, and
`splitBlank?` cuts it at its first blank character.  `stripFront?` and `stripBack?` take off
a fixed beginning or end, `occursIn` looks for a text inside another one.
-/

namespace InterfaceDocs.Text

/-- The pieces of a text between the occurrences of a separator: there is always at least
one piece, and pieces may be empty. -/
def splitOn (separator : Char) : List Char → List (List Char)
  | [] => [[]]
  | c :: cs =>
    if c = separator then [] :: splitOn separator cs
    else
      match splitOn separator cs with
      | [] => [[c]]
      | piece :: pieces => (c :: piece) :: pieces

/-- The pieces of a string between the occurrences of a separator. -/
def pieces (separator : Char) (s : String) : List String :=
  (splitOn separator s.toList).map String.ofList

/-- The text without a carriage return at its end. -/
def dropReturn (cs : List Char) : List Char :=
  if cs.getLast? = some '\r' then cs.dropLast else cs

/-- The lines among the pieces between line feeds: all pieces but the last one end in a line
feed and lose a carriage return before it, and the last piece is a line only when it is not
empty. -/
def linesOfPieces : List (List Char) → List (List Char)
  | [] => []
  | [last] => if last = [] then [] else [last]
  | piece :: pieces => dropReturn piece :: linesOfPieces pieces

/-- The lines of a text, without their terminators. -/
def lines (cs : List Char) : List (List Char) :=
  linesOfPieces (splitOn '\n' cs)

/-- The parts of a text before and after its first blank character. -/
def splitBlank? : List Char → Option (List Char × List Char)
  | [] => none
  | c :: cs =>
    if isBlank c then some ([], cs)
    else (splitBlank? cs).map fun parts => (c :: parts.1, parts.2)

/-- The rest of a text that begins with `front`. -/
def stripFront? (front cs : List Char) : Option (List Char) :=
  if front.isPrefixOf cs then some (cs.drop front.length) else none

/-- The rest of a text that ends with `back`. -/
def stripBack? (back cs : List Char) : Option (List Char) :=
  if back.isSuffixOf cs then some (cs.take (cs.length - back.length)) else none

/-- Whether `part` occurs in a text as a contiguous piece. -/
def occursIn (part : List Char) : List Char → Bool
  | [] => part.isEmpty
  | c :: cs => part.isPrefixOf (c :: cs) || occursIn part cs

end InterfaceDocs.Text
