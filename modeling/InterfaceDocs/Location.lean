/-!
# Locations

A location is a span between two positions of an interface file.  Locations travel from the
input into error messages and are never followed to a source text.  `Location.text` is how a
message shows one, and `Location.nthLine` is the location of a line of a comment.
-/

namespace InterfaceDocs

/-- A position in a file: line numbers start at 1, `bol` is the offset of the beginning of
the line and `cnum` the offset of the position itself. -/
structure Position where
  fileName : String
  line : Int32
  bol : Int32
  cnum : Int32
  deriving DecidableEq

/-- The column of a position, starting at 0. -/
def Position.column (p : Position) : Int32 :=
  p.cnum - p.bol

/-- A span in a file; a ghost location has no source text behind it. -/
structure Location where
  start : Position
  stop : Position
  ghost : Bool
  deriving DecidableEq

namespace Location

/-- The span between two positions. -/
def ofPositions (start stop : Position) : Location :=
  ⟨start, stop, false⟩

/-- The ghost location at the beginning of a file. -/
def inFile (name : String) : Location :=
  let position : Position := ⟨name, 1, 0, -1⟩
  ⟨position, position, true⟩

/-- The file name of the placeholder location. -/
def noFile : String := "_none_"

/-- The placeholder location of nodes without one. -/
def none : Location :=
  inFile noFile

/-- Whether a location lies in the placeholder file. -/
def isNone (l : Location) : Bool :=
  l.start.fileName == noFile

/-- The location of the `n`-th line of a comment that begins at `l`: the comment's own
location for its first line, and for the later ones the line without columns. -/
def nthLine (l : Location) (n : Nat) : Location :=
  if n = 0 then l
  else
    let position : Position := ⟨l.start.fileName, l.start.line + Int32.ofNat n, 0, -1⟩
    ⟨position, position, l.ghost⟩

/-- The location as messages show it: file, line and, when there is one, the column counted
from 1. -/
def text (l : Location) : String :=
  let file := if l.isNone then "(unknown)" else l.start.fileName
  let place := file ++ ":" ++ toString l.start.line.toInt
  if l.start.column < 0 then place
  else place ++ ":" ++ toString (l.start.column + 1).toInt

end Location

/-- A value with the location it was read at. -/
structure Located (α : Type) where
  txt : α
  loc : Location
  deriving DecidableEq

end InterfaceDocs
