import InterfaceDocs.Text.Letter
import InterfaceDocs.Text.Split

/-!
# Declared names

A name is internal when it contains the marker that a build system mangles implementation
units with, and it is an operator when it does not begin like a word.  Operators are shown
in parentheses, with blanks inside where an asterisk would otherwise touch one.
-/

namespace InterfaceDocs.Name

/-- The marker of internal names unless another one is configured. -/
def defaultMarker : String := "__"

/-- Whether a name contains the marker of internal names; an empty marker marks nothing. -/
def isInternal (marker name : String) : Bool :=
  marker != "" && Text.occursIn marker.toList name.toList

/-- Whether a character can begin a word. -/
def isWordStart (c : Char) : Bool :=
  Text.isLetter c || c == '_' || c == '\''

/-- Whether a name is an operator rather than a word. -/
def isOperator (name : String) : Bool :=
  match name.toList with
  | [] => false
  | c :: _ => !isWordStart c

/-- The name as it is shown, operators in parentheses. -/
def parenthesised (name : String) : String :=
  if !isOperator name then name
  else if name.toList.head? = some '*' || name.toList.getLast? = some '*' then
    "( " ++ name ++ " )"
  else "(" ++ name ++ ")"

end InterfaceDocs.Name
