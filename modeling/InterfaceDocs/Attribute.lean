import InterfaceDocs.Location

/-!
# Attributes

Attributes carry the documentation of a declaration from the source to its signature: a
documentation comment is an attribute whose payload is a single string.
-/

namespace InterfaceDocs

/-- The payload of an attribute. -/
inductive AttributePayload where
  | empty
  | str (text : String)
  | ident (name : String)
  | other (text : String)
  deriving DecidableEq

/-- An attribute of a declaration, or one standing alone. -/
structure Attribute where
  name : Located String
  payload : AttributePayload
  loc : Location
  deriving DecidableEq

/-- The text of an attribute whose payload is a string. -/
def Attribute.text? (a : Attribute) : Option String :=
  match a.payload with
  | .str text => some text
  | _ => none

end InterfaceDocs
