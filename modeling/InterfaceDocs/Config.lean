import InterfaceDocs.Name

/-!
# Configuration of a load

The configuration says which modules are hidden, which attributes carry documentation and
standalone comments, and whether a leading comment becomes the summary of its signature.
-/

namespace InterfaceDocs

/-- The configuration of a load. -/
structure Config where
  hiddenMarker : String
  docAttributes : List String
  textAttributes : List String
  liftTopComment : Bool
  deriving DecidableEq

namespace Config

/-- The configuration used unless another one is given. -/
def standard : Config where
  hiddenMarker := Name.defaultMarker
  docAttributes := ["ocaml.doc", "doc"]
  textAttributes := ["ocaml.text", "text"]
  liftTopComment := true

/-- Whether attributes of this name carry the documentation of a declaration. -/
def isDocAttribute (c : Config) (name : String) : Bool :=
  c.docAttributes.contains name

/-- Whether attributes of this name carry standalone comments. -/
def isTextAttribute (c : Config) (name : String) : Bool :=
  c.textAttributes.contains name

end Config

end InterfaceDocs
