import InterfaceDocs.Load.WrittenSignature

/-!
# Loading an interface

`Interface.load` documents the signature of a compilation unit.
-/

namespace InterfaceDocs

/-- Loads the interface of a compilation unit in a container from its written signature. -/
def Model.Interface.load (config : Config) (container unit : String)
    (signature : Written.Signature) : Reading Model.Interface := do
  Reading.tell (.loadingInterface container unit)
  let id := Identifier.root container unit
  let s ← Written.Signature.document config .empty id signature
  return ⟨id, s.doc, s.items⟩

end InterfaceDocs
