import InterfaceDocs.Ident
import InterfaceDocs.Location
import InterfaceDocs.Reference

/-!
# Load errors

A load fails at the first part of a signature that a type checker never hands over.  Missing
or malformed documentation is not an error.
-/

namespace InterfaceDocs

/-- The reasons why a load fails: an extension constructor that is another name of an
existing one, a class arrow where only a class type may stand, a type substitution without a
right-hand side, a type parameter that is not a variable, a module alias that stands for a
module type, or an identifier that no enclosing signature binds. -/
inductive LoadError where
  | extensionRebind (name : String) (loc : Location)
  | classArrowInSignature (loc : Location)
  | missingSubstitutionManifest (fragment : Fragment) (loc : Location)
  | invalidTypeParameter (owner : String) (loc : Location)
  | moduleTypeAlias (path : String) (loc : Location)
  | unboundIdent (x : Ident)
  deriving DecidableEq

/-- The message of a load error. -/
def LoadError.message : LoadError → String
  | .extensionRebind name loc =>
    loc.text ++ ": extension constructor `" ++ name ++ "` is a rebind"
  | .classArrowInSignature loc => loc.text ++ ": class arrow in class signature position"
  | .missingSubstitutionManifest fragment loc =>
    loc.text ++ ": type substitution on `" ++ fragment.text ++ "` has no manifest"
  | .invalidTypeParameter owner loc =>
    loc.text ++ ": type parameter of `" ++ owner ++ "` is not a variable"
  | .moduleTypeAlias path loc =>
    loc.text ++ ": module alias `" ++ path ++ "` used as a module type"
  | .unboundIdent x => "unbound identifier `" ++ x.stamped ++ "`"

end InterfaceDocs
