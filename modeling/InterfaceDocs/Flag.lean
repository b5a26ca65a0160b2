/-!
# Flags of declarations

The small vocabularies that written and compiled signatures share.
-/

namespace InterfaceDocs

/-- Whether a group of type declarations is recursive. -/
inductive RecFlag where
  | nonrecursive
  | recursive
  deriving DecidableEq

/-- Whether a type, a method or an extension is private. -/
inductive PrivateFlag where
  | privately
  | publicly
  deriving DecidableEq

/-- Whether a record field or an instance variable is mutable. -/
inductive MutableFlag where
  | immutable
  | mutable
  deriving DecidableEq

/-- Whether a class, a method or an instance variable is virtual. -/
inductive VirtualFlag where
  | virtual
  | concrete
  deriving DecidableEq

/-- Whether a variant or object type is closed. -/
inductive ClosedFlag where
  | closed
  | opened
  deriving DecidableEq

/-- The variance written on a type parameter. -/
inductive VarianceMark where
  | covariant
  | contravariant
  | unmarked
  deriving DecidableEq

/-- The injectivity written on a type parameter. -/
inductive Injectivity where
  | injective
  | unmarked
  deriving DecidableEq

/-- The label of an argument. -/
inductive ArgLabel where
  | positional
  | labelled (name : String)
  | optional (name : String)
  deriving DecidableEq

/-- Whether the flag says private. -/
def PrivateFlag.isPrivate : PrivateFlag → Bool
  | .privately => true
  | .publicly => false

/-- Whether the flag says mutable. -/
def MutableFlag.isMutable : MutableFlag → Bool
  | .mutable => true
  | .immutable => false

/-- Whether the flag says virtual. -/
def VirtualFlag.isVirtual : VirtualFlag → Bool
  | .virtual => true
  | .concrete => false

/-- Whether the flag says open. -/
def ClosedFlag.isOpen : ClosedFlag → Bool
  | .opened => true
  | .closed => false

/-- Whether the mark says injective. -/
def Injectivity.isInjective : Injectivity → Bool
  | .injective => true
  | .unmarked => false

end InterfaceDocs
