/-!
# Compiler identifiers

An identifier of the compiler is a name with a stamp that tells apart bindings of the same
name.  The stamp 0 belongs to the persistent identifiers, which name other compilation units.
`Ident.same` decides whether two identifiers denote the same binding, and `Ident.Supply`
hands out fresh stamps.
-/

namespace InterfaceDocs

/-- A compiler identifier. -/
structure Ident where
  name : String
  stamp : Int32
  flags : UInt8
  deriving DecidableEq

namespace Ident

/-- The flag of identifiers that name a compilation unit. -/
def globalFlag : UInt8 := 1

/-- The flag of predefined types and exceptions. -/
def predefFlag : UInt8 := 2

/-- The persistent identifier of a compilation unit. -/
def persistent (name : String) : Ident :=
  ⟨name, 0, globalFlag⟩

/-- The identifier of a predefined type or exception. -/
def predef (name : String) (stamp : Int32) : Ident :=
  ⟨name, stamp, predefFlag⟩

/-- Whether an identifier names another compilation unit. -/
def isPersistent (x : Ident) : Bool :=
  x.stamp == 0

/-- Whether an identifier is flagged as naming a compilation unit. -/
def isGlobal (x : Ident) : Bool :=
  x.flags &&& globalFlag != 0

/-- Whether an identifier is predefined. -/
def isPredef (x : Ident) : Bool :=
  x.flags &&& predefFlag != 0

/-- Whether two identifiers have the same name. -/
def sameName (x y : Ident) : Bool :=
  x.name == y.name

/-- Whether two identifiers denote the same binding: local identifiers are told apart by
their stamps, persistent ones by their names. -/
def same (x y : Ident) : Bool :=
  if x.stamp ≠ 0 then x.stamp == y.stamp
  else y.stamp == 0 && x.name == y.name

/-- The identifier with its stamp, as error messages show it. -/
def stamped (x : Ident) : String :=
  if x.stamp = 0 then x.name ++ "!"
  else x.name ++ "/" ++ toString x.stamp.toInt ++ (if x.isPredef then "p" else "")

/-- A source of fresh stamps. -/
structure Supply where
  next : Int32
  deriving DecidableEq

/-- The supply whose first stamp is 1. -/
def Supply.initial : Supply := ⟨1⟩

/-- The supply that begins at a stamp, or at 1 if the stamp is smaller. -/
def Supply.startingAt (start : Int32) : Supply :=
  ⟨if start < 1 then 1 else start⟩

/-- The next stamp, and the supply after it. -/
def Supply.take (s : Supply) : Int32 × Supply :=
  (s.next, ⟨s.next + 1⟩)

/-- A fresh identifier with the given name and flags, and the supply after it. -/
def Supply.fresh (s : Supply) (name : String) (flags : UInt8) : Ident × Supply :=
  (⟨name, s.next, flags⟩, s.take.2)

end Ident

end InterfaceDocs
