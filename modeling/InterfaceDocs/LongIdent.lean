import InterfaceDocs.Text.Split

/-!
# Long identifiers

A long identifier is a dotted name such as `M.N.t`, as it stands on the left of a constraint.
It carries no stamps and is resolved against the structure of the constrained signature.
`LongIdent.parse` reads a dotted name and `LongIdent.text` shows one.
-/

namespace InterfaceDocs

/-- A long identifier. -/
inductive LongIdent where
  | ident (name : String)
  | dot (head : LongIdent) (name : String)
  | apply (functor argument : LongIdent)
  deriving DecidableEq

namespace LongIdent

/-- The long identifier with the given further components. -/
def extend (x : LongIdent) (names : List String) : LongIdent :=
  names.foldl dot x

/-- The long identifier with the given components. -/
def ofComponents : List String → LongIdent
  | [] => .ident ""
  | name :: names => extend (.ident name) names

/-- The long identifier that a dotted name denotes. -/
def parse (s : String) : LongIdent :=
  ofComponents (Text.pieces '.' s)

/-- The last name of a long identifier. -/
def last : LongIdent → String
  | .ident name => name
  | .dot _ name => name
  | .apply _ argument => argument.last

/-- The components of a long identifier from the outermost to the innermost, if there is no
application among its heads. -/
def components : LongIdent → Option (List String)
  | .ident name => some [name]
  | .dot head name => head.components.map (· ++ [name])
  | .apply _ _ => none

/-- The long identifier as it is written. -/
def text : LongIdent → String
  | .ident name => name
  | .dot head name => head.text ++ "." ++ name
  | .apply functor argument => functor.text ++ "(" ++ argument.text ++ ")"

end LongIdent

end InterfaceDocs
