import InterfaceDocs.Compiled.Type

/-!
# Names of type variables

The anonymous variables of a compiled declaration get the names `a`, `b`, and so on in the
order of their appearance, where names that the declaration uses itself are skipped.
-/

namespace InterfaceDocs

/-- The names of the anonymous variables of a declaration, by their ids. -/
structure VarNames where
  names : List (Int32 × String)

namespace VarNames

/-- The `n`-th name for a variable: a letter, and a number from the second round on. -/
def letterName (n : Nat) : String :=
  let letter := String.ofList [Char.ofNat ('a'.toNat + n % 26)]
  if n / 26 = 0 then letter else letter ++ toString (n / 26)

/-- The elements of a list without their repetitions, in the order of first occurrence. -/
def distinct : List Int32 → List Int32
  | [] => []
  | id :: ids => id :: (distinct ids).filter (· ≠ id)

/-- The name that an expression uses, if it is a named variable or an alias. -/
def usedName : Compiled.TypeExpr → Option String
  | .var name _ => name
  | .univar name _ => name
  | .alias _ name => some name
  | _ => none

/-- The id of an anonymous variable. -/
def anonymousId : Compiled.TypeExpr → Option Int32
  | .var none id => some id
  | .univar none id => some id
  | _ => none

/-- The names that the given types use. -/
def usedNames (types : List Compiled.TypeExpr) : List String :=
  (Compiled.nodesList types).filterMap usedName

/-- The anonymous variables of the given types, in the order of first occurrence. -/
def anonymousIds (types : List Compiled.TypeExpr) : List Int32 :=
  distinct ((Compiled.nodesList types).filterMap anonymousId)

/-- The names `a`, `b`, and so on that are not used.  Enough of them are listed for `n`
variables, because every used name takes away at most one. -/
def unusedNames (used : List String) (n : Nat) : List String :=
  ((List.range (used.length + n)).map letterName).filter fun name => !used.contains name

/-- Names the anonymous variables of the given types. -/
def collect (types : List Compiled.TypeExpr) : VarNames :=
  let ids := anonymousIds types
  ⟨ids.zip (unusedNames (usedNames types) ids.length)⟩

/-- The name of a variable. -/
def name (names : VarNames) (name : Option String) (id : Int32) : String :=
  match name with
  | some name => name
  | none => (names.names.lookup id).getD "_"

end VarNames

end InterfaceDocs
