import InterfaceDocs.Json.Basic

/-!
# Records and variants in JSON

A record is written as an object with its field names, in any order and possibly with
further members, or as the array of its fields in order.  `Json.record?` gives the slots of
the fields, and a `Slot` is read as required, with a default, or as optional.

A variant is written as the object with a single member, whose name tells the alternative
and whose value is its content; an alternative without content is also written as the string
of its name.  The parts of an alternative may have names; they are then written as an object,
and `Json.nameParts` prepares values in which they may be an array as well.

`Layout` is the way in which records are written: with all fields, without those that hold
their defaults, or as arrays.
-/

namespace InterfaceDocs

namespace Json

/-- What a record holds for a field: a value, nothing because an object does not mention it,
or nothing because an array ends before it. -/
inductive Slot where
  | given (value : Json)
  | unmentioned
  | beyond

/-- The slot of a field in an object, if the field is not mentioned twice. -/
def slot? (members : List (String × Json)) (field : String) : Option Slot :=
  match members.filter fun member => member.1 == field with
  | [] => some .unmentioned
  | [(_, value)] => some (.given value)
  | _ => none

/-- The slots of the given fields in an object. -/
def slots? (members : List (String × Json)) : List String → Option (List Slot)
  | [] => some []
  | field :: fields =>
    match slot? members field, slots? members fields with
    | some slot, some slots => some (slot :: slots)
    | _, _ => none

/-- The slots of the given fields in a record. -/
def record? (fields : List String) : Json → Option (List Slot)
  | .obj members => slots? members fields
  | .arr items =>
    if items.length ≤ fields.length then
      some (items.map .given ++ List.replicate (fields.length - items.length) .beyond)
    else none
  | _ => none

/-- The slots of the named parts of an alternative. -/
def parts? (names : List String) : Json → Option (List Slot)
  | .obj members => slots? members names
  | _ => none

namespace Slot

variable {α : Type}

/-- Reads a field that has to be there. -/
def required (f : Json → Option α) : Slot → Option α
  | .given value => f value
  | _ => none

/-- Reads a field that has a default. -/
def orDefault (default : α) (f : Json → Option α) : Slot → Option α
  | .given value => f value
  | _ => some default

/-- Reads a field that may be null, and that an object need not mention. -/
def optional (f : Json → Option α) : Slot → Option (Option α)
  | .given value => value.nullable? f
  | .unmentioned => some none
  | .beyond => none

end Slot

/-- The alternative of a variant, and its content unless it is written as a string. -/
def variant? : Json → Option (String × Option Json)
  | .str name => some (name, none)
  | .obj [(name, content)] => some (name, some content)
  | _ => none

/-- The value of an alternative that has no content. -/
def bare {α : Type} (a : α) : Option Json → Option α
  | none => some a
  | some .null => some a
  | some _ => none

/-- Reads a variant whose alternatives have no content. -/
def choice? {α : Type} (table : List (String × α)) (j : Json) : Option α := do
  let (name, content) ← j.variant?
  bare (← table.lookup name) content

/-- A variant with content. -/
def tagged (name : String) (content : Json) : Json :=
  .obj [(name, content)]

/-- The content of an alternative: an array of as many parts as the table has names for the
alternative becomes an object. -/
def namedContent (table : List (String × List String)) (alternative : String) : Json → Json
  | .arr items =>
    match table.lookup alternative with
    | none => .arr items
    | some names => if items.length = names.length then .obj (names.zip items) else .arr items
  | content => content

mutual

/-- The value in which the alternatives of a table have named parts. -/
def nameParts (table : List (String × List String)) : Json → Json
  | .arr items => .arr (namePartsItems table items)
  | .obj members => .obj (namePartsMembers table members)
  | j => j

/-- The values in which the alternatives of a table have named parts. -/
def namePartsItems (table : List (String × List String)) : List Json → List Json
  | [] => []
  | item :: items => item.nameParts table :: namePartsItems table items

/-- The members in which the alternatives of a table have named parts. -/
def namePartsMembers (table : List (String × List String)) :
    List (String × Json) → List (String × Json)
  | [] => []
  | (name, value) :: members =>
    (name, namedContent table name (value.nameParts table)) :: namePartsMembers table members

end

end Json

/-- The ways to write records. -/
inductive Layout where
  | full
  | brief
  | positional
  deriving DecidableEq

/-- A field of a record that is to be written. -/
structure Field where
  name : String
  value : Json
  isDefault : Bool

namespace Layout

/-- The record with the given fields. -/
def record (layout : Layout) (fields : List Field) : Json :=
  match layout with
  | .full => .obj (fields.map fun field => (field.name, field.value))
  | .brief =>
    .obj ((fields.filter fun field => !field.isDefault).map fun field =>
      (field.name, field.value))
  | .positional => .arr (fields.map Field.value)

end Layout

/-- A field that has no default. -/
def Field.plain (name : String) (value : Json) : Field :=
  ⟨name, value, false⟩

end InterfaceDocs
