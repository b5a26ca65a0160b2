/-!
# JSON values

`Json` is a JSON value.  Integers are the only numbers that the input format has, so all
other numbers are `Json.number`.  What a text may hold but no value of ours can, such as a
string with half of a surrogate pair, is `Json.unreadable`; `Json.isReadable` tells whether a
value has no such part.  The members of an object are kept in order and may repeat a name.

`Json.knot` ties a reader of nested values to itself: `Json.read` lets it go as deep as the
value does.
-/

namespace InterfaceDocs

/-- A JSON value. -/
inductive Json where
  | null
  | bool (b : Bool)
  | int (n : Int)
  | number
  | unreadable
  | str (s : String)
  | arr (items : List Json)
  | obj (members : List (String × Json))

namespace Json

mutual

/-- The height of a value: scalars have height 1. -/
def height : Json → Nat
  | .arr items => heightItems items + 1
  | .obj members => heightMembers members + 1
  | _ => 1

/-- The greatest height among the given values. -/
def heightItems : List Json → Nat
  | [] => 0
  | item :: items => max item.height (heightItems items)

/-- The greatest height among the given members. -/
def heightMembers : List (String × Json) → Nat
  | [] => 0
  | (_, value) :: members => max value.height (heightMembers members)

end

mutual

/-- Whether a value has no unreadable part. -/
def isReadable : Json → Bool
  | .unreadable => false
  | .arr items => areReadable items
  | .obj members => membersAreReadable members
  | _ => true

/-- Whether the given values have no unreadable part. -/
def areReadable : List Json → Bool
  | [] => true
  | item :: items => item.isReadable && areReadable items

/-- Whether the values of the given members have no unreadable part. -/
def membersAreReadable : List (String × Json) → Bool
  | [] => true
  | (_, value) :: members => value.isReadable && membersAreReadable members

end

/-- A reader of nested values that goes at most `n` levels deep. -/
def knot {α : Type} (step : (Json → Option α) → Json → Option α) : Nat → Json → Option α
  | 0, _ => none
  | n + 1, j => step (knot step n) j

/-- Reads a nested value: `step` reads one level, given a reader for the levels below. -/
def read {α : Type} (step : (Json → Option α) → Json → Option α) (j : Json) : Option α :=
  knot step j.height j

/-- Reads a string. -/
def string? : Json → Option String
  | .str s => some s
  | _ => none

/-- Reads a truth value. -/
def bool? : Json → Option Bool
  | .bool b => some b
  | _ => none

/-- Reads an integer. -/
def int? : Json → Option Int
  | .int n => some n
  | _ => none

/-- Reads a signed integer of 32 bits. -/
def int32? (j : Json) : Option Int32 := do
  let n ← j.int?
  if Int32.minValue.toInt ≤ n ∧ n ≤ Int32.maxValue.toInt then some (Int32.ofInt n) else none

/-- Reads an unsigned integer of 8 bits. -/
def uint8? (j : Json) : Option UInt8 := do
  let n ← j.int?
  if 0 ≤ n ∧ n < 256 then some (UInt8.ofNat n.toNat) else none

/-- Reads an unsigned integer of 64 bits. -/
def nat64? (j : Json) : Option Nat := do
  let n ← j.int?
  if 0 ≤ n ∧ n.toNat < UInt64.size then some n.toNat else none

/-- Reads every value of a list. -/
def readAll {α : Type} (f : Json → Option α) : List Json → Option (List α)
  | [] => some []
  | item :: items =>
    match f item, readAll f items with
    | some a, some as => some (a :: as)
    | _, _ => none

/-- Reads an array. -/
def list? {α : Type} (f : Json → Option α) : Json → Option (List α)
  | .arr items => readAll f items
  | _ => none

/-- Reads a value that may be null. -/
def nullable? {α : Type} (f : Json → Option α) : Json → Option (Option α)
  | .null => some none
  | j => (f j).map some

/-- A value that may be null. -/
def ofOption {α : Type} (f : α → Json) : Option α → Json
  | none => .null
  | some a => f a

end Json

end InterfaceDocs
