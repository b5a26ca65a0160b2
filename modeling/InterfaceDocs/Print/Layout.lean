/-!
# Indented records

A printed value is a word, a record with named fields, a list of values after a name, or a
bracketed list.  `Printed.text` lays it out with one field or element on a line of its own,
indented by four blanks and followed by a comma.
-/

namespace InterfaceDocs

/-- A value to be printed. -/
inductive Printed where
  | word (text : String)
  | record (name : String) (fields : List (String × Printed))
  | tuple (name : String) (items : List Printed)
  | list (items : List Printed)

namespace Printed

/-- The text with every line after the first one indented. -/
def indented (text : String) : String :=
  .ofList (text.toList.flatMap fun c => if c = '\n' then ['\n', ' ', ' ', ' ', ' '] else [c])

/-- The given texts on indented lines of their own, between two brackets. -/
def block (opening closing : String) (lines : List String) : String :=
  opening ++ "\n" ++ String.join (lines.map fun line => "    " ++ indented line ++ ",\n") ++
    closing

mutual

/-- The text of a printed value. -/
def text : Printed → String
  | .word text => text
  | .record name fields => block (name ++ " \x7b") "\x7d" (fieldTexts fields)
  | .tuple name items => block (name ++ "(") ")" (texts items)
  | .list [] => "[]"
  | .list (item :: items) => block "[" "]" (item.text :: texts items)

/-- The texts of printed values. -/
def texts : List Printed → List String
  | [] => []
  | item :: items => item.text :: texts items

/-- The texts of fields, each after its name. -/
def fieldTexts : List (String × Printed) → List String
  | [] => []
  | (name, value) :: fields => (name ++ ": " ++ value.text) :: fieldTexts fields

end

/-- An optional value. -/
def option {α : Type} (f : α → Printed) : Option α → Printed
  | none => .word "None"
  | some a => .tuple "Some" [f a]

/-- A truth value. -/
def bool (b : Bool) : Printed :=
  .word (if b then "true" else "false")

end Printed

end InterfaceDocs
