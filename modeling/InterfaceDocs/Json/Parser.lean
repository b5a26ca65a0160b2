import InterfaceDocs.Json.Lexer

/-!
# Reading JSON texts

The tokens of a JSON text are read one at a time by a machine that keeps the arrays and
objects which enclose the current place.  `Json.parse` takes a bound on the nesting: an array
or object that is enclosed by as many others is unreadable, and so is an object with an
unreadable name.  Such a value may only stand where nobody looks at it.
-/

namespace InterfaceDocs.Json

/-- The name of a member, unless it is unreadable. -/
abbrev MemberName := Option String

/-- The object with the given members. -/
def ofMembers (members : List (MemberName × Json)) : Json :=
  match members.mapM fun (name, value) => name.map (·, value) with
  | some members => .obj members
  | none => .unreadable

/-- The name that a token gives to a member. -/
def Token.memberName? : Token → Option MemberName
  | .scalar (.str name) => some (some name)
  | .scalar .unreadable => some none
  | _ => none

/-- An array or object that is being read, with what has been read of it in reverse order;
an object also has the name of its current member. -/
inductive Frame where
  | array (items : List Json)
  | object (members : List (MemberName × Json)) (name : MemberName)

/-- Where the machine stands: before a value, after a value, after an opening bracket or
brace, or before a member or its colon. -/
inductive Parser where
  | before (outer : List Frame)
  | after (outer : List Frame) (value : Json)
  | arrayStart (outer : List Frame)
  | objectStart (outer : List Frame)
  | member (outer : List Frame) (members : List (MemberName × Json))
  | colon (outer : List Frame) (members : List (MemberName × Json)) (name : MemberName)

namespace Parser

/-- The place after an array or object that the given ones enclose. -/
def close (limit : Option Nat) (outer : List Frame) (value : Json) : Parser :=
  match limit with
  | some limit => .after outer (if outer.length < limit then value else .unreadable)
  | none => .after outer value

/-- The move on a token where a value is due. -/
def start (outer : List Frame) : Token → Option Parser
  | .scalar value => some (.after outer value)
  | .openArray => some (.arrayStart outer)
  | .openObject => some (.objectStart outer)
  | _ => none

/-- The move on a token. -/
def step (limit : Option Nat) : Parser → Token → Option Parser
  | .before outer, token => start outer token
  | .after (.array items :: outer) value, .comma =>
    some (.before (.array (value :: items) :: outer))
  | .after (.array items :: outer) value, .closeArray =>
    some (close limit outer (.arr (value :: items).reverse))
  | .after (.object members name :: outer) value, .comma =>
    some (.member outer ((name, value) :: members))
  | .after (.object members name :: outer) value, .closeObject =>
    some (close limit outer (ofMembers ((name, value) :: members).reverse))
  | .after _ _, _ => none
  | .arrayStart outer, .closeArray => some (close limit outer (.arr []))
  | .arrayStart outer, token => start (.array [] :: outer) token
  | .objectStart outer, .closeObject => some (close limit outer (.obj []))
  | .objectStart outer, token => token.memberName?.map (.colon outer [])
  | .member outer members, token => token.memberName?.map (.colon outer members)
  | .colon outer members name, .colon => some (.before (.object members name :: outer))
  | .colon _ _ _, _ => none

/-- Reads the tokens from where the machine stands. -/
def run (limit : Option Nat) : Parser → List Token → Option Json
  | .after [] value, [] => some value
  | _, [] => none
  | state, token :: tokens =>
    match state.step limit token with
    | none => none
    | some state => run limit state tokens

end Parser

/-- Reads a JSON text, with an optional bound on the nesting. -/
def parse (limit : Option Nat) (text : String) : Option Json := do
  Parser.run limit (.before []) (← tokens? text)

end InterfaceDocs.Json
