import InterfaceDocs.Json.Basic

/-!
# Tokens of JSON texts

A JSON text is cut into tokens one character at a time.  `Lexer.step` is the move of the
machine on a character; numbers and words are collected and then judged as a whole.  A string
with half of a surrogate pair holds no text and is unreadable.
-/

namespace InterfaceDocs.Json

/-- A token of a JSON text. -/
inductive Token where
  | openArray
  | closeArray
  | openObject
  | closeObject
  | comma
  | colon
  | scalar (value : Json)

/-- A string that is being read: the characters so far in reverse order, the first half of a
surrogate pair that waits for its second half, and whether a half was left alone. -/
structure StringState where
  chars : List Char
  high : Option Nat
  broken : Bool

/-- Where the machine stands: between tokens, in a number or word with the characters so far
in reverse order, in a string, after a backslash, or in the digits of a character code. -/
inductive Lexer where
  | idle
  | word (chars : List Char)
  | string (s : StringState)
  | escape (s : StringState)
  | code (s : StringState) (digits : Nat) (value : Nat)

/-- Whether a character can stand in a number or a word. -/
def isWordChar (c : Char) : Bool :=
  c.isAlphanum || c == '-' || c == '+' || c == '.'

/-- Whether the given characters are digits, and there is at least one. -/
def isDigits (cs : List Char) : Bool :=
  !cs.isEmpty && cs.all Char.isDigit

/-- The value of a list of decimal digits. -/
def decimal (cs : List Char) : Nat :=
  cs.foldl (fun n c => 10 * n + (c.toNat - '0'.toNat)) 0

/-- Whether the given characters are the digits of an integer, without a needless zero. -/
def isInteger (cs : List Char) : Bool :=
  isDigits cs && (cs.length == 1 || cs.head? != some '0')

/-- Whether the given characters are the exponent of a number. -/
def isExponent : List Char → Bool
  | '+' :: cs => isDigits cs
  | '-' :: cs => isDigits cs
  | cs => isDigits cs

/-- Whether the given characters are what follows the integer part of a number. -/
def isFraction (cs : List Char) : Bool :=
  let isMark := fun c => c == 'e' || c == 'E'
  match cs with
  | '.' :: cs =>
    let digits := cs.takeWhile (!isMark ·)
    let rest := cs.dropWhile (!isMark ·)
    isDigits digits && (rest.isEmpty || isExponent (rest.drop 1))
  | c :: cs => isMark c && isExponent cs
  | [] => false

/-- The number without its sign that the given characters spell: an integer, or `none` for
any other number. -/
def unsignedNumber? (cs : List Char) : Option (Option Nat) :=
  let digits := cs.takeWhile Char.isDigit
  let rest := cs.dropWhile Char.isDigit
  if !isInteger digits then none
  else if rest.isEmpty then some (some (decimal digits))
  else if isFraction rest then some none
  else none

/-- The value that a number or word spells.  A negative zero is not an integer. -/
def wordValue? (cs : List Char) : Option Json :=
  match cs with
  | ['n', 'u', 'l', 'l'] => some .null
  | ['t', 'r', 'u', 'e'] => some (.bool true)
  | ['f', 'a', 'l', 's', 'e'] => some (.bool false)
  | '-' :: cs =>
    match unsignedNumber? cs with
    | some (some 0) => some .number
    | some (some n) => some (.int (-n))
    | some none => some .number
    | none => none
  | cs =>
    match unsignedNumber? cs with
    | some (some n) => some (.int n)
    | some none => some .number
    | none => none

namespace StringState

/-- The empty string. -/
def empty : StringState := ⟨[], none, false⟩

/-- Adds a character; a half of a surrogate pair before it stays alone. -/
def push (s : StringState) (c : Char) : StringState :=
  ⟨c :: s.chars, none, s.broken || s.high.isSome⟩

/-- Adds a character given by its code, which may be half of a surrogate pair. -/
def pushCode (s : StringState) (n : Nat) : StringState :=
  if 0xD800 ≤ n ∧ n < 0xDC00 then ⟨s.chars, some n, s.broken || s.high.isSome⟩
  else if 0xDC00 ≤ n ∧ n < 0xE000 then
    match s.high with
    | some high =>
      ⟨Char.ofNat (0x10000 + (high - 0xD800) * 0x400 + (n - 0xDC00)) :: s.chars, none, s.broken⟩
    | none => ⟨s.chars, none, true⟩
  else s.push (Char.ofNat n)

/-- The value of a string that has been read. -/
def value (s : StringState) : Json :=
  if s.broken || s.high.isSome then .unreadable else .str (.ofList s.chars.reverse)

end StringState

/-- The character that a letter after a backslash stands for. -/
def escaped? : Char → Option Char
  | '"' => some '"'
  | '\\' => some '\\'
  | '/' => some '/'
  | 'b' => some '\x08'
  | 'f' => some '\x0c'
  | 'n' => some '\n'
  | 'r' => some '\r'
  | 't' => some '\t'
  | _ => none

/-- The value of a hexadecimal digit. -/
def hexDigit? (c : Char) : Option Nat :=
  if c.isDigit then some (c.toNat - '0'.toNat)
  else if 'a' ≤ c ∧ c ≤ 'f' then some (c.toNat - 'a'.toNat + 10)
  else if 'A' ≤ c ∧ c ≤ 'F' then some (c.toNat - 'A'.toNat + 10)
  else none

namespace Lexer

/-- The move between tokens on a character that does not belong to a number or word. -/
def start (c : Char) : Option (Lexer × List Token) :=
  match c with
  | ' ' | '\n' | '\t' | '\r' => some (.idle, [])
  | '[' => some (.idle, [.openArray])
  | ']' => some (.idle, [.closeArray])
  | '\x7b' => some (.idle, [.openObject])
  | '\x7d' => some (.idle, [.closeObject])
  | ',' => some (.idle, [.comma])
  | ':' => some (.idle, [.colon])
  | '"' => some (.string .empty, [])
  | c => if isWordChar c then some (.word [c], []) else none

/-- The move on a character: where the machine stands after it, and the tokens it
completes. -/
def step : Lexer → Char → Option (Lexer × List Token)
  | .idle, c => start c
  | .word cs, c =>
    if isWordChar c then some (.word (c :: cs), [])
    else do
      let value ← wordValue? cs.reverse
      let (state, tokens) ← start c
      return (state, .scalar value :: tokens)
  | .string s, c =>
    if c = '"' then some (.idle, [.scalar s.value])
    else if c = '\\' then some (.escape s, [])
    else if c.toNat < 0x20 then none
    else some (.string (s.push c), [])
  | .escape s, c =>
    if c = 'u' then some (.code s 0 0, [])
    else (escaped? c).map fun c => (.string (s.push c), [])
  | .code s digits value, c => do
    let digit ← hexDigit? c
    let value := 16 * value + digit
    return (if digits = 3 then .string (s.pushCode value) else .code s (digits + 1) value, [])

/-- The tokens that remain at the end of a text. -/
def finish : Lexer → Option (List Token)
  | .idle => some []
  | .word cs => (wordValue? cs.reverse).map fun value => [.scalar value]
  | _ => none

/-- The tokens of a text, from where the machine stands, after the given ones in reverse
order. -/
def run : Lexer → List Token → List Char → Option (List Token)
  | state, done, [] => state.finish.map (done.reverse ++ ·)
  | state, done, c :: cs =>
    match state.step c with
    | none => none
    | some (state, tokens) => run state (tokens.reverse ++ done) cs

end Lexer

/-- The tokens of a JSON text. -/
def tokens? (text : String) : Option (List Token) :=
  Lexer.idle.run [] text.toList

end InterfaceDocs.Json
