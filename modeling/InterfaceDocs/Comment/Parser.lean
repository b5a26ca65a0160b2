import InterfaceDocs.Comment.Basic
import InterfaceDocs.Text.Split

/-!
# Reading comments

The text of a comment is read line by line.  Outside of a code block a line opens one, holds
one, is a tag, is blank, or belongs to a paragraph; `Line.ofTrimmed` tells which.  Inside of
a code block a line is taken as it is until one ends with the closing brackets.  A paragraph
ends at the first line that does not belong to it.  `Comment.parse` fails at the first bad
tag, or at the line that opened a code block which is never closed.
-/

namespace InterfaceDocs

namespace Comment

/-- The brackets that open a code block. -/
def codeStart : List Char := ['\x7b', '[']

/-- The brackets that close a code block. -/
def codeStop : List Char := [']', '\x7d']

/-- A tag with a target and a text, both taken from one argument: the target is the first
word of the argument. -/
def namedTag (make : String → String → Tag) (tag : String) (argument : List Char) :
    Except DocFault Tag :=
  match Text.splitBlank? argument with
  | some (target, text) => .ok (make (.ofList target) (.ofList (Text.trim text)))
  | none =>
    if argument = [] then .error (.missingName tag)
    else .ok (make (.ofList argument) "")

/-- The tag with the given name and argument. -/
def makeTag (name : String) (argument : List Char) : Except DocFault Tag :=
  let text := String.ofList argument
  match name with
  | "author" => .ok (.author text)
  | "before" => namedTag .before name argument
  | "param" => namedTag .param name argument
  | "raise" | "raises" => namedTag .raise name argument
  | "return" | "returns" => .ok (.return text)
  | "version" => .ok (.version text)
  | "canonical" => if argument = [] then .error .missingPath else .ok (.canonical text)
  | "deprecated" => .ok (.deprecated text)
  | "see" => .ok (.see text)
  | "since" => .ok (.since text)
  | "inline" => .ok .inline
  | "open" => .ok .open
  | "closed" => .ok .closed
  | _ => .error (.unknownTag name)

/-- The tag that a line spells: its name reaches up to the first blank, and its argument is
the trimmed rest. -/
def parseTag (line : List Char) : Except DocFault Tag :=
  let line := line.dropWhile (· = '@')
  match Text.splitBlank? line with
  | some (name, argument) => makeTag (.ofList name) (Text.trim argument)
  | none => makeTag (.ofList line) []

/-- What a line outside of a code block is. -/
inductive Line where
  | blank
  | text (words : List Char)
  | tag (line : List Char)
  | code (body : List Char)
  | codeStart (first : List Char)

/-- Classifies a trimmed line outside of a code block. -/
def Line.ofTrimmed (line : List Char) : Line :=
  match Text.stripFront? Comment.codeStart line with
  | some rest =>
    match Text.stripBack? codeStop (Text.trimEnd rest) with
    | some body => .code (Text.trim body)
    | none => .codeStart (Text.trim rest)
  | none =>
    match line with
    | [] => .blank
    | '@' :: _ => .tag line
    | _ => .text line

/-- The paragraph made of the given lines, if there are any. -/
def paragraph (words : List (List Char)) : List DocElement :=
  if words = [] then [] else [.paragraph (.ofList ([' '].intercalate words))]

/-- The code block made of the given lines. -/
def codeBlock (body : List (List Char)) : DocElement :=
  .codeBlock (.ofList (['\n'].intercalate body))

/-- A text as the lines of a code block: none if it is empty. -/
def codeLine (line : List Char) : List (List Char) :=
  if line = [] then [] else [line]

/-- Where the reading of a comment stands: in a paragraph of which some lines have been read,
or in a code block opened at a line, of which some lines have been read. -/
inductive Place where
  | paragraph (words : List (List Char))
  | code (start : Nat) (body : List (List Char))

/-- Reads the `n`-th line of a comment: the place after it and the elements it completes. -/
def readLine (loc : Location) (n : Nat) (line : List Char) :
    Place → Except DocError (List DocElement × Place)
  | .code start body =>
    match Text.stripBack? codeStop (Text.trim line) with
    | some last =>
      let tail := if Text.trim last = [] then [] else [Text.trimEnd last]
      .ok ([codeBlock (body ++ tail)], .paragraph [])
    | none => .ok ([], .code start (body ++ [line]))
  | .paragraph words =>
    match Line.ofTrimmed (Text.trim line) with
    | .blank => .ok (paragraph words, .paragraph [])
    | .text line => .ok ([], .paragraph (words ++ [line]))
    | .code body => .ok (paragraph words ++ [.codeBlock (.ofList body)], .paragraph [])
    | .codeStart first => .ok (paragraph words, .code n (codeLine first))
    | .tag line =>
      match parseTag line with
      | .ok tag => .ok (paragraph words ++ [.tag tag], .paragraph [])
      | .error fault => .error ⟨fault, loc.nthLine n⟩

/-- Ends the reading of a comment: the elements that remain to be completed. -/
def finish (loc : Location) : Place → Except DocError (List DocElement)
  | .paragraph words => .ok (paragraph words)
  | .code start _ => .error ⟨.unterminatedCode, loc.nthLine start⟩

/-- Reads the lines of a comment from the `n`-th one on. -/
def readLines (loc : Location) : Nat → Place → List (List Char) →
    Except DocError (List DocElement)
  | _, place, [] => finish loc place
  | n, place, line :: lines =>
    match readLine loc n line place with
    | .error e => .error e
    | .ok (elements, place) =>
      match readLines loc (n + 1) place lines with
      | .error e => .error e
      | .ok rest => .ok (elements ++ rest)

/-- Reads the text of a comment that begins at a location. -/
def parse (text : String) (loc : Location) : Except DocError Comment :=
  (readLines loc 0 (.paragraph []) (Text.lines text.toList)).map Comment.mk

end Comment

/-- The documentation that the text of a comment gives. -/
def Doc.ofText (text : String) (loc : Location) : Doc :=
  match Comment.parse text loc with
  | .ok comment => .parsed comment
  | .error e => .failed e

end InterfaceDocs
