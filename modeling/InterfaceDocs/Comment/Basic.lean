import InterfaceDocs.Location

/-!
# Documentation comments

The documentation of a declaration is absent, parsed, or a parse failure that is kept as
data.  `Doc.append` puts two documentations one after the other: the absent one is its unit
and the first failure wins over everything around it.
-/

namespace InterfaceDocs

/-- A tag of a comment, with its arguments. -/
inductive Tag where
  | author (text : String)
  | before (version text : String)
  | canonical (path : String)
  | deprecated (text : String)
  | param (name text : String)
  | raise (exn text : String)
  | return (text : String)
  | see (text : String)
  | since (text : String)
  | version (text : String)
  | inline
  | open
  | closed
  deriving DecidableEq

/-- An element of a comment. -/
inductive DocElement where
  | paragraph (text : String)
  | codeBlock (text : String)
  | tag (tag : Tag)
  deriving DecidableEq

/-- A parsed comment. -/
structure Comment where
  elements : List DocElement
  deriving DecidableEq

/-- The reasons why a comment cannot be parsed. -/
inductive DocFault where
  | missingName (tag : String)
  | missingPath
  | unknownTag (name : String)
  | unterminatedCode
  deriving DecidableEq

/-- The message of a fault. -/
def DocFault.message : DocFault → String
  | .missingName tag => "@" ++ tag ++ " expects a name"
  | .missingPath => "@canonical expects a path"
  | .unknownTag name => "unknown tag '@" ++ name ++ "'"
  | .unterminatedCode => "unterminated code block"

/-- A fault of a comment, with the place where it was found. -/
structure DocError where
  fault : DocFault
  location : Location
  deriving DecidableEq

/-- The message of a documentation error. -/
def DocError.message (e : DocError) : String :=
  e.fault.message

/-- The message of a documentation error after its place. -/
def DocError.text (e : DocError) : String :=
  e.location.text ++ ": " ++ e.message

/-- The documentation of a declaration. -/
inductive Doc where
  | absent
  | parsed (comment : Comment)
  | failed (error : DocError)
  deriving DecidableEq

/-- A comment standing between declarations; a stop comment toggles the visibility of the
declarations that follow. -/
inductive CommentItem where
  | docs (doc : Doc)
  | stop
  deriving DecidableEq

namespace Doc

/-- Whether there is no documentation. -/
def isAbsent : Doc → Bool
  | .absent => true
  | _ => false

/-- The comment of a parsed documentation. -/
def comment? : Doc → Option Comment
  | .parsed comment => some comment
  | _ => none

/-- Two documentations one after the other. -/
def append : Doc → Doc → Doc
  | .absent, e => e
  | d, .absent => d
  | .failed error, _ => .failed error
  | .parsed _, .failed error => .failed error
  | .parsed a, .parsed b => .parsed ⟨a.elements ++ b.elements⟩

/-- The tags of a documentation, in order. -/
def tags (d : Doc) : List Tag :=
  match d with
  | .parsed comment =>
    comment.elements.filterMap fun
      | .tag tag => some tag
      | _ => none
  | _ => []

/-- The argument of the first `@canonical` tag. -/
def canonical (d : Doc) : Option String :=
  d.tags.findSome? fun
    | .canonical path => some path
    | _ => none

theorem absent_append (d : Doc) :
  append .absent d = d
  := rfl

theorem append_absent (d : Doc) :
  append d .absent = d
  := by
  cases d <;> rfl

theorem append_assoc (d e f : Doc) :
  append (append d e) f = append d (append e f)
  := by
  cases d <;> cases e <;> cases f <;> simp [append]

end Doc

end InterfaceDocs
