import InterfaceDocs.Attribute
import InterfaceDocs.Comment.Parser
import InterfaceDocs.Config
import InterfaceDocs.Load.Reading
import InterfaceDocs.Model.Signature

/-!
# Documentation of declarations

The documentation of a declaration is read from its attributes: the texts of the attributes
with a documentation name are parsed and put one after the other.  Attributes with a name for
texts hold standalone comments.  Reading documentation never fails, and what it gives depends
on the configuration and the attributes alone.
-/

namespace InterfaceDocs

/-- The attributes of a declaration that carry its documentation. -/
def Config.docAttributesOf (config : Config) (attributes : List Attribute) : List Attribute :=
  attributes.filter fun a => config.isDocAttribute a.name.txt

/-- The documentation that an attribute holds, if its payload is a string. -/
def Doc.ofAttribute (a : Attribute) : Option Doc :=
  a.text?.map fun text => .ofText text a.loc

/-- The documentation that the attributes of a declaration give. -/
def Doc.ofAttributes (config : Config) (attributes : List Attribute) : Doc :=
  ((config.docAttributesOf attributes).filterMap Doc.ofAttribute).foldl Doc.append .absent

/-- What reading an attribute tells when its text is not well formed. -/
def Event.ofDoc (target : String) : Doc → List Event
  | .failed e => [.unparsableDoc target e]
  | _ => []

namespace Load

/-- What reading a documentation attribute of the declaration `id` tells. -/
def docEvents (id : Identifier) (a : Attribute) : List Event :=
  match Doc.ofAttribute a with
  | some doc => Event.ofDoc id.text doc
  | none => [.ignoredAttribute id]

/-- Reads the documentation of the declaration `id`. -/
def readDoc (config : Config) (id : Identifier) (attributes : List Attribute) : Reading Doc :=
  ⟨(config.docAttributesOf attributes).flatMap (docEvents id),
    .ok (.ofAttributes config attributes)⟩

/-- Reads the documentation of something without an identifier of its own. -/
def readAnonymousDoc (config : Config) (name : String) (attributes : List Attribute) :
    Reading Doc :=
  ⟨(config.docAttributesOf attributes).flatMap fun a =>
      ((Doc.ofAttribute a).map (Event.ofDoc name)).getD [],
    .ok (.ofAttributes config attributes)⟩

/-- The text of a stop comment. -/
def stopText : String := "/*"

/-- The standalone comment that an attribute holds, if it holds one. -/
def standaloneComment (config : Config) (a : Attribute) : Option CommentItem :=
  if config.isTextAttribute a.name.txt then
    a.text?.map fun text => if text = stopText then .stop else .docs (.ofText text a.loc)
  else none

/-- What reading a standalone comment tells. -/
def commentEvents : CommentItem → List Event
  | .docs doc => Event.ofDoc "standalone comment" doc
  | .stop => []

/-- Reads the standalone comments that attributes hold, in order. -/
def readComments (config : Config) (attributes : List Attribute) : Reading (List CommentItem) :=
  let comments := attributes.filterMap (standaloneComment config)
  ⟨comments.flatMap commentEvents, .ok comments⟩

/-- The canonical path that a documentation declares. -/
def canonicalPath (doc : Doc) : Option Reference :=
  doc.canonical.bind Reference.ofDotted

/-- Reads the canonical path that a documentation declares. -/
def readCanonical (doc : Doc) : Reading (Option Reference) :=
  ⟨match doc.canonical with
    | some path => if (Reference.ofDotted path).isNone then [.malformedCanonical path] else []
    | none => [],
    .ok (canonicalPath doc)⟩

/-- Whether a module is hidden: its name is internal, and no canonical path says where it
really lives. -/
def isHidden (config : Config) (name : String) (canonical : Option Reference) : Bool :=
  canonical.isNone && Name.isInternal config.hiddenMarker name

/-- How the content of an include is to be shown, as the first tag about it says. -/
def includeStatus (doc : Doc) : Model.IncludeStatus :=
  (doc.tags.findSome? fun
    | .inline => some .inline
    | .open => some .opened
    | .closed => some .closed
    | _ => none).getD .default

end Load

end InterfaceDocs
