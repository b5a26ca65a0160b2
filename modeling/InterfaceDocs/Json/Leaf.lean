import InterfaceDocs.Attribute
import InterfaceDocs.Config
import InterfaceDocs.Flag
import InterfaceDocs.Json.Record
import InterfaceDocs.LongIdent
import InterfaceDocs.Path
import InterfaceDocs.Variance

/-!
# The JSON form of the small types

Locations, identifiers, paths, flags, attributes and the configuration.  For every type
`ofJson?` reads a value and `toJson` writes one in a given layout.
-/

namespace InterfaceDocs

open Json

/-- A list as an array. -/
def Json.ofList {α : Type} (f : α → Json) (as : List α) : Json :=
  .arr (as.map f)

/-! ### Locations -/

/-- Reads a position. -/
def Position.ofJson? (j : Json) : Option Position := do
  let [file, line, bol, cnum] ← j.record? ["file_name", "line", "bol", "cnum"] | none
  return ⟨← file.required string?, ← line.required int32?, ← bol.required int32?,
    ← cnum.required int32?⟩

/-- Writes a position. -/
def Position.toJson (layout : Layout) (p : Position) : Json :=
  layout.record [.plain "file_name" (.str p.fileName), .plain "line" (.int p.line.toInt),
    .plain "bol" (.int p.bol.toInt), .plain "cnum" (.int p.cnum.toInt)]

/-- Reads a location. -/
def Location.ofJson? (j : Json) : Option Location := do
  let [start, stop, ghost] ← j.record? ["loc_start", "loc_end", "loc_ghost"] | none
  return ⟨← start.required Position.ofJson?, ← stop.required Position.ofJson?,
    ← ghost.orDefault false bool?⟩

/-- Writes a location. -/
def Location.toJson (layout : Layout) (l : Location) : Json :=
  layout.record [.plain "loc_start" (l.start.toJson layout),
    .plain "loc_end" (l.stop.toJson layout), ⟨"loc_ghost", .bool l.ghost, !l.ghost⟩]

/-- Reads a location that is the placeholder unless it is given. -/
def Location.ofSlot (slot : Slot) : Option Location :=
  slot.orDefault .none Location.ofJson?

/-- A location that may be left out if it is the placeholder. -/
def Location.field (layout : Layout) (name : String) (l : Location) : Field :=
  ⟨name, l.toJson layout, l == .none⟩

/-- Reads a value with its location. -/
def Located.ofJson? {α : Type} (f : Json → Option α) (j : Json) : Option (Located α) := do
  let [txt, loc] ← j.record? ["txt", "loc"] | none
  return ⟨← txt.required f, ← loc.required Location.ofJson?⟩

/-- Writes a value with its location. -/
def Located.toJson {α : Type} (layout : Layout) (f : α → Json) (x : Located α) : Json :=
  layout.record [.plain "txt" (f x.txt), .plain "loc" (x.loc.toJson layout)]

/-! ### Names -/

/-- Reads an identifier. -/
def Ident.ofJson? (j : Json) : Option Ident := do
  let [name, stamp, flags] ← j.record? ["name", "stamp", "flags"] | none
  return ⟨← name.required string?, ← stamp.required int32?, ← flags.orDefault 0 uint8?⟩

/-- Writes an identifier. -/
def Ident.toJson (layout : Layout) (x : Ident) : Json :=
  layout.record [.plain "name" (.str x.name), .plain "stamp" (.int x.stamp.toInt),
    ⟨"flags", .int x.flags.toNat, x.flags == 0⟩]

/-- Reads one level of a long identifier. -/
def LongIdent.step (self : Json → Option LongIdent) (j : Json) : Option LongIdent :=
  match j.variant? with
  | some ("Lident", some name) => do return .ident (← name.string?)
  | some ("Ldot", some (.arr [head, name])) => do return .dot (← self head) (← name.string?)
  | some ("Lapply", some (.arr [functor, argument])) => do
    return .apply (← self functor) (← self argument)
  | _ => none

/-- Reads a long identifier. -/
def LongIdent.ofJson? (j : Json) : Option LongIdent :=
  j.read LongIdent.step

/-- Writes a long identifier. -/
def LongIdent.toJson : LongIdent → Json
  | .ident name => tagged "Lident" (.str name)
  | .dot head name => tagged "Ldot" (.arr [head.toJson, .str name])
  | .apply functor argument => tagged "Lapply" (.arr [functor.toJson, argument.toJson])

/-- Reads one level of a path. -/
def Path.step (self : Json → Option Path) (j : Json) : Option Path :=
  match j.variant? with
  | some ("Pident", some x) => do return .ident (← Ident.ofJson? x)
  | some ("Pdot", some (.arr [head, name])) => do return .dot (← self head) (← name.string?)
  | some ("Papply", some (.arr [functor, argument])) => do
    return .apply (← self functor) (← self argument)
  | _ => none

/-- Reads a path. -/
def Path.ofJson? (j : Json) : Option Path :=
  j.read Path.step

/-- Writes a path. -/
def Path.toJson (layout : Layout) : Path → Json
  | .ident x => tagged "Pident" (x.toJson layout)
  | .dot head name => tagged "Pdot" (.arr [head.toJson layout, .str name])
  | .apply functor argument =>
    tagged "Papply" (.arr [functor.toJson layout, argument.toJson layout])

/-! ### Flags -/

/-- Reads a recursion flag. -/
def RecFlag.ofJson? : Json → Option RecFlag :=
  choice? [("Nonrecursive", .nonrecursive), ("Recursive", .recursive)]

/-- Writes a recursion flag. -/
def RecFlag.toJson : RecFlag → Json
  | .nonrecursive => .str "Nonrecursive"
  | .recursive => .str "Recursive"

/-- Reads a privacy flag. -/
def PrivateFlag.ofJson? : Json → Option PrivateFlag :=
  choice? [("Private", .privately), ("Public", .publicly)]

/-- Writes a privacy flag. -/
def PrivateFlag.toJson : PrivateFlag → Json
  | .privately => .str "Private"
  | .publicly => .str "Public"

/-- Reads a mutability flag. -/
def MutableFlag.ofJson? : Json → Option MutableFlag :=
  choice? [("Immutable", .immutable), ("Mutable", .mutable)]

/-- Writes a mutability flag. -/
def MutableFlag.toJson : MutableFlag → Json
  | .immutable => .str "Immutable"
  | .mutable => .str "Mutable"

/-- Reads a virtuality flag. -/
def VirtualFlag.ofJson? : Json → Option VirtualFlag :=
  choice? [("Virtual", .virtual), ("Concrete", .concrete)]

/-- Writes a virtuality flag. -/
def VirtualFlag.toJson : VirtualFlag → Json
  | .virtual => .str "Virtual"
  | .concrete => .str "Concrete"

/-- Reads a closedness flag. -/
def ClosedFlag.ofJson? : Json → Option ClosedFlag :=
  choice? [("Closed", .closed), ("Open", .opened)]

/-- Writes a closedness flag. -/
def ClosedFlag.toJson : ClosedFlag → Json
  | .closed => .str "Closed"
  | .opened => .str "Open"

/-- Reads a variance mark. -/
def VarianceMark.ofJson? : Json → Option VarianceMark :=
  choice? [("Covariant", .covariant), ("Contravariant", .contravariant),
    ("NoVariance", .unmarked)]

/-- Writes a variance mark. -/
def VarianceMark.toJson : VarianceMark → Json
  | .covariant => .str "Covariant"
  | .contravariant => .str "Contravariant"
  | .unmarked => .str "NoVariance"

/-- Reads an injectivity mark. -/
def Injectivity.ofJson? : Json → Option Injectivity :=
  choice? [("Injective", .injective), ("NoInjectivity", .unmarked)]

/-- Writes an injectivity mark. -/
def Injectivity.toJson : Injectivity → Json
  | .injective => .str "Injective"
  | .unmarked => .str "NoInjectivity"

/-- Reads an argument label. -/
def ArgLabel.ofJson? (j : Json) : Option ArgLabel :=
  match j.variant? with
  | some ("Nolabel", content) => bare .positional content
  | some ("Labelled", some name) => do return .labelled (← name.string?)
  | some ("Optional", some name) => do return .optional (← name.string?)
  | _ => none

/-- Writes an argument label. -/
def ArgLabel.toJson : ArgLabel → Json
  | .positional => .str "Nolabel"
  | .labelled name => tagged "Labelled" (.str name)
  | .optional name => tagged "Optional" (.str name)

/-- Reads a computed variance. -/
def Variance.ofJson? (j : Json) : Option Variance := do
  return ⟨← j.uint8?⟩

/-- Writes a computed variance. -/
def Variance.toJson (v : Variance) : Json :=
  .int v.bits.toNat

/-! ### Attributes -/

/-- Reads the payload of an attribute. -/
def AttributePayload.ofJson? (j : Json) : Option AttributePayload :=
  match j.variant? with
  | some ("Empty", content) => bare .empty content
  | some ("Str", some text) => do return .str (← text.string?)
  | some ("Ident", some name) => do return .ident (← name.string?)
  | some ("Other", some text) => do return .other (← text.string?)
  | _ => none

/-- Writes the payload of an attribute. -/
def AttributePayload.toJson : AttributePayload → Json
  | .empty => .str "Empty"
  | .str text => tagged "Str" (.str text)
  | .ident name => tagged "Ident" (.str name)
  | .other text => tagged "Other" (.str text)

/-- Reads an attribute. -/
def Attribute.ofJson? (j : Json) : Option Attribute := do
  let [name, payload, loc] ← j.record? ["attr_name", "attr_payload", "attr_loc"] | none
  return ⟨← name.required (Located.ofJson? string?),
    ← payload.required AttributePayload.ofJson?, ← Location.ofSlot loc⟩

/-- Writes an attribute. -/
def Attribute.toJson (layout : Layout) (a : Attribute) : Json :=
  layout.record [.plain "attr_name" (a.name.toJson layout .str),
    .plain "attr_payload" a.payload.toJson, a.loc.field layout "attr_loc"]

/-- Reads attributes that are none unless they are given. -/
def Attribute.listOfSlot (slot : Slot) : Option (List Attribute) :=
  slot.orDefault [] (list? Attribute.ofJson?)

/-- Attributes that may be left out if there are none. -/
def Attribute.listField (layout : Layout) (name : String) (as : List Attribute) : Field :=
  ⟨name, .ofList (Attribute.toJson layout) as, as.isEmpty⟩

/-! ### The configuration -/

/-- Reads a configuration; fields that are not given are those of the standard one. -/
def Config.ofJson? (j : Json) : Option Config := do
  let [marker, docs, texts, lift] ← j.record?
    ["hidden_marker", "doc_attributes", "text_attributes", "lift_top_comment"] | none
  return ⟨← marker.orDefault Config.standard.hiddenMarker string?,
    ← docs.orDefault Config.standard.docAttributes (list? string?),
    ← texts.orDefault Config.standard.textAttributes (list? string?),
    ← lift.orDefault Config.standard.liftTopComment bool?⟩

/-- Writes a configuration. -/
def Config.toJson (layout : Layout) (c : Config) : Json :=
  layout.record
    [⟨"hidden_marker", .str c.hiddenMarker, c.hiddenMarker == Config.standard.hiddenMarker⟩,
      ⟨"doc_attributes", .ofList .str c.docAttributes,
        c.docAttributes == Config.standard.docAttributes⟩,
      ⟨"text_attributes", .ofList .str c.textAttributes,
        c.textAttributes == Config.standard.textAttributes⟩,
      ⟨"lift_top_comment", .bool c.liftTopComment,
        c.liftTopComment == Config.standard.liftTopComment⟩]

end InterfaceDocs
