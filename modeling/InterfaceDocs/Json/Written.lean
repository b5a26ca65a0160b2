import InterfaceDocs.Json.Compiled
import InterfaceDocs.Written.Signature

/-!
# The JSON form of written signatures

Readers and writers of written types, declarations and signatures.  Where types nest, `step`
reads one level of a value.
-/

namespace InterfaceDocs.Written

open Json

/-! ### Types -/

/-- Reads the location and the attributes of a node. -/
def NodeInfo.ofSlots (loc attributes : Slot) : Option NodeInfo := do
  return ⟨← Location.ofSlot loc, ← Attribute.listOfSlot attributes⟩

/-- Reads a field of an object type. -/
def ObjectField.read (self : Json → Option CoreType) (j : Json) : Option ObjectField :=
  match j.variant? with
  | some ("OTtag", some (.arr [name, attributes, type])) => do
    return .method (← Located.ofJson? string? name) (← attributes.list? Attribute.ofJson?)
      (← self type)
  | some ("OTinherit", some type) => do return .inherit (← self type)
  | _ => none

/-- Reads a field of a polymorphic variant. -/
def RowField.read (self : Json → Option CoreType) (j : Json) : Option RowField :=
  match j.variant? with
  | some ("Rtag", some (.arr [name, attributes, constant, args])) => do
    return .tag (← Located.ofJson? string? name) (← attributes.list? Attribute.ofJson?)
      (← constant.bool?) (← args.list? self)
  | some ("Rinherit", some type) => do return .inherit (← self type)
  | _ => none

/-- Reads a constraint of a package type. -/
def PackageField.read (self : Json → Option CoreType) : Json → Option PackageField
  | .arr [name, type] => do
    return .mk (← Located.ofJson? LongIdent.ofJson? name) (← self type)
  | _ => none

/-- Reads what a type expression is, given its location and attributes. -/
def CoreType.readDesc (self : Json → Option CoreType) (info : NodeInfo) (j : Json) :
    Option CoreType :=
  match j.variant? with
  | some ("Ttyp_any", content) => bare (.any info) content
  | some ("Ttyp_var", some name) => do return .var info (← name.string?)
  | some ("Ttyp_arrow", some (.arr [label, arg, res])) => do
    return .arrow info (← ArgLabel.ofJson? label) (← self arg) (← self res)
  | some ("Ttyp_tuple", some types) => do return .tuple info (← types.list? self)
  | some ("Ttyp_constr", some (.arr [path, args])) => do
    return .constr info (← Path.ofJson? path) (← args.list? self)
  | some ("Ttyp_object", some (.arr [fields, closure])) => do
    return .object info (← fields.list? (ObjectField.read self)) (← ClosedFlag.ofJson? closure)
  | some ("Ttyp_class", some (.arr [path, args])) => do
    return .class info (← Path.ofJson? path) (← args.list? self)
  | some ("Ttyp_alias", some (.arr [type, name])) => do
    return .alias info (← self type) (← name.string?)
  | some ("Ttyp_variant", some (.arr [fields, closure, present])) => do
    return .variant info (← fields.list? (RowField.read self)) (← ClosedFlag.ofJson? closure)
      (← present.nullable? (list? string?))
  | some ("Ttyp_poly", some (.arr [vars, body])) => do
    return .poly info (← vars.list? string?) (← self body)
  | some ("Ttyp_package", some content) => do
    let [path, fields, loc] ← content.record? ["pack_path", "pack_fields", "pack_loc"] | none
    return .package info (← path.required Path.ofJson?)
      (← fields.required (list? (PackageField.read self))) (← Location.ofSlot loc)
  | _ => none

/-- Reads one level of a type expression. -/
def CoreType.step (self : Json → Option CoreType) (j : Json) : Option CoreType := do
  let [desc, loc, attributes] ← j.record? ["ctyp_desc", "ctyp_loc", "ctyp_attributes"] | none
  desc.required (CoreType.readDesc self (← NodeInfo.ofSlots loc attributes))

/-- Reads a type expression. -/
def CoreType.ofJson? (j : Json) : Option CoreType :=
  j.read CoreType.step

/-- Writes a node: what it is, its location and its attributes. -/
def NodeInfo.node (layout : Layout) (names : String × String × String) (info : NodeInfo)
    (desc : Json) : Json :=
  layout.record [.plain names.1 desc, info.loc.field layout names.2.1,
    Attribute.listField layout names.2.2 info.attributes]

/-- Writes a type expression with what it is, its location and its attributes. -/
def CoreType.node (layout : Layout) : NodeInfo → Json → Json :=
  NodeInfo.node layout ("ctyp_desc", "ctyp_loc", "ctyp_attributes")

/-- Writes a list of attributes. -/
def attributesToJson (layout : Layout) (as : List Attribute) : Json :=
  .ofList (Attribute.toJson layout) as

mutual

/-- Writes a type expression. -/
def CoreType.toJson (layout : Layout) : CoreType → Json
  | .any info => CoreType.node layout info (.str "Ttyp_any")
  | .var info name => CoreType.node layout info (tagged "Ttyp_var" (.str name))
  | .arrow info label arg res =>
    CoreType.node layout info
      (tagged "Ttyp_arrow" (.arr [label.toJson, arg.toJson layout, res.toJson layout]))
  | .tuple info types =>
    CoreType.node layout info (tagged "Ttyp_tuple" (.arr (coreTypesToJson layout types)))
  | .constr info path args =>
    CoreType.node layout info
      (tagged "Ttyp_constr" (.arr [path.toJson layout, .arr (coreTypesToJson layout args)]))
  | .object info fields closure =>
    CoreType.node layout info
      (tagged "Ttyp_object" (.arr [.arr (objectFieldsToJson layout fields), closure.toJson]))
  | .class info path args =>
    CoreType.node layout info
      (tagged "Ttyp_class" (.arr [path.toJson layout, .arr (coreTypesToJson layout args)]))
  | .alias info type name =>
    CoreType.node layout info (tagged "Ttyp_alias" (.arr [type.toJson layout, .str name]))
  | .variant info fields closure present =>
    CoreType.node layout info
      (tagged "Ttyp_variant" (.arr [.arr (rowFieldsToJson layout fields), closure.toJson,
        ofOption (.ofList .str) present]))
  | .poly info vars body =>
    CoreType.node layout info
      (tagged "Ttyp_poly" (.arr [.ofList .str vars, body.toJson layout]))
  | .package info path fields loc =>
    CoreType.node layout info
      (tagged "Ttyp_package" (layout.record [.plain "pack_path" (path.toJson layout),
        .plain "pack_fields" (.arr (packageFieldsToJson layout fields)),
        loc.field layout "pack_loc"]))

/-- Writes a list of type expressions. -/
def coreTypesToJson (layout : Layout) : List CoreType → List Json
  | [] => []
  | type :: types => type.toJson layout :: coreTypesToJson layout types

/-- Writes the fields of an object type. -/
def objectFieldsToJson (layout : Layout) : List ObjectField → List Json
  | [] => []
  | .method name attributes type :: fields =>
    tagged "OTtag" (.arr [name.toJson layout .str, attributesToJson layout attributes,
      type.toJson layout]) :: objectFieldsToJson layout fields
  | .inherit type :: fields =>
    tagged "OTinherit" (type.toJson layout) :: objectFieldsToJson layout fields

/-- Writes the fields of a polymorphic variant. -/
def rowFieldsToJson (layout : Layout) : List RowField → List Json
  | [] => []
  | .tag name attributes constant args :: fields =>
    tagged "Rtag" (.arr [name.toJson layout .str, attributesToJson layout attributes,
      .bool constant, .arr (coreTypesToJson layout args)]) :: rowFieldsToJson layout fields
  | .inherit type :: fields =>
    tagged "Rinherit" (type.toJson layout) :: rowFieldsToJson layout fields

/-- Writes the constraints of a package type. -/
def packageFieldsToJson (layout : Layout) : List PackageField → List Json
  | [] => []
  | .mk name type :: fields =>
    .arr [name.toJson layout LongIdent.toJson, type.toJson layout] ::
      packageFieldsToJson layout fields

end

/-- Reads an optional type that is none unless it is given. -/
def CoreType.optionOfSlot (slot : Slot) : Option (Option CoreType) :=
  slot.orDefault none (nullable? CoreType.ofJson?)

/-- An optional type that may be left out if there is none. -/
def CoreType.optionField (layout : Layout) (name : String) (type : Option CoreType) : Field :=
  ⟨name, ofOption (CoreType.toJson layout) type, type.isNone⟩

/-! ### Declarations -/

/-- Reads the description of a value. -/
def ValueDescription.ofJson? (j : Json) : Option ValueDescription := do
  let [ident, type, primitives, loc, attributes] ← j.record?
    ["val_id", "val_desc", "val_prim", "val_loc", "val_attributes"] | none
  return ⟨← ident.required Ident.ofJson?, ← type.required CoreType.ofJson?,
    ← primitives.orDefault [] (list? string?), ← Location.ofSlot loc,
    ← Attribute.listOfSlot attributes⟩

/-- Writes the description of a value. -/
def ValueDescription.toJson (layout : Layout) (d : ValueDescription) : Json :=
  layout.record [.plain "val_id" (d.ident.toJson layout), .plain "val_desc" (d.type.toJson layout),
    ⟨"val_prim", .ofList .str d.primitives, d.primitives.isEmpty⟩,
    d.loc.field layout "val_loc", Attribute.listField layout "val_attributes" d.attributes]

/-- Reads a type parameter. -/
def TypeParam.ofJson? : Json → Option TypeParam
  | .arr [type, variance, injectivity] => do
    return ⟨← CoreType.ofJson? type, ← VarianceMark.ofJson? variance,
      ← Injectivity.ofJson? injectivity⟩
  | _ => none

/-- Writes a type parameter. -/
def TypeParam.toJson (layout : Layout) (p : TypeParam) : Json :=
  .arr [p.type.toJson layout, p.variance.toJson, p.injectivity.toJson]

/-- Reads type parameters that are none unless they are given. -/
def TypeParam.listOfSlot (slot : Slot) : Option (List TypeParam) :=
  slot.orDefault [] (list? TypeParam.ofJson?)

/-- Type parameters that may be left out if there are none. -/
def TypeParam.listField (layout : Layout) (name : String) (ps : List TypeParam) : Field :=
  ⟨name, .ofList (TypeParam.toJson layout) ps, ps.isEmpty⟩

/-- Reads a clause that equates two types. -/
def TypeConstraint.ofJson? : Json → Option TypeConstraint
  | .arr [left, right, loc] => do
    return ⟨← CoreType.ofJson? left, ← CoreType.ofJson? right, ← Location.ofJson? loc⟩
  | _ => none

/-- Writes a clause that equates two types. -/
def TypeConstraint.toJson (layout : Layout) (c : TypeConstraint) : Json :=
  .arr [c.left.toJson layout, c.right.toJson layout, c.loc.toJson layout]

/-- Reads a field of a record. -/
def LabelDeclaration.ofJson? (j : Json) : Option LabelDeclaration := do
  let [ident, mutability, type, loc, attributes] ← j.record?
    ["ld_id", "ld_mutable", "ld_type", "ld_loc", "ld_attributes"] | none
  return ⟨← ident.required Ident.ofJson?,
    ← mutability.orDefault .immutable MutableFlag.ofJson?, ← type.required CoreType.ofJson?,
    ← Location.ofSlot loc, ← Attribute.listOfSlot attributes⟩

/-- Writes a field of a record. -/
def LabelDeclaration.toJson (layout : Layout) (d : LabelDeclaration) : Json :=
  layout.record [.plain "ld_id" (d.ident.toJson layout),
    ⟨"ld_mutable", d.mutability.toJson, d.mutability == .immutable⟩,
    .plain "ld_type" (d.type.toJson layout), d.loc.field layout "ld_loc",
    Attribute.listField layout "ld_attributes" d.attributes]

/-- Reads the arguments of a constructor. -/
def ConstructorArguments.ofJson? (j : Json) : Option ConstructorArguments :=
  match j.variant? with
  | some ("Cstr_tuple", some types) => do return .tuple (← types.list? CoreType.ofJson?)
  | some ("Cstr_record", some labels) => do
    return .record (← labels.list? LabelDeclaration.ofJson?)
  | _ => none

/-- Writes the arguments of a constructor. -/
def ConstructorArguments.toJson (layout : Layout) : ConstructorArguments → Json
  | .tuple types => tagged "Cstr_tuple" (.ofList (CoreType.toJson layout) types)
  | .record labels => tagged "Cstr_record" (.ofList (LabelDeclaration.toJson layout) labels)

/-- Reads a constructor. -/
def ConstructorDeclaration.ofJson? (j : Json) : Option ConstructorDeclaration := do
  let [ident, args, result, loc, attributes] ← j.record?
    ["cd_id", "cd_args", "cd_res", "cd_loc", "cd_attributes"] | none
  return ⟨← ident.required Ident.ofJson?, ← args.required ConstructorArguments.ofJson?,
    ← CoreType.optionOfSlot result, ← Location.ofSlot loc, ← Attribute.listOfSlot attributes⟩

/-- Writes a constructor. -/
def ConstructorDeclaration.toJson (layout : Layout) (d : ConstructorDeclaration) : Json :=
  layout.record [.plain "cd_id" (d.ident.toJson layout), .plain "cd_args" (d.args.toJson layout),
    CoreType.optionField layout "cd_res" d.result, d.loc.field layout "cd_loc",
    Attribute.listField layout "cd_attributes" d.attributes]

/-- Reads the representation of a type. -/
def TypeKind.ofJson? (j : Json) : Option TypeKind :=
  match j.variant? with
  | some ("Ttype_abstract", content) => bare .abstract content
  | some ("Ttype_variant", some constructors) => do
    return .variant (← constructors.list? ConstructorDeclaration.ofJson?)
  | some ("Ttype_record", some labels) => do
    return .record (← labels.list? LabelDeclaration.ofJson?)
  | some ("Ttype_open", content) => bare .extensible content
  | _ => none

/-- Writes the representation of a type. -/
def TypeKind.toJson (layout : Layout) : TypeKind → Json
  | .abstract => .str "Ttype_abstract"
  | .variant constructors =>
    tagged "Ttype_variant" (.ofList (ConstructorDeclaration.toJson layout) constructors)
  | .record labels => tagged "Ttype_record" (.ofList (LabelDeclaration.toJson layout) labels)
  | .extensible => .str "Ttype_open"

/-- Reads a type declaration. -/
def TypeDeclaration.ofJson? (j : Json) : Option TypeDeclaration := do
  let [ident, params, constraints, kind, privacy, manifest, loc, attributes] ← j.record?
    ["typ_id", "typ_params", "typ_cstrs", "typ_kind", "typ_private", "typ_manifest", "typ_loc",
      "typ_attributes"] | none
  return ⟨← ident.required Ident.ofJson?, ← TypeParam.listOfSlot params,
    ← constraints.orDefault [] (list? TypeConstraint.ofJson?), ← kind.required TypeKind.ofJson?,
    ← privacy.orDefault .publicly PrivateFlag.ofJson?, ← CoreType.optionOfSlot manifest,
    ← Location.ofSlot loc, ← Attribute.listOfSlot attributes⟩

/-- Writes a type declaration. -/
def TypeDeclaration.toJson (layout : Layout) (d : TypeDeclaration) : Json :=
  layout.record [.plain "typ_id" (d.ident.toJson layout),
    TypeParam.listField layout "typ_params" d.params,
    ⟨"typ_cstrs", .ofList (TypeConstraint.toJson layout) d.constraints, d.constraints.isEmpty⟩,
    .plain "typ_kind" (d.kind.toJson layout),
    ⟨"typ_private", d.privacy.toJson, d.privacy == .publicly⟩,
    CoreType.optionField layout "typ_manifest" d.manifest, d.loc.field layout "typ_loc",
    Attribute.listField layout "typ_attributes" d.attributes]

/-- Reads what an extension constructor is. -/
def ExtensionKind.ofJson? (j : Json) : Option ExtensionKind :=
  match j.variant? with
  | some ("Text_decl", some (.arr [args, result])) => do
    return .declared (← ConstructorArguments.ofJson? args)
      (← result.nullable? CoreType.ofJson?)
  | some ("Text_rebind", some path) => do return .rebound (← Path.ofJson? path)
  | _ => none

/-- Writes what an extension constructor is. -/
def ExtensionKind.toJson (layout : Layout) : ExtensionKind → Json
  | .declared args result =>
    tagged "Text_decl" (.arr [args.toJson layout, ofOption (CoreType.toJson layout) result])
  | .rebound path => tagged "Text_rebind" (path.toJson layout)

/-- Reads an extension constructor. -/
def ExtensionConstructor.ofJson? (j : Json) : Option ExtensionConstructor := do
  let [ident, kind, loc, attributes] ← j.record?
    ["ext_id", "ext_kind", "ext_loc", "ext_attributes"] | none
  return ⟨← ident.required Ident.ofJson?, ← kind.required ExtensionKind.ofJson?,
    ← Location.ofSlot loc, ← Attribute.listOfSlot attributes⟩

/-- Writes an extension constructor. -/
def ExtensionConstructor.toJson (layout : Layout) (d : ExtensionConstructor) : Json :=
  layout.record [.plain "ext_id" (d.ident.toJson layout),
    .plain "ext_kind" (d.kind.toJson layout), d.loc.field layout "ext_loc",
    Attribute.listField layout "ext_attributes" d.attributes]

/-- Reads a type extension. -/
def TypeExtension.ofJson? (j : Json) : Option TypeExtension := do
  let [path, params, constructors, privacy, loc, attributes] ← j.record?
    ["tyext_path", "tyext_params", "tyext_constructors", "tyext_private", "tyext_loc",
      "tyext_attributes"] | none
  return ⟨← path.required Path.ofJson?, ← TypeParam.listOfSlot params,
    ← constructors.required (list? ExtensionConstructor.ofJson?),
    ← privacy.orDefault .publicly PrivateFlag.ofJson?, ← Location.ofSlot loc,
    ← Attribute.listOfSlot attributes⟩

/-- Writes a type extension. -/
def TypeExtension.toJson (layout : Layout) (d : TypeExtension) : Json :=
  layout.record [.plain "tyext_path" (d.path.toJson layout),
    TypeParam.listField layout "tyext_params" d.params,
    .plain "tyext_constructors" (.ofList (ExtensionConstructor.toJson layout) d.constructors),
    ⟨"tyext_private", d.privacy.toJson, d.privacy == .publicly⟩,
    d.loc.field layout "tyext_loc", Attribute.listField layout "tyext_attributes" d.attributes]

/-! ### Classes -/

/-- Reads what a field of a class is, given its location and attributes. -/
def ClassField.readDesc (self : Json → Option ClassType) (info : NodeInfo) (j : Json) :
    Option ClassField :=
  match j.variant? with
  | some ("Tctf_inherit", some type) => do return .inherit info (← self type)
  | some ("Tctf_val", some (.arr [name, mutability, virtuality, type])) => do
    return .instanceVariable info (← name.string?) (← MutableFlag.ofJson? mutability)
      (← VirtualFlag.ofJson? virtuality) (← CoreType.ofJson? type)
  | some ("Tctf_method", some (.arr [name, privacy, virtuality, type])) => do
    return .method info (← name.string?) (← PrivateFlag.ofJson? privacy)
      (← VirtualFlag.ofJson? virtuality) (← CoreType.ofJson? type)
  | some ("Tctf_constraint", some (.arr [left, right])) => do
    return .constraint info (← CoreType.ofJson? left) (← CoreType.ofJson? right)
  | some ("Tctf_attribute", some a) => do return .floating info (← Attribute.ofJson? a)
  | _ => none

/-- Reads a field of a class. -/
def ClassField.read (self : Json → Option ClassType) (j : Json) : Option ClassField := do
  let [desc, loc, attributes] ← j.record? ["ctf_desc", "ctf_loc", "ctf_attributes"] | none
  desc.required (ClassField.readDesc self (← NodeInfo.ofSlots loc attributes))

/-- Reads what a class type is, given its location and attributes. -/
def ClassType.readDesc (self : Json → Option ClassType) (info : NodeInfo) (j : Json) :
    Option ClassType :=
  match j.variant? with
  | some ("Tcty_constr", some (.arr [path, args])) => do
    return .constr info (← Path.ofJson? path) (← args.list? CoreType.ofJson?)
  | some ("Tcty_signature", some content) => do
    let [selfType, fields] ← content.record? ["csig_self", "csig_fields"] | none
    return .signature info (← selfType.required CoreType.ofJson?)
      (← fields.required (list? (ClassField.read self)))
  | some ("Tcty_arrow", some (.arr [label, arg, res])) => do
    return .arrow info (← ArgLabel.ofJson? label) (← CoreType.ofJson? arg) (← self res)
  | _ => none

/-- Reads one level of a class type. -/
def ClassType.step (self : Json → Option ClassType) (j : Json) : Option ClassType := do
  let [desc, loc, attributes] ← j.record? ["cltyp_desc", "cltyp_loc", "cltyp_attributes"]
    | none
  desc.required (ClassType.readDesc self (← NodeInfo.ofSlots loc attributes))

/-- Reads a class type. -/
def ClassType.ofJson? (j : Json) : Option ClassType :=
  j.read ClassType.step

/-- Writes a class type with what it is, its location and its attributes. -/
def ClassType.node (layout : Layout) : NodeInfo → Json → Json :=
  NodeInfo.node layout ("cltyp_desc", "cltyp_loc", "cltyp_attributes")

/-- Writes a field of a class with what it is, its location and its attributes. -/
def ClassField.node (layout : Layout) : NodeInfo → Json → Json :=
  NodeInfo.node layout ("ctf_desc", "ctf_loc", "ctf_attributes")

mutual

/-- Writes a class type. -/
def ClassType.toJson (layout : Layout) : ClassType → Json
  | .constr info path args =>
    ClassType.node layout info
      (tagged "Tcty_constr"
        (.arr [path.toJson layout, .ofList (CoreType.toJson layout) args]))
  | .signature info self fields =>
    ClassType.node layout info
      (tagged "Tcty_signature" (layout.record [.plain "csig_self" (self.toJson layout),
        .plain "csig_fields" (.arr (classFieldsToJson layout fields))]))
  | .arrow info label arg res =>
    ClassType.node layout info
      (tagged "Tcty_arrow" (.arr [label.toJson, arg.toJson layout, res.toJson layout]))

/-- Writes the fields of a class. -/
def classFieldsToJson (layout : Layout) : List ClassField → List Json
  | [] => []
  | field :: fields => field.toJson layout :: classFieldsToJson layout fields

/-- Writes a field of a class. -/
def ClassField.toJson (layout : Layout) : ClassField → Json
  | .inherit info type =>
    ClassField.node layout info (tagged "Tctf_inherit" (type.toJson layout))
  | .instanceVariable info name mutability virtuality type =>
    ClassField.node layout info (tagged "Tctf_val"
      (.arr [.str name, mutability.toJson, virtuality.toJson, type.toJson layout]))
  | .method info name privacy virtuality type =>
    ClassField.node layout info (tagged "Tctf_method"
      (.arr [.str name, privacy.toJson, virtuality.toJson, type.toJson layout]))
  | .constraint info left right =>
    ClassField.node layout info
      (tagged "Tctf_constraint" (.arr [left.toJson layout, right.toJson layout]))
  | .floating info a =>
    ClassField.node layout info (tagged "Tctf_attribute" (a.toJson layout))

end

/-- Reads a class or class type declaration. -/
def ClassDeclaration.ofJson? (j : Json) : Option ClassDeclaration := do
  let [virtuality, params, classIdent, classTypeIdent, objectIdent, type, loc, attributes] ←
    j.record? ["ci_virt", "ci_params", "ci_id_class", "ci_id_class_type", "ci_id_object",
      "ci_expr", "ci_loc", "ci_attributes"] | none
  return ⟨← virtuality.orDefault .concrete VirtualFlag.ofJson?, ← TypeParam.listOfSlot params,
    ← classIdent.required Ident.ofJson?, ← classTypeIdent.required Ident.ofJson?,
    ← objectIdent.required Ident.ofJson?, ← type.required ClassType.ofJson?,
    ← Location.ofSlot loc, ← Attribute.listOfSlot attributes⟩

/-- Writes a class or class type declaration. -/
def ClassDeclaration.toJson (layout : Layout) (d : ClassDeclaration) : Json :=
  layout.record [⟨"ci_virt", d.virtuality.toJson, d.virtuality == .concrete⟩,
    TypeParam.listField layout "ci_params" d.params,
    .plain "ci_id_class" (d.classIdent.toJson layout),
    .plain "ci_id_class_type" (d.classTypeIdent.toJson layout),
    .plain "ci_id_object" (d.objectIdent.toJson layout),
    .plain "ci_expr" (d.type.toJson layout), d.loc.field layout "ci_loc",
    Attribute.listField layout "ci_attributes" d.attributes]

/-! ### Modules -/

/-- Reads what a module expression is, given its computed type and location. -/
def ModuleExpr.readDesc (self : Json → Option ModuleExpr) (info : ModuleExprInfo) (j : Json) :
    Option ModuleExpr :=
  match j.variant? with
  | some ("Tmod_ident", some p) => do return .path info (← Path.ofJson? p)
  | some ("Tmod_structure", content) => bare (.body info) content
  | some ("Tmod_functor", content) => bare (.functor info) content
  | some ("Tmod_apply", some (.arr [f, a])) => do
    return .apply info (← self f) (← self a)
  | some ("Tmod_constraint", some expr) => do return .constraint info (← self expr)
  | some ("Tmod_unpack", content) => bare (.unpack info) content
  | _ => none

/-- Reads one level of a module expression. -/
def ModuleExpr.step (self : Json → Option ModuleExpr) (j : Json) : Option ModuleExpr := do
  let [desc, type, loc] ← j.record? ["mod_desc", "mod_type", "mod_loc"] | none
  let info := ⟨← type.required Compiled.ModuleType.ofJson?, ← Location.ofSlot loc⟩
  desc.required (ModuleExpr.readDesc self info)

/-- Reads a module expression. -/
def ModuleExpr.ofJson? (j : Json) : Option ModuleExpr :=
  j.read ModuleExpr.step

/-- Writes a module expression with what it is, its computed type and its location. -/
def ModuleExpr.node (layout : Layout) (info : ModuleExprInfo) (desc : Json) : Json :=
  layout.record [.plain "mod_desc" desc, .plain "mod_type" (info.type.toJson layout),
    info.loc.field layout "mod_loc"]

/-- Writes a module expression. -/
def ModuleExpr.toJson (layout : Layout) : ModuleExpr → Json
  | .path info p => ModuleExpr.node layout info (tagged "Tmod_ident" (p.toJson layout))
  | .body info => ModuleExpr.node layout info (.str "Tmod_structure")
  | .functor info => ModuleExpr.node layout info (.str "Tmod_functor")
  | .apply info f a =>
    ModuleExpr.node layout info
      (tagged "Tmod_apply" (.arr [f.toJson layout, a.toJson layout]))
  | .constraint info expr =>
    ModuleExpr.node layout info (tagged "Tmod_constraint" (expr.toJson layout))
  | .unpack info => ModuleExpr.node layout info (.str "Tmod_unpack")

/-- Reads a constraint on a module type. -/
def WithConstraint.ofJson? (j : Json) : Option WithConstraint :=
  match j.variant? with
  | some ("Twith_type", some d) => do return .typeEq (← TypeDeclaration.ofJson? d)
  | some ("Twith_module", some p) => do return .moduleEq (← Path.ofJson? p)
  | some ("Twith_typesubst", some d) => do return .typeSubst (← TypeDeclaration.ofJson? d)
  | some ("Twith_modsubst", some p) => do return .moduleSubst (← Path.ofJson? p)
  | _ => none

/-- Writes a constraint on a module type. -/
def WithConstraint.toJson (layout : Layout) : WithConstraint → Json
  | .typeEq d => tagged "Twith_type" (d.toJson layout)
  | .moduleEq p => tagged "Twith_module" (p.toJson layout)
  | .typeSubst d => tagged "Twith_typesubst" (d.toJson layout)
  | .moduleSubst p => tagged "Twith_modsubst" (p.toJson layout)

/-- Reads a constraint with the component that it constrains. -/
def WithClause.ofJson? : Json → Option WithClause
  | .arr [name, constraint] => do
    return ⟨← Located.ofJson? LongIdent.ofJson? name, ← WithConstraint.ofJson? constraint⟩
  | _ => none

/-- Writes a constraint with the component that it constrains. -/
def WithClause.toJson (layout : Layout) (c : WithClause) : Json :=
  .arr [c.name.toJson layout LongIdent.toJson, c.constraint.toJson layout]

/-- Reads a local name of a module. -/
def ModuleSubstitution.ofJson? (j : Json) : Option ModuleSubstitution := do
  let [ident, manifest, attributes, loc] ← j.record?
    ["ms_id", "ms_manifest", "ms_attributes", "ms_loc"] | none
  return ⟨← ident.required Ident.ofJson?, ← manifest.required Path.ofJson?,
    ← Attribute.listOfSlot attributes, ← Location.ofSlot loc⟩

/-- Writes a local name of a module. -/
def ModuleSubstitution.toJson (layout : Layout) (d : ModuleSubstitution) : Json :=
  layout.record [.plain "ms_id" (d.ident.toJson layout),
    .plain "ms_manifest" (d.manifest.toJson layout),
    Attribute.listField layout "ms_attributes" d.attributes, d.loc.field layout "ms_loc"]

/-- Reads an opened module. -/
def OpenDescription.ofJson? (j : Json) : Option OpenDescription := do
  let [path, loc, attributes] ← j.record? ["open_path", "open_loc", "open_attributes"] | none
  return ⟨← path.required Path.ofJson?, ← Location.ofSlot loc, ← Attribute.listOfSlot attributes⟩

/-- Writes an opened module. -/
def OpenDescription.toJson (layout : Layout) (d : OpenDescription) : Json :=
  layout.record [.plain "open_path" (d.path.toJson layout), d.loc.field layout "open_loc",
    Attribute.listField layout "open_attributes" d.attributes]

/-! ### Signatures -/

/-- Reads a module declaration. -/
def ModuleDeclaration.read (self : Json → Option ModuleType) (j : Json) :
    Option ModuleDeclaration := do
  let [ident, type, attributes, loc] ← j.record?
    ["md_id", "md_type", "md_attributes", "md_loc"] | none
  return ⟨← ident.required Ident.ofJson?, ← type.required self,
    ← Attribute.listOfSlot attributes, ← Location.ofSlot loc⟩

/-- Reads a module type declaration. -/
def ModuleTypeDeclaration.read (self : Json → Option ModuleType) (j : Json) :
    Option ModuleTypeDeclaration := do
  let [ident, type, attributes, loc] ← j.record?
    ["mtd_id", "mtd_type", "mtd_attributes", "mtd_loc"] | none
  return ⟨← ident.required Ident.ofJson?, ← type.orDefault none (nullable? self),
    ← Attribute.listOfSlot attributes, ← Location.ofSlot loc⟩

/-- Reads an include. -/
def IncludeDescription.read (self : Json → Option ModuleType) (j : Json) :
    Option IncludeDescription := do
  let [type, content, loc, attributes] ← j.record?
    ["incl_mod", "incl_type", "incl_loc", "incl_attributes"] | none
  return ⟨← type.required self, ← content.required Compiled.Signature.ofJson?,
    ← Location.ofSlot loc, ← Attribute.listOfSlot attributes⟩

/-- Reads what an item of a signature is, given its location. -/
def SignatureItem.readDesc (self : Json → Option ModuleType) (loc : Location) (j : Json) :
    Option SignatureItem :=
  match j.variant? with
  | some ("Tsig_value", some d) => do return .value loc (← ValueDescription.ofJson? d)
  | some ("Tsig_type", some (.arr [flag, ds])) => do
    return .type loc (← RecFlag.ofJson? flag) (← ds.list? TypeDeclaration.ofJson?)
  | some ("Tsig_typesubst", some ds) => do
    return .typeSubst loc (← ds.list? TypeDeclaration.ofJson?)
  | some ("Tsig_typext", some d) => do return .extension loc (← TypeExtension.ofJson? d)
  | some ("Tsig_exception", some d) => do
    return .exception loc (← ExtensionConstructor.ofJson? d)
  | some ("Tsig_module", some d) => do return .module loc (← ModuleDeclaration.read self d)
  | some ("Tsig_modsubst", some d) => do
    return .moduleSubst loc (← ModuleSubstitution.ofJson? d)
  | some ("Tsig_recmodule", some ds) => do
    return .recModule loc (← ds.list? (ModuleDeclaration.read self))
  | some ("Tsig_modtype", some d) => do
    return .moduleType loc (← ModuleTypeDeclaration.read self d)
  | some ("Tsig_open", some d) => do return .opened loc (← OpenDescription.ofJson? d)
  | some ("Tsig_include", some d) => do return .included loc (← IncludeDescription.read self d)
  | some ("Tsig_class", some ds) => do return .class loc (← ds.list? ClassDeclaration.ofJson?)
  | some ("Tsig_class_type", some ds) => do
    return .classType loc (← ds.list? ClassDeclaration.ofJson?)
  | some ("Tsig_attribute", some a) => do return .floating loc (← Attribute.ofJson? a)
  | _ => none

/-- Reads an item of a signature. -/
def SignatureItem.read (self : Json → Option ModuleType) (j : Json) :
    Option SignatureItem := do
  let [desc, loc] ← j.record? ["sig_desc", "sig_loc"] | none
  desc.required (SignatureItem.readDesc self (← Location.ofSlot loc))

/-- Reads the items of a signature. -/
def Signature.read (self : Json → Option ModuleType) (j : Json) : Option Signature := do
  let [items] ← j.record? ["sig_items"] | none
  items.required (list? (SignatureItem.read self))

/-- Reads the parameter of a functor. -/
def FunctorParameter.read (self : Json → Option ModuleType) (j : Json) :
    Option FunctorParameter :=
  match j.variant? with
  | some ("Unit", content) => bare .unit content
  | some ("Named", some (.arr [x, type])) => do return .named (← Ident.ofJson? x) (← self type)
  | _ => none

/-- Reads what a module type is, given its location and attributes. -/
def ModuleType.readDesc (self : Json → Option ModuleType) (info : NodeInfo) (j : Json) :
    Option ModuleType :=
  match j.variant? with
  | some ("Tmty_ident", some p) => do return .path info (← Path.ofJson? p)
  | some ("Tmty_signature", some items) => do
    return .signature info (← Signature.read self items)
  | some ("Tmty_functor", some (.arr [param, result])) => do
    return .functor info (← FunctorParameter.read self param) (← self result)
  | some ("Tmty_with", some (.arr [body, clauses])) => do
    return .constrained info (← self body) (← clauses.list? WithClause.ofJson?)
  | some ("Tmty_typeof", some expr) => do return .typeOf info (← ModuleExpr.ofJson? expr)
  | some ("Tmty_alias", some p) => do return .alias info (← Path.ofJson? p)
  | _ => none

/-- Reads one level of a module type. -/
def ModuleType.step (self : Json → Option ModuleType) (j : Json) : Option ModuleType := do
  let [desc, loc, attributes] ← j.record? ["mty_desc", "mty_loc", "mty_attributes"] | none
  desc.required (ModuleType.readDesc self (← NodeInfo.ofSlots loc attributes))

/-- Reads a module type. -/
def ModuleType.ofJson? (j : Json) : Option ModuleType :=
  j.read ModuleType.step

/-- Reads a signature. -/
def Signature.ofJson? (j : Json) : Option Signature :=
  Signature.read ModuleType.ofJson? j

/-- Writes a module type with what it is, its location and its attributes. -/
def ModuleType.node (layout : Layout) : NodeInfo → Json → Json :=
  NodeInfo.node layout ("mty_desc", "mty_loc", "mty_attributes")

/-- Writes an item of a signature with what it is and its location. -/
def SignatureItem.node (layout : Layout) (loc : Location) (desc : Json) : Json :=
  layout.record [.plain "sig_desc" desc, loc.field layout "sig_loc"]

mutual

/-- Writes a module type. -/
def ModuleType.toJson (layout : Layout) : ModuleType → Json
  | .path info p => ModuleType.node layout info (tagged "Tmty_ident" (p.toJson layout))
  | .signature info items =>
    ModuleType.node layout info (tagged "Tmty_signature"
      (layout.record [.plain "sig_items" (.arr (itemsToJson layout items))]))
  | .functor info param result =>
    ModuleType.node layout info (tagged "Tmty_functor"
      (.arr [param.toJson layout, result.toJson layout]))
  | .constrained info body clauses =>
    ModuleType.node layout info (tagged "Tmty_with"
      (.arr [body.toJson layout, .ofList (WithClause.toJson layout) clauses]))
  | .typeOf info expr =>
    ModuleType.node layout info (tagged "Tmty_typeof" (expr.toJson layout))
  | .alias info p => ModuleType.node layout info (tagged "Tmty_alias" (p.toJson layout))

/-- Writes the parameter of a functor. -/
def FunctorParameter.toJson (layout : Layout) : FunctorParameter → Json
  | .unit => .str "Unit"
  | .named x type => tagged "Named" (.arr [x.toJson layout, type.toJson layout])

/-- Writes the items of a signature. -/
def itemsToJson (layout : Layout) : List SignatureItem → List Json
  | [] => []
  | item :: items => item.toJson layout :: itemsToJson layout items

/-- Writes an item of a signature. -/
def SignatureItem.toJson (layout : Layout) : SignatureItem → Json
  | .value loc d => SignatureItem.node layout loc (tagged "Tsig_value" (d.toJson layout))
  | .type loc flag ds =>
    SignatureItem.node layout loc (tagged "Tsig_type"
      (.arr [flag.toJson, .ofList (TypeDeclaration.toJson layout) ds]))
  | .typeSubst loc ds =>
    SignatureItem.node layout loc (tagged "Tsig_typesubst"
      (.ofList (TypeDeclaration.toJson layout) ds))
  | .extension loc d => SignatureItem.node layout loc (tagged "Tsig_typext" (d.toJson layout))
  | .exception loc d =>
    SignatureItem.node layout loc (tagged "Tsig_exception" (d.toJson layout))
  | .module loc d => SignatureItem.node layout loc (tagged "Tsig_module" (d.toJson layout))
  | .moduleSubst loc d =>
    SignatureItem.node layout loc (tagged "Tsig_modsubst" (d.toJson layout))
  | .recModule loc ds =>
    SignatureItem.node layout loc (tagged "Tsig_recmodule" (.arr (modulesToJson layout ds)))
  | .moduleType loc ⟨ident, type, attributes, declLoc⟩ =>
    SignatureItem.node layout loc (tagged "Tsig_modtype"
      (layout.record [.plain "mtd_id" (ident.toJson layout),
        ⟨"mtd_type",
          match type with
          | none => .null
          | some type => type.toJson layout,
          type.isNone⟩,
        Attribute.listField layout "mtd_attributes" attributes,
        declLoc.field layout "mtd_loc"]))
  | .opened loc d => SignatureItem.node layout loc (tagged "Tsig_open" (d.toJson layout))
  | .included loc ⟨type, content, declLoc, attributes⟩ =>
    SignatureItem.node layout loc (tagged "Tsig_include"
      (layout.record [.plain "incl_mod" (type.toJson layout),
        .plain "incl_type" (Compiled.Signature.toJson layout content),
        declLoc.field layout "incl_loc",
        Attribute.listField layout "incl_attributes" attributes]))
  | .class loc ds =>
    SignatureItem.node layout loc (tagged "Tsig_class"
      (.ofList (ClassDeclaration.toJson layout) ds))
  | .classType loc ds =>
    SignatureItem.node layout loc (tagged "Tsig_class_type"
      (.ofList (ClassDeclaration.toJson layout) ds))
  | .floating loc a => SignatureItem.node layout loc (tagged "Tsig_attribute" (a.toJson layout))

/-- Writes a list of module declarations. -/
def modulesToJson (layout : Layout) : List ModuleDeclaration → List Json
  | [] => []
  | d :: ds => d.toJson layout :: modulesToJson layout ds

/-- Writes a module declaration. -/
def ModuleDeclaration.toJson (layout : Layout) : ModuleDeclaration → Json
  | ⟨ident, type, attributes, loc⟩ =>
    layout.record [.plain "md_id" (ident.toJson layout), .plain "md_type" (type.toJson layout),
      Attribute.listField layout "md_attributes" attributes, loc.field layout "md_loc"]

end

/-- Writes a signature. -/
def Signature.toJson (layout : Layout) (items : Signature) : Json :=
  layout.record [.plain "sig_items" (.arr (itemsToJson layout items))]

end InterfaceDocs.Written
