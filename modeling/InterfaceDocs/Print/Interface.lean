import InterfaceDocs.Model.Signature
import InterfaceDocs.Print.Layout
import InterfaceDocs.Text.Quoted

/-!
# Printing interfaces

`Model.Interface.text` shows an interface with all of its parts as indented records.
-/

namespace InterfaceDocs

open Printed

/-- A string between quotation marks. -/
def Printed.string (s : String) : Printed :=
  .word (Text.quoted s)

/-- A list of strings. -/
def Printed.strings (ss : List String) : Printed :=
  .list (ss.map Printed.string)

/-- Prints an identifier. -/
def Identifier.print (id : Identifier) : Printed :=
  .word id.fullText

/-- Prints a reference. -/
def Reference.print : Reference → Printed
  | .resolved id => .tuple "Resolved" [id.print]
  | .root name => .tuple "Root" [.string name]
  | .core name => .tuple "Core" [.string name]
  | .dot head name => .tuple "Dot" [head.print, .string name]
  | .apply functor argument => .tuple "Apply" [functor.print, argument.print]

/-- Prints a fragment. -/
def Fragment.print : Fragment → Printed
  | .root => .word "Root"
  | .resolved id => .tuple "Resolved" [id.print]
  | .dot head name => .tuple "Dot" [head.print, .string name]

/-! ### Documentation -/

/-- Prints a position. -/
def Position.print (p : Position) : Printed :=
  .record "Position" [("file_name", .string p.fileName),
    ("line", .word (toString p.line.toInt)), ("bol", .word (toString p.bol.toInt)),
    ("cnum", .word (toString p.cnum.toInt))]

/-- Prints a location. -/
def Location.print (l : Location) : Printed :=
  .record "Location" [("loc_start", l.start.print), ("loc_end", l.stop.print),
    ("loc_ghost", .bool l.ghost)]

/-- Prints a tag. -/
def Tag.print : Tag → Printed
  | .author text => .tuple "Author" [.string text]
  | .before v text => .tuple "Before" [.string v, .string text]
  | .canonical path => .tuple "Canonical" [.string path]
  | .deprecated text => .tuple "Deprecated" [.string text]
  | .param name text => .tuple "Param" [.string name, .string text]
  | .raise exn text => .tuple "Raise" [.string exn, .string text]
  | .return text => .tuple "Return" [.string text]
  | .see text => .tuple "See" [.string text]
  | .since text => .tuple "Since" [.string text]
  | .version text => .tuple "Version" [.string text]
  | .inline => .word "Inline"
  | .open => .word "Open"
  | .closed => .word "Closed"

/-- Prints an element of a comment. -/
def DocElement.print : DocElement → Printed
  | .paragraph text => .tuple "Paragraph" [.string text]
  | .codeBlock text => .tuple "CodeBlock" [.string text]
  | .tag t => .tuple "Tag" [t.print]

/-- Prints a documentation. -/
def Doc.print : Doc → Printed
  | .absent => .word "Absent"
  | .parsed comment =>
    .tuple "Parsed"
      [.record "Comment" [("elements", .list (comment.elements.map DocElement.print))]]
  | .failed e =>
    .tuple "Failed"
      [.record "DocError" [("message", .string e.message), ("location", e.location.print)]]

/-- Prints a standalone comment. -/
def CommentItem.print : CommentItem → Printed
  | .docs doc => .tuple "Docs" [doc.print]
  | .stop => .word "Stop"

namespace Model

/-! ### Types -/

/-- Prints a label. -/
def Label.print : Label → Printed
  | .label name => .tuple "Label" [.string name]
  | .optional name => .tuple "Optional" [.string name]

/-- Prints the kind of a polymorphic variant. -/
def VariantKind.print : VariantKind → Printed
  | .opened => .word "Open"
  | .fixed => .word "Fixed"
  | .closed tags => .tuple "Closed" [.strings tags]

mutual

/-- Prints a type expression. -/
def TypeExpr.print : TypeExpr → Printed
  | .any => .word "Any"
  | .var name => .tuple "Var" [.string name]
  | .arrow label arg res => .tuple "Arrow" [.option Label.print label, arg.print, res.print]
  | .tuple types => .tuple "Tuple" [.list (printTypes types)]
  | .constr r args => .tuple "Constr" [r.print, .list (printTypes args)]
  | .variant kind elements =>
    .tuple "PolymorphicVariant" [.record "PolymorphicVariant"
      [("kind", kind.print), ("elements", .list (printElements elements))]]
  | .object fields isOpen =>
    .tuple "Object"
      [.record "Object" [("fields", .list (printFields fields)), ("open", .bool isOpen)]]
  | .class r args => .tuple "Class" [r.print, .list (printTypes args)]
  | .alias type name => .tuple "Alias" [type.print, .string name]
  | .poly vars body => .tuple "Poly" [.strings vars, body.print]
  | .package r substitutions =>
    .tuple "Package" [.record "Package"
      [("path", r.print), ("substitutions", .list (printSubstitutions substitutions))]]

/-- Prints a list of type expressions. -/
def printTypes : List TypeExpr → List Printed
  | [] => []
  | type :: types => type.print :: printTypes types

/-- Prints the elements of a polymorphic variant. -/
def printElements : List VariantElement → List Printed
  | [] => []
  | .constructor name constant args doc :: elements =>
    .tuple "Constructor" [.record "VariantConstructor"
      [("name", .string name), ("constant", .bool constant),
        ("arguments", .list (printTypes args)), ("doc", doc.print)]] :: printElements elements
  | .type type :: elements => .tuple "Type" [type.print] :: printElements elements

/-- Prints the fields of an object type. -/
def printFields : List ObjectField → List Printed
  | [] => []
  | .method name type :: fields =>
    .record "Method" [("name", .string name), ("type_", type.print)] :: printFields fields
  | .inherit type :: fields => .tuple "Inherit" [type.print] :: printFields fields

/-- Prints the constraints of a package type. -/
def printSubstitutions : List PackageSubstitution → List Printed
  | [] => []
  | .mk fragment type :: substitutions =>
    .tuple "" [fragment.print, type.print] :: printSubstitutions substitutions

end

/-! ### Declarations -/

/-- Prints a position in a group. -/
def RecFlag.print : RecFlag → Printed
  | .ordinary => .word "Ordinary"
  | .subsequent => .word "And"
  | .nonrecursive => .word "Nonrec"

/-- Prints a variance. -/
def Variance.print : Variance → Printed
  | .pos => .word "Pos"
  | .neg => .word "Neg"

/-- Prints a type parameter. -/
def TypeParam.print (p : TypeParam) : Printed :=
  .record "TypeParam"
    [("desc",
        match p.name with
        | none => .word "Any"
        | some name => .tuple "Var" [.string name]),
      ("variance", .option Variance.print p.variance), ("injective", .bool p.injective)]

/-- Prints a list of type parameters. -/
def printParams (params : List TypeParam) : Printed :=
  .list (params.map TypeParam.print)

/-- Prints the equation of a type. -/
def TypeEquation.print (e : TypeEquation) : Printed :=
  .record "TypeEquation"
    [("params", printParams e.params), ("private", .bool e.isPrivate),
      ("manifest", .option TypeExpr.print e.manifest),
      ("constraints",
        .list (e.constraints.map fun c => .tuple "" [c.left.print, c.right.print]))]

/-- Prints a field of a record. -/
def Field.print (f : Field) : Printed :=
  .record "Field" [("id", f.id.print), ("doc", f.doc.print), ("mutable", .bool f.isMutable),
    ("type_", f.type.print)]

/-- Prints the arguments of a constructor. -/
def ConstructorArgs.print : ConstructorArgs → Printed
  | .tuple types => .tuple "Tuple" [.list (printTypes types)]
  | .record fields => .tuple "Record" [.list (fields.map Field.print)]

/-- Prints a constructor under the name of what it is. -/
def Constructor.print (name : String) (c : Constructor) : Printed :=
  .record name [("id", c.id.print), ("doc", c.doc.print), ("args", c.args.print),
    ("res", .option TypeExpr.print c.result)]

/-- Prints the representation of a type. -/
def Representation.print : Representation → Printed
  | .variant constructors =>
    .tuple "Variant" [.list (constructors.map (Constructor.print "Constructor"))]
  | .record fields => .tuple "Record" [.list (fields.map Field.print)]
  | .extensible => .word "Extensible"

/-- Prints a type declaration. -/
def TypeDecl.print (d : TypeDecl) : Printed :=
  .record "TypeDecl" [("id", d.id.print), ("doc", d.doc.print),
    ("canonical", .option Reference.print d.canonical), ("equation", d.equation.print),
    ("representation", .option Representation.print d.representation)]

/-- Prints an extension. -/
def Extension.print (e : Extension) : Printed :=
  .record "Extension" [("type_path", e.typePath.print), ("doc", e.doc.print),
    ("type_params", printParams e.typeParams), ("private", .bool e.isPrivate),
    ("constructors", .list (e.constructors.map (Constructor.print "ExtensionConstructor")))]

/-- Prints a value. -/
def Value.print (v : Value) : Printed :=
  .record "Value" [("id", v.id.print), ("doc", v.doc.print), ("type_", v.type.print)]

/-- Prints an external value. -/
def External.print (e : External) : Printed :=
  .record "External" [("id", e.id.print), ("doc", e.doc.print), ("type_", e.type.print),
    ("primitives", .strings e.primitives)]

/-- Prints a method. -/
def Method.print (m : Method) : Printed :=
  .record "Method" [("id", m.id.print), ("doc", m.doc.print), ("private_", .bool m.isPrivate),
    ("virtual_", .bool m.isVirtual), ("type_", m.type.print)]

/-- Prints an instance variable. -/
def InstanceVariable.print (v : InstanceVariable) : Printed :=
  .record "InstanceVariable" [("id", v.id.print), ("doc", v.doc.print),
    ("mutable", .bool v.isMutable), ("virtual_", .bool v.isVirtual), ("type_", v.type.print)]

mutual

/-- Prints a class type. -/
def ClassTypeExpr.print : ClassTypeExpr → Printed
  | .constr r args => .tuple "Constr" [r.print, .list (printTypes args)]
  | .signature self items =>
    .tuple "Signature" [.record "ClassSignature"
      [("self_", .option TypeExpr.print self), ("items", .list (printClassItems items))]]

/-- Prints the items of a class. -/
def printClassItems : List ClassItem → List Printed
  | [] => []
  | .method m :: items => .tuple "Method" [m.print] :: printClassItems items
  | .instanceVariable v :: items =>
    .tuple "InstanceVariable" [v.print] :: printClassItems items
  | .constraint c :: items =>
    .tuple "Constraint" [c.left.print, c.right.print] :: printClassItems items
  | .inherit type :: items => .tuple "Inherit" [type.print] :: printClassItems items
  | .comment c :: items => .tuple "Comment" [c.print] :: printClassItems items

end

/-- Prints the type of a class. -/
def ClassDecl.print : ClassDecl → Printed
  | .classType type => .tuple "ClassType" [type.print]
  | .arrow label arg res => .tuple "Arrow" [.option Label.print label, arg.print, res.print]

/-- Prints a class. -/
def Class.print (c : Class) : Printed :=
  .record "Class" [("id", c.id.print), ("doc", c.doc.print), ("virtual_", .bool c.isVirtual),
    ("params", printParams c.params), ("type_", c.type.print)]

/-- Prints a class type declaration. -/
def ClassType.print (c : ClassType) : Printed :=
  .record "ClassType" [("id", c.id.print), ("doc", c.doc.print),
    ("virtual_", .bool c.isVirtual), ("params", printParams c.params), ("expr", c.type.print)]

/-! ### Signatures -/

/-- Prints a constraint on a module type. -/
def Substitution.print : Substitution → Printed
  | .moduleEq fragment target =>
    .tuple "ModuleEq" [fragment.print, .tuple "Alias" [target.print]]
  | .typeEq fragment equation => .tuple "TypeEq" [fragment.print, equation.print]
  | .moduleSubst fragment target => .tuple "ModuleSubst" [fragment.print, target.print]
  | .typeSubst fragment substitution =>
    .tuple "TypeSubst" [fragment.print, .record "TypeSubstitution"
      [("head", .option Reference.print substitution.head),
        ("equation", substitution.equation.print)]]

/-- Prints a local name of a module. -/
def ModuleSubstitution.print (s : ModuleSubstitution) : Printed :=
  .record "ModuleSubstitution" [("id", s.id.print), ("doc", s.doc.print),
    ("manifest", s.manifest.print)]

/-- Prints the status of an include. -/
def IncludeStatus.print : IncludeStatus → Printed
  | .default => .word "Default"
  | .inline => .word "Inline"
  | .opened => .word "Open"
  | .closed => .word "Closed"

/-- Prints whether a declaration is already a plain signature. -/
def printExpanded (expanded : Bool) : Printed :=
  if expanded then .tuple "Some" [.word "AlreadyASig"] else .word "None"

mutual

/-- Prints a module type expression. -/
def ModuleTypeExpr.print : ModuleTypeExpr → Printed
  | .path r => .tuple "Path" [r.print]
  | .signature s => .tuple "Signature" [s.print]
  | .functor param result => .tuple "Functor" [param.print, result.print]
  | .constrained body substitutions =>
    .tuple "With" [body.print, .list (substitutions.map Substitution.print)]
  | .typeOf type => .tuple "TypeOf" [type.print]

/-- Prints the type of a module. -/
def ModuleDeclType.print : ModuleDeclType → Printed
  | .alias r => .tuple "Alias" [r.print]
  | .moduleType type => .tuple "ModuleType" [type.print]

/-- Prints the parameter of a functor. -/
def FunctorParameter.print : FunctorParameter → Printed
  | .unit => .word "Unit"
  | .named id type expanded =>
    .tuple "Named" [.record "FunctorArgument"
      [("id", id.print), ("expr", type.print), ("expansion", printExpanded expanded)]]

/-- Prints a signature. -/
def Signature.print : Signature → Printed
  | ⟨items, doc⟩ => .record "Signature" [("items", .list (printItems items)), ("doc", doc.print)]

/-- Prints the items of a signature. -/
def printItems : List Item → List Printed
  | [] => []
  | item :: items => item.print :: printItems items

/-- Prints an item of a signature. -/
def Item.print : Item → Printed
  | .module flag ⟨id, doc, type, canonical, hidden, expanded⟩ =>
    .tuple "Module" [flag.print, .record "Module"
      [("id", id.print), ("doc", doc.print), ("type_", type.print),
        ("canonical", .option Reference.print canonical), ("hidden", .bool hidden),
        ("expansion", printExpanded expanded)]]
  | .moduleType ⟨id, doc, type, canonical, expanded⟩ =>
    .tuple "ModuleType" [.record "ModuleType"
      [("id", id.print), ("doc", doc.print),
        ("expr",
          match type with
          | none => .word "None"
          | some type => .tuple "Some" [type.print]),
        ("canonical", .option Reference.print canonical),
        ("expansion", printExpanded expanded)]]
  | .moduleSubstitution s => .tuple "ModuleSubstitution" [s.print]
  | .type flag d => .tuple "Type" [flag.print, d.print]
  | .typeSubstitution d => .tuple "TypeSubstitution" [d.print]
  | .extension e => .tuple "TypExt" [e.print]
  | .exception c => .tuple "Exception" [c.print "Exception"]
  | .value v => .tuple "Value" [v.print]
  | .external e => .tuple "External" [e.print]
  | .class flag c => .tuple "Class" [flag.print, c.print]
  | .classType flag c => .tuple "ClassType" [flag.print, c.print]
  | .included ⟨parent, doc, type, status, resolved, content⟩ =>
    .tuple "Include" [.record "Include"
      [("parent", parent.print), ("doc", doc.print), ("decl", type.print),
        ("status", status.print),
        ("expansion", .record "IncludeExpansion"
          [("resolved", .bool resolved), ("content", content.print)])]]
  | .comment c => .tuple "Comment" [c.print]

end

/-- Prints an interface. -/
def Interface.print (i : Interface) : Printed :=
  .record "Interface" [("id", i.id.print), ("doc", i.doc.print),
    ("items", .list (printItems i.items))]

/-- The text that shows an interface. -/
def Interface.text (i : Interface) : String :=
  i.print.text

end Model

end InterfaceDocs
