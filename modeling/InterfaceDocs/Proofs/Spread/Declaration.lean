import InterfaceDocs.Proofs.Identity
import InterfaceDocs.Proofs.Model.Declared
import InterfaceDocs.Proofs.Spread.Basic

/-!
# Identifiers of distinct declarations

The identifiers that a documented type, extension constructor or class declares are spread
over its own identifier, if the names of its constructors, labels, methods and instance
variables are distinct.
-/

namespace InterfaceDocs

variable {config : Config} {scope : Scope} {parent : Identifier}

namespace Compiled

variable {names : VarNames}

/-- The fields of a documented record are those of its labels. -/
theorem documentLabels_spread {labels : List LabelDeclaration} {out : List Model.Field}
    (h : (Reading.each (LabelDeclaration.document config scope names parent) labels).outcome
      = .ok out) (hdistinct : (labels.map LabelDeclaration.entity).Nodup) :
  Spread parent.nested (out.map Model.Field.id)
  := by
  rw [List.map_eq_flatMap]
  apply (Spread.each h hdistinct _).mono (parent.children_subset_nested _)
  intro d _ field hfield
  simp [LabelDeclaration.document] at hfield
  obtain ⟨type, -, rfl⟩ := hfield
  apply Spread.singleton _

/-- What distinct arguments declare is spread below the constructor. -/
theorem ConstructorArguments.document_spread {args : ConstructorArguments}
    {out : Model.ConstructorArgs} (hdistinct : args.isDistinct)
    (h : (args.document config scope names parent).outcome = .ok out) :
  Spread parent.nested out.declared
  := by
  cases args with
  | tuple types =>
    simp [ConstructorArguments.document] at h
    obtain ⟨types', -, rfl⟩ := h
    apply Spread.nil
  | record labels =>
    simp [ConstructorArguments.document] at h
    obtain ⟨fields, hfields, rfl⟩ := h
    simp [ConstructorArguments.isDistinct] at hdistinct
    apply documentLabels_spread hfields hdistinct

/-- What a constructor declares is spread over it. -/
theorem documentConstructor_spread {id : Identifier} {args : ConstructorArguments}
    {result : Option TypeExpr} {attributes : List Attribute} {out : Model.Constructor}
    (hdistinct : args.isDistinct)
    (h : (documentConstructor config scope names id args result attributes).outcome = .ok out) :
  Spread {id} out.declared
  := by
  simp [documentConstructor] at h
  obtain ⟨args', hargs, result', -, rfl⟩ := h
  apply Spread.node
  apply ConstructorArguments.document_spread hdistinct hargs

/-- What a distinct kind of a type declares is spread below the type. -/
theorem TypeKind.document_spread {id : Identifier} {kind : TypeKind}
    {out : Option Model.Representation} (hdistinct : kind.isDistinct)
    (h : (kind.document config scope names id).outcome = .ok out) :
  Spread id.nested (out.toList.flatMap Model.Representation.declared)
  := by
  cases kind with
  | abstract =>
    obtain rfl := Except.ok.inj h
    apply Spread.nil
  | record labels =>
    simp [TypeKind.document] at h
    obtain ⟨fields, hfields, rfl⟩ := h
    simp [TypeKind.isDistinct] at hdistinct
    rw [Option.toList_some, List.flatMap_singleton]
    apply documentLabels_spread hfields hdistinct
  | variant constructors =>
    simp [TypeKind.document] at h
    obtain ⟨constructors', hconstructors, rfl⟩ := h
    simp [TypeKind.isDistinct] at hdistinct
    rw [Option.toList_some, List.flatMap_singleton]
    apply (Spread.each hconstructors hdistinct.1 _).mono (id.children_subset_nested _)
    intro d hd c hc
    apply documentConstructor_spread (hdistinct.2 d hd) hc
  | extensible =>
    obtain rfl := Except.ok.inj h
    apply Spread.nil

/-- What a type declaration declares is spread over its identifier. -/
theorem TypeDeclaration.document_spread {x : Ident} {d : TypeDeclaration} {out : Model.TypeDecl}
    (hdistinct : d.kind.isDistinct) (h : (d.document config scope parent x).outcome = .ok out) :
  Spread {parent.child .type x.name} out.declared
  := by
  simp [TypeDeclaration.document] at h
  obtain ⟨representation, hrepresentation, manifest, -, rfl⟩ := h
  apply Spread.node
  apply TypeKind.document_spread hdistinct hrepresentation

/-- A value declares itself only. -/
theorem ValueDescription.document_declared {x : Ident} {d : ValueDescription} {out : Model.Item}
    (h : (d.document config scope parent x).outcome = .ok out) :
  out.declared false = [parent.child .value x.name]
  := by
  simp [ValueDescription.document] at h
  obtain ⟨type, -, rfl⟩ := h
  split
  · rfl
  · rfl

/-- If each documented class item is that of an entity, then so are those of a list. -/
theorem declaredClassItems_of_documentEach {α : Type} {f : α → Except LoadError Model.ClassItem}
    {entity : α → Entity} {owner : Identifier} {as : List α} {items : List Model.ClassItem}
    (h : documentEach f as = .ok items)
    (hf : ∀ a item, f a = .ok item →
      Model.declaredClassItems [item] = [owner.ofEntity (entity a)]) :
  Model.declaredClassItems items = (as.map entity).map owner.ofEntity
  := by
  induction as generalizing items with
  | nil =>
    obtain rfl := Except.ok.inj h
    rfl
  | cons a as ih =>
    simp [documentEach] at h
    obtain ⟨item, hitem, rest, hrest, rfl⟩ := h
    rw [← List.singleton_append, Model.declaredClassItems_append, hf a item hitem, ih hrest]
    rfl

/-- The items of a documented class are the entities of its class type. -/
theorem ClassType.document_declared {owner : Identifier} {type : ClassType}
    {out : Model.ClassTypeExpr} (h : type.document scope names owner = .ok out) :
  out.declared = type.entities.map owner.ofEntity
  := by
  cases type with
  | constr p args =>
    simp [ClassType.document] at h
    obtain ⟨r, -, args', -, rfl⟩ := h
    rfl
  | signature body =>
    simp [ClassType.document] at h
    obtain ⟨vars, hvars, methods, hmethods, self, -, rfl⟩ := h
    have hvars' : Model.declaredClassItems vars
        = (body.instanceVariables.map InstanceVariable.entity).map owner.ofEntity := by
      apply declaredClassItems_of_documentEach hvars
      intro v item hitem
      simp [InstanceVariable.document] at hitem
      obtain ⟨type, -, rfl⟩ := hitem
      rfl
    have hmethods' : Model.declaredClassItems methods
        = (body.methods.map Method.entity).map owner.ofEntity := by
      apply declaredClassItems_of_documentEach hmethods
      intro m item hitem
      simp [Method.document] at hitem
      obtain ⟨type, -, rfl⟩ := hitem
      rfl
    rw [Model.ClassTypeExpr.declared, Model.declaredClassItems_append, hvars', hmethods',
      ClassType.entities, List.map_append]
  | arrow label arg res => cases h

/-- A class declares the entities of its type, whatever arguments it takes. -/
theorem ClassType.documentDecl_declared {owner : Identifier} {type : ClassType}
    {out : Model.ClassDecl} (h : type.documentDecl scope names owner = .ok out) :
  out.declared = type.entities.map owner.ofEntity
  := by
  induction type generalizing out with
  | constr p args =>
    simp [ClassType.documentDecl] at h
    obtain ⟨type, htype, rfl⟩ := h
    apply ClassType.document_declared htype
  | signature body =>
    simp [ClassType.documentDecl] at h
    obtain ⟨type, htype, rfl⟩ := h
    apply ClassType.document_declared htype
  | arrow label arg res ih =>
    simp [ClassType.documentDecl] at h
    obtain ⟨arg', -, res', hres, rfl⟩ := h
    rw [Model.ClassDecl.declared, ClassType.entities]
    apply ih hres

/-- What a class declares is spread over its identifier. -/
theorem ClassDeclaration.document_spread {x : Ident} {d : ClassDeclaration} {out : Model.Class}
    (hdistinct : d.type.entities.Nodup)
    (h : (d.document config scope parent x).outcome = .ok out) :
  Spread {parent.child .classDef x.name} out.declared
  := by
  simp [ClassDeclaration.document] at h
  obtain ⟨type, htype, rfl⟩ := h
  apply Spread.node
  rw [ClassType.documentDecl_declared htype]
  exact (Spread.map_ofEntity hdistinct).mono (Identifier.children_subset_nested _ _)

/-- What a class type declaration declares is spread over its identifier. -/
theorem ClassTypeDeclaration.document_spread {x : Ident} {d : ClassTypeDeclaration}
    {out : Model.ClassType} (hdistinct : d.type.entities.Nodup)
    (h : (d.document config scope parent x).outcome = .ok out) :
  Spread {parent.child .classType x.name} out.declared
  := by
  simp [ClassTypeDeclaration.document] at h
  obtain ⟨type, htype, rfl⟩ := h
  apply Spread.node
  rw [ClassType.document_declared htype]
  exact (Spread.map_ofEntity hdistinct).mono (Identifier.children_subset_nested _ _)

end Compiled

namespace Written

/-- The fields of a documented record are those of its labels. -/
theorem documentLabels_spread {labels : List LabelDeclaration} {out : List Model.Field}
    (h : (Reading.each (LabelDeclaration.document config scope parent) labels).outcome = .ok out)
    (hdistinct : (labels.map LabelDeclaration.entity).Nodup) :
  Spread parent.nested (out.map Model.Field.id)
  := by
  rw [List.map_eq_flatMap]
  apply (Spread.each h hdistinct _).mono (parent.children_subset_nested _)
  intro d _ field hfield
  simp [LabelDeclaration.document] at hfield
  obtain ⟨type, -, rfl⟩ := hfield
  apply Spread.singleton _

theorem ConstructorArguments.document_spread {args : ConstructorArguments}
    {out : Model.ConstructorArgs} (hdistinct : args.isDistinct)
    (h : (args.document config scope parent).outcome = .ok out) :
  Spread parent.nested out.declared
  := by
  cases args with
  | tuple types =>
    simp [ConstructorArguments.document] at h
    obtain ⟨types', -, rfl⟩ := h
    apply Spread.nil
  | record labels =>
    simp [ConstructorArguments.document] at h
    obtain ⟨fields, hfields, rfl⟩ := h
    simp [ConstructorArguments.isDistinct] at hdistinct
    apply documentLabels_spread hfields hdistinct

/-- What a written constructor declares is spread over its identifier. -/
theorem ConstructorDeclaration.document_spread {d : ConstructorDeclaration}
    {out : Model.Constructor} (hdistinct : d.args.isDistinct)
    (h : (d.document config scope parent).outcome = .ok out) :
  Spread {parent.ofEntity d.entity} out.declared
  := by
  simp [ConstructorDeclaration.document] at h
  obtain ⟨args, hargs, result, -, rfl⟩ := h
  apply Spread.node
  apply ConstructorArguments.document_spread hdistinct hargs

/-- What a distinct kind of a written type declares is spread below the type. -/
theorem TypeKind.document_spread {id : Identifier} {kind : TypeKind}
    {out : Option Model.Representation} (hdistinct : kind.isDistinct)
    (h : (kind.document config scope id).outcome = .ok out) :
  Spread id.nested (out.toList.flatMap Model.Representation.declared)
  := by
  cases kind with
  | abstract =>
    obtain rfl := Except.ok.inj h
    apply Spread.nil
  | variant constructors =>
    simp [TypeKind.document] at h
    obtain ⟨constructors', hconstructors, rfl⟩ := h
    simp [TypeKind.isDistinct] at hdistinct
    rw [Option.toList_some, List.flatMap_singleton]
    apply (Spread.each hconstructors hdistinct.1 _).mono (id.children_subset_nested _)
    intro d hd c hc
    apply ConstructorDeclaration.document_spread (hdistinct.2 d hd) hc
  | record labels =>
    simp [TypeKind.document] at h
    obtain ⟨fields, hfields, rfl⟩ := h
    simp [TypeKind.isDistinct] at hdistinct
    rw [Option.toList_some, List.flatMap_singleton]
    apply documentLabels_spread hfields hdistinct
  | extensible =>
    obtain rfl := Except.ok.inj h
    apply Spread.nil

/-- What a written type declaration declares is spread over its identifier. -/
theorem TypeDeclaration.document_spread {d : TypeDeclaration} {out : Model.TypeDecl}
    (hdistinct : d.kind.isDistinct) (h : (d.document config scope parent).outcome = .ok out) :
  Spread {parent.ofEntity d.entity} out.declared
  := by
  simp [TypeDeclaration.document] at h
  obtain ⟨equation, -, representation, hrepresentation, rfl⟩ := h
  apply Spread.node
  apply TypeKind.document_spread hdistinct hrepresentation

theorem ValueDescription.document_declared {d : ValueDescription} {out : Model.Item}
    (h : (d.document config scope parent).outcome = .ok out) :
  out.declared false = [parent.child .value d.ident.name]
  := by
  simp [ValueDescription.document] at h
  obtain ⟨type, -, rfl⟩ := h
  split
  · rfl
  · rfl

/-- What a constructor of an extensible type declares is spread over it. -/
theorem ExtensionConstructor.document_spread {id : Identifier} {d : ExtensionConstructor}
    {out : Model.Constructor} (hdistinct : d.isDistinct)
    (h : (d.document config scope id).outcome = .ok out) :
  Spread {id} out.declared
  := by
  unfold ExtensionConstructor.document at h
  unfold ExtensionConstructor.isDistinct at hdistinct
  cases hkind : d.kind with
  | declared args result =>
    simp [hkind] at h hdistinct
    obtain ⟨args', hargs, result', -, rfl⟩ := h
    apply Spread.node
    apply ConstructorArguments.document_spread hdistinct hargs
  | rebound path => simp [hkind] at h

/-- What an extension declares is spread over its constructors if they are distinct. -/
theorem TypeExtension.document_spread {d : TypeExtension} {out : Model.Extension}
    (hdistinct : d.constructors.all ExtensionConstructor.isDistinct)
    (hentities : (d.constructors.map ExtensionConstructor.entity).Nodup)
    (h : (d.document config scope parent).outcome = .ok out) :
  Spread (parent.children (d.constructors.map ExtensionConstructor.entity)) out.declared
  := by
  simp [TypeExtension.document] at h
  obtain ⟨typePath, -, constructors, hconstructors, params, -, rfl⟩ := h
  apply Spread.each hconstructors hentities
  intro c hc out hout
  apply ExtensionConstructor.document_spread (List.all_eq_true.mp hdistinct c hc) hout

mutual

/-- The items of a documented class are the entities of its class type. -/
theorem ClassType.document_declared {owner : Identifier} :
  ∀ {type : ClassType} {out : Model.ClassTypeExpr},
    (type.document config scope owner).outcome = .ok out →
      out.declared = type.entities.map owner.ofEntity
  | .constr _ p args, _, h => by
    simp [ClassType.document] at h
    obtain ⟨r, -, args', -, rfl⟩ := h
    rfl
  | .signature _ self fields, _, h => by
    simp [ClassType.document] at h
    obtain ⟨self', -, items, hitems, rfl⟩ := h
    apply documentFields_declared hitems
  | .arrow _ _ _ _, _, h => by cases h

/-- The fields of a class declare their entities. -/
theorem documentFields_declared {owner : Identifier} :
  ∀ {fields : List ClassField} {out : List Model.ClassItem},
    (documentFields config scope owner fields).outcome = .ok out →
      Model.declaredClassItems out = (fieldEntities fields).map owner.ofEntity
  | [], _, h => by
    obtain rfl := Except.ok.inj h
    rfl
  | .inherit _ type :: fields, _, h => by
    simp [documentFields] at h
    obtain ⟨type', htype, items, hitems, rfl⟩ := h
    rw [Model.declaredClassItems, ClassType.document_declared htype,
      documentFields_declared hitems, fieldEntities, List.map_append]
  | .instanceVariable _ name _ _ type :: fields, _, h => by
    simp [documentFields] at h
    obtain ⟨type', -, items, hitems, rfl⟩ := h
    rw [Model.declaredClassItems, documentFields_declared hitems, fieldEntities]
    rfl
  | .method _ name _ _ type :: fields, _, h => by
    simp [documentFields] at h
    obtain ⟨type', -, items, hitems, rfl⟩ := h
    rw [Model.declaredClassItems, documentFields_declared hitems, fieldEntities]
    rfl
  | .constraint _ left right :: fields, _, h => by
    simp [documentFields] at h
    obtain ⟨left', -, right', -, items, hitems, rfl⟩ := h
    rw [Model.declaredClassItems, documentFields_declared hitems, fieldEntities]
  | .floating _ a :: fields, _, h => by
    simp [documentFields] at h
    obtain ⟨items, hitems, rfl⟩ := h
    rw [Model.declaredClassItems_append, Model.declaredClassItems_comments,
      documentFields_declared hitems]
    rfl

end

theorem ClassType.documentDecl_declared {owner : Identifier} :
  ∀ {type : ClassType} {out : Model.ClassDecl},
    (type.documentDecl config scope owner).outcome = .ok out →
      out.declared = type.entities.map owner.ofEntity
  | .constr _ p args, _, h => by
    simp [ClassType.documentDecl] at h
    obtain ⟨type, htype, rfl⟩ := h
    apply ClassType.document_declared htype
  | .signature _ self fields, _, h => by
    simp [ClassType.documentDecl] at h
    obtain ⟨type, htype, rfl⟩ := h
    apply ClassType.document_declared htype
  | .arrow _ label arg res, _, h => by
    simp [ClassType.documentDecl] at h
    obtain ⟨arg', -, res', hres, rfl⟩ := h
    rw [Model.ClassDecl.declared, ClassType.entities]
    apply documentDecl_declared hres

/-- What a written class declares is spread over its identifier. -/
theorem ClassDeclaration.document_spread {d : ClassDeclaration} {out : Model.Class}
    (hdistinct : d.type.entities.Nodup)
    (h : (d.document config scope parent).outcome = .ok out) :
  Spread {parent.ofEntity d.entity} out.declared
  := by
  simp [ClassDeclaration.document] at h
  obtain ⟨params, -, type, htype, rfl⟩ := h
  apply Spread.node
  rw [ClassType.documentDecl_declared htype]
  exact (Spread.map_ofEntity hdistinct).mono (Identifier.children_subset_nested _ _)

/-- What a written class type declares is spread over its identifier. -/
theorem ClassDeclaration.documentClassType_spread {d : ClassDeclaration} {out : Model.ClassType}
    (hdistinct : d.type.entities.Nodup)
    (h : (d.documentClassType config scope parent).outcome = .ok out) :
  Spread {parent.ofEntity d.classTypeEntity} out.declared
  := by
  simp [ClassDeclaration.documentClassType] at h
  obtain ⟨params, -, type, htype, rfl⟩ := h
  apply Spread.node
  rw [ClassType.document_declared htype]
  exact (Spread.map_ofEntity hdistinct).mono (Identifier.children_subset_nested _ _)

end Written

end InterfaceDocs
