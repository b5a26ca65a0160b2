import InterfaceDocs.Load.Interface
import InterfaceDocs.Proofs.Image.Declaration
import InterfaceDocs.Proofs.Image.Scope

/-!
# Documenting images of signatures

A written signature and its compiled image are documented with the same value
(`written_agrees_with_compiled`): the two readers and the two ways of binding a signature agree
wherever a written signature has a compiled image.
-/

namespace InterfaceDocs

open Outcome (Same)

namespace Outcome

variable {α : Type}

/-- The elements of one outcome before those of another. -/
def append (x y : Except LoadError (List α)) : Except LoadError (List α) := do
  return (← x) ++ (← y)

theorem append_assoc (x y z : Except LoadError (List α)) :
  append (append x y) z = append x (append y z)
  := by
  rcases x with e | a
  · rfl
  rcases y with e | b
  · rfl
  rcases z with e | c
  · rfl
  apply congrArg Except.ok (List.append_assoc a b c)

/-- Two readings of lists give the first list in front of the second one. -/
theorem outcome_append (x y : Reading (List α)) :
  (do return (← x) ++ (← y) : Reading (List α)).outcome = append x.outcome y.outcome
  := by
  simp only [Reading.outcome_bind]
  rfl

end Outcome

/-- Whatever stands before them, the compiled items are documented as the given items, and none
of them continues an extension. -/
def Compiled.DocumentedAs (config : Config) (scope : Scope) (parent : Identifier)
    (items : List SignatureItem) (documented : Except LoadError (List Model.Item)) : Prop :=
  ∀ continues, Same (documented >>= fun out => .ok ⟨[], out⟩)
    (documentItems config scope parent continues items).outcome

/-- What is made of the items alone has the same value. -/
theorem Compiled.DocumentedAs.bind {α : Type} {config : Config} {scope : Scope}
    {parent : Identifier} {items : List SignatureItem}
    {documented : Except LoadError (List Model.Item)}
    (h : DocumentedAs config scope parent items documented) (continues : Bool)
    (f : List Model.Item → Except LoadError α) :
  Same (documented >>= f)
    ((documentItems config scope parent continues items).outcome >>= fun following =>
      f following.items)
  := by
  have hsteps := (h continues).bind fun following => Same.refl (f following.items)
  rw [bind_assoc] at hsteps
  apply hsteps

namespace Written

variable {config : Config} {scope : Scope} {parent : Identifier}
  {rest : Except LoadError (List Model.Item)} {rest' : List Compiled.SignatureItem}

/-! ### Single items -/

/-- Without standalone comments, an item stands alone. -/
theorem outcome_documentCommented {attributes : List Attribute} (h : NoText config attributes)
    (item : Reading Model.Item) :
  (documentCommented config attributes item).outcome = item.outcome >>= fun i => .ok [i]
  := by
  have hcomments : attributes.filterMap (Load.standaloneComment config) = [] := by
    rw [List.filterMap_eq_nil_iff]
    intro a ha
    rw [Load.standaloneComment, h a ha]
    rfl
  rw [documentCommented, Reading.outcome_bind, Load.outcome_readComments, hcomments]
  change (item >>= fun i => pure [i]).outcome = _
  rw [Reading.outcome_bind]
  rfl

/-- An item without comments and the items behind it have the value of their images. -/
theorem single_same {attributes : List Attribute} (h : NoText config attributes)
    {item item' : Reading Model.Item} (hitem : Same item.outcome item'.outcome)
    (hrest : Compiled.DocumentedAs config scope parent rest' rest) :
  Same
    (Outcome.append (documentCommented config attributes item).outcome rest >>= fun out =>
      .ok ⟨[], out⟩)
    (do
      let i ← item'
      return Compiled.Following.cons i
        (← Compiled.documentItems config scope parent false rest')).outcome
  := by
  have hsteps := hitem.bind fun i => (hrest.bind false) fun out =>
    .ok (⟨[], i :: out⟩ : Compiled.Following)
  rw [outcome_documentCommented h, Outcome.append]
  simp only [Reading.outcome_bind, bind_assoc]
  apply hsteps

/-! ### Groups and extensions -/

/-- The status of the first member of a group is documented as the flag of the group. -/
theorem document_firstStatus (flag : RecFlag) :
  (firstStatus flag).document = firstFlag flag
  := by
  cases flag <;> rfl

/-- A group of types is documented as its image is, in front of what follows. -/
theorem TypeGroupCompiles.document {status : Compiled.RecStatus} {ds : List TypeDeclaration}
    {items : List Compiled.SignatureItem} (h : TypeGroupCompiles config status ds items)
    (hrest : Compiled.DocumentedAs config scope parent rest' rest) :
  Compiled.DocumentedAs config scope parent (items ++ rest')
    (Outcome.append (documentGroup config TypeDeclaration.attributes
      (TypeDeclaration.documentItem config scope parent) status.document ds).outcome rest)
  := by
  induction h with
  | nil =>
    have hnil : Outcome.append (.ok []) rest = rest := by
      rcases rest with e | out <;> rfl
    intro continues
    rw [documentGroup, Reading.outcome_pure, hnil]
    apply hrest continues
  | cons htext hdecl hds ih =>
    intro continues
    rename_i status d d' ds items
    have hgroup : (documentGroup config TypeDeclaration.attributes
        (TypeDeclaration.documentItem config scope parent) status.document (d :: ds)).outcome
        = Outcome.append
          (documentCommented config d.attributes
            (d.documentItem config scope parent status.document)).outcome
          (documentGroup config TypeDeclaration.attributes
            (TypeDeclaration.documentItem config scope parent) .subsequent ds).outcome := by
      rw [documentGroup, Outcome.outcome_append]
    have hitem := Same.step (hdecl.document config scope parent) fun decl =>
      Same.refl (pure (Model.Item.type status.document decl) : Reading Model.Item).outcome
    rw [hgroup, Outcome.append_assoc, List.cons_append, Compiled.documentItems]
    apply Same.trans (single_same htext hitem ih)
    simp only [Reading.outcome_bind, Reading.outcome_pure, bind_assoc]
    apply Same.refl

/-- The constructors that continue an extension are gathered in front of the items behind
them. -/
theorem ExtensionCompiles.following {d : TypeExtension} {cs : List ExtensionConstructor}
    {items : List Compiled.SignatureItem} (h : ExtensionCompiles d .next cs items)
    (hrest : Compiled.DocumentedAs config scope parent rest' rest) :
  Same
    ((Reading.each
        (fun c => c.document config scope (parent.child .extension c.ident.name)) cs).outcome
      >>= fun ks => rest >>= fun out => .ok ⟨ks, out⟩)
    (Compiled.documentItems config scope parent true (items ++ rest')).outcome
  := by
  induction cs generalizing items with
  | nil =>
    cases h
    apply hrest true
  | cons c cs ih =>
    cases h with
    | cons hc _ hnext =>
      have hfirst := hc.document config scope (parent.child .extension c.ident.name)
      have hsteps := hfirst.bind fun k => (ih hnext).bind fun following =>
        Same.refl (.ok (⟨k :: following.constructors, following.items⟩ : Compiled.Following))
      simp only [Reading.each, Reading.outcome_bind, Reading.outcome_pure, bind_assoc,
        List.cons_append, Compiled.documentItems, decide_true, Bool.and_true, if_true]
        at hsteps ⊢
      apply hsteps

/-- An extension without documentation is read by resolving its type and reading its
constructors. -/
theorem TypeExtension.outcome_document {d : TypeExtension} {params : List Model.TypeParam}
    (hattributes : d.attributes = [])
    (hparams : documentParams d.path.last d.params = .ok params) :
  (d.document config scope parent).outcome = do
    let typePath ← scope.resolve .type d.path
    let constructors ← (Reading.each
      (fun c => c.document config scope (parent.child .extension c.ident.name))
        d.constructors).outcome
    return ⟨typePath, .absent, params, d.privacy.isPrivate, constructors⟩
  := by
  simp only [TypeExtension.document, hattributes, hparams, Reading.outcome_bind]
  rfl

/-- A constructor that opens an extension is read before the type of the extension is
resolved. -/
theorem outcome_documentItems_first (x : Ident) (d : Compiled.ExtensionConstructor)
    (continues : Bool) (items : List Compiled.SignatureItem) :
  (Compiled.documentItems config scope parent continues
      (.extension x d .first :: items)).outcome = do
    let constructor ← (d.document config scope (parent.child .extension x.name)).outcome
    let typePath ← scope.resolve .type d.typePath
    let following ← (Compiled.documentItems config scope parent true items).outcome
    return .cons (.extension ⟨typePath, .absent,
      Compiled.documentParams (.collect d.types) d.typeParams [], d.privacy.isPrivate,
      constructor :: following.constructors⟩) following
  := by
  simp only [Compiled.documentItems, reduceCtorEq, decide_false, Bool.and_false,
    Bool.false_eq_true, if_false, Compiled.ExtensionConstructor.documentHead,
    Reading.outcome_bind, Reading.outcome_liftM, Reading.outcome_pure, bind_assoc]
  rfl

/-- An extension is documented as its constructors in the image are, which are gathered in one
extension. -/
theorem ExtensionCompiles.document {d : TypeExtension} {items : List Compiled.SignatureItem}
    (hattributes : d.attributes = []) (hne : d.constructors ≠ [])
    (h : ExtensionCompiles d .first d.constructors items)
    (hrest : Compiled.DocumentedAs config scope parent rest' rest) :
  Compiled.DocumentedAs config scope parent (items ++ rest')
    (Outcome.append
      (documentCommented config d.attributes do
        return .extension (← d.document config scope parent)).outcome rest)
  := by
  intro continues
  obtain ⟨c, cs, hconstructors⟩ := List.exists_cons_of_ne_nil hne
  rw [hconstructors] at h
  cases h with
  | cons hc hhead hnext =>
    rename_i c' items
    let params := Compiled.documentParams (.collect c'.types) c'.typeParams []
    let extension (typePath : Reference) (k : Model.Constructor)
        (following : Compiled.Following) : Except LoadError Compiled.Following :=
      .ok (.cons (.extension ⟨typePath, .absent, params, d.privacy.isPrivate,
        k :: following.constructors⟩) following)
    have hparams : documentParams d.path.last d.params = .ok params :=
      documentParams_of_unmarked _ hhead.params _
    have htext : NoText config d.attributes := by
      simp [NoText, hattributes]
    -- The type is resolved first on one side and second on the other.
    have hsteps := Same.trans
      (Same.bind_comm (scope.resolve .type d.path) _ _)
      ((hc.document config scope (parent.child .extension c.ident.name)).bind fun k =>
        (Same.refl (scope.resolve .type d.path)).bind fun typePath =>
          (hnext.following hrest).bind fun following =>
            Same.refl (extension typePath k following))
    rw [outcome_documentCommented htext, List.cons_append, outcome_documentItems_first,
      hhead.typePath, hhead.privacy]
    simp only [Outcome.append, Reading.outcome_bind, Reading.outcome_pure, Reading.each,
      TypeExtension.outcome_document hattributes hparams, hconstructors, bind_assoc] at hsteps ⊢
    apply hsteps

/-! ### Signatures -/

theorem ModuleTypeCompiles.alias? {type : ModuleType} {type' : Compiled.ModuleType}
    (h : ModuleTypeCompiles config type type') :
  type'.alias? = type.alias?
  := by
  cases h <;> rfl

theorem ModuleTypeCompiles.isSignature {type : ModuleType} {type' : Compiled.ModuleType}
    (h : ModuleTypeCompiles config type type') :
  type'.isSignature = type.isSignature
  := by
  cases h <;> rfl

/-- A module is documented with the value of its image if its type is. -/
theorem module_documentedAs {x : Ident} {type : ModuleType} {type' : Compiled.ModuleType}
    {attributes : List Attribute} {loc loc' : Location} {status : Compiled.RecStatus}
    (htext : NoText config attributes) (htype : ModuleTypeCompiles config type type')
    (hstatus : status ≠ .next)
    (hdocument : Same (type.document config scope (parent.child .module x.name)).outcome
      (type'.document config scope (parent.child .module x.name)).outcome)
    (hrest : Compiled.DocumentedAs config scope parent rest' rest) :
  Compiled.DocumentedAs config scope parent (.module x ⟨type', attributes, loc'⟩ status :: rest')
    (Outcome.append (ModuleDeclaration.document config scope parent .ordinary
      ⟨x, type, attributes, loc⟩).outcome rest)
  := by
  intro continues
  let doc := Doc.ofAttributes config attributes
  let canonical := Load.canonicalPath doc
  let item (declType : Model.ModuleDeclType) : Reading Model.Item :=
    pure (.module .ordinary ⟨parent.child .module x.name, doc, declType, canonical,
      Load.isHidden config x.name canonical, type.isSignature⟩)
  have hflag : status.documentModule = .ordinary := by
    cases status with
    | alone => rfl
    | first => rfl
    | next => contradiction
  rw [ModuleDeclaration.document, Compiled.documentItems, htype.alias?, htype.isSignature, hflag]
  cases type.alias? with
  | some p =>
    apply Same.trans (single_same htext (Same.refl _) hrest)
    simp only [Reading.outcome_bind, Reading.outcome_pure, bind_assoc]
    apply Same.refl
  | none =>
    have hitem := Same.step hdocument fun t => Same.refl (item (.moduleType t)).outcome
    refine Same.trans
      (single_same htext (Same.skip rfl (Same.skip rfl (Same.skip rfl hitem))) hrest) ?_
    simp only [Reading.outcome_bind, Reading.outcome_pure, bind_assoc]
    apply Same.refl

/-- A module type is documented with the value of its image if its definition is. -/
theorem moduleType_documentedAs {x : Ident} {type : ModuleType} {type' : Compiled.ModuleType}
    {attributes : List Attribute} {loc loc₁ loc₂ : Location}
    (htext : NoText config attributes) (htype : ModuleTypeCompiles config type type')
    (hdocument : Same (type.document config scope (parent.child .moduleType x.name)).outcome
      (type'.document config scope (parent.child .moduleType x.name)).outcome)
    (hrest : Compiled.DocumentedAs config scope parent rest' rest) :
  Compiled.DocumentedAs config scope parent
    (.moduleType x ⟨some type', attributes, loc₂⟩ :: rest')
    (Outcome.append (SignatureItem.document config scope parent
      (.moduleType loc ⟨x, some type, attributes, loc₁⟩)).outcome rest)
  := by
  intro continues
  let doc := Doc.ofAttributes config attributes
  let item (declType : Model.ModuleTypeExpr) : Reading Model.Item := do
    let canonical ← Load.readCanonical doc
    return .moduleType ⟨parent.child .moduleType x.name, doc, some declType, canonical,
      type.isSignature⟩
  have hitem := Same.step hdocument fun t => Same.refl (item t).outcome
  rw [SignatureItem.document, Compiled.documentItems, Option.any, Option.any, htype.isSignature]
  refine Same.trans
    (single_same htext (Same.skip rfl (Same.skip rfl hitem)) hrest) ?_
  simp only [Reading.outcome_bind, Reading.outcome_pure, bind_assoc]
  apply Same.refl

mutual

/-- A module type is documented with the value of its image. -/
theorem ModuleTypeCompiles.document :
  ∀ {type : ModuleType} {type' : Compiled.ModuleType}, ModuleTypeCompiles config type type' →
    ∀ (scope : Scope) (owner : Identifier),
      Same (type.document config scope owner).outcome (type'.document config scope owner).outcome
  | _, _, .path, _, _ => by
    apply Same.refl
  | _, _, .signature hitems, scope, owner => by
    rw [ModuleType.document, Compiled.ModuleType.document, Scope.bindWritten, Scope.bindCompiled,
      hitems.bind]
    simp only [Reading.outcome_bind]
    exact (hitems.document _ owner).bind false fun items =>
      .ok (Model.ModuleTypeExpr.signature (.ofItems config.liftTopComment items))
  | _, _, .generative hresult, scope, owner => by
    apply Same.step (hresult.document scope owner)
    intro result
    apply Same.refl
  | _, _, .functor harg hresult, scope, owner => by
    rw [ModuleType.document, Compiled.ModuleType.document, harg.shape, harg.isSignature]
    apply Same.skip rfl
    apply Same.step (harg.document scope _)
    intro arg
    apply Same.step (hresult.document _ owner)
    intro result
    apply Same.refl
  | _, _, .alias, _, _ => by
    apply Same.error

/-- The items of a signature are documented with the value of their images. -/
theorem ItemsCompile.document :
  ∀ {items : List SignatureItem} {items' : List Compiled.SignatureItem},
    ItemsCompile config items items' → ∀ (scope : Scope) (parent : Identifier),
      Compiled.DocumentedAs config scope parent items'
        (documentItems config scope parent items).outcome
  | _, _, .nil, scope, parent => by
    intro continues
    apply Same.refl
  | _, _, .cons hitem hitems, scope, parent => by
    rw [documentItems, Outcome.outcome_append]
    apply hitem.document scope parent (hitems.document scope parent)

/-- An item of a signature is documented with the value of its images, in front of items that
are documented with the value of their images. -/
theorem ItemCompiles.document :
  ∀ {item : SignatureItem} {items' : List Compiled.SignatureItem},
    ItemCompiles config item items' → ∀ (scope : Scope) (parent : Identifier)
      {rest : Except LoadError (List Model.Item)} {rest' : List Compiled.SignatureItem},
      Compiled.DocumentedAs config scope parent rest' rest →
      Compiled.DocumentedAs config scope parent (items' ++ rest')
        (Outcome.append (item.document config scope parent).outcome rest)
  | _, _, .value htext hd, scope, parent, _, _, hrest => by
    intro continues
    apply Same.trans (single_same htext (hd.document config scope parent) hrest)
    simp only [List.singleton_append, Compiled.documentItems, Reading.outcome_bind]
    apply Same.refl
  | _, _, .type hgroup, scope, parent, _, _, hrest => by
    rw [SignatureItem.document, ← document_firstStatus]
    apply hgroup.document hrest
  | _, _, .extension hattributes hne hconstructors, scope, parent, _, _, hrest => by
    rw [SignatureItem.document]
    apply hconstructors.document hattributes hne hrest
  | .exception _ d, _, .exception htext hd, scope, parent, _, _, hrest => by
    intro continues
    have hconstructor := hd.document config scope (parent.child .exception d.ident.name)
    have hitem := Same.step hconstructor fun c =>
      Same.refl (pure (Model.Item.exception c) : Reading Model.Item).outcome
    apply Same.trans (single_same htext hitem hrest)
    simp only [List.singleton_append, Compiled.documentItems, Reading.outcome_bind,
      Reading.outcome_pure, bind_assoc]
    apply Same.refl
  | _, _, .module htext htype hstatus, scope, parent, _, _, hrest => by
    rw [SignatureItem.document]
    apply module_documentedAs htext htype hstatus (htype.document scope _) hrest
  | _, _, .moduleType htext htype, scope, parent, _, _, hrest =>
    moduleType_documentedAs htext htype (htype.document scope _) hrest
  | _, _, .abstractModuleType htext, scope, parent, _, _, hrest => by
    intro continues
    apply Same.trans (single_same htext (Same.refl _) hrest)
    simp only [List.singleton_append, Compiled.documentItems, Reading.outcome_bind,
      Reading.outcome_pure, bind_assoc]
    apply Same.refl

end

/-- A signature and its image are documented with the same value. -/
theorem ItemsCompile.documentSignature {signature : Signature} {image : Compiled.Signature}
    (h : ItemsCompile config signature image) (scope : Scope) (parent : Identifier) :
  Same (Signature.document config scope parent signature).outcome
    (Compiled.Signature.document config scope parent image).outcome
  := by
  rw [Signature.document, Compiled.Signature.document, Scope.bindWritten, Scope.bindCompiled,
    h.bind]
  simp only [Reading.outcome_bind]
  exact (h.document _ parent).bind false fun items =>
    .ok (Model.Signature.ofItems config.liftTopComment items)

end Written

/-- A written signature and its compiled image bind the same identifiers with the same shapes,
and the same documented signature is read from both or from none of them. -/
theorem written_agrees_with_compiled {config : Config} {signature : Written.Signature}
    {image : Compiled.Signature} (h : Written.ItemsCompile config signature image)
    (scope : Scope) (parent : Identifier) :
  scope.bindWritten parent signature = scope.bindCompiled parent image ∧
    ∀ out, (Written.Signature.document config scope parent signature).outcome = .ok out ↔
      (Compiled.Signature.document config scope parent image).outcome = .ok out
  := by
  constructor
  · apply h.bind parent _
  · apply Outcome.same_iff.mp (h.documentSignature scope parent)

/-- A signature with a type of two constructors and a type that is defined together with it, an
extensible type with two further constructors, an external value with an optional argument and
a polymorphic variant, an exception, an abstract module type, and modules that are given by a
signature, by an alias and as a functor. -/
def imageSample : Written.Signature :=
  let info : Written.NodeInfo := ⟨.none, []⟩
  let docs : List Attribute := [⟨⟨"doc", .none⟩, .str "Documented.", .none⟩]
  let a : Written.CoreType := .var info "a"
  let t : Written.CoreType := .constr info (.ident ⟨"t", 1, 0⟩) [a]
  let abstractType (x : Ident) : Written.TypeDeclaration :=
    ⟨x, [], [], .abstract, .publicly, none, .none, docs⟩
  [.type .none .recursive
      [⟨⟨"t", 1, 0⟩, [⟨a, .covariant, .unmarked⟩], [],
          .variant
            [⟨⟨"A", 2, 0⟩, .tuple [.tuple info [a, t]], none, .none, docs⟩,
              ⟨⟨"B", 3, 0⟩, .record [⟨⟨"x", 4, 0⟩, .mutable, a, .none, []⟩], none, .none, []⟩],
          .publicly, none, .none, docs⟩,
        ⟨⟨"u", 5, 0⟩, [⟨a, .unmarked, .injective⟩], [], .abstract, .privately,
          some (.alias info t "b"), .none, []⟩],
    .type .none .nonrecursive
      [⟨⟨"e", 6, 0⟩, [⟨a, .unmarked, .unmarked⟩], [], .extensible, .publicly, none, .none, []⟩],
    .extension .none ⟨.ident ⟨"e", 6, 0⟩, [⟨a, .unmarked, .unmarked⟩],
      [⟨⟨"X", 7, 0⟩, .declared (.tuple [a]) none, .none, docs⟩,
        ⟨⟨"Y", 8, 0⟩, .declared (.tuple []) none, .none, []⟩], .publicly, .none, []⟩,
    .value .none ⟨⟨"f", 9, 0⟩,
      .arrow info (.optional "start") t
        (.variant info [.tag ⟨"P", .none⟩ [] true [], .tag ⟨"Q", .none⟩ [] false [a]] .closed
          (some ["P"])),
      ["f_byte", "f_native"], .none, docs⟩,
    .exception .none ⟨⟨"E", 10, 0⟩, .declared (.tuple [t]) none, .none, docs⟩,
    .module .none ⟨⟨"M", 11, 0⟩,
      .signature info [.type .none .recursive [abstractType ⟨"t", 12, 0⟩]], docs, .none⟩,
    .module .none ⟨⟨"N", 13, 0⟩, .alias info (.ident ⟨"M", 11, 0⟩), [], .none⟩,
    .moduleType .none ⟨⟨"S", 14, 0⟩, none, docs, .none⟩,
    .module .none ⟨⟨"F", 15, 0⟩,
      .functor info
        (.named ⟨"X", 16, 0⟩
          (.signature info [.type .none .recursive [abstractType ⟨"t", 17, 0⟩]]))
        (.signature info [.value .none ⟨⟨"y", 18, 0⟩,
          .constr info (.dot (.ident ⟨"X", 16, 0⟩) "t") [], [], .none, []⟩]), [], .none⟩]

/-- The compiled image of `imageSample`. -/
def compiledSample : Compiled.Signature :=
  let docs : List Attribute := [⟨⟨"doc", .none⟩, .str "Documented.", .none⟩]
  let a : Compiled.TypeExpr := .var (some "a") 1
  let t : Compiled.TypeExpr := .constr (.ident ⟨"t", 1, 0⟩) [a]
  let abstractType : Compiled.TypeDeclaration := ⟨[], .abstract, .publicly, none, [], .none, docs⟩
  let constructor (args : List Compiled.TypeExpr) (attributes : List Attribute) :
      Compiled.ExtensionConstructor :=
    ⟨.ident ⟨"e", 6, 0⟩, [a], .tuple args, none, .publicly, .none, attributes⟩
  [.type ⟨"t", 1, 0⟩ ⟨[a],
      .variant
        [⟨⟨"A", 2, 0⟩, .tuple [.tuple [a, t]], none, .none, docs⟩,
          ⟨⟨"B", 3, 0⟩, .record [⟨⟨"x", 4, 0⟩, .mutable, a, .none, []⟩], none, .none, []⟩],
      .publicly, none, [⟨17⟩], .none, docs⟩ .first,
    .type ⟨"u", 5, 0⟩ ⟨[a], .abstract, .privately, some (.alias t "b"), [.full], .none, []⟩ .next,
    .type ⟨"e", 6, 0⟩ ⟨[a], .extensible, .publicly, none, [.null], .none, []⟩ .alone,
    .extension ⟨"X", 7, 0⟩ (constructor [a] docs) .first,
    .extension ⟨"Y", 8, 0⟩ (constructor [] []) .next,
    .value ⟨"f", 9, 0⟩
      ⟨.arrow (.optional "start") (.constr (.ident ⟨"option", 2, 2⟩) [t])
        (.variant [.mk "P" (.present none), .mk "Q" (.either false [a])] true none),
      .primitive ⟨"f_byte", 1, "f_native"⟩, .none, docs⟩,
    .extension ⟨"E", 10, 0⟩
      ⟨.ident ⟨"exn", 3, 2⟩, [], .tuple [t], none, .publicly, .none, docs⟩ .exception,
    .module ⟨"M", 11, 0⟩
      ⟨.signature [.type ⟨"t", 12, 0⟩ abstractType .first], docs, .none⟩ .alone,
    .module ⟨"N", 13, 0⟩ ⟨.alias (.ident ⟨"M", 11, 0⟩), [], .none⟩ .alone,
    .moduleType ⟨"S", 14, 0⟩ ⟨none, docs, .none⟩,
    .module ⟨"F", 15, 0⟩
      ⟨.functor ⟨"X", 16, 0⟩ (some (.signature [.type ⟨"t", 17, 0⟩ abstractType .first]))
        (.signature [.value ⟨"y", 18, 0⟩
          ⟨.constr (.dot (.ident ⟨"X", 16, 0⟩) "t") [], .regular, .none, []⟩]), [], .none⟩ .alone]

/-- The image of `imageSample` is `compiledSample`. -/
theorem imageSample_compiles :
  Written.ItemsCompile .standard imageSample compiledSample
  := by
  have htext : Written.NoText .standard [⟨⟨"doc", .none⟩, .str "Documented.", .none⟩] := by
    simp [Written.NoText, Config.isTextAttribute, Config.standard]
  have hnone : Written.NoText .standard [] := by
    simp [Written.NoText]
  let info : Written.NodeInfo := ⟨.none, []⟩
  have ha : Written.TypeCompiles (.var info "a") (.var (some "a") 1) := .var
  have ht : Written.TypeCompiles (.constr info (.ident ⟨"t", 1, 0⟩) [.var info "a"])
      (.constr (.ident ⟨"t", 1, 0⟩) [.var (some "a") 1]) := .constr (.cons ha .nil)
  have hparam (v : Variance) : Written.ParamCompiles ⟨.var info "a", v.mark, v.injectivity⟩
      (.var (some "a") 1) v := .mk
  have hsignature {x : Ident} : Written.ItemsCompile .standard
      [.type .none .recursive [⟨x, [], [], .abstract, .publicly, none, .none, _⟩]]
      ([.type x ⟨[], .abstract, .publicly, none, [], .none, _⟩ .first] ++ []) :=
    .cons (.type (.cons htext ⟨.nil, rfl, .abstract, rfl, .none, rfl⟩ .nil)) .nil
  change Written.ItemsCompile .standard imageSample
    ([_, _] ++ ([_] ++ ([_, _] ++ ([_] ++ ([_] ++ ([_] ++ ([_] ++ ([_] ++ ([_] ++ [])))))))))
  refine .cons (.type ?_) (.cons (.type ?_) (.cons (.extension rfl (by simp) ?_)
    (.cons (.value htext ?_) (.cons (.exception htext ?_) (.cons (.module htext ?_ (by simp))
    (.cons (.module hnone .alias (by simp)) (.cons (.abstractModuleType htext)
    (.cons (.module hnone ?_ (by simp)) .nil))))))))
  · refine .cons htext ⟨.cons (hparam ⟨17⟩) .nil, rfl, .variant ?_, rfl, .none, rfl⟩
      (.cons hnone ⟨.cons (hparam .full) .nil, rfl, .abstract, rfl, .some (.alias ht), rfl⟩ .nil)
    exact .cons ⟨rfl, .tuple (.cons (.tuple (.cons ha (.cons ht .nil))) .nil), .none, rfl⟩
      (.cons ⟨rfl, .record (.cons ⟨rfl, rfl, ha, rfl⟩ .nil), .none, rfl⟩ .nil)
  · exact .cons hnone ⟨.cons (hparam .null) .nil, rfl, .extensible, rfl, .none, rfl⟩ .nil
  · exact .cons (.mk (.tuple (.cons ha .nil)) .none rfl) ⟨rfl, .cons (hparam .null) .nil, rfl⟩
      (.cons (.mk (.tuple .nil) .none rfl) ⟨rfl, .cons (hparam .null) .nil, rfl⟩ .nil)
  · refine ⟨.optionalArrow rfl ht ?_, .native (by simp), rfl⟩
    exact .closedVariant (.constant (.possibleApplied ha .nil)) (by simp)
  · exact .mk (.tuple (.cons ht .nil)) .none rfl
  · exact .signature hsignature
  · apply Written.ModuleTypeCompiles.functor
    · exact .signature hsignature
    · apply Written.ModuleTypeCompiles.signature
      change Written.ItemsCompile .standard _ ([_] ++ [])
      exact .cons (.value hnone ⟨.constr .nil, .regular, rfl⟩) .nil

/-- The same ten items are documented for `imageSample` and for its image. -/
theorem imageSample_agrees :
  let root : Identifier := .root "pkg" "U"
  ∃ out, (Written.Signature.document .standard .empty root imageSample).outcome = .ok out ∧
    (Compiled.Signature.document .standard .empty root compiledSample).outcome = .ok out ∧
      out.items.length = 10
  := by
  intro root
  obtain ⟨out, hout⟩ : ∃ out,
    (Compiled.Signature.document .standard .empty root compiledSample).outcome = .ok out :=
    ⟨_, rfl⟩
  obtain ⟨-, hagree⟩ := written_agrees_with_compiled imageSample_compiles .empty root
  use out, (hagree out).mpr hout, hout
  obtain rfl := Except.ok.inj hout
  rfl

end InterfaceDocs
