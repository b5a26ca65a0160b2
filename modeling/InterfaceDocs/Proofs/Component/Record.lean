import InterfaceDocs.Proofs.Component.Scope
import InterfaceDocs.Proofs.Identity

/-!
# Records of components

Documenting a signature gives one record for each of its components, in their order, and the
record bears the identifier that binding the signature gives to the component
(`Written.documentItems_records`).  So the two passes over a signature agree: an identifier of a
component is found with the identifier of the component's record, and the members of the
signature's shape are named by the records of its exposed components
(`bindWritten_agrees_with_records`).
-/

namespace InterfaceDocs

namespace Model

/-- The record of a component: its namespace, its identifier and whether it is exposed. -/
structure Record where
  space : Namespace
  id : Identifier
  exposed : Bool

/-- The namespace and the name of the component that a record is about, if it is exposed. -/
def Record.key? (r : Record) : Option (Namespace × String) :=
  if r.exposed then some (r.space, r.id.name) else none

mutual

/-- The records of components among the items of a signature, in order. -/
def records : List Item → List Record
  | [] => []
  | item :: items => item.records ++ records items

/-- The record of the component that an item declares; the records of an include are those of
its content. -/
def Item.records : Item → List Record
  | .module _ m => [⟨.module, m.id, true⟩]
  | .moduleType t => [⟨.moduleType, t.id, true⟩]
  | .moduleSubstitution s => [⟨.module, s.id, false⟩]
  | .type _ d => [⟨.type, d.id, true⟩]
  | .typeSubstitution d => [⟨.type, d.id, false⟩]
  | .extension _ => []
  | .exception _ => []
  | .value _ => []
  | .external _ => []
  | .class _ c => [⟨.classDef, c.id, true⟩]
  | .classType _ c => [⟨.classType, c.id, true⟩]
  | .included ⟨_, _, _, _, _, ⟨content, _⟩⟩ => records content
  | .comment _ => []

end

/-- The records of items are listed item by item. -/
theorem records_append (items others : List Item) :
  records (items ++ others) = records items ++ records others
  := by
  induction items with
  | nil => rfl
  | cons item items ih => rw [List.cons_append, records, ih, records, List.append_assoc]

/-- Comments have no records. -/
theorem records_comments (comments : List CommentItem) :
  records (comments.map .comment) = []
  := by
  induction comments with
  | nil => rfl
  | cons c comments ih => apply ih

theorem records_singleton (item : Item) :
  records [item] = item.records
  := List.append_nil _

/-- Lifting a leading comment into the summary keeps the records. -/
theorem records_ofItems (lift : Bool) (items : List Item) :
  records (Signature.ofItems lift items).items = records items
  := by
  unfold Signature.ofItems
  split
  · split
    · rfl
    · rfl
  · rfl

/-- An include has the records of its content. -/
theorem records_included (parent : Identifier) (doc : Doc) (type : ModuleTypeExpr)
    (status : IncludeStatus) (resolved : Bool) (content : Signature) :
  (Item.included ⟨parent, doc, type, status, resolved, content⟩).records
    = records content.items
  := by
  cases content
  rfl

end Model

/-- The record of a component of the signature that `parent` owns. -/
def Component.record (parent : Identifier) (c : Component) : Model.Record :=
  ⟨c.space, c.id parent, c.exposed⟩

variable {config : Config} {scope : Scope} {parent : Identifier}

/-! ### Compiled signatures -/

namespace Compiled

theorem ValueDescription.document_records {x : Ident} {d : ValueDescription} {item : Model.Item}
    (h : (d.document config scope parent x).outcome = .ok item) :
  item.records = []
  := by
  simp [document] at h
  obtain ⟨type, -, rfl⟩ := h
  split
  · rfl
  · rfl

/-- Documenting the items of a compiled signature gives the records of their components. -/
theorem documentItems_records :
  ∀ {items : List SignatureItem} {continues : Bool} {following : Following},
    (documentItems config scope parent continues items).outcome = .ok following →
      Model.records following.items
        = (items.flatMap SignatureItem.components).map (Component.record parent)
  | [], _, _, h => by
    obtain rfl := Except.ok.inj h
    rfl
  | .value x d :: items, _, _, h => by
    simp [documentItems] at h
    obtain ⟨item, hitem, rest, hrest, rfl⟩ := h
    rw [Following.cons, Model.records, documentItems_records hrest,
      ValueDescription.document_records hitem]
    rfl
  | .type x d status :: items, _, _, h => by
    simp [documentItems] at h
    obtain ⟨decl, hdecl, rest, hrest, rfl⟩ := h
    rw [Following.cons, Model.records, documentItems_records hrest, Model.Item.records,
      TypeDeclaration.document_id hdecl]
    rfl
  | .extension x d status :: items, _, _, h => by
    by_cases hexception : status = .exception
    · subst hexception
      simp [documentItems] at h
      obtain ⟨c, hc, rest, hrest, rfl⟩ := h
      have hrecords := documentItems_records hrest
      apply hrecords
    · simp [documentItems] at h
      obtain ⟨c, hc, h⟩ := h
      split at h
      · simp at h
        obtain ⟨rest, hrest, rfl⟩ := h
        have hrecords := documentItems_records hrest
        apply hrecords
      · simp at h
        obtain ⟨head, hhead, rest, hrest, rfl⟩ := h
        have hrecords := documentItems_records hrest
        apply hrecords
  | .module x ⟨type, attributes, loc⟩ status :: items, _, _, h => by
    obtain ⟨declType, _, _, _, rest, hrest, rfl, rfl, -⟩ := documentItems_module h
    rw [Following.cons, Model.records, documentItems_records hrest]
    rfl
  | .moduleType x ⟨some type, attributes, loc⟩ :: items, _, _, h => by
    simp [documentItems] at h
    obtain ⟨out, hout, rest, hrest, rfl⟩ := h
    rw [Following.cons, Model.records, documentItems_records hrest]
    rfl
  | .moduleType x ⟨none, attributes, loc⟩ :: items, _, _, h => by
    simp [documentItems] at h
    obtain ⟨rest, hrest, rfl⟩ := h
    rw [Following.cons, Model.records, documentItems_records hrest]
    rfl
  | .class x d status :: items, _, _, h => by
    simp [documentItems] at h
    obtain ⟨decl, hdecl, rest, hrest, rfl⟩ := h
    rw [Following.cons, Model.records, documentItems_records hrest, Model.Item.records,
      ClassDeclaration.document_id hdecl]
    rfl
  | .classType x d status :: items, _, _, h => by
    simp [documentItems] at h
    obtain ⟨decl, hdecl, rest, hrest, rfl⟩ := h
    rw [Following.cons, Model.records, documentItems_records hrest, Model.Item.records,
      ClassTypeDeclaration.document_id hdecl]
    rfl

end Compiled

/-! ### Written signatures -/

namespace Written

/-- The records of an item behind its comments are the records of the item. -/
theorem documentCommented_records {attributes : List Attribute} {item : Reading Model.Item}
    {documented : List Model.Item}
    (h : (documentCommented config attributes item).outcome = .ok documented) :
  ∃ i, item.outcome = .ok i ∧ Model.records documented = i.records
  := by
  simp [documentCommented] at h
  obtain ⟨i, hi, rfl⟩ := h
  use i, hi
  rw [Model.records_append, Model.records_comments, Model.records_singleton, List.nil_append]

/-- If each member of a group gives the record of its component, then the group gives the
records of its components. -/
theorem documentGroup_records {α : Type} {attributes : α → List Attribute}
    {document : Model.RecFlag → α → Reading Model.Item} {component : α → Component}
    (hdocument : ∀ flag d item, (document flag d).outcome = .ok item →
      item.records = [(component d).record parent])
    {ds : List α} {flag : Model.RecFlag} {documented : List Model.Item}
    (h : (documentGroup config attributes document flag ds).outcome = .ok documented) :
  Model.records documented = (ds.map component).map (Component.record parent)
  := by
  induction ds generalizing flag documented with
  | nil =>
    obtain rfl := Except.ok.inj h
    rfl
  | cons d ds ih =>
    simp [documentGroup] at h
    obtain ⟨items, hitems, rest, hrest, rfl⟩ := h
    obtain ⟨item, hitem, hrecords⟩ := documentCommented_records hitems
    rw [Model.records_append, hrecords, hdocument flag d item hitem, ih hrest]
    rfl

theorem ValueDescription.document_records {d : ValueDescription} {item : Model.Item}
    (h : (d.document config scope parent).outcome = .ok item) :
  item.records = []
  := by
  simp [document] at h
  obtain ⟨type, -, rfl⟩ := h
  split
  · rfl
  · rfl

/-- A module has one record, behind the comments that belong to it. -/
theorem ModuleDeclaration.document_records {flag : Model.RecFlag} {d : ModuleDeclaration}
    {documented : List Model.Item}
    (h : (d.document config scope parent flag).outcome = .ok documented) :
  Model.records documented = [(Component.ofIdent .module d.ident []).record parent]
  := by
  rcases d with ⟨x, type, attributes, loc⟩
  obtain ⟨comments, declType, _, _, _, rfl, -⟩ := ModuleDeclaration.document_eq_ok h
  rw [Model.records_append, Model.records_comments, Model.records_singleton, List.nil_append]
  rfl

/-- The modules of a group have one record each. -/
theorem documentModules_records {flag : Model.RecFlag} {ds : List ModuleDeclaration}
    {documented : List Model.Item}
    (h : (documentModules config scope parent flag ds).outcome = .ok documented) :
  Model.records documented
    = (ds.map fun d => Component.ofIdent .module d.ident []).map (Component.record parent)
  := by
  induction ds generalizing flag documented with
  | nil =>
    rw [documentModules] at h
    obtain rfl := Except.ok.inj h
    rfl
  | cons d ds ih =>
    simp [documentModules] at h
    obtain ⟨items, hitems, rest, hrest, rfl⟩ := h
    rw [Model.records_append, ModuleDeclaration.document_records hitems, ih hrest]
    rfl

/-- Documenting an item gives the records of its components. -/
theorem SignatureItem.document_records :
  ∀ {item : SignatureItem} {documented : List Model.Item},
    (item.document config scope parent).outcome = .ok documented →
      Model.records documented = item.components.map (Component.record parent)
  | .value _ d, _, h => by
    rw [SignatureItem.document] at h
    obtain ⟨item, hitem, hrecords⟩ := documentCommented_records h
    rw [hrecords]
    apply ValueDescription.document_records hitem
  | .type _ _ ds, _, h => by
    rw [SignatureItem.document] at h
    apply documentGroup_records _ h
    intro flag d item hitem
    simp [TypeDeclaration.documentItem] at hitem
    obtain ⟨decl, hdecl, rfl⟩ := hitem
    rw [Model.Item.records, TypeDeclaration.document_id hdecl]
    rfl
  | .typeSubst _ ds, _, h => by
    rw [SignatureItem.document] at h
    apply documentGroup_records _ h
    intro flag d item hitem
    simp [TypeDeclaration.documentSubstitution] at hitem
    obtain ⟨decl, hdecl, rfl⟩ := hitem
    rw [Model.Item.records, TypeDeclaration.document_id hdecl]
    rfl
  | .extension _ d, _, h => by
    rw [SignatureItem.document] at h
    obtain ⟨item, hitem, hrecords⟩ := documentCommented_records h
    simp at hitem
    obtain ⟨e, -, rfl⟩ := hitem
    apply hrecords
  | .exception _ d, _, h => by
    rw [SignatureItem.document] at h
    obtain ⟨item, hitem, hrecords⟩ := documentCommented_records h
    simp at hitem
    obtain ⟨c, -, rfl⟩ := hitem
    apply hrecords
  | .module _ d, _, h => by
    rw [SignatureItem.document] at h
    apply ModuleDeclaration.document_records h
  | .moduleSubst _ d, _, h => by
    rw [SignatureItem.document] at h
    obtain ⟨item, hitem, hrecords⟩ := documentCommented_records h
    simp [ModuleSubstitution.document] at hitem
    obtain ⟨r, -, rfl⟩ := hitem
    apply hrecords
  | .recModule _ ds, _, h => by
    rw [SignatureItem.document] at h
    apply documentModules_records h
  | .moduleType _ ⟨x, some _, _, _⟩, _, h => by
    rw [SignatureItem.document] at h
    obtain ⟨item, hitem, hrecords⟩ := documentCommented_records h
    simp at hitem
    obtain ⟨out, -, rfl⟩ := hitem
    apply hrecords
  | .moduleType _ ⟨x, none, _, _⟩, _, h => by
    rw [SignatureItem.document] at h
    obtain ⟨item, hitem, hrecords⟩ := documentCommented_records h
    simp at hitem
    obtain rfl := hitem
    apply hrecords
  | .opened _ _, _, h => by
    obtain rfl := Except.ok.inj h
    rfl
  | .included _ ⟨_, content, _, _⟩, _, h => by
    rw [SignatureItem.document] at h
    obtain ⟨item, hitem, hrecords⟩ := documentCommented_records h
    simp [Compiled.Signature.document] at hitem
    obtain ⟨type', -, following, hfollowing, rfl⟩ := hitem
    rw [hrecords, Model.records_included, Model.records_ofItems]
    apply Compiled.documentItems_records hfollowing
  | .class _ ds, _, h => by
    rw [SignatureItem.document] at h
    apply documentGroup_records _ h
    intro flag d item hitem
    simp [ClassDeclaration.documentItem] at hitem
    obtain ⟨c, hc, rfl⟩ := hitem
    rw [Model.Item.records, ClassDeclaration.document_id hc]
    rfl
  | .classType _ ds, _, h => by
    rw [SignatureItem.document] at h
    apply documentGroup_records _ h
    intro flag d item hitem
    simp [ClassDeclaration.documentClassTypeItem] at hitem
    obtain ⟨c, hc, rfl⟩ := hitem
    rw [Model.Item.records, ClassDeclaration.documentClassType_id hc]
    rfl
  | .floating _ a, _, h => by
    simp [SignatureItem.document] at h
    obtain rfl := h
    apply Model.records_comments _

/-- Documenting the items of a signature gives the records of their components. -/
theorem documentItems_records {items : List SignatureItem} {documented : List Model.Item}
    (h : (documentItems config scope parent items).outcome = .ok documented) :
  Model.records documented
    = (items.flatMap SignatureItem.components).map (Component.record parent)
  := by
  induction items generalizing documented with
  | nil =>
    rw [documentItems] at h
    obtain rfl := Except.ok.inj h
    rfl
  | cons item items ih =>
    simp [documentItems] at h
    obtain ⟨first, hfirst, rest, hrest, rfl⟩ := h
    rw [Model.records_append, SignatureItem.document_records hfirst, ih hrest,
      List.flatMap_cons, List.map_append]

/-- The records of a documented signature are those of its components. -/
theorem Signature.document_records {signature : Signature} {out : Model.Signature}
    (h : (Signature.document config scope parent signature).outcome = .ok out) :
  Model.records out.items
    = (signature.flatMap SignatureItem.components).map (Component.record parent)
  := by
  simp [Signature.document] at h
  obtain ⟨documented, hdocumented, rfl⟩ := h
  rw [Model.records_ofItems]
  apply documentItems_records hdocumented

end Written

/-! ### Agreement of the passes -/

/-- Binding and documenting a signature agree.  If the identifiers of its components have
different stamps, each identifier of a component is found in the bound scope with the identifier
of the component's record.  The members of its shape are named by the records of the exposed
components, in the order of their first occurrences. -/
theorem bindWritten_agrees_with_records (info : Written.NodeInfo) {signature : Written.Signature}
    {out : Model.Signature}
    (h : (Written.Signature.document config scope parent signature).outcome = .ok out) :
  ((Written.boundStamps signature).Nodup →
    List.Forall₂
      (fun c r => ∀ x ∈ c.idents,
        ((scope.bindWritten parent signature).scope.find? x).map Binding.id = some r.id)
      (signature.flatMap Written.SignatureItem.components) (Model.records out.items)) ∧
  (scope.writtenShape parent (.signature info signature)).memberNames
    = ((Model.records out.items).filterMap Model.Record.key?).eraseDups
  := by
  have hdeclares := Scope.bindWrittenItems_declares parent ⟨scope, []⟩ signature
  rw [Written.Signature.document_records h]
  constructor
  · intro hstamps
    rw [List.forall₂_map_right_iff, List.forall₂_same]
    intro c hc x hx
    apply hdeclares.scope.find?_of_mem
    · rw [Written.map_stamp_entries]
      apply hstamps
    · rw [List.mem_flatMap]
      use c, hc
      apply List.mem_map_of_mem hx
  · have hmembers := hdeclares.members [] rfl
    rw [Scope.writtenShape, Shape.memberNames, hmembers, List.nil_append, List.filterMap_map]
    rfl

/-- A signature with components of every kind.  The include declares the type `t` again, and its
class has companions. -/
def componentSample : Written.Signature :=
  let info : Written.NodeInfo := ⟨.none, []⟩
  let type (x : Ident) : Written.TypeDeclaration :=
    ⟨x, [], [], .abstract, .publicly, none, .none, []⟩
  let module (x : Ident) : Written.ModuleDeclaration := ⟨x, .signature info [], [], .none⟩
  let body : Written.ClassType := .signature info (.any info) []
  [.type .none .recursive [type ⟨"t", 1, 0⟩, type ⟨"u", 2, 0⟩],
    .typeSubst .none [type ⟨"s", 3, 0⟩],
    .module .none (module ⟨"M", 4, 0⟩),
    .moduleSubst .none ⟨⟨"N", 5, 0⟩, .ident ⟨"M", 4, 0⟩, [], .none⟩,
    .recModule .none [module ⟨"A", 6, 0⟩, module ⟨"B", 7, 0⟩],
    .moduleType .none ⟨⟨"S", 8, 0⟩, none, [], .none⟩,
    .class .none [⟨.concrete, [], ⟨"c", 9, 0⟩, ⟨"c", 10, 0⟩, ⟨"c", 11, 0⟩, body, .none, []⟩],
    .classType .none [⟨.concrete, [], ⟨"d", 12, 0⟩, ⟨"d", 13, 0⟩, ⟨"d", 14, 0⟩, body, .none, []⟩],
    .included .none ⟨.path info (.ident ⟨"S", 8, 0⟩),
      [.type ⟨"t", 15, 0⟩ ⟨[], .abstract, .publicly, none, [], .none, []⟩ .first,
        .class ⟨"e", 16, 0⟩ ⟨some ⟨"e", 17, 0⟩, some ⟨"e", 18, 0⟩, [],
          .signature ⟨none, [], []⟩, [], .none, []⟩ .first], .none, []⟩]

/-- The components of `componentSample` are found as what its records say, though two of them have
one name. -/
theorem componentSample_agrees :
  let root : Identifier := .root "pkg" "U"
  (Written.boundStamps componentSample).Nodup ∧ ∃ out,
    (Written.Signature.document .standard .empty root componentSample).outcome = .ok out ∧
      (Model.records out.items).map (fun r => r.id.text)
        = ["U.type-t", "U.type-u", "U.type-s", "U.module-M", "U.module-N", "U.module-A",
          "U.module-B", "U.module-type-S", "U.class-c", "U.class-type-d", "U.type-t",
          "U.class-e"] ∧
      List.Forall₂
        (fun c r => ∀ x ∈ c.idents,
          ((Scope.empty.bindWritten root componentSample).scope.find? x).map Binding.id
            = some r.id)
        (componentSample.flatMap Written.SignatureItem.components) (Model.records out.items) ∧
      ((Model.records out.items).filterMap Model.Record.key?).eraseDups
        = [(.type, "t"), (.type, "u"), (.module, "M"), (.module, "A"), (.module, "B"),
          (.moduleType, "S"), (.classDef, "c"), (.classType, "d"), (.classDef, "e")]
  := by
  intro root
  have hstamps : (Written.boundStamps componentSample).Nodup := by decide
  use hstamps
  obtain ⟨out, hout⟩ : ∃ out,
    (Written.Signature.document .standard .empty root componentSample).outcome = .ok out :=
    ⟨_, rfl⟩
  obtain ⟨hfound, hnames⟩ := bindWritten_agrees_with_records ⟨.none, []⟩ hout
  use out, hout, ?_, hfound hstamps, ?_
  · obtain rfl := Except.ok.inj hout
    rfl
  · rw [← hnames]
    rfl

end InterfaceDocs
