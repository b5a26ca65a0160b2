import InterfaceDocs.Proofs.Identity

/-!
# Placement of items and comments

Documenting a written signature keeps its order.  Every item of the signature gives a block of
documented items, and the blocks stand in the order of the items.  A member of an item gives the
standalone comments that its attributes hold and then one record, whose heading tells the
variant, the position in the group and the identifier (`Written.Member.Block`).

A documentation comment in front of all blocks becomes the summary if the configuration says
so.  Since a comment that was read is never absent, the summary tells whether this happened, and
the blocks can be recovered from the signature (`Model.Signature.raw`).

The main statement is `Written.document_placed`.
-/

namespace InterfaceDocs

namespace Model

/-- What a record tells about the declaration that it documents: its variant, its position in a
group, and its identifier.  A type extension has the identifiers of its constructors, an include
that of the signature it stands in. -/
inductive Heading where
  | module (flag : RecFlag) (id : Identifier)
  | moduleType (id : Identifier)
  | moduleSubstitution (id : Identifier)
  | type (flag : RecFlag) (id : Identifier)
  | typeSubstitution (id : Identifier)
  | extension (constructors : List Identifier)
  | exception (id : Identifier)
  | value (id : Identifier)
  | external (id : Identifier)
  | class (flag : RecFlag) (id : Identifier)
  | classType (flag : RecFlag) (id : Identifier)
  | included (parent : Identifier)
  deriving DecidableEq

/-- The heading of an item that is a record; a comment is none. -/
def Item.heading? : Item → Option Heading
  | .module flag m => some (.module flag m.id)
  | .moduleType t => some (.moduleType t.id)
  | .moduleSubstitution s => some (.moduleSubstitution s.id)
  | .type flag d => some (.type flag d.id)
  | .typeSubstitution d => some (.typeSubstitution d.id)
  | .extension e => some (.extension (e.constructors.map Constructor.id))
  | .exception c => some (.exception c.id)
  | .value v => some (.value v.id)
  | .external e => some (.external e.id)
  | .class flag c => some (.class flag c.id)
  | .classType flag c => some (.classType flag c.id)
  | .included i => some (.included i.parent)
  | .comment _ => none

/-- The items of a signature, with a comment that became the summary put back in front. -/
def Signature.raw (s : Signature) : List Item :=
  if s.doc = .absent then s.items else .comment (.docs s.doc) :: s.items

/-- The items are recovered from a signature that is built of comments that are not absent. -/
theorem Signature.raw_ofItems (lift : Bool) {items : List Item}
    (h : .comment (.docs .absent) ∉ items) :
  (Signature.ofItems lift items).raw = items
  := by
  unfold Signature.ofItems
  split
  · rename_i doc rest
    have hdoc : doc ≠ .absent := by
      rintro rfl
      apply h List.mem_cons_self
    split
    · apply if_neg hdoc
    · apply if_pos rfl
  · apply if_pos rfl

/-- The summary is what stands in front of the items, if it is a documentation comment and is to
be lifted. -/
theorem Signature.doc_ofItems_ne_absent_iff (lift : Bool) {items : List Item}
    (h : .comment (.docs .absent) ∉ items) :
  (Signature.ofItems lift items).doc ≠ .absent
    ↔ lift = true ∧ ∃ doc, items.head? = some (.comment (.docs doc))
  := by
  unfold Signature.ofItems
  split
  · rename_i doc rest
    have hdoc : doc ≠ .absent := by
      rintro rfl
      apply h List.mem_cons_self
    split
    · simp_all
    · simp_all
  · rename_i hcomment
    constructor
    · intro hne
      exact absurd rfl hne
    · rintro ⟨-, doc, hhead⟩
      obtain ⟨rest, rfl⟩ := List.head?_eq_some_iff.mp hhead
      exact absurd rfl (hcomment doc rest)

end Model

namespace Load

/-- A text has documentation, be it only the failure of parsing it. -/
theorem ofText_ne_absent (text : String) (loc : Location) :
  Doc.ofText text loc ≠ .absent
  := by
  unfold Doc.ofText
  split
  · simp
  · simp

/-- A standalone comment that was read is not absent. -/
theorem standaloneComment_ne_absent (config : Config) (a : Attribute) :
  standaloneComment config a ≠ some (.docs .absent)
  := by
  unfold standaloneComment
  intro h
  split at h
  · obtain ⟨text, -, htext⟩ := Option.map_eq_some_iff.mp h
    split at htext
    · cases htext
    · apply ofText_ne_absent text a.loc (CommentItem.docs.inj htext)
  · cases h

end Load

namespace Written

/-! ### Blocks -/

/-- A member of an item: the attributes that it carries, and the heading of its record. -/
structure Member where
  attributes : List Attribute
  heading : Model.Heading

/-- The block of a member: the standalone comments of its attributes, and then one record with
its heading. -/
inductive Member.Block (config : Config) (m : Member) : List Model.Item → Prop
  | intro (record : Model.Item) (h : record.heading? = some m.heading) :
    Block config m
      ((m.attributes.filterMap (Load.standaloneComment config)).map .comment ++ [record])

/-- The members of a group: the first one has the given position, the others follow it. -/
def groupMembers {α : Type} (member : Model.RecFlag → α → Member) (first : Model.RecFlag) :
    List α → List Member
  | [] => []
  | d :: ds => member first d :: ds.map (member .subsequent)

/-- The members of an item in the signature that `parent` owns. -/
def SignatureItem.members (parent : Identifier) : SignatureItem → List Member
  | .value _ d =>
    let id := parent.child .value d.ident.name
    [⟨d.attributes, if d.primitives.isEmpty then .value id else .external id⟩]
  | .type _ .recursive ds => groupMembers (typeMember parent) .ordinary ds
  | .type _ .nonrecursive ds => groupMembers (typeMember parent) .nonrecursive ds
  | .typeSubst _ ds =>
    ds.map fun d => ⟨d.attributes, .typeSubstitution (parent.child .type d.ident.name)⟩
  | .extension _ d =>
    [⟨d.attributes, .extension
      (d.constructors.map fun c => parent.child .extension c.ident.name)⟩]
  | .exception _ d => [⟨d.attributes, .exception (parent.child .exception d.ident.name)⟩]
  | .module _ d => [moduleMember parent .ordinary d]
  | .moduleSubst _ d =>
    [⟨d.attributes, .moduleSubstitution (parent.child .module d.ident.name)⟩]
  | .recModule _ ds => groupMembers (moduleMember parent) .ordinary ds
  | .moduleType _ d => [⟨d.attributes, .moduleType (parent.child .moduleType d.ident.name)⟩]
  | .opened _ _ => []
  | .included _ d => [⟨d.attributes, .included parent⟩]
  | .class _ ds => groupMembers (classMember parent) .ordinary ds
  | .classType _ ds => groupMembers (classTypeMember parent) .ordinary ds
  | .floating _ _ => []
where
  typeMember (parent : Identifier) (flag : Model.RecFlag) (d : TypeDeclaration) : Member :=
    ⟨d.attributes, .type flag (parent.child .type d.ident.name)⟩
  moduleMember (parent : Identifier) (flag : Model.RecFlag) (d : ModuleDeclaration) : Member :=
    ⟨d.attributes, .module flag (parent.child .module d.ident.name)⟩
  classMember (parent : Identifier) (flag : Model.RecFlag) (d : ClassDeclaration) : Member :=
    ⟨d.attributes, .class flag (parent.child .classDef d.classIdent.name)⟩
  classTypeMember (parent : Identifier) (flag : Model.RecFlag) (d : ClassDeclaration) : Member :=
    ⟨d.attributes, .classType flag (parent.child .classType d.classTypeIdent.name)⟩

/-- The block of an item: nothing for an opened module, the comment for a floating attribute that
holds one, and otherwise the blocks of its members. -/
def SignatureItem.Block (config : Config) (parent : Identifier) (item : SignatureItem)
    (items : List Model.Item) : Prop :=
  match item with
  | .opened _ _ => items = []
  | .floating _ a => items = (Load.standaloneComment config a).toList.map .comment
  | item =>
    ∃ blocks, List.Forall₂ (Member.Block config) (item.members parent) blocks ∧
      items = blocks.flatten

/-- The items of a documented signature are the blocks of the written items, in order.  A
comment becomes the summary exactly if it is a documentation comment in front of all blocks and
the configuration says so. -/
structure Signature.Placed (config : Config) (parent : Identifier) (items : Signature)
    (s : Model.Signature) : Prop where
  blocks : ∃ blocks, List.Forall₂ (SignatureItem.Block config parent) items blocks ∧
    s.raw = blocks.flatten
  lifted : s.doc ≠ .absent ↔
    config.liftTopComment = true ∧ ∃ doc, s.raw.head? = some (.comment (.docs doc))

/-! ### Members -/

variable {config : Config} {scope : Scope} {parent : Identifier}

/-- Documented behind its comments, an item is the block of a member with its heading. -/
theorem documentCommented_block {attributes : List Attribute} {heading : Model.Heading}
    {item : Reading Model.Item} {items : List Model.Item}
    (h : (documentCommented config attributes item).outcome = .ok items)
    (hitem : ∀ record, item.outcome = .ok record → record.heading? = some heading) :
  Member.Block config ⟨attributes, heading⟩ items
  := by
  simp [documentCommented] at h
  obtain ⟨record, hrecord, rfl⟩ := h
  apply Member.Block.intro
  apply hitem record hrecord

/-- The block of a single member is the only one. -/
theorem Member.Block.single {m : Member} {items : List Model.Item} (h : m.Block config items) :
  ∃ blocks, List.Forall₂ (Member.Block config) [m] blocks ∧ items = blocks.flatten
  := by
  use [items]
  constructor
  · exact .cons h .nil
  · rw [List.flatten_singleton]

theorem groupMembers_subsequent {α : Type} (member : Model.RecFlag → α → Member) (ds : List α) :
  groupMembers member .subsequent ds = ds.map (member .subsequent)
  := by
  cases ds <;> rfl

theorem groupMembers_const {α : Type} (member : α → Member) (flag : Model.RecFlag) (ds : List α) :
  groupMembers (fun _ => member) flag ds = ds.map member
  := by
  cases ds <;> rfl

/-- If each member gives its block, then documenting them one after the other, with the given
position for the first one, gives the blocks of the group. -/
theorem group_blocks {α : Type}
    {documentFrom : Model.RecFlag → List α → Reading (List Model.Item)}
    (documentOne : Model.RecFlag → α → Reading (List Model.Item))
    {member : Model.RecFlag → α → Member}
    (hnil : ∀ flag, documentFrom flag [] = pure [])
    (hcons : ∀ flag d ds, documentFrom flag (d :: ds) = do
      let items ← documentOne flag d
      return items ++ (← documentFrom .subsequent ds))
    (hone : ∀ flag d items, (documentOne flag d).outcome = .ok items →
      (member flag d).Block config items)
    {flag : Model.RecFlag} {ds : List α} {items : List Model.Item}
    (h : (documentFrom flag ds).outcome = .ok items) :
  ∃ blocks, List.Forall₂ (Member.Block config) (groupMembers member flag ds) blocks ∧
    items = blocks.flatten
  := by
  induction ds generalizing flag items with
  | nil =>
    rw [hnil] at h
    obtain rfl := Except.ok.inj h
    use [], .nil
    rfl
  | cons d ds ih =>
    rw [hcons] at h
    simp only [Reading.outcome_bind, Reading.outcome_pure, Outcome.bind_eq_ok, Except.ok.injEq]
      at h
    obtain ⟨first, hfirst, rest, hrest, rfl⟩ := h
    obtain ⟨blocks, hblocks, rfl⟩ := ih hrest
    rw [groupMembers_subsequent] at hblocks
    use first :: blocks, .cons (hone flag d first hfirst) hblocks
    rfl

/-- A group whose members are documented behind their comments gives its blocks. -/
theorem documentGroup_blocks {α : Type} {attributes : α → List Attribute}
    {document : Model.RecFlag → α → Reading Model.Item}
    {heading : Model.RecFlag → α → Model.Heading}
    (hdocument : ∀ flag record d, (document flag d).outcome = .ok record →
      record.heading? = some (heading flag d))
    {flag : Model.RecFlag} {ds : List α} {items : List Model.Item}
    (h : (documentGroup config attributes document flag ds).outcome = .ok items) :
  ∃ blocks, List.Forall₂ (Member.Block config)
      (groupMembers (fun flag d => ⟨attributes d, heading flag d⟩) flag ds) blocks ∧
    items = blocks.flatten
  := by
  refine group_blocks (fun flag d => documentCommented config (attributes d) (document flag d))
    (fun _ => ?_) (fun _ _ _ => ?_) ?_ h
  · rw [documentGroup]
  · rw [documentGroup]
  · intro flag d items hitems
    apply documentCommented_block hitems
    intro record
    apply hdocument flag record d

/-- A value is headed by its identifier, as an external if it has primitives. -/
theorem ValueDescription.document_heading {d : ValueDescription} {record : Model.Item}
    (h : (d.document config scope parent).outcome = .ok record) :
  record.heading? = some (if d.primitives.isEmpty then .value (parent.child .value d.ident.name)
    else .external (parent.child .value d.ident.name))
  := by
  simp [document] at h
  obtain ⟨type, -, rfl⟩ := h
  by_cases hnone : d.primitives = []
  · simp [hnone, Model.Item.heading?]
  · simp [hnone, Model.Item.heading?]

theorem ExtensionConstructor.document_id {id : Identifier} {d : ExtensionConstructor}
    {out : Model.Constructor} (h : (d.document config scope id).outcome = .ok out) :
  out.id = id
  := by
  unfold ExtensionConstructor.document at h
  split at h
  · simp at h
    obtain ⟨args, -, result, -, rfl⟩ := h
    rfl
  · cases h

/-- The constructors of a documented extension have the identifiers of their names. -/
theorem TypeExtension.document_ids {d : TypeExtension} {out : Model.Extension}
    (h : (d.document config scope parent).outcome = .ok out) :
  out.constructors.map Model.Constructor.id
    = d.constructors.map fun c => parent.child .extension c.ident.name
  := by
  simp [document] at h
  obtain ⟨path, -, constructors, hconstructors, params, -, rfl⟩ := h
  have hids := Reading.each_eq_ok.mp hconstructors
  clear hconstructors
  generalize d.constructors = ds at hids ⊢
  induction hids with
  | nil => rfl
  | cons hc _ ih =>
    rw [List.map_cons, List.map_cons, ExtensionConstructor.document_id hc]
    apply congrArg _ ih

section Headings

variable (flag : Model.RecFlag) (record : Model.Item)

/-- A type is headed by its identifier and the flag that it is given. -/
theorem TypeDeclaration.documentItem_heading (d : TypeDeclaration)
    (h : (d.documentItem config scope parent flag).outcome = .ok record) :
  record.heading? = some (.type flag (parent.child .type d.ident.name))
  := by
  simp [TypeDeclaration.documentItem] at h
  obtain ⟨decl, hdecl, rfl⟩ := h
  rw [Model.Item.heading?, TypeDeclaration.document_id hdecl]

/-- A local name of a type has a heading of its own. -/
theorem TypeDeclaration.documentSubstitution_heading (d : TypeDeclaration)
    (h : (d.documentSubstitution config scope parent flag).outcome = .ok record) :
  record.heading? = some (.typeSubstitution (parent.child .type d.ident.name))
  := by
  simp [TypeDeclaration.documentSubstitution] at h
  obtain ⟨decl, hdecl, rfl⟩ := h
  rw [Model.Item.heading?, TypeDeclaration.document_id hdecl]

/-- A class is headed by its identifier and the flag that it is given. -/
theorem ClassDeclaration.documentItem_heading (d : ClassDeclaration)
    (h : (d.documentItem config scope parent flag).outcome = .ok record) :
  record.heading? = some (.class flag (parent.child .classDef d.classIdent.name))
  := by
  simp [ClassDeclaration.documentItem] at h
  obtain ⟨c, hc, rfl⟩ := h
  rw [Model.Item.heading?, ClassDeclaration.document_id hc]

/-- A class type is headed by its identifier and the flag that it is given. -/
theorem ClassDeclaration.documentClassTypeItem_heading (d : ClassDeclaration)
    (h : (d.documentClassTypeItem config scope parent flag).outcome = .ok record) :
  record.heading? = some (.classType flag (parent.child .classType d.classTypeIdent.name))
  := by
  simp [ClassDeclaration.documentClassTypeItem] at h
  obtain ⟨c, hc, rfl⟩ := h
  rw [Model.Item.heading?, ClassDeclaration.documentClassType_id hc]

end Headings

/-- A module stands behind the comments that belong to it. -/
theorem ModuleDeclaration.document_block {flag : Model.RecFlag} {d : ModuleDeclaration}
    {items : List Model.Item}
    (h : (d.document config scope parent flag).outcome = .ok items) :
  (SignatureItem.members.moduleMember parent flag d).Block config items
  := by
  rcases d with ⟨x, type, attributes, loc⟩
  rw [ModuleDeclaration.document] at h
  apply documentCommented_block h
  intro record hrecord
  cases halias : type.alias? with
  | some p =>
    simp [halias] at hrecord
    obtain ⟨r, -, rfl⟩ := hrecord
    rfl
  | none =>
    simp [halias] at hrecord
    obtain ⟨out, -, rfl⟩ := hrecord
    rfl

/-- Documenting an item gives its block. -/
theorem SignatureItem.document_block :
  ∀ {item : SignatureItem} {items : List Model.Item},
    (item.document config scope parent).outcome = .ok items → item.Block config parent items
  | .value _ d, _, h => by
    rw [SignatureItem.document] at h
    apply Member.Block.single
    apply documentCommented_block h
    intro record hrecord
    apply ValueDescription.document_heading hrecord
  | .type _ flag ds, _, h => by
    rw [SignatureItem.document] at h
    cases flag with
    | recursive => apply documentGroup_blocks TypeDeclaration.documentItem_heading h
    | nonrecursive => apply documentGroup_blocks TypeDeclaration.documentItem_heading h
  | .typeSubst _ ds, _, h => by
    rw [SignatureItem.document] at h
    have hblocks := documentGroup_blocks TypeDeclaration.documentSubstitution_heading h
    rw [groupMembers_const] at hblocks
    apply hblocks
  | .extension _ d, _, h => by
    rw [SignatureItem.document] at h
    apply Member.Block.single
    apply documentCommented_block h
    intro record hrecord
    simp at hrecord
    obtain ⟨e, he, rfl⟩ := hrecord
    rw [Model.Item.heading?, TypeExtension.document_ids he]
  | .exception _ d, _, h => by
    rw [SignatureItem.document] at h
    apply Member.Block.single
    apply documentCommented_block h
    intro record hrecord
    simp [ExtensionConstructor.documentException] at hrecord
    obtain ⟨c, hc, rfl⟩ := hrecord
    rw [Model.Item.heading?, ExtensionConstructor.document_id hc]
  | .module _ d, _, h => by
    rw [SignatureItem.document] at h
    apply Member.Block.single
    apply ModuleDeclaration.document_block h
  | .moduleSubst _ d, _, h => by
    rw [SignatureItem.document] at h
    apply Member.Block.single
    apply documentCommented_block h
    intro record hrecord
    simp [ModuleSubstitution.document] at hrecord
    obtain ⟨r, -, rfl⟩ := hrecord
    rfl
  | .recModule _ ds, _, h => by
    rw [SignatureItem.document] at h
    refine group_blocks (fun flag d => d.document config scope parent flag)
      (fun _ => ?_) (fun _ _ _ => ?_) ?_ h
    · rw [documentModules]
    · rw [documentModules]
    · intro flag d items
      apply ModuleDeclaration.document_block
  | .moduleType _ ⟨x, declType, attributes, loc⟩, _, h => by
    rw [SignatureItem.document] at h
    apply Member.Block.single
    apply documentCommented_block h
    intro record hrecord
    cases declType with
    | none =>
      simp at hrecord
      obtain rfl := hrecord
      rfl
    | some _ =>
      simp at hrecord
      obtain ⟨out, -, rfl⟩ := hrecord
      rfl
  | .opened _ _, _, h => (Except.ok.inj h).symm
  | .included _ ⟨_, content, _, attributes⟩, _, h => by
    rw [SignatureItem.document] at h
    apply Member.Block.single
    apply documentCommented_block h
    intro record hrecord
    simp at hrecord
    obtain ⟨out, -, content, -, rfl⟩ := hrecord
    rfl
  | .class _ ds, _, h => by
    rw [SignatureItem.document] at h
    apply documentGroup_blocks ClassDeclaration.documentItem_heading h
  | .classType _ ds, _, h => by
    rw [SignatureItem.document] at h
    apply documentGroup_blocks ClassDeclaration.documentClassTypeItem_heading h
  | .floating _ a, _, h => by
    simp [SignatureItem.document] at h
    obtain rfl := h
    have hcomment : [a].filterMap (Load.standaloneComment config)
        = (Load.standaloneComment config a).toList := by
      cases hsome : Load.standaloneComment config a <;> simp [hsome]
    apply congrArg (List.map Model.Item.comment) hcomment

/-- Documenting the items of a signature gives their blocks, in order. -/
theorem documentItems_blocks {items : List SignatureItem} {documented : List Model.Item}
    (h : (documentItems config scope parent items).outcome = .ok documented) :
  ∃ blocks, List.Forall₂ (SignatureItem.Block config parent) items blocks ∧
    documented = blocks.flatten
  := by
  induction items generalizing documented with
  | nil =>
    rw [documentItems] at h
    obtain rfl := Except.ok.inj h
    use [], .nil
    rfl
  | cons item items ih =>
    simp [documentItems] at h
    obtain ⟨first, hfirst, rest, hrest, rfl⟩ := h
    obtain ⟨blocks, hblocks, rfl⟩ := ih hrest
    use first :: blocks, .cons (SignatureItem.document_block hfirst) hblocks
    rfl

/-! ### Lifting -/

/-- No comment that belongs to attributes is without text. -/
theorem absent_not_mem_comments (config : Config) (attributes : List Attribute) :
  Model.Item.comment (.docs .absent)
    ∉ (attributes.filterMap (Load.standaloneComment config)).map .comment
  := by
  intro h
  obtain ⟨c, hc, heq⟩ := List.mem_map.mp h
  obtain ⟨a, -, ha⟩ := List.mem_filterMap.mp hc
  obtain rfl := Model.Item.comment.inj heq
  apply Load.standaloneComment_ne_absent config a ha

/-- The block of a member has no comment without text. -/
theorem Member.Block.absent_not_mem {m : Member} {items : List Model.Item}
    (h : m.Block config items) :
  .comment (.docs .absent) ∉ items
  := by
  obtain ⟨record, hrecord⟩ := h
  rw [List.mem_append, not_or]
  constructor
  · apply absent_not_mem_comments config m.attributes
  · rw [List.mem_singleton]
    rintro rfl
    cases hrecord

/-- What is in no block is not in their concatenation. -/
theorem not_mem_flatten {α : Type} {Block : α → List Model.Item → Prop} {x : Model.Item}
    (hBlock : ∀ a items, Block a items → x ∉ items) {as : List α}
    {blocks : List (List Model.Item)} (h : List.Forall₂ Block as blocks) :
  x ∉ blocks.flatten
  := by
  induction h with
  | nil => apply List.not_mem_nil
  | cons hblock _ ih =>
    rw [List.flatten_cons, List.mem_append, not_or]
    use hBlock _ _ hblock, ih

/-- The block of an item has no comment without text. -/
theorem SignatureItem.Block.absent_not_mem {item : SignatureItem} {items : List Model.Item}
    (h : item.Block config parent items) :
  .comment (.docs .absent) ∉ items
  := by
  unfold SignatureItem.Block at h
  split at h
  · subst h
    apply List.not_mem_nil
  · rename_i a
    have hcomments := absent_not_mem_comments config [a]
    rw [h]
    cases hsome : Load.standaloneComment config a <;> simp_all
  · obtain ⟨blocks, hblocks, rfl⟩ := h
    apply not_mem_flatten _ hblocks
    intro m items hm
    apply hm.absent_not_mem

/-- A signature is documented as the blocks of its items. -/
theorem Signature.placed_of_document {items : Signature} {s : Model.Signature}
    (h : (Signature.document config scope parent items).outcome = .ok s) :
  Signature.Placed config parent items s
  := by
  simp [Signature.document] at h
  obtain ⟨documented, hdocumented, rfl⟩ := h
  obtain ⟨blocks, hblocks, rfl⟩ := documentItems_blocks hdocumented
  have habsent : .comment (.docs .absent) ∉ blocks.flatten := by
    apply not_mem_flatten _ hblocks
    intro item block hblock
    apply hblock.absent_not_mem
  have hraw := Model.Signature.raw_ofItems config.liftTopComment habsent
  constructor
  · use blocks
  · rw [hraw]
    apply Model.Signature.doc_ofItems_ne_absent_iff config.liftTopComment habsent

/-- A plain signature as a module type is documented like any signature. -/
theorem ModuleType.outcome_document_signature (owner : Identifier) (info : NodeInfo)
    (items : Signature) :
  ((ModuleType.signature info items).document config scope owner).outcome
    = (Signature.document config scope owner items).outcome.map .signature
  := by
  rw [ModuleType.document, Signature.document]
  simp only [Reading.outcome_bind, Reading.outcome_tell, Reading.outcome_pure]
  cases (documentItems config (scope.bindWritten owner items).scope owner items).outcome <;> rfl

/-- Whether it is a whole interface or the type of a module, of a module type, of a functor
argument or of an include: a documented signature consists of the blocks of its items, in
order, with the comment in front of them as the summary if it is to be lifted. -/
theorem document_placed (config : Config) (scope : Scope) (owner : Identifier) (info : NodeInfo)
    (items : Signature) :
  (∀ s, (Signature.document config scope owner items).outcome = .ok s →
    Signature.Placed config owner items s) ∧
  (∀ type, ((ModuleType.signature info items).document config scope owner).outcome = .ok type →
    ∃ s, type = .signature s ∧ Signature.Placed config owner items s)
  := by
  constructor
  · intro s hs
    exact Signature.placed_of_document hs
  · intro type htype
    rw [ModuleType.outcome_document_signature, Outcome.map_eq_ok] at htype
    obtain ⟨s, hs, rfl⟩ := htype
    use s
    constructor
    · rfl
    · apply Signature.placed_of_document hs

/-- A signature that begins with a comment, with a group of types of which the second one carries
a stop comment, and with an opened module. -/
def placementSample : Signature :=
  let text (s : String) : Attribute := ⟨⟨"text", .none⟩, .str s, .none⟩
  let type (x : Ident) (attributes : List Attribute) : TypeDeclaration :=
    ⟨x, [], [], .abstract, .publicly, none, .none, attributes⟩
  [.floating .none (text "Summary."),
    .type .none .nonrecursive [type ⟨"t", 1, 0⟩ [], type ⟨"u", 2, 0⟩ [text "/*", text "More."]],
    .opened .none ⟨.ident ⟨"Base", 0, 0⟩, .none, []⟩,
    .module .none ⟨⟨"M", 3, 0⟩, .signature ⟨.none, []⟩ [], [], .none⟩]

/-- The items of `placementSample` are placed: its first comment is lifted, the others are items. -/
theorem placementSample_placed :
  let owner : Identifier := .root "pkg" "U"
  ∃ s, (Signature.document .standard .empty owner placementSample).outcome = .ok s ∧
    s.doc ≠ .absent ∧
    s.items.map Model.Item.heading?
      = [some (.type .nonrecursive (owner.child .type "t")), none, none,
        some (.type .subsequent (owner.child .type "u")),
        some (.module .ordinary (owner.child .module "M"))] ∧
    Signature.Placed .standard owner placementSample s
  := by
  intro owner
  obtain ⟨s, hs⟩ : ∃ s,
      (Signature.document .standard .empty owner placementSample).outcome = .ok s := ⟨_, rfl⟩
  have hplaced := (document_placed .standard .empty owner ⟨.none, []⟩ placementSample).1 s hs
  use s, hs
  constructor
  · obtain rfl := Except.ok.inj hs
    apply Load.ofText_ne_absent "Summary." .none
  · constructor
    · obtain rfl := Except.ok.inj hs
      rfl
    · apply hplaced

end Written

end InterfaceDocs
