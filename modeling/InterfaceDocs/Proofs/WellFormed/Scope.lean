import InterfaceDocs.Proofs.Backed.Scope
import InterfaceDocs.Proofs.WellFormed.Model

/-!
# Rooted scopes

A scope is rooted in a unit when all that it binds is, and so are the targets of the aliases in
its shapes.  In a rooted scope references and fragments point at rooted identifiers
(`Scope.Rooted.resolve`, `Subject.Rooted.fragment`), and binding a signature of a rooted owner
keeps scopes rooted (`Scope.Rooted.bindCompiled`, `Scope.Rooted.bindWritten`).  Members need no
condition of their own, because they are named under what they are projected from.
-/

namespace InterfaceDocs

variable {root : Identifier}

/-- What is named in a namespace has a kind that children can have. -/
theorem Namespace.nested_contains_kind (space : Namespace) :
  IdentifierKind.nested.contains space.kind = true
  := by
  cases space <;> rfl

/-! ### Looking up -/

/-- The targets of the aliases in a shape are rooted in a unit. -/
inductive Shape.Rooted (root : Identifier) : Shape → Prop where
  | unknown : Rooted root .unknown
  | signature {members : List Member} :
      (∀ m ∈ members, Rooted root m.shape) → Rooted root (.signature members)
  | aliased {target : Identifier} {shape : Shape} :
      target.Rooted root → Rooted root shape → Rooted root (.alias target shape)

/-- All that a scope binds is rooted in a unit. -/
def Scope.Rooted (root : Identifier) (scope : Scope) : Prop :=
  ∀ b ∈ scope.bindings, b.id.Rooted root ∧ b.shape.Rooted root

/-- The origin of a subject is rooted, and so is its shape. -/
structure Subject.Rooted (root : Identifier) (subject : Subject) : Prop where
  origin : ∀ id ∈ subject.origin, id.Rooted root
  shape : subject.shape.Rooted root

/-- Projecting from a rooted shape under a rooted parent gives a rooted identifier, also through an
alias. -/
theorem Shape.Rooted.project? {shape inner : Shape} {parent id : Identifier}
    {spaces : List Namespace} {name : String} (h : shape.Rooted root)
    (hparent : parent.Rooted root) (hp : shape.project? parent spaces name = some (id, inner)) :
  id.Rooted root ∧ inner.Rooted root
  := by
  induction h generalizing parent with
  | unknown => cases hp
  | signature hmembers =>
    rw [Shape.project?] at hp
    obtain ⟨space, -, hp⟩ := List.exists_of_findSome?_eq_some hp
    obtain ⟨_, hfind, hp⟩ := Option.map_eq_some_iff.mp hp
    obtain ⟨m, hm, -, rfl⟩ := Member.mem_of_find? hfind
    obtain ⟨rfl, rfl⟩ := Prod.mk.inj hp
    use hparent.child space.kind space.nested_contains_kind name, hmembers m hm
  | aliased htarget _ ih => apply ih htarget hp

/-- Following names from a rooted shape leads to a rooted identifier. -/
theorem Shape.Rooted.follow? {kind : PathKind} {id : Identifier} :
  ∀ {names : List String} {parent : Identifier} {shape : Shape}, shape.Rooted root →
    parent.Rooted root → shape.follow? kind parent names = some id → id.Rooted root
  | [], _, _, _, _, hf => by cases hf
  | [_], _, _, h, hparent, hf => by
    obtain ⟨⟨_, _⟩, hp, rfl⟩ := Option.map_eq_some_iff.mp hf
    exact (h.project? hparent hp).1
  | _ :: _ :: _, _, _, h, hparent, hf => by
    rw [Shape.follow?] at hf
    · split at hf
      · rename_i hp
        obtain ⟨hid, hshape⟩ := h.project? hparent hp
        apply follow? hshape hid hf
      · cases hf
    · simp

theorem Subject.Rooted.unknown :
  Subject.unknown.Rooted root
  := ⟨by simp [Subject.unknown], .unknown⟩

/-- The fragments of a rooted subject are rooted. -/
theorem Subject.Rooted.fragment {subject : Subject} (h : subject.Rooted root) (kind : PathKind)
    (name : LongIdent) :
  (subject.fragment kind name).Rooted root
  := by
  unfold Subject.fragment
  split
  · simp [Fragment.Rooted, Fragment.targets]
  · split
    · simp [Fragment.Rooted, Fragment.targets_ofComponents]
    · rename_i origin horigin
      split
      · rename_i id hid
        have hrooted := h.shape.follow? (h.origin origin horigin) hid
        simpa [Fragment.Rooted, Fragment.targets] using hrooted
      · simp [Fragment.Rooted, Fragment.targets_ofComponents]

namespace Scope.Rooted

variable {scope : Scope}

/-- A path in a rooted scope stands for a rooted reference with a rooted shape. -/
theorem resolveWithShape (h : scope.Rooted root) :
  ∀ {kind : PathKind} {p : Path} {r : Reference} {shape : Shape},
    scope.resolveWithShape kind p = .ok (r, shape) → r.Rooted root ∧ shape.Rooted root
  | _, .ident x, r, shape, hr => by
    rw [Scope.resolveWithShape] at hr
    split at hr
    · cases hr
      use by simp [Reference.Rooted, Reference.targets], .unknown
    · split at hr
      · cases hr
        use by simp [Reference.Rooted, Reference.targets], .unknown
      · split at hr
        · rename_i b hb
          cases hr
          obtain ⟨hid, hshape⟩ := h b (List.mem_of_find?_eq_some hb)
          use by simpa [Reference.Rooted, Reference.targets] using hid, hshape
        · cases hr
  | kind, .dot head name, r, shape, hr => by
    rw [Scope.resolveWithShape] at hr
    split at hr
    · cases hr
    · rename_i parent shape' hhead
      obtain ⟨htargets, hshape⟩ := h.resolveWithShape hhead
      have hparent : parent.Rooted root := by
        simpa [Reference.Rooted, Reference.targets] using htargets
      -- The member is found in the shape of the head, or the projection is kept as it is.
      split at hr
      · rename_i hproject
        cases hr
        obtain ⟨hid, hinner⟩ := hshape.project? hparent hproject
        use by simpa [Reference.Rooted, Reference.targets] using hid, hinner
      · cases hr
        use htargets, .unknown
    · rename_i hhead
      cases hr
      use (h.resolveWithShape hhead).1, .unknown
  | _, .apply functor argument, r, shape, hr => by
    rw [Scope.resolveWithShape] at hr
    split at hr
    · cases hr
    · rename_i hfunctor
      split at hr
      · cases hr
      · rename_i hargument
        cases hr
        have hf := (h.resolveWithShape hfunctor).1
        have ha := (h.resolveWithShape hargument).1
        constructor
        · intro id hid
          rcases List.mem_append.mp hid with hid | hid
          · apply hf id hid
          · apply ha id hid
        · constructor

/-- A path in a rooted scope stands for a rooted reference. -/
theorem resolve (h : scope.Rooted root) {kind : PathKind} {p : Path} {r : Reference}
    (hr : scope.resolve kind p = .ok r) :
  r.Rooted root
  := by
  obtain ⟨⟨_, shape⟩, hp, rfl⟩ := Outcome.map_eq_ok.mp hr
  exact (h.resolveWithShape hp).1

/-- The subject that a path stands for in a rooted scope is rooted. -/
theorem resolveSubject (h : scope.Rooted root) {p : Path} {r : Reference} {subject : Subject}
    (hr : scope.resolveSubject p = .ok (r, subject)) :
  r.Rooted root ∧ subject.Rooted root
  := by
  obtain ⟨⟨_, shape⟩, hp, heq⟩ := Outcome.map_eq_ok.mp hr
  cases heq
  obtain ⟨htargets, hshape⟩ := h.resolveWithShape hp
  constructor
  · apply htargets
  · constructor
    · intro id hid
      cases r with
      | resolved id' =>
        obtain rfl := Option.some.inj hid
        apply htargets id' (List.mem_singleton_self id')
      | _ => cases hid
    · apply hshape

/-- The shape of a path in a rooted scope is rooted. -/
theorem pathShape (h : scope.Rooted root) (p : Path) :
  (scope.pathShape p).Rooted root
  := by
  unfold Scope.pathShape
  split
  · rename_i hr
    exact (h.resolveWithShape hr).2
  · constructor

/-- An alias in a rooted scope has a rooted shape. -/
theorem aliasShape (h : scope.Rooted root) (p : Path) :
  (scope.aliasShape p).Rooted root
  := by
  unfold Scope.aliasShape
  split
  · rename_i hr
    obtain ⟨htarget, hshape⟩ := h.resolveWithShape hr
    apply Shape.Rooted.aliased _ hshape
    simpa [Reference.Rooted, Reference.targets] using htarget
  · constructor

/-! ### Binding -/

theorem empty :
  Scope.empty.Rooted root
  := by
  intro b hb
  cases hb

/-- Binding an identifier to a rooted one keeps a scope rooted. -/
theorem add (h : scope.Rooted root) (x : Ident) {id : Identifier} {shape : Shape}
    (hid : id.Rooted root) (hshape : shape.Rooted root) :
  (scope.add x id shape).Rooted root
  := by
  intro b hb
  rcases List.mem_cons.mp hb with rfl | hb
  · use hid, hshape
  · apply h b hb

theorem addFunctorParameter (h : scope.Rooted root) (x : Ident) {id : Identifier}
    {shape : Shape} (hid : id.Rooted root) (hshape : shape.Rooted root) :
  (scope.addFunctorParameter x id shape).Rooted root
  := h.add x hid hshape

end Scope.Rooted

/-- The argument of a functor with a rooted owner is rooted. -/
theorem Scope.functorArgument_rooted (scope : Scope) {owner : Identifier}
    (howner : owner.Rooted root) (name : String) :
  (scope.functorArgument owner name).Rooted root
  := by
  unfold Scope.functorArgument
  split
  · apply howner.argument _ name
  · apply howner.argument 1 name

/-- Removing members keeps a shape rooted. -/
theorem Shape.Rooted.without {shape : Shape} (h : shape.Rooted root)
    (removed : List (Namespace × String)) :
  (shape.without removed).Rooted root
  := by
  cases h with
  | unknown => exact .unknown
  | signature hmembers =>
    apply Shape.Rooted.signature
    intro m hm
    apply hmembers m (List.mem_of_mem_filter hm)
  | aliased htarget hshape => exact .aliased htarget hshape

/-- A bound scope is rooted, and so are the shapes of the members that it exposes. -/
structure Bound.Rooted (root : Identifier) (b : Bound) : Prop where
  scope : b.scope.Rooted root
  members : ∀ m ∈ b.members, m.shape.Rooted root

namespace Bound.Rooted

variable {b : Bound} {parent : Identifier}

theorem start {scope : Scope} (h : scope.Rooted root) :
  (Bound.mk scope []).Rooted root
  := ⟨h, by simp⟩

/-- Binding an identifier that is no member keeps what is bound rooted. -/
theorem hide (h : b.Rooted root) (x : Ident) {id : Identifier} {shape : Shape}
    (hid : id.Rooted root) (hshape : shape.Rooted root) :
  (b.hide x id shape).Rooted root
  := ⟨h.scope.add x hid hshape, h.members⟩

theorem hideAll (h : b.Rooted root) (xs : List Ident) {id : Identifier} (hid : id.Rooted root) :
  (b.hideAll xs id).Rooted root
  := by
  induction xs generalizing b with
  | nil => apply h
  | cons x xs ih => apply ih (h.hide x hid .unknown)

/-- A member with a rooted shape keeps what is bound rooted. -/
theorem expose (h : b.Rooted root) (space : Namespace) (name : String) {shape : Shape}
    (hshape : shape.Rooted root) :
  (b.expose space name shape).Rooted root
  := by
  constructor
  · apply h.scope
  · intro m hm
    rcases Member.mem_insert hm with rfl | hm
    · apply hshape
    · apply h.members m hm

/-- Declaring a member under a rooted parent, with its companions, keeps what is bound rooted. -/
theorem declare (h : b.Rooted root) (hparent : parent.Rooted root) (space : Namespace)
    (x : Ident) (companions : List Ident) {shape : Shape} (hshape : shape.Rooted root) :
  (b.declare parent space x companions shape).Rooted root
  := by
  have hid := hparent.child space.kind space.nested_contains_kind x.name
  exact ((h.hideAll companions hid).hide x hid hshape).expose space x.name hshape

/-- Steps that keep what is bound rooted do so in sequence. -/
theorem foldl {α : Type} {f : Bound → α → Bound} {as : List α} (h : b.Rooted root)
    (hf : ∀ (b : Bound) (a : α), b.Rooted root → (f b a).Rooted root) :
  (as.foldl f b).Rooted root
  := by
  induction as generalizing b with
  | nil => apply h
  | cons a as ih => apply ih (hf b a h)

end Bound.Rooted

/-! ### Signatures -/

namespace Scope

mutual

/-- The shape of a compiled module type of a rooted parent is rooted. -/
theorem compiledShape_rooted :
  ∀ {scope : Scope} {parent : Identifier} (type : Compiled.ModuleType), scope.Rooted root →
    parent.Rooted root → (scope.compiledShape parent type).Rooted root
  | _, _, .path p, h, _ => h.pathShape p
  | _, _, .signature items, h, hparent => by
    apply Shape.Rooted.signature
    exact (bindCompiledItems_rooted items (.start h) hparent).members
  | _, _, .functor _ _ _, _, _ => .unknown
  | _, _, .alias p, h, _ => h.aliasShape p

/-- Binding compiled items under a rooted parent keeps what is bound rooted. -/
theorem bindCompiledItems_rooted :
  ∀ {parent : Identifier} {b : Bound} (items : List Compiled.SignatureItem), b.Rooted root →
    parent.Rooted root → (bindCompiledItems parent b items).Rooted root
  | _, _, [], hb, _ => hb
  | _, _, item :: items, hb, hparent =>
    bindCompiledItems_rooted items (bindCompiledItem_rooted item hb hparent) hparent

theorem bindCompiledItem_rooted :
  ∀ {parent : Identifier} {b : Bound} (item : Compiled.SignatureItem), b.Rooted root →
    parent.Rooted root → (bindCompiledItem parent b item).Rooted root
  | _, _, .value _ _, hb, _ => hb
  | _, _, .extension _ _ _, hb, _ => hb
  | _, _, .type x _ _, hb, hparent => hb.declare hparent .type x [] .unknown
  | _, _, .module x ⟨type, _, _⟩ _, hb, hparent => by
    apply hb.declare hparent .module x []
    apply compiledShape_rooted type hb.scope (hparent.child .module rfl x.name)
  | _, _, .moduleType x ⟨some type, _, _⟩, hb, hparent => by
    apply hb.declare hparent .moduleType x []
    apply compiledShape_rooted type hb.scope (hparent.child .moduleType rfl x.name)
  | _, _, .moduleType x ⟨none, _, _⟩, hb, hparent =>
    hb.declare hparent .moduleType x [] .unknown
  | _, _, .class x _ _, hb, hparent => hb.declare hparent .classDef x _ .unknown
  | _, _, .classType x _ _, hb, hparent => hb.declare hparent .classType x _ .unknown

end

/-- A rooted scope stays rooted when a compiled signature is bound under a rooted parent. -/
theorem Rooted.bindCompiled {scope : Scope} {parent : Identifier} (h : scope.Rooted root)
    (hparent : parent.Rooted root) (items : Compiled.Signature) :
  (scope.bindCompiled parent items).Rooted root
  := bindCompiledItems_rooted items (.start h) hparent

/-- The scope of a recursive group under a rooted parent is rooted. -/
theorem Rooted.bindGroup {scope : Scope} {parent : Identifier} (h : scope.Rooted root)
    (hparent : parent.Rooted root) (ds : List Written.ModuleDeclaration) :
  (Scope.bindGroup parent scope ds).Rooted root
  := by
  induction ds generalizing scope with
  | nil => apply h
  | cons d ds ih => apply ih (h.add d.ident (hparent.child .module rfl d.ident.name) .unknown)

mutual

/-- The shape of a written module type of a rooted parent is rooted. -/
theorem writtenShape_rooted :
  ∀ {scope : Scope} {parent : Identifier} (type : Written.ModuleType), scope.Rooted root →
    parent.Rooted root → (scope.writtenShape parent type).Rooted root
  | _, _, .path _ p, h, _ => h.pathShape p
  | _, _, .signature _ items, h, hparent => by
    apply Shape.Rooted.signature
    exact (bindWrittenItems_rooted items (.start h) hparent).members
  | _, _, .functor _ _ _, _, _ => .unknown
  | _, _, .constrained _ body clauses, h, hparent =>
    (writtenShape_rooted body h hparent).without (clauses.filterMap removedMember)
  | _, _, .typeOf _ expr, h, hparent => compiledShape_rooted expr.info.type h hparent
  | _, _, .alias _ p, h, _ => h.aliasShape p

/-- Binding written items under a rooted parent keeps what is bound rooted. -/
theorem bindWrittenItems_rooted :
  ∀ {parent : Identifier} {b : Bound} (items : List Written.SignatureItem), b.Rooted root →
    parent.Rooted root → (bindWrittenItems parent b items).Rooted root
  | _, _, [], hb, _ => hb
  | _, _, item :: items, hb, hparent =>
    bindWrittenItems_rooted items (bindWrittenItem_rooted item hb hparent) hparent

theorem bindWrittenItem_rooted :
  ∀ {parent : Identifier} {b : Bound} (item : Written.SignatureItem), b.Rooted root →
    parent.Rooted root → (bindWrittenItem parent b item).Rooted root
  | _, _, .value _ _, hb, _ => hb
  | _, _, .extension _ _, hb, _ => hb
  | _, _, .exception _ _, hb, _ => hb
  | _, _, .opened _ _, hb, _ => hb
  | _, _, .floating _ _, hb, _ => hb
  | _, _, .type _ _ ds, hb, hparent => by
    apply hb.foldl
    intro b d hb
    apply hb.declare hparent .type d.ident [] .unknown
  | _, _, .typeSubst _ ds, hb, hparent => by
    apply hb.foldl
    intro b d hb
    apply hb.hide d.ident (hparent.child .type rfl d.ident.name) .unknown
  | _, _, .module _ ⟨x, type, _, _⟩, hb, hparent => by
    apply hb.declare hparent .module x []
    apply writtenShape_rooted type hb.scope (hparent.child .module rfl x.name)
  | _, _, .moduleSubst _ d, hb, hparent =>
    hb.hide d.ident (hparent.child .module rfl d.ident.name) (hb.scope.aliasShape d.manifest)
  | _, _, .recModule _ ds, hb, hparent =>
    bindWrittenModules_rooted ds (hb.scope.bindGroup hparent ds) hb hparent
  | _, _, .moduleType _ ⟨x, some type, _, _⟩, hb, hparent => by
    apply hb.declare hparent .moduleType x []
    apply writtenShape_rooted type hb.scope (hparent.child .moduleType rfl x.name)
  | _, _, .moduleType _ ⟨x, none, _, _⟩, hb, hparent =>
    hb.declare hparent .moduleType x [] .unknown
  | _, _, .included _ ⟨_, content, _, _⟩, hb, hparent => by
    have hincluded := hb.scope.bindCompiled hparent content
    constructor
    · apply hincluded.scope
    · intro m hm
      rcases Member.mem_insertAll hm with hm | hm
      · apply hb.members m hm
      · apply hincluded.members m hm
  | _, _, .class _ ds, hb, hparent => by
    apply hb.foldl
    intro b d hb
    have hid := hparent.child .classDef rfl d.classIdent.name
    exact (hb.hideAll _ hid).expose .classDef d.classIdent.name .unknown
  | _, _, .classType _ ds, hb, hparent => by
    apply hb.foldl
    intro b d hb
    have hid := hparent.child .classType rfl d.classTypeIdent.name
    exact (hb.hideAll _ hid).expose .classType d.classTypeIdent.name .unknown

/-- Binding the modules of a group keeps what is bound rooted, if the scope of the group is. -/
theorem bindWrittenModules_rooted :
  ∀ {parent : Identifier} {group : Scope} {b : Bound} (ds : List Written.ModuleDeclaration),
    group.Rooted root → b.Rooted root → parent.Rooted root →
      (bindWrittenModules parent group b ds).Rooted root
  | _, _, _, [], _, hb, _ => hb
  | _, _, _, ⟨x, type, _, _⟩ :: ds, hgroup, hb, hparent => by
    have hshape := writtenShape_rooted type hgroup (hparent.child .module rfl x.name)
    apply bindWrittenModules_rooted ds hgroup (hb.declare hparent .module x [] hshape) hparent

end

/-- A rooted scope stays rooted when a written signature is bound under a rooted parent. -/
theorem Rooted.bindWritten {scope : Scope} {parent : Identifier} (h : scope.Rooted root)
    (hparent : parent.Rooted root) (items : Written.Signature) :
  (scope.bindWritten parent items).Rooted root
  := bindWrittenItems_rooted items (.start h) hparent

/-- The subject of the constraints on a module type of a rooted owner is rooted. -/
theorem Rooted.subjectOf {scope : Scope} {owner : Identifier} (h : scope.Rooted root)
    (howner : owner.Rooted root) :
  ∀ (type : Written.ModuleType), (scope.subjectOf owner type).Rooted root
  | .path _ p => by
    rw [Scope.subjectOf]
    split
    · rename_i hr
      exact (h.resolveSubject hr).2
    · exact .unknown
  | .signature info items => by
    constructor
    · intro id hid
      obtain rfl := Option.some.inj hid
      apply howner
    · apply writtenShape_rooted (.signature info items) h howner
  | .constrained _ body _ => Rooted.subjectOf h howner body
  | .functor info param result => ⟨by simp [Scope.subjectOf], .unknown⟩
  | .typeOf info expr =>
    ⟨by simp [Scope.subjectOf], writtenShape_rooted (.typeOf info expr) h howner⟩
  | .alias info p => ⟨by simp [Scope.subjectOf], writtenShape_rooted (.alias info p) h howner⟩

end Scope

end InterfaceDocs
