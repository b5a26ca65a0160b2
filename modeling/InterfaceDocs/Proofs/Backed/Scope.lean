import InterfaceDocs.Proofs.Model.Targets
import InterfaceDocs.Proofs.Outcome
import InterfaceDocs.Scope.Binding

/-!
# Backed scopes

A shape is backed by a list of identifiers when everything that it leads to is in the list,
and a scope is backed when all that it binds is.  In a backed scope references and fragments
point into the list (`Scope.resolve_targets`, `Scope.fragment_targets`), and the operations
that bind identifiers keep scopes backed.
-/

namespace InterfaceDocs

variable {ids : List Identifier}

/-- The identifier of a member of `parent`. -/
def Member.id (parent : Identifier) (m : Member) : Identifier :=
  parent.child m.key.1.kind m.key.2

/-- Everything that a shape leads to from the given identifier is in the list. -/
inductive Shape.Backed (ids : List Identifier) : Identifier → Shape → Prop where
  | unknown {id : Identifier} : Backed ids id .unknown
  | signature {id : Identifier} {members : List Member} :
      (∀ m ∈ members, m.id id ∈ ids) → (∀ m ∈ members, Backed ids (m.id id) m.shape) →
      Backed ids id (.signature members)
  | aliased {id target : Identifier} {shape : Shape} :
      target ∈ ids → Backed ids target shape → Backed ids id (.alias target shape)

/-- Everything that a scope binds is in the list, and so is all that the shapes lead to. -/
def Scope.Backed (ids : List Identifier) (scope : Scope) : Prop :=
  ∀ b ∈ scope.bindings, b.id ∈ ids ∧ b.shape.Backed ids b.id

/-! ### Members -/

/-- The shape that is found under a key is that of a member with the key. -/
theorem Member.mem_of_find? {key : Namespace × String} {shape : Shape} :
  ∀ {members : List Member}, find? key members = some shape →
    ∃ m ∈ members, m.key = key ∧ m.shape = shape
  | m :: members, h => by
    unfold find? at h
    split at h
    · rename_i hm
      obtain rfl := Option.some.inj h
      use m, List.mem_cons_self
    · obtain ⟨n, hn, hkey⟩ := mem_of_find? h
      use n, List.mem_cons_of_mem m hn

/-- A member of a list with an inserted member is the inserted one or an old one. -/
theorem Member.mem_insert {m n : Member} :
  ∀ {members : List Member}, n ∈ insert m members → n = m ∨ n ∈ members
  | [], h => by simpa [insert] using h
  | k :: members, h => by
    unfold insert at h
    split at h
    · rcases List.mem_cons.mp h with rfl | h
      · left; rfl
      · right; exact List.mem_cons_of_mem k h
    · rcases List.mem_cons.mp h with rfl | h
      · right; exact List.mem_cons_self
      · rcases mem_insert h with rfl | h
        · left; rfl
        · right; exact List.mem_cons_of_mem k h

/-- A member of a list with inserted members is an old one or an inserted one. -/
theorem Member.mem_insertAll {n : Member} {ms : List Member} :
  ∀ {members : List Member}, n ∈ insertAll members ms → n ∈ members ∨ n ∈ ms
  := by
  induction ms with
  | nil =>
    intro members h
    left
    apply h
  | cons m ms ih =>
    intro members h
    rcases ih h with h | h
    · rcases mem_insert h with rfl | h
      · right; exact List.mem_cons_self
      · left; exact h
    · right; exact List.mem_cons_of_mem m h

/-! ### Looking up -/

/-- A member found in a backed shape is in the list, and its shape is backed. -/
theorem Shape.Backed.project? {parent id : Identifier} {shape inner : Shape}
    {spaces : List Namespace} {name : String} (h : shape.Backed ids parent)
    (hp : shape.project? parent spaces name = some (id, inner)) :
  id ∈ ids ∧ inner.Backed ids id
  := by
  induction h with
  | unknown => simp [Shape.project?] at hp
  | signature hmem hshape =>
    rw [Shape.project?] at hp
    obtain ⟨space, -, hp⟩ := List.exists_of_findSome?_eq_some hp
    obtain ⟨_, hfind, hp⟩ := Option.map_eq_some_iff.mp hp
    obtain ⟨m, hm, hkey, rfl⟩ := Member.mem_of_find? hfind
    obtain ⟨rfl, rfl⟩ := Prod.mk.inj hp
    have hid := hmem m hm
    have hbacked := hshape m hm
    rw [Member.id, hkey] at hid hbacked
    use hid, hbacked
  | aliased _ _ ih => apply ih hp

/-- A list of names followed through a backed shape leads into the list. -/
theorem Shape.Backed.follow? {kind : PathKind} {id : Identifier} :
  ∀ {names : List String} {parent : Identifier} {shape : Shape}, shape.Backed ids parent →
    shape.follow? kind parent names = some id → id ∈ ids
  | [], _, _, _, hf => by simp [Shape.follow?] at hf
  | [_], _, _, h, hf => by
    obtain ⟨⟨_, _⟩, hp, rfl⟩ := Option.map_eq_some_iff.mp hf
    exact (h.project? hp).1
  | _ :: _ :: _, _, _, h, hf => by
    rw [Shape.follow?] at hf
    · split at hf
      · rename_i hp
        apply follow? (h.project? hp).2 hf
      · simp at hf
    · simp

/-- Where an unresolved fragment comes from a list of names, it points at nothing. -/
theorem Fragment.targets_ofComponents (names : List String) :
  (Fragment.ofComponents names).targets = []
  := by
  have key : ∀ (fragment : Fragment), fragment.targets = [] →
      (names.foldl Fragment.dot fragment).targets = [] := by
    induction names with
    | nil => exact fun _ h => h
    | cons name names ih => exact fun fragment h => ih (fragment.dot name) h
  apply key
  rfl

/-- The subject of constraints is backed when its shape is, as seen from its origin. -/
def Subject.Backed (ids : List Identifier) (subject : Subject) : Prop :=
  ∀ id, subject.origin = some id → subject.shape.Backed ids id

/-- The fragments of a backed subject point into the list. -/
theorem Subject.Backed.fragment {subject : Subject} (h : subject.Backed ids)
    (kind : PathKind) (name : LongIdent) :
  (subject.fragment kind name).targets ⊆ ids
  := by
  unfold Subject.fragment
  split
  · simp [Fragment.targets]
  · split
    · simp [Fragment.targets_ofComponents]
    · rename_i origin horigin
      split
      · rename_i id hid
        have hmem : id ∈ ids := (h origin horigin).follow? hid
        simp [Fragment.targets, hmem]
      · simp [Fragment.targets_ofComponents]

/-- A path resolved in a backed scope points into the list, and if it is resolved altogether,
then its shape is backed. -/
theorem Scope.Backed.resolveWithShape {scope : Scope} (h : scope.Backed ids) :
  ∀ {kind : PathKind} {p : Path} {r : Reference} {shape : Shape},
    scope.resolveWithShape kind p = .ok (r, shape) →
      r.targets ⊆ ids ∧ ∀ id, r.identifier = some id → shape.Backed ids id
  | _, .ident x, r, shape, hr => by
    rw [Scope.resolveWithShape] at hr
    split at hr
    · cases hr
      simp [Reference.targets, Reference.identifier]
    · split at hr
      · cases hr
        simp [Reference.targets, Reference.identifier]
      · split at hr
        · rename_i b hb
          cases hr
          obtain ⟨hid, hshape⟩ := h b (List.mem_of_find?_eq_some hb)
          simpa [Reference.targets, Reference.identifier, hid] using hshape
        · cases hr
  | kind, .dot head name, r, shape, hr => by
    rw [Scope.resolveWithShape] at hr
    split at hr
    · cases hr
    · rename_i hhead
      obtain ⟨htargets, hbacked⟩ := h.resolveWithShape hhead
      split at hr
      · rename_i hproject
        cases hr
        obtain ⟨hid, hshape⟩ := (hbacked _ rfl).project? hproject
        simpa [Reference.targets, Reference.identifier, hid] using hshape
      · cases hr
        simpa [Reference.targets, Reference.identifier] using htargets
    · rename_i hhead
      obtain ⟨htargets, -⟩ := h.resolveWithShape hhead
      cases hr
      simpa [Reference.targets, Reference.identifier] using htargets
  | _, .apply functor argument, r, shape, hr => by
    rw [Scope.resolveWithShape] at hr
    split at hr
    · cases hr
    · rename_i hfunctor
      split at hr
      · cases hr
      · rename_i hargument
        cases hr
        have hf := (h.resolveWithShape hfunctor).1
        have ha := (h.resolveWithShape hargument).1
        simpa [Reference.targets, Reference.identifier] using ⟨hf, ha⟩

/-- A reference that a path stands for in a backed scope points into the list. -/
theorem Scope.Backed.resolve {scope : Scope} (h : scope.Backed ids) {kind : PathKind} {p : Path}
    {r : Reference} (hr : scope.resolve kind p = .ok r) :
  r.targets ⊆ ids
  := by
  obtain ⟨⟨_, shape⟩, hp, rfl⟩ := Outcome.map_eq_ok.mp hr
  exact (h.resolveWithShape hp).1

/-- The subject that a path stands for in a backed scope is backed. -/
theorem Scope.Backed.resolveSubject {scope : Scope} (h : scope.Backed ids) {p : Path}
    {r : Reference} {subject : Subject} (hr : scope.resolveSubject p = .ok (r, subject)) :
  r.targets ⊆ ids ∧ subject.Backed ids
  := by
  obtain ⟨⟨_, shape⟩, hp, heq⟩ := Outcome.map_eq_ok.mp hr
  cases heq
  apply h.resolveWithShape hp

/-! ### Shapes of paths -/

/-- The shape of an alias is backed under every identifier, because it leads to the target of the
alias. -/
theorem Scope.Backed.aliasShape {scope : Scope} (h : scope.Backed ids) (p : Path)
    (id : Identifier) :
  (scope.aliasShape p).Backed ids id
  := by
  unfold Scope.aliasShape
  split
  · rename_i hr
    obtain ⟨htarget, hshape⟩ := h.resolveWithShape hr
    apply Shape.Backed.aliased
    · simpa [Reference.targets] using htarget
    · apply hshape _ rfl
  · apply Shape.Backed.unknown

/-- Removing members keeps a shape backed. -/
theorem Shape.Backed.without {shape : Shape} {id : Identifier} (h : shape.Backed ids id)
    (removed : List (Namespace × String)) :
  (shape.without removed).Backed ids id
  := by
  cases h with
  | unknown => apply Shape.Backed.unknown
  | signature hmem hshape =>
    apply Shape.Backed.signature
    · intro m hm
      apply hmem m (List.mem_of_mem_filter hm)
    · intro m hm
      apply hshape m (List.mem_of_mem_filter hm)
  | aliased htarget hshape => apply Shape.Backed.aliased htarget hshape

/-! ### Binding -/

theorem Scope.Backed.empty :
  Scope.empty.Backed ids
  := by
  intro b hb
  simp [Scope.empty] at hb

/-- Binding an identifier of the list with a backed shape keeps a scope backed. -/
theorem Scope.Backed.add {scope : Scope} (h : scope.Backed ids) (x : Ident) {id : Identifier}
    {shape : Shape} (hid : id ∈ ids) (hshape : shape.Backed ids id) :
  (scope.add x id shape).Backed ids
  := by
  intro b hb
  rcases List.mem_cons.mp hb with rfl | hb
  · use hid, hshape
  · apply h b hb

theorem Scope.Backed.addFunctorParameter {scope : Scope} (h : scope.Backed ids) (x : Ident)
    {id : Identifier} {shape : Shape} (hid : id ∈ ids) (hshape : shape.Backed ids id) :
  (scope.addFunctorParameter x id shape).Backed ids
  := h.add x hid hshape

/-- A bound scope is backed together with the members of `parent` that it exposes. -/
structure Bound.Backed (ids : List Identifier) (parent : Identifier) (b : Bound) : Prop where
  scope : b.scope.Backed ids
  members : ∀ m ∈ b.members, m.id parent ∈ ids ∧ m.shape.Backed ids (m.id parent)

namespace Bound.Backed

variable {parent : Identifier} {b : Bound}

/-- The members that are bound make up a backed shape of their parent. -/
theorem shape (h : b.Backed ids parent) :
  (Shape.signature b.members).Backed ids parent
  := by
  apply Shape.Backed.signature
  · intro m hm
    exact (h.members m hm).1
  · intro m hm
    exact (h.members m hm).2

theorem hide (h : b.Backed ids parent) (x : Ident) {id : Identifier} {shape : Shape}
    (hid : id ∈ ids) (hshape : shape.Backed ids id) :
  (b.hide x id shape).Backed ids parent
  := ⟨h.scope.add x hid hshape, h.members⟩

theorem hideAll (h : b.Backed ids parent) (xs : List Ident) {id : Identifier} (hid : id ∈ ids) :
  (b.hideAll xs id).Backed ids parent
  := by
  induction xs generalizing b with
  | nil => apply h
  | cons x xs ih => apply ih (h.hide x hid .unknown)

/-- A member of the list with a backed shape keeps what is bound backed. -/
theorem expose (h : b.Backed ids parent) {space : Namespace} {name : String} {shape : Shape}
    (hid : parent.child space.kind name ∈ ids)
    (hshape : shape.Backed ids (parent.child space.kind name)) :
  (b.expose space name shape).Backed ids parent
  := by
  constructor
  · apply h.scope
  · intro m hm
    rcases Member.mem_insert hm with rfl | hm
    · use hid, hshape
    · apply h.members m hm

/-- Declaring a member of the list with a backed shape keeps what is bound backed. -/
theorem declare (h : b.Backed ids parent) {space : Namespace} {x : Ident}
    {companions : List Ident} {shape : Shape} (hid : parent.child space.kind x.name ∈ ids)
    (hshape : shape.Backed ids (parent.child space.kind x.name)) :
  (b.declare parent space x companions shape).Backed ids parent
  := by
  apply expose _ hid hshape
  apply hide _ x hid hshape
  apply hideAll h companions hid

end Bound.Backed

end InterfaceDocs
