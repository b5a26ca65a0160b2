import InterfaceDocs.Proofs.Visit.Tree
import InterfaceDocs.Scope.Binding

/-!
# Scopes and the identifiers in them

A scope binds a list of identifiers when these are the identifiers of its bindings, whatever
their order and their shapes are.  In such a scope a path resolves exactly when its
identifiers are bound (`Scope.Binds.isOk_resolve`), and binding a signature brings the
identifiers into scope that the signature declares (`Scope.Binds.bindWritten`).
-/

namespace InterfaceDocs

/-- The identifiers of the bindings of a scope. -/
def Scope.idents (scope : Scope) : List Ident :=
  scope.bindings.map Binding.ident

/-- The scope binds the identifiers of the list and no others. -/
def Scope.Binds (scope : Scope) (env : List Ident) : Prop :=
  ∀ x, x ∈ scope.idents ↔ x ∈ env

/-! ### Resolving paths -/

namespace Scope.Binds

variable {scope : Scope} {env : List Ident}

/-- The empty scope binds no identifiers. -/
theorem empty :
  Scope.empty.Binds []
  := by
  intro x
  rfl

/-- The scope of the result of a functor binds the parameter too. -/
theorem addFunctorParameter (h : scope.Binds env) (x : Ident) (id : Identifier)
    (shape : Shape) :
  (scope.addFunctorParameter x id shape).Binds (x :: env)
  := by
  intro y
  have hy := h y
  simp only [Scope.idents] at hy
  simp [Scope.idents, Scope.addFunctorParameter, hy]

/-- An identifier is found in a scope exactly when the scope binds the same one. -/
theorem find?_isSome (h : scope.Binds env) (x : Ident) :
  (scope.find? x).isSome ↔ ∃ y ∈ env, y.same x
  := by
  rw [Scope.find?, List.find?_isSome]
  constructor
  · rintro ⟨b, hb, hsame⟩
    use b.ident, (h b.ident).mp (List.mem_map_of_mem hb)
  · rintro ⟨y, hy, hsame⟩
    obtain ⟨b, hb, rfl⟩ := List.mem_map.mp ((h y).mpr hy)
    use b, hb

/-- A path resolves exactly when all of its identifiers are bound. -/
theorem isOk_resolveWithShape (h : scope.Binds env) (kind : PathKind) (p : Path) :
  Outcome.IsOk (scope.resolveWithShape kind p) ↔ ∀ x ∈ p.idents, x.IsBound env
  := by
  induction p generalizing kind with
  | ident x =>
    simp only [Path.idents, List.mem_singleton, forall_eq, Ident.IsBound, ← h.find?_isSome x]
    rw [Scope.resolveWithShape]
    split
    · rename_i hpredef
      simp [hpredef]
    · rename_i hpredef
      split
      · rename_i hpersistent
        have hzero : x.stamp = 0 := eq_of_beq hpersistent
        simp [hzero]
      · rename_i hpersistent
        have hstamp : x.stamp ≠ 0 := by
          intro hzero
          apply hpersistent (beq_of_eq hzero)
        split
        · rename_i b hb
          simp [hb]
        · rename_i hb
          simp [hb, hpredef, hstamp]
  | dot head name ih =>
    rw [Path.idents, ← ih .module, Scope.resolveWithShape]
    rcases scope.resolveWithShape .module head with e | ⟨r, shape⟩
    · simp
    · cases r with
      | resolved parent =>
        dsimp only
        split
        · simp
        · simp
      | root name => simp
      | core name => simp
      | dot r name => simp
      | apply f a => simp
  | apply functor argument ihf iha =>
    simp only [Path.idents, List.mem_append, or_imp, forall_and]
    rw [← ihf .module, ← iha .module, Scope.resolveWithShape]
    rcases scope.resolveWithShape .module functor with e | ⟨f, shape⟩
    · simp
    · rcases scope.resolveWithShape .module argument with e | ⟨a, shape'⟩
      · simp
      · simp

/-- A path resolves exactly when its identifiers are bound. -/
theorem isOk_resolve (h : scope.Binds env) (kind : PathKind) (p : Path) :
  Outcome.IsOk (scope.resolve kind p) ↔ ∀ x ∈ p.idents, x.IsBound env
  := by
  rw [Scope.resolve, Outcome.isOk_map]
  apply h.isOk_resolveWithShape kind p

/-- A path has a subject exactly when its identifiers are bound. -/
theorem isOk_resolveSubject (h : scope.Binds env) (p : Path) :
  Outcome.IsOk (scope.resolveSubject p) ↔ ∀ x ∈ p.idents, x.IsBound env
  := by
  rw [Scope.resolveSubject, Outcome.isOk_map]
  apply h.isOk_resolveWithShape .moduleType p

end Scope.Binds

/-! ### Binding signatures -/

namespace Bound

variable {y : Ident}

/-- An identifier that is no member is bound too. -/
@[simp]
theorem mem_hide {b : Bound} {x : Ident} {id : Identifier} {shape : Shape} :
  y ∈ (b.hide x id shape).scope.idents ↔ y = x ∨ y ∈ b.scope.idents
  := by
  simp [hide, Scope.add, Scope.idents]

/-- Exposing a member binds no identifier. -/
@[simp]
theorem mem_expose {b : Bound} {space : Namespace} {name : String} {shape : Shape} :
  y ∈ (b.expose space name shape).scope.idents ↔ y ∈ b.scope.idents
  := Iff.rfl

theorem mem_hideAll {b : Bound} {xs : List Ident} {id : Identifier} :
  y ∈ (b.hideAll xs id).scope.idents ↔ y ∈ xs ∨ y ∈ b.scope.idents
  := by
  induction xs generalizing b with
  | nil => simp [hideAll]
  | cons x xs ih =>
    have hrest := ih (b := b.hide x id .unknown)
    rw [mem_hide] at hrest
    rw [List.mem_cons, or_assoc, or_left_comm]
    apply hrest

/-- A declared member binds its identifier and its companions. -/
theorem mem_declare {b : Bound} {parent : Identifier} {space : Namespace} {x : Ident}
    {companions : List Ident} {shape : Shape} :
  y ∈ (b.declare parent space x companions shape).scope.idents ↔
    y ∈ x :: companions ∨ y ∈ b.scope.idents
  := by
  simp only [declare, mem_expose, mem_hide, mem_hideAll, List.mem_cons, or_assoc]

/-- A fold brings into scope what its steps bring into scope. -/
theorem mem_foldl {α : Type} {f : Bound → α → Bound} {g : α → List Ident}
    (h : ∀ b a, y ∈ (f b a).scope.idents ↔ y ∈ g a ∨ y ∈ b.scope.idents) (as : List α)
    (b : Bound) :
  y ∈ (as.foldl f b).scope.idents ↔ y ∈ as.flatMap g ∨ y ∈ b.scope.idents
  := by
  induction as generalizing b with
  | nil => simp
  | cons a as ih =>
    rw [List.foldl_cons, ih, h, List.flatMap_cons, List.mem_append, or_assoc, or_left_comm]

end Bound

namespace Scope

variable {y : Ident}

/-- A compiled item binds the identifiers that it declares. -/
theorem mem_bindCompiledItem {parent : Identifier} {b : Bound} :
  ∀ {item : Compiled.SignatureItem}, y ∈ (bindCompiledItem parent b item).scope.idents ↔
    y ∈ item.declaredIdents ∨ y ∈ b.scope.idents
  | .value _ _ => by simp [bindCompiledItem, Compiled.SignatureItem.declaredIdents]
  | .extension _ _ _ => by simp [bindCompiledItem, Compiled.SignatureItem.declaredIdents]
  | .type _ _ _ => Bound.mem_declare
  | .module _ ⟨_, _, _⟩ _ => Bound.mem_declare
  | .moduleType _ ⟨some _, _, _⟩ => Bound.mem_declare
  | .moduleType _ ⟨none, _, _⟩ => Bound.mem_declare
  | .class _ _ _ => Bound.mem_declare
  | .classType _ _ _ => Bound.mem_declare

/-- Compiled items bind the identifiers that they declare. -/
theorem mem_bindCompiledItems {parent : Identifier} {items : List Compiled.SignatureItem}
    {b : Bound} :
  y ∈ (bindCompiledItems parent b items).scope.idents ↔
    y ∈ items.flatMap Compiled.SignatureItem.declaredIdents ∨ y ∈ b.scope.idents
  := by
  induction items generalizing b with
  | nil => simp [bindCompiledItems]
  | cons item items ih =>
    rw [bindCompiledItems, ih, mem_bindCompiledItem, List.flatMap_cons, List.mem_append,
      or_assoc, or_left_comm]

/-- The modules of a group bind their identifiers. -/
theorem mem_bindWrittenModules {parent : Identifier} {group : Scope}
    {ds : List Written.ModuleDeclaration} {b : Bound} :
  y ∈ (bindWrittenModules parent group b ds).scope.idents ↔
    y ∈ ds.map Written.ModuleDeclaration.ident ∨ y ∈ b.scope.idents
  := by
  induction ds generalizing b with
  | nil => simp [bindWrittenModules]
  | cons d ds ih =>
    rcases d with ⟨x, type, attributes, loc⟩
    rw [bindWrittenModules, ih, Bound.mem_declare, List.mem_singleton, List.map_cons,
      List.mem_cons, or_assoc, or_left_comm]

/-- A written item binds the identifiers that it declares. -/
theorem mem_bindWrittenItem {parent : Identifier} {b : Bound} :
  ∀ {item : Written.SignatureItem}, y ∈ (bindWrittenItem parent b item).scope.idents ↔
    y ∈ item.declaredIdents ∨ y ∈ b.scope.idents
  | .value _ _ => by simp [bindWrittenItem, Written.SignatureItem.declaredIdents]
  | .type _ _ ds => by
    rw [bindWrittenItem, Written.SignatureItem.declaredIdents, List.map_eq_flatMap]
    apply Bound.mem_foldl
    intro b d
    apply Bound.mem_declare
  | .typeSubst _ ds => by
    rw [bindWrittenItem, Written.SignatureItem.declaredIdents, List.map_eq_flatMap]
    apply Bound.mem_foldl
    intro b d
    simp
  | .extension _ _ => by simp [bindWrittenItem, Written.SignatureItem.declaredIdents]
  | .exception _ _ => by simp [bindWrittenItem, Written.SignatureItem.declaredIdents]
  | .module _ ⟨_, _, _, _⟩ => Bound.mem_declare
  | .moduleSubst _ d => by simp [bindWrittenItem, Written.SignatureItem.declaredIdents]
  | .recModule _ ds => mem_bindWrittenModules
  | .moduleType _ ⟨_, some _, _, _⟩ => Bound.mem_declare
  | .moduleType _ ⟨_, none, _, _⟩ => Bound.mem_declare
  | .opened _ _ => by simp [bindWrittenItem, Written.SignatureItem.declaredIdents]
  | .included _ ⟨_, content, _, _⟩ => mem_bindCompiledItems
  | .class _ ds => by
    rw [bindWrittenItem, Written.SignatureItem.declaredIdents]
    apply Bound.mem_foldl
    intro b d
    apply Bound.mem_hideAll
  | .classType _ ds => by
    rw [bindWrittenItem, Written.SignatureItem.declaredIdents]
    apply Bound.mem_foldl
    intro b d
    apply Bound.mem_hideAll
  | .floating _ _ => by simp [bindWrittenItem, Written.SignatureItem.declaredIdents]

/-- Written items bind the identifiers that they declare. -/
theorem mem_bindWrittenItems {parent : Identifier} {items : List Written.SignatureItem}
    {b : Bound} :
  y ∈ (bindWrittenItems parent b items).scope.idents ↔
    y ∈ items.flatMap Written.SignatureItem.declaredIdents ∨ y ∈ b.scope.idents
  := by
  induction items generalizing b with
  | nil => simp [bindWrittenItems]
  | cons item items ih =>
    rw [bindWrittenItems, ih, mem_bindWrittenItem, List.flatMap_cons, List.mem_append,
      or_assoc, or_left_comm]

variable {scope : Scope} {env : List Ident}

/-- Binding a compiled signature brings the identifiers into scope that it declares. -/
theorem Binds.bindCompiled (h : scope.Binds env) (parent : Identifier)
    (items : Compiled.Signature) :
  (scope.bindCompiled parent items).scope.Binds
    (items.flatMap Compiled.SignatureItem.declaredIdents ++ env)
  := by
  intro y
  rw [Scope.bindCompiled, mem_bindCompiledItems, List.mem_append, h y]

/-- Binding a written signature brings the identifiers into scope that it declares. -/
theorem Binds.bindWritten (h : scope.Binds env) (parent : Identifier)
    (items : Written.Signature) :
  (scope.bindWritten parent items).scope.Binds
    (items.flatMap Written.SignatureItem.declaredIdents ++ env)
  := by
  intro y
  rw [Scope.bindWritten, mem_bindWrittenItems, List.mem_append, h y]

end Scope

end InterfaceDocs
