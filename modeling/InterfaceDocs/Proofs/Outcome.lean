import InterfaceDocs.Load.CompiledDeclaration
import InterfaceDocs.Load.Docs
import Mathlib.Data.List.Forall2
import Mathlib.Tactic.Use

/-!
# Outcomes of readings

Inversion of the steps of a load: a sequence of steps gives a value exactly when each of its
steps does.  Reading documentation always gives a value, so it disappears from statements
about outcomes.
-/

namespace InterfaceDocs

variable {α β : Type}

namespace Outcome

/-- Two steps give a value exactly when the first one gives a value for which the second one
does. -/
@[simp]
theorem bind_eq_ok {x : Except LoadError α} {f : α → Except LoadError β} {b : β} :
  x >>= f = .ok b ↔ ∃ a, x = .ok a ∧ f a = .ok b
  := by
  rcases x with e | a <;> simp [bind, Except.bind]

/-- A value that is changed is given exactly when a value is. -/
@[simp]
theorem map_eq_ok {x : Except LoadError α} {f : α → β} {b : β} :
  x.map f = .ok b ↔ ∃ a, x = .ok a ∧ f a = b
  := by
  rcases x with e | a <;> simp [Except.map]

@[simp]
theorem fmap_eq_ok {x : Except LoadError α} {f : α → β} {b : β} :
  f <$> x = .ok b ↔ ∃ a, x = .ok a ∧ f a = b
  := map_eq_ok

end Outcome

namespace Reading

/-- The readings of a list give a list exactly when each of them gives the element in its
place. -/
theorem each_eq_ok {f : α → Reading β} {as : List α} {bs : List β} :
  (each f as).outcome = .ok bs ↔ List.Forall₂ (fun a b => (f a).outcome = .ok b) as bs
  := by
  induction as generalizing bs with
  | nil => simp [each, eq_comm]
  | cons a as ih =>
    simp only [each, outcome_bind, Outcome.bind_eq_ok, outcome_pure, Except.ok.injEq, ih,
      List.forall₂_cons_left_iff]
    constructor
    · rintro ⟨b, hb, bs, hbs, rfl⟩
      use b, bs
    · rintro ⟨b, bs, hb, hbs, rfl⟩
      use b, hb, bs

/-- Each value that the readings of a list give is given by one of its elements. -/
theorem exists_of_mem_each {f : α → Reading β} {as : List α} {bs : List β}
    (h : (each f as).outcome = .ok bs) {b : β} (hb : b ∈ bs) :
  ∃ a ∈ as, (f a).outcome = .ok b
  := by
  have hall := each_eq_ok.mp h
  clear h
  induction hall with
  | nil => cases hb
  | @cons a _ as _ ha _ ih =>
    rcases List.mem_cons.mp hb with rfl | hb
    · use a, List.mem_cons_self
    · obtain ⟨a', hmem, ha'⟩ := ih hb
      use a', List.mem_cons_of_mem a hmem

/-- The reading of an optional part gives a value exactly when the part does. -/
theorem optional_eq_ok {f : α → Reading β} {a : Option α} {b : Option β} :
  (optional f a).outcome = .ok b ↔ (a = none ∧ none = b) ∨
    ∃ a' b', a = some a' ∧ (f a').outcome = .ok b' ∧ some b' = b
  := by
  cases a with
  | none => simp [optional]
  | some a => simp [optional]

end Reading

namespace Load

/-- Reading documentation gives that of the attributes. -/
@[simp]
theorem outcome_readDoc (config : Config) (id : Identifier) (attributes : List Attribute) :
  (readDoc config id attributes).outcome = .ok (.ofAttributes config attributes)
  := rfl

@[simp]
theorem outcome_readAnonymousDoc (config : Config) (name : String)
    (attributes : List Attribute) :
  (readAnonymousDoc config name attributes).outcome = .ok (.ofAttributes config attributes)
  := rfl

/-- Reading standalone comments gives those of the attributes that are comments. -/
@[simp]
theorem outcome_readComments (config : Config) (attributes : List Attribute) :
  (readComments config attributes).outcome
    = .ok (attributes.filterMap (standaloneComment config))
  := rfl

@[simp]
theorem outcome_readCanonical (doc : Doc) :
  (readCanonical doc).outcome = .ok (canonicalPath doc)
  := rfl

end Load

namespace Compiled

variable {scope : Scope} {names : VarNames}

/-- Each value that documenting a list gives is given by one of its elements. -/
theorem exists_of_mem_documentEach {f : α → Except LoadError β} {as : List α} {bs : List β}
    (h : documentEach f as = .ok bs) {b : β} (hb : b ∈ bs) :
  ∃ a ∈ as, f a = .ok b
  := by
  induction as generalizing bs with
  | nil =>
    obtain rfl := Except.ok.inj h
    cases hb
  | cons a as ih =>
    simp [documentEach] at h
    obtain ⟨b', ha, bs, hbs, rfl⟩ := h
    rcases List.mem_cons.mp hb with rfl | hb
    · use a, List.mem_cons_self
    · obtain ⟨a', hmem, ha'⟩ := ih hbs hb
      use a', List.mem_cons_of_mem a hmem

/-- An arrow documents its argument without the option type of an optional label. -/
theorem TypeExpr.document_arrow (label : ArgLabel) (arg res : TypeExpr) :
  (TypeExpr.arrow label arg res).document scope names
    = do
      let arg ← documentArgument scope names label arg
      let res ← res.document scope names
      return .arrow label.document arg res
  := by
  unfold documentArgument
  split
  · rw [TypeExpr.document]
    split
    · rfl
    · rfl
  · rw [TypeExpr.document]
    assumption

/-- The predefined option type resolves in every scope. -/
theorem resolve_of_isOptionPath (scope : Scope) {p : Path} (h : isOptionPath p)
    (kind : PathKind) :
  ∃ name, scope.resolve kind p = .ok (.core name)
  := by
  unfold isOptionPath at h
  split at h
  · rename_i x
    simp at h
    use x.name
    simp [Scope.resolve, Scope.resolveWithShape, h.1, Except.map]
  · cases h

/-- A documented argument is a documented type, or the argument of a documented option type. -/
theorem documentArgument_eq_ok {label : ArgLabel} {arg : TypeExpr} {out : Model.TypeExpr}
    (h : documentArgument scope names label arg = .ok out) :
  arg.document scope names = .ok out ∨
    ∃ name, arg.document scope names = .ok (.constr (.core name) [out])
  := by
  unfold documentArgument at h
  split at h
  · rename_i p type
    split at h
    · rename_i hoption
      obtain ⟨name, hname⟩ := resolve_of_isOptionPath scope hoption .type
      right
      use name
      simp [TypeExpr.document, documentTypes, hname, h]
    · left
      apply h
  · left
    apply h

end Compiled

end InterfaceDocs
