import InterfaceDocs.Load.WrittenSignature
import InterfaceDocs.Proofs.Outcome
import Mathlib.Data.List.ReduceOption

/-!
# Chains of functors

A module type is documented from a source, which is a written or a compiled module type.  Both
kinds have functors, and the result of a functor may be a functor again.  So a source is a chain
of parameters with a result that is not a functor, and the documentation of a source is such a
chain, too (`Source.chainRec` is the induction along a chain).
-/

namespace InterfaceDocs

/-! ### Chains in the documentation -/

namespace Model

/-- The identifier and the type of a parameter, if it is named. -/
def FunctorParameter.named? : FunctorParameter → Option (Identifier × ModuleTypeExpr)
  | .unit => none
  | .named id type _ => some (id, type)

namespace ModuleTypeExpr

/-- The parameters of a chain of functors, without types where they are not named. -/
def parameters : ModuleTypeExpr → List (Option (Identifier × ModuleTypeExpr))
  | .functor param result => param.named? :: result.parameters
  | _ => []

/-- The result of a chain of functors. -/
def result : ModuleTypeExpr → ModuleTypeExpr
  | .functor _ result => result.result
  | type => type

/-- The named parameters of a chain of functors. -/
def named (type : ModuleTypeExpr) : List (Identifier × ModuleTypeExpr) :=
  type.parameters.reduceOption

end ModuleTypeExpr

end Model

/-! ### Chains in sources -/

/-- What a module type is documented from. -/
inductive Source where
  | written (type : Written.ModuleType)
  | compiled (type : Compiled.ModuleType)

namespace Source

/-- Documents a source that `owner` declares. -/
def document (config : Config) (scope : Scope) (owner : Identifier) :
    Source → Reading Model.ModuleTypeExpr
  | .written type => type.document config scope owner
  | .compiled type => type.document config scope owner

/-- The shape of a source; `parent` owns an inline signature. -/
def shape (scope : Scope) (parent : Identifier) : Source → Shape
  | .written type => scope.writtenShape parent type
  | .compiled type => scope.compiledShape parent type

/-- The scope of the result of a functor that `owner` declares, where the functor has the given
parameter. -/
def scopeOfResult (scope : Scope) (owner : Identifier) (x : Ident) (type : Source) : Scope :=
  let id := scope.functorArgument owner x.name
  scope.addFunctorParameter x id (type.shape scope id)

/-- The parameter and the result of a functor; the parameter may be missing. -/
def functor? : Source → Option (Option (Ident × Source) × Source)
  | .written (.functor _ .unit result) => some (none, .written result)
  | .written (.functor _ (.named x type) result) => some (some (x, .written type), .written result)
  | .compiled (.functor _ none result) => some (none, .compiled result)
  | .compiled (.functor x (some type) result) =>
    some (some (x, .compiled type), .compiled result)
  | _ => none

end Source

/-- The parameters of a chain of functors. -/
def Written.ModuleType.parameters : Written.ModuleType → List (Option (Ident × Source))
  | .functor _ .unit result => none :: result.parameters
  | .functor _ (.named x type) result => some (x, .written type) :: result.parameters
  | _ => []

/-- The result of a chain of functors. -/
def Written.ModuleType.result : Written.ModuleType → Written.ModuleType
  | .functor _ _ result => result.result
  | type => type

/-- The parameters of a chain of functors. -/
def Compiled.ModuleType.parameters : Compiled.ModuleType → List (Option (Ident × Source))
  | .functor _ none result => none :: result.parameters
  | .functor x (some type) result => some (x, .compiled type) :: result.parameters
  | _ => []

/-- The result of a chain of functors. -/
def Compiled.ModuleType.result : Compiled.ModuleType → Compiled.ModuleType
  | .functor _ _ result => result.result
  | type => type

namespace Source

/-- The parameters of a chain of functors, from the first to the last. -/
def parameters : Source → List (Option (Ident × Source))
  | .written type => type.parameters
  | .compiled type => type.parameters

/-- The result of a chain of functors, which is not a functor. -/
def result : Source → Source
  | .written type => .written type.result
  | .compiled type => .compiled type.result

/-- The named parameters of a chain of functors. -/
def named (source : Source) : List (Ident × Source) :=
  source.parameters.reduceOption

variable {source rest : Source} {parameter : Option (Ident × Source)}

theorem parameters_of_functor? (h : source.functor? = some (parameter, rest)) :
  source.parameters = parameter :: rest.parameters
  := by
  unfold functor? at h
  split at h <;> cases h <;> rfl

theorem result_of_functor? (h : source.functor? = some (parameter, rest)) :
  source.result = rest.result
  := by
  unfold functor? at h
  split at h <;> cases h <;> rfl

/-- A source that is not a functor is its own result. -/
theorem chain_of_functor?_eq_none (h : source.functor? = none) :
  source.parameters = [] ∧ source.result = source
  := by
  rcases source with type | type
  · cases type with
    | functor info param result => cases param <;> cases h
    | _ => constructor <;> rfl
  · cases type with
    | functor x param result => cases param <;> cases h
    | _ => constructor <;> rfl

/-- Induction along a chain of functors. -/
theorem chainRec {motive : Source → Prop}
    (functor : ∀ {source parameter rest}, source.functor? = some (parameter, rest) →
      motive rest → motive source)
    (result : ∀ {source}, source.functor? = none → motive source) (source : Source) :
  motive source
  := by
  cases h : source.functor? with
  | none => apply result h
  | some step =>
    obtain ⟨parameter, rest⟩ := step
    have hlt : rest.parameters.length < source.parameters.length := by
      rw [parameters_of_functor? h, List.length_cons]
      apply Nat.lt_succ_self _
    apply functor h (chainRec functor result rest)
termination_by source.parameters.length

/-! ### Documenting a chain -/

variable {config : Config} {scope : Scope} {owner : Identifier} {out : Model.ModuleTypeExpr}

/-- A functor without a parameter is documented by its result. -/
theorem document_unit (hfunctor : source.functor? = some (none, rest))
    (h : (source.document config scope owner).outcome = .ok out) :
  ∃ out', (rest.document config scope owner).outcome = .ok out' ∧ out = .functor .unit out'
  := by
  unfold functor? at hfunctor
  split at hfunctor <;> cases hfunctor
  · simp [document, Written.ModuleType.document] at h
    obtain ⟨out', hout', rfl⟩ := h
    use out'
    constructor
    · apply hout'
    · rfl
  · simp [document, Compiled.ModuleType.document] at h
    obtain ⟨out', hout', rfl⟩ := h
    use out'
    constructor
    · apply hout'
    · rfl

/-- A functor with a parameter is documented by the type of the parameter, which belongs to the
parameter, and by its result, in whose scope the parameter is. -/
theorem document_named {x : Ident} {type : Source}
    (hfunctor : source.functor? = some (some (x, type), rest))
    (h : (source.document config scope owner).outcome = .ok out) :
  let id := scope.functorArgument owner x.name
  ∃ type' expanded out', (type.document config scope id).outcome = .ok type' ∧
    (rest.document config (scopeOfResult scope owner x type) owner).outcome = .ok out' ∧
    out = .functor (.named id type' expanded) out'
  := by
  unfold functor? at hfunctor
  split at hfunctor <;> cases hfunctor
  · simp [document, Written.ModuleType.document] at h
    obtain ⟨type', htype', out', hout', rfl⟩ := h
    exact ⟨type', _, out', htype', hout', rfl⟩
  · simp [document, Compiled.ModuleType.document] at h
    obtain ⟨type', htype', out', hout', rfl⟩ := h
    exact ⟨type', _, out', htype', hout', rfl⟩

/-- What is not a functor is not documented as one. -/
theorem chain_document_of_functor?_eq_none (hfunctor : source.functor? = none)
    (h : (source.document config scope owner).outcome = .ok out) :
  out.parameters = [] ∧ out.result = out
  := by
  rcases source with type | type
  · cases type with
    | path info p =>
      simp [document, Written.ModuleType.document] at h
      obtain ⟨r, -, rfl⟩ := h
      constructor <;> rfl
    | signature info items =>
      simp [document, Written.ModuleType.document] at h
      obtain ⟨items', -, rfl⟩ := h
      constructor <;> rfl
    | functor info param result => cases param <;> cases hfunctor
    | constrained info body clauses =>
      simp [document, Written.ModuleType.document] at h
      obtain ⟨body', -, clauses', -, rfl⟩ := h
      constructor <;> rfl
    | typeOf info expr =>
      simp [document, Written.ModuleType.document] at h
      obtain ⟨type', -, rfl⟩ := h
      constructor <;> rfl
    | «alias» info p => cases h
  · cases type with
    | path p =>
      simp [document, Compiled.ModuleType.document] at h
      obtain ⟨r, -, rfl⟩ := h
      constructor <;> rfl
    | signature items =>
      simp [document, Compiled.ModuleType.document] at h
      obtain ⟨following, -, rfl⟩ := h
      constructor <;> rfl
    | functor x param result => cases param <;> cases hfunctor
    | «alias» p => cases h

end Source

end InterfaceDocs
