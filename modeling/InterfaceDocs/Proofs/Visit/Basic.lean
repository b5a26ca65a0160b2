import InterfaceDocs.Proofs.Outcome

/-!
# Visits

A load looks at the paths in a signature, each with the identifiers that are in scope at its
place, and it may come upon defects.  A visit is one or the other.  The visits to a signature
are sound when every identifier in a visited path is bound and there are no defects.  Success
of a load is `Outcome.IsOk`, which holds of a sequence of steps when it holds of each of them.
-/

namespace InterfaceDocs

/-- The identifiers in a path: its head and those of functors and their arguments. -/
def Path.idents : Path → List Ident
  | .ident x => [x]
  | .dot head _ => head.idents
  | .apply functor argument => functor.idents ++ argument.idents

/-- The defects that a signature can have: an extension constructor that is another name of an
existing one, a class arrow where only a class type may stand, a type substitution without a
right-hand side, a type parameter that is not a variable, and a module alias that stands for a
module type. -/
inductive Defect where
  | rebind
  | classArrow
  | missingManifest
  | typeParameter
  | moduleAlias
  deriving DecidableEq

/-- What a load looks at: a path where the given identifiers are in scope, or a defect. -/
inductive Visit where
  | path (env : List Ident) (p : Path)
  | defect (d : Defect)

/-- An identifier is bound where it is predefined, persistent, or in scope. -/
def Ident.IsBound (env : List Ident) (x : Ident) : Prop :=
  x.isPredef ∨ x.stamp = 0 ∨ ∃ y ∈ env, y.same x

/-- A visit is sound when it is to a path with bound identifiers. -/
def Visit.IsSound : Visit → Prop
  | .path env p => ∀ x ∈ p.idents, x.IsBound env
  | .defect _ => False

/-- All visits of a list are sound. -/
def AllSound (visits : List Visit) : Prop :=
  ∀ v ∈ visits, v.IsSound

@[simp]
theorem allSound_nil :
  AllSound []
  := by
  simp [AllSound]

/-- A visit to a path is sound if its identifiers are bound. -/
@[simp]
theorem allSound_path {env : List Ident} {p : Path} {visits : List Visit} :
  AllSound (.path env p :: visits) ↔ (∀ x ∈ p.idents, x.IsBound env) ∧ AllSound visits
  := by
  simp [AllSound, Visit.IsSound]

/-- A visit to a defect is never sound. -/
@[simp]
theorem allSound_defect {d : Defect} {visits : List Visit} :
  ¬ AllSound (.defect d :: visits)
  := by
  simp [AllSound, Visit.IsSound]

/-- Visits are sound in front and behind. -/
@[simp]
theorem allSound_append {visits others : List Visit} :
  AllSound (visits ++ others) ↔ AllSound visits ∧ AllSound others
  := by
  simp [AllSound, or_imp, forall_and]

/-- Visits are sound element by element. -/
theorem allSound_flatMap {α : Type} {f : α → List Visit} {as : List α} :
  AllSound (as.flatMap f) ↔ ∀ a ∈ as, AllSound (f a)
  := by
  induction as with
  | nil => simp
  | cons a as ih => simp [ih]

/-- All visits are sound exactly when the identifiers in the visited paths are bound and no
visit is to a defect. -/
theorem allSound_iff {visits : List Visit} :
  AllSound visits ↔
    (∀ env p, .path env p ∈ visits → ∀ x ∈ p.idents, x.IsBound env) ∧
      ∀ d, .defect d ∉ visits
  := by
  constructor
  · intro h
    constructor
    · intro env p hp
      apply h _ hp
    · intro d hd
      apply h _ hd
  · rintro ⟨hpaths, hdefects⟩ v hv
    cases v with
    | path env p => apply hpaths env p hv
    | defect d => apply hdefects d hv

/-! ### Success -/

variable {α β : Type}

namespace Outcome

/-- The outcome is a value. -/
def IsOk (x : Except LoadError α) : Prop :=
  ∃ a, x = .ok a

@[simp]
theorem isOk_ok (a : α) :
  IsOk (.ok a)
  := ⟨a, rfl⟩

@[simp]
theorem not_isOk_error (e : LoadError) :
  ¬ IsOk (.error e : Except LoadError α)
  := by
  rintro ⟨a, h⟩
  cases h

/-- Changing a value does not change whether there is one. -/
@[simp]
theorem isOk_map {x : Except LoadError α} {f : α → β} :
  IsOk (x.map f) ↔ IsOk x
  := by
  cases x with
  | error e => simp [Except.map]
  | ok a => simp [Except.map]

@[simp]
theorem isOk_fmap {x : Except LoadError α} {f : α → β} :
  IsOk (f <$> x) ↔ IsOk x
  := isOk_map

@[simp]
theorem exists_eq_ok {x : Except LoadError α} :
  (∃ a, x = .ok a) ↔ IsOk x
  := Iff.rfl

/-- A step after another one gives a value when the first step gives a value with which the
second one does. -/
@[simp]
theorem isOk_bind {x : Except LoadError α} {f : α → Except LoadError β} :
  IsOk (x >>= f) ↔ ∃ a, x = .ok a ∧ IsOk (f a)
  := by
  cases x with
  | error e => simp [bind, Except.bind]
  | ok a => simp [bind, Except.bind]

end Outcome

/-- The readings of a list give values when each of them does. -/
theorem Reading.isOk_each {f : α → Reading β} {as : List α} :
  Outcome.IsOk (each f as).outcome ↔ ∀ a ∈ as, Outcome.IsOk (f a).outcome
  := by
  induction as with
  | nil => simp [each]
  | cons a as ih => simp [each, ih]

/-- The readings of a list give values exactly when the visits to its elements are sound, if
this is so for each element. -/
theorem Reading.isOk_each_iff {f : α → Reading β} {visits : α → List Visit}
    (h : ∀ a, Outcome.IsOk (f a).outcome ↔ AllSound (visits a)) {as : List α} :
  Outcome.IsOk (each f as).outcome ↔ AllSound (as.flatMap visits)
  := by
  rw [isOk_each, allSound_flatMap]
  apply forall₂_congr
  intro a _
  apply h a

/-- An optional part gives a value exactly when the visits to the part are sound. -/
theorem Reading.isOk_optional_iff {f : α → Reading β} {visits : α → List Visit}
    (h : ∀ a, Outcome.IsOk (f a).outcome ↔ AllSound (visits a)) {a : Option α} :
  Outcome.IsOk (optional f a).outcome ↔ AllSound (a.toList.flatMap visits)
  := by
  cases a with
  | none => simp [optional]
  | some a => simp [optional, h]

end InterfaceDocs
