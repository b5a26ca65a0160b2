import InterfaceDocs.Proofs.Outcome

/-!
# Outcomes with the same value

Two outcomes have the same value when both are that value or both are errors, which may
differ.  In sequences of steps the first steps may be replaced by steps with the same value
(`Outcome.Same.bind`), and independent steps may be exchanged (`Outcome.Same.bind_comm`):
the order of steps decides which error is reported, but not whether one is.
-/

namespace InterfaceDocs

variable {α β γ : Type}

namespace Outcome

/-- Both outcomes are the same value, or both are errors. -/
def Same (x y : Except LoadError α) : Prop :=
  x.toOption = y.toOption

/-- Outcomes have the same value exactly when each value of one is that of the other. -/
theorem same_iff {x y : Except LoadError α} :
  Same x y ↔ ∀ a, x = .ok a ↔ y = .ok a
  := by
  rcases x with e | a
  · rcases y with e' | b
    · simp [Same, Except.toOption]
    · simp [Same, Except.toOption]
  · rcases y with e' | b
    · simp [Same, Except.toOption]
    · constructor
      · intro h a'
        rw [Option.some.inj h]
      · intro h
        apply congrArg some (Except.ok.inj ((h a).mp rfl)).symm

namespace Same

theorem refl (x : Except LoadError α) :
  Same x x
  := Eq.refl _

theorem symm {x y : Except LoadError α} (h : Same x y) :
  Same y x
  := Eq.symm h

theorem trans {x y z : Except LoadError α} (h : Same x y) (h' : Same y z) :
  Same x z
  := Eq.trans h h'

/-- Errors have the same value. -/
theorem error (e e' : LoadError) :
  Same (.error e : Except LoadError α) (.error e')
  := Eq.refl _

/-- Sequences of steps have the same value when their first steps do and the steps after them
do. -/
theorem bind {x y : Except LoadError α} {f g : α → Except LoadError β} (h : Same x y)
    (hnext : ∀ a, Same (f a) (g a)) :
  Same (x >>= f) (y >>= g)
  := by
  rcases x with e | a
  · rcases y with e' | b
    · apply error e e'
    · cases h
  · rcases y with e' | b
    · cases h
    · obtain rfl := Option.some.inj h
      apply hnext a

/-- Steps that do not depend on each other may be exchanged. -/
theorem bind_comm (x : Except LoadError α) (y : Except LoadError β)
    (f : α → β → Except LoadError γ) :
  Same (x >>= fun a => y >>= f a) (y >>= fun b => x >>= fun a => f a b)
  := by
  rcases x with e | a
  · rcases y with e' | b
    · apply error e e'
    · apply refl _
  · rcases y with e' | b
    · apply error e' e'
    · apply refl _

/-- A first step that gives a value may be left out. -/
theorem skip {x : Reading α} {k : α → Reading β} {y : Except LoadError β} {a : α}
    (hx : x.outcome = .ok a) (h : Same (k a).outcome y) :
  Same (x >>= k).outcome y
  := by
  rw [Reading.outcome_bind, hx]
  apply h

/-- Sequences of readings have the same value when their first readings do and the readings
after them do. -/
theorem step {x y : Reading α} {k l : α → Reading β} (h : Same x.outcome y.outcome)
    (hnext : ∀ a, Same (k a).outcome (l a).outcome) :
  Same (x >>= k).outcome (y >>= l).outcome
  := by
  rw [Reading.outcome_bind, Reading.outcome_bind]
  apply bind h hnext

/-- The readings of two lists have the same value if those of their elements do. -/
theorem each {r : α → Reading γ} {s : β → Reading γ} {as : List α} {bs : List β}
    (h : List.Forall₂ (fun a b => Same (r a).outcome (s b).outcome) as bs) :
  Same (Reading.each r as).outcome (Reading.each s bs).outcome
  := by
  induction h with
  | nil => apply refl _
  | cons hab _ ih =>
    apply step hab
    intro c
    apply step ih
    intro cs
    apply refl _

end Same

end Outcome

end InterfaceDocs
