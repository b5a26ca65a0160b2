import InterfaceDocs.Load.Error
import InterfaceDocs.Load.Event

/-!
# Readings

A reading is what a step of a load gives: the events that it told, in order, and its outcome,
which is a value or the error that ends the load.  The events of a failed step are kept.
Readings form a monad, and taking the outcome commutes with its operations, so statements
about outcomes never have to mention events.
-/

namespace InterfaceDocs

/-- The events and the outcome of a step of a load. -/
structure Reading (α : Type) where
  events : List Event
  outcome : Except LoadError α

namespace Reading

variable {α β : Type}

/-- The reading that tells nothing and gives a value. -/
protected def pure (a : α) : Reading α :=
  ⟨[], .ok a⟩

/-- One reading after another. -/
protected def bind (x : Reading α) (f : α → Reading β) : Reading β :=
  match x.outcome with
  | .ok a =>
    let y := f a
    ⟨x.events ++ y.events, y.outcome⟩
  | .error e => ⟨x.events, .error e⟩

instance : Monad Reading where
  pure := Reading.pure
  bind := Reading.bind

/-- The reading that tells nothing and has the given outcome. -/
def ofExcept (outcome : Except LoadError α) : Reading α :=
  ⟨[], outcome⟩

instance : MonadLift (Except LoadError) Reading where
  monadLift := ofExcept

/-- The reading that fails. -/
def fail (e : LoadError) : Reading α :=
  ⟨[], .error e⟩

/-- The reading that only tells an event. -/
def tell (e : Event) : Reading Unit :=
  ⟨[e], .ok ()⟩

/-- The readings of the elements of a list, one after the other. -/
def each (f : α → Reading β) : List α → Reading (List β)
  | [] => pure []
  | a :: as => do
    let b ← f a
    let bs ← each f as
    return b :: bs

/-- The reading of an optional part. -/
def optional (f : α → Reading β) : Option α → Reading (Option β)
  | none => pure none
  | some a => do return some (← f a)

@[simp]
theorem outcome_pure (a : α) :
  (pure a : Reading α).outcome = .ok a
  := rfl

@[simp]
theorem outcome_bind (x : Reading α) (f : α → Reading β) :
  (x >>= f).outcome = x.outcome >>= fun a => (f a).outcome
  := by
  change (Reading.bind x f).outcome = _
  rcases x with ⟨events, e | a⟩ <;> rfl

@[simp]
theorem outcome_ofExcept (outcome : Except LoadError α) :
  (ofExcept outcome).outcome = outcome
  := rfl

@[simp]
theorem outcome_liftM (outcome : Except LoadError α) :
  (liftM outcome : Reading α).outcome = outcome
  := rfl

@[simp]
theorem outcome_fail (e : LoadError) :
  (fail e : Reading α).outcome = .error e
  := rfl

@[simp]
theorem outcome_tell (e : Event) :
  (tell e).outcome = .ok ()
  := rfl

end Reading

end InterfaceDocs
