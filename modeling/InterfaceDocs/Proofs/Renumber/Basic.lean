import InterfaceDocs.Load.Reading
import InterfaceDocs.Path
import Mathlib.Logic.Function.Basic

/-!
# Renumberings

The compiler numbers the identifiers of a signature by stamps and its anonymous type variables
by ids.  A renumbering replaces these numbers by others, without identifying any and without
moving the stamp of persistent identifiers.  It acts on identifiers, paths and errors; here it
also acts on outcomes and readings, of which it changes the errors only.
-/

namespace InterfaceDocs

/-- A renumbering of stamps and of the ids of anonymous type variables. -/
structure Renumbering where
  stamp : Int32 → Int32
  var : Int32 → Int32
  stamp_injective : Function.Injective stamp
  stamp_zero : stamp 0 = 0
  var_injective : Function.Injective var

namespace Ident

/-- The identifier with its stamp renumbered. -/
def renumber (ρ : Renumbering) (x : Ident) : Ident :=
  ⟨x.name, ρ.stamp x.stamp, x.flags⟩

@[simp]
theorem renumber_name (ρ : Renumbering) (x : Ident) :
  (x.renumber ρ).name = x.name
  := rfl

@[simp]
theorem renumber_isPredef (ρ : Renumbering) (x : Ident) :
  (x.renumber ρ).isPredef = x.isPredef
  := rfl

/-- A renumbering keeps the stamp 0 and takes no other stamp to it. -/
theorem renumber_stamp_eq_zero (ρ : Renumbering) (x : Ident) :
  (x.renumber ρ).stamp = 0 ↔ x.stamp = 0
  := by
  have h : ρ.stamp x.stamp = ρ.stamp 0 ↔ x.stamp = 0 := ρ.stamp_injective.eq_iff
  rw [ρ.stamp_zero] at h
  apply h

/-- Persistent identifiers stay persistent, because zero is kept. -/
@[simp]
theorem renumber_isPersistent (ρ : Renumbering) (x : Ident) :
  (x.renumber ρ).isPersistent = x.isPersistent
  := by
  have h := renumber_stamp_eq_zero ρ x
  simp only [isPersistent, beq_eq_decide, h]

/-- Identifiers denote the same binding after a renumbering exactly when they did before. -/
@[simp]
theorem renumber_same (ρ : Renumbering) (x y : Ident) :
  (x.renumber ρ).same (y.renumber ρ) = x.same y
  := by
  have hx := renumber_stamp_eq_zero ρ x
  have hy := renumber_stamp_eq_zero ρ y
  have hxy : (x.renumber ρ).stamp = (y.renumber ρ).stamp ↔ x.stamp = y.stamp :=
    ρ.stamp_injective.eq_iff
  simp only [same, ne_eq, hx, beq_eq_decide, hxy, hy, renumber_name]

end Ident

/-- The path with its identifiers renumbered. -/
def Path.renumber (ρ : Renumbering) : Path → Path
  | .ident x => .ident (x.renumber ρ)
  | .dot head name => .dot (head.renumber ρ) name
  | .apply functor argument => .apply (functor.renumber ρ) (argument.renumber ρ)

/-- The text of a path has no numbers in it. -/
@[simp]
theorem Path.renumber_text (ρ : Renumbering) (p : Path) :
  (p.renumber ρ).text = p.text
  := by
  induction p with
  | ident x => rfl
  | dot head name ih => simp only [renumber, text, ih]
  | apply functor argument ihf iha => simp only [renumber, text, ihf, iha]

@[simp]
theorem Path.renumber_last (ρ : Renumbering) (p : Path) :
  (p.renumber ρ).last = p.last
  := by
  induction p with
  | ident x => rfl
  | dot head name ih => rfl
  | apply functor argument ihf iha => apply iha

/-- The error with its identifier renumbered, if it shows one. -/
def LoadError.renumber (ρ : Renumbering) : LoadError → LoadError
  | .unboundIdent x => .unboundIdent (x.renumber ρ)
  | e => e

variable {α β : Type}

/-! ### Outcomes -/

namespace Outcome

/-- The outcome with its error renumbered. -/
def renumber (ρ : Renumbering) (x : Except LoadError α) : Except LoadError α :=
  x.mapError (LoadError.renumber ρ)

variable (ρ : Renumbering)

@[simp]
theorem renumber_ok (a : α) :
  renumber ρ (.ok a) = .ok a
  := rfl

@[simp]
theorem renumber_error (e : LoadError) :
  renumber ρ (.error e : Except LoadError α) = .error (e.renumber ρ)
  := rfl

@[simp]
theorem renumber_pure (a : α) :
  renumber ρ (pure a) = pure a
  := rfl

/-- Steps are renumbered one after the other. -/
@[simp]
theorem renumber_bind (x : Except LoadError α) (f : α → Except LoadError β) :
  renumber ρ (x >>= f) = renumber ρ x >>= fun a => renumber ρ (f a)
  := by
  cases x with
  | error e => rfl
  | ok a => rfl

/-- Values have no numbers in them, so changing them commutes with renumbering. -/
@[simp]
theorem renumber_map (x : Except LoadError α) (f : α → β) :
  renumber ρ (x.map f) = (renumber ρ x).map f
  := by
  cases x with
  | error e => rfl
  | ok a => rfl

/-- Outcomes are equal if they are so after an injective map of their values. -/
theorem eq_of_bind_eq {x y : Except LoadError α} {f : α → β} (hf : Function.Injective f)
    (h : (x >>= fun a => .ok (f a)) = y >>= fun a => .ok (f a)) :
  x = y
  := by
  rcases x with e | a
  · rcases y with e' | b
    · apply congrArg Except.error (Except.error.inj h)
    · cases h
  · rcases y with e' | b
    · cases h
    · apply congrArg Except.ok (hf (Except.ok.inj h))

/-- A renumbered outcome has the value of the outcome. -/
theorem renumber_eq_ok {x : Except LoadError α} {a : α} :
  renumber ρ x = .ok a ↔ x = .ok a
  := by
  cases x with
  | error e => simp
  | ok b => simp

/-- The error of a renumbered outcome is the renumbered error of the outcome. -/
theorem renumber_eq_error {x : Except LoadError α} {e : LoadError} :
  renumber ρ x = .error e ↔ ∃ e', x = .error e' ∧ e'.renumber ρ = e
  := by
  cases x with
  | error e' => simp
  | ok b => simp

end Outcome

/-! ### Readings -/

namespace Reading

/-- The reading with its error renumbered. -/
def renumber (ρ : Renumbering) (x : Reading α) : Reading α :=
  ⟨x.events, Outcome.renumber ρ x.outcome⟩

variable (ρ : Renumbering)

@[simp]
theorem renumber_pure (a : α) :
  renumber ρ (pure a) = pure a
  := rfl

/-- Readings are renumbered one after the other. -/
@[simp]
theorem renumber_bind (x : Reading α) (f : α → Reading β) :
  renumber ρ (x >>= f) = renumber ρ x >>= fun a => renumber ρ (f a)
  := by
  rcases x with ⟨events, e | a⟩
  · rfl
  · rfl

/-- A step without events is renumbered as an outcome. -/
@[simp]
theorem renumber_liftM (x : Except LoadError α) :
  renumber ρ (liftM x : Reading α) = liftM (Outcome.renumber ρ x)
  := rfl

/-- Events have no numbers in them. -/
@[simp]
theorem renumber_tell (e : Event) :
  renumber ρ (tell e) = tell e
  := rfl

/-- The identifier in an error is renumbered. -/
@[simp]
theorem renumber_fail (e : LoadError) :
  renumber ρ (fail e : Reading α) = fail (e.renumber ρ)
  := rfl

/-- Renumbering the readings of the elements of a list renumbers the readings of the list. -/
theorem each_renumber {γ : Type} {f : α → Reading β} {f' : γ → Reading β} {g : α → γ}
    (h : ∀ a, f' (g a) = (f a).renumber ρ) (as : List α) :
  each f' (as.map g) = (each f as).renumber ρ
  := by
  induction as with
  | nil => rfl
  | cons a as ih => simp only [List.map_cons, each, h, ih, renumber_bind, renumber_pure]

/-- An optional part is renumbered as the part is. -/
theorem optional_renumber {γ : Type} {f : α → Reading β} {f' : γ → Reading β} {g : α → γ}
    (h : ∀ a, f' (g a) = (f a).renumber ρ) (a : Option α) :
  optional f' (a.map g) = (optional f a).renumber ρ
  := by
  cases a with
  | none => rfl
  | some a => simp only [Option.map_some, optional, h, renumber_bind, renumber_pure]

end Reading

end InterfaceDocs
