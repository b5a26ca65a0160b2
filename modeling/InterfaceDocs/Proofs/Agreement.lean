import InterfaceDocs.Proofs.Outcome

/-!
# Agreement of readings

Two readings agree up to a view of their values when both fail with the same error, or both
give values that look the same in the view (`Reading.agree_iff`).  Agreement goes through the
steps of a load: if the first steps agree, and the steps after them agree for any two values
that look the same, then the sequences agree (`Reading.Agree.bind`).
-/

namespace InterfaceDocs.Reading

variable {α β γ δ : Type}

/-- The readings fail with the same error or give values with the same view. -/
def Agree (view : α → γ) (x y : Reading α) : Prop :=
  x.outcome.map view = y.outcome.map view

/-- Readings agree if both fail with the same error, or if both give values with the same view. -/
theorem agree_iff {view : α → γ} {x y : Reading α} :
  x.Agree view y ↔
    (∃ e, x.outcome = .error e ∧ y.outcome = .error e) ∨
      ∃ a b, x.outcome = .ok a ∧ y.outcome = .ok b ∧ view a = view b
  := by
  rcases x with ⟨_, e | a⟩
  · rcases y with ⟨_, e' | b⟩
    · simp [Agree, Except.map, eq_comm]
    · simp [Agree, Except.map]
  · rcases y with ⟨_, e' | b⟩
    · simp [Agree, Except.map]
    · simp [Agree, Except.map]

namespace Agree

variable {f : α → γ} {g : β → δ}

theorem refl (f : α → γ) (x : Reading α) :
  x.Agree f x
  := Eq.refl _

theorem symm {x y : Reading α} (h : x.Agree f y) :
  y.Agree f x
  := Eq.symm h

theorem trans {x y z : Reading α} (h : x.Agree f y) (h' : y.Agree f z) :
  x.Agree f z
  := Eq.trans h h'

/-- Values with the same view agree. -/
theorem pure {a b : α} (h : f a = f b) :
  Agree f (Pure.pure a) (Pure.pure b)
  := congrArg Except.ok h

/-- Sequences of steps agree when their first steps do and the steps after them do for values
with the same view. -/
theorem bind {x y : Reading α} {k l : α → Reading β} (h : x.Agree f y)
    (hnext : ∀ a b, f a = f b → (k a).Agree g (l b)) :
  (x >>= k).Agree g (y >>= l)
  := by
  rcases agree_iff.mp h with ⟨e, hx, hy⟩ | ⟨a, b, hx, hy, hab⟩
  · unfold Agree
    rw [outcome_bind, outcome_bind, hx, hy]
    rfl
  · have hnext := hnext a b hab
    unfold Agree at hnext ⊢
    rw [outcome_bind, outcome_bind, hx, hy]
    apply hnext

/-- Sequences with the same first step agree when the steps after it do. -/
theorem bind_right {x : Reading α} {k l : α → Reading β} (h : ∀ a, (k a).Agree g (l a)) :
  (x >>= k).Agree g (x >>= l)
  := by
  apply bind (refl id x)
  rintro a _ rfl
  apply h a

/-- The events that are told do not matter. -/
theorem tell {x y : Unit → Reading β} (e e' : Event) (h : (x ()).Agree g (y ())) :
  (Reading.tell e >>= x).Agree g (Reading.tell e' >>= y)
  := h

/-- A first step that gives a value may be left out. -/
theorem skip {x : Reading α} {k : α → Reading β} {y : Reading β} {a : α}
    (hx : x.outcome = .ok a) (h : (k a).Agree g y) :
  (x >>= k).Agree g y
  := by
  unfold Agree
  rw [outcome_bind, hx]
  apply h

/-- A last step that is not seen in the view may be left out. -/
theorem bind_pure {x y : Reading α} {k : α → α} (h : x.Agree f y) (hk : ∀ a, f (k a) = f a) :
  (x >>= fun a => Pure.pure (k a)).Agree f y
  := by
  rcases agree_iff.mp h with ⟨e, hx, hy⟩ | ⟨a, b, hx, hy, hab⟩
  · unfold Agree
    rw [outcome_bind, hx, hy]
    rfl
  · unfold Agree
    rw [outcome_bind, hx, hy]
    apply congrArg Except.ok ((hk a).trans hab)

/-- The readings of two lists agree if those of their elements do. -/
theorem each {r s : α → Reading β} {step : α → α}
    (h : ∀ a, (r a).Agree g (s (step a))) (as : List α) :
  (Reading.each r as).Agree (List.map g) (Reading.each s (as.map step))
  := by
  induction as with
  | nil => apply refl
  | cons a as ih =>
    apply bind (h a)
    intro b b' hb
    apply bind ih
    intro bs bs' hbs
    apply pure
    rw [List.map_cons, List.map_cons, hb, hbs]

/-- The readings of two optional parts agree if those of the parts do. -/
theorem optional {r s : α → Reading β} {step : α → α}
    (h : ∀ a, (r a).Agree g (s (step a))) (a : Option α) :
  (Reading.optional r a).Agree (Option.map g) (Reading.optional s (a.map step))
  := by
  cases a with
  | none => apply refl
  | some a =>
    apply bind (h a)
    intro b b' hb
    apply pure
    rw [Option.map_some, Option.map_some, hb]

end Agree

end InterfaceDocs.Reading

namespace InterfaceDocs.Load

/-- Reading documentation never fails, so all readings of documentation agree when nothing is
seen of it. -/
theorem readDoc_agree (config config' : Config) (id : Identifier)
    (attributes attributes' : List Attribute) :
  (readDoc config id attributes).Agree (fun _ => ()) (readDoc config' id attributes')
  := rfl

/-- Readings of the documentation of what has no identifier agree when nothing is seen of it. -/
theorem readAnonymousDoc_agree (config config' : Config) (name : String)
    (attributes attributes' : List Attribute) :
  (readAnonymousDoc config name attributes).Agree (fun _ => ())
    (readAnonymousDoc config' name attributes')
  := rfl

/-- Readings of standalone comments agree when nothing is seen of them. -/
theorem readComments_agree (config config' : Config) (attributes attributes' : List Attribute) :
  (readComments config attributes).Agree (fun _ => ()) (readComments config' attributes')
  := rfl

theorem readCanonical_agree (doc doc' : Doc) :
  (readCanonical doc).Agree (fun _ => ()) (readCanonical doc')
  := rfl

end InterfaceDocs.Load
