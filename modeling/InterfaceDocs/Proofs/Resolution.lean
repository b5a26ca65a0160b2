import InterfaceDocs.Proofs.Fragment
import InterfaceDocs.Proofs.Visit.Scope

/-!
# Resolution of paths

A path projects names from a base, which is an identifier or a functor application.  Resolving
the path fails at its first identifier that is not bound, and at nothing else: a name that is not
a member only ends the part of the path that is followed.  The path is followed as far as
possible, and the names behind are kept (`resolution_is_maximal`).
-/

namespace InterfaceDocs

/-! ### The base and the names of a path -/

namespace Path

/-- What a path projects its names from. -/
def base : Path → Path
  | .dot head _ => head.base
  | p => p

/-- The names that a path projects from its base, from the first to the last. -/
def names : Path → List String
  | .dot head name => head.names ++ [name]
  | _ => []

/-- The part of a path that projects only the first names. -/
def upTo (p : Path) (count : Nat) : Path :=
  p.base.extend (p.names.take count)

/-- The last name is projected from the others. -/
theorem extend_concat (p : Path) (names : List String) (name : String) :
  p.extend (names ++ [name]) = .dot (p.extend names) name
  := List.foldl_append

/-- A path is its base with its names projected from it. -/
theorem extend_base_names (p : Path) :
  p.base.extend p.names = p
  := by
  induction p with
  | ident x => rfl
  | dot head name ih => rw [base, names, extend_concat, ih]
  | apply functor argument _ _ => rfl

theorem upTo_length (p : Path) :
  p.upTo p.names.length = p
  := by
  rw [upTo, List.take_length, extend_base_names]

/-- The front of a projection is a front of its head. -/
theorem upTo_dot {head : Path} {count : Nat} (h : count ≤ head.names.length) (name : String) :
  (dot head name).upTo count = head.upTo count
  := by
  rw [upTo, base, names, List.take_append_of_le_length h, upTo]

/-- The kind that a part of a path is looked up with: all names but the last one of the path are
modules. -/
def kindUpTo (p : Path) (kind : PathKind) (count : Nat) : PathKind :=
  if count < p.names.length then .module else kind

theorem kindUpTo_module (p : Path) (count : Nat) :
  p.kindUpTo .module count = .module
  := ite_self _

theorem kindUpTo_length (p : Path) (kind : PathKind) :
  p.kindUpTo kind p.names.length = kind
  := if_neg (Nat.lt_irrefl _)

/-- A front of a projection that is in its head is that of a module. -/
theorem kindUpTo_dot {head : Path} {count : Nat} (h : count ≤ head.names.length) (name : String)
    (kind : PathKind) :
  (dot head name).kindUpTo kind count = .module
  := by
  apply if_pos
  rw [names, List.length_append, List.length_singleton]
  omega

end Path

theorem Reference.extend_concat (r : Reference) (names : List String) (name : String) :
  r.extend (names ++ [name]) = .dot (r.extend names) name
  := List.foldl_append

namespace Scope

variable {scope : Scope} {kind : PathKind}

/-! ### Failure -/

/-- A scope binds its own identifiers. -/
theorem binds_idents (scope : Scope) :
  scope.Binds scope.idents
  := fun _ => Iff.rfl

/-- A path cannot be resolved exactly when its shape cannot be found. -/
theorem resolve_eq_error {p : Path} {e : LoadError} :
  scope.resolve kind p = .error e ↔ scope.resolveWithShape kind p = .error e
  := by
  rw [resolve]
  cases scope.resolveWithShape kind p <;> simp [Except.map]

/-- The identifier is the first one of a path that is not bound. -/
def FirstUnbound (scope : Scope) (p : Path) (x : Ident) : Prop :=
  ∃ before after, p.idents = before ++ x :: after ∧
    (∀ y ∈ before, y.IsBound scope.idents) ∧ ¬ x.IsBound scope.idents

/-- An error of a path is its first identifier that is not bound. -/
theorem firstUnbound_of_error {p : Path} {e : LoadError}
    (h : scope.resolveWithShape kind p = .error e) :
  ∃ x, scope.FirstUnbound p x ∧ e = .unboundIdent x
  := by
  induction p generalizing kind with
  | ident x =>
    have hfailed : ¬ Outcome.IsOk (scope.resolveWithShape kind (.ident x)) := by
      rw [h]
      apply Outcome.not_isOk_error e
    rw [scope.binds_idents.isOk_resolveWithShape, Path.idents, List.forall_mem_singleton] at hfailed
    use x
    constructor
    · use [], [], rfl, List.forall_mem_nil _
    · rw [resolveWithShape] at h
      split at h
      · cases h
      · split at h
        · cases h
        · split at h
          · cases h
          · cases h
            rfl
  | dot head name ih =>
    rw [resolveWithShape] at h
    split at h
    · rename_i hhead
      cases h
      apply ih hhead
    · split at h
      · cases h
      · cases h
    · cases h
  | apply functor argument ihf iha =>
    rw [resolveWithShape] at h
    split at h
    · rename_i hfunctor
      cases h
      obtain ⟨x, ⟨before, after, hidents, hbefore, hx⟩, rfl⟩ := ihf hfunctor
      use x
      constructor
      · use before, after ++ argument.idents
        rw [Path.idents, hidents, List.append_assoc, List.cons_append]
        use rfl, hbefore
      · rfl
    · rename_i f shape hfunctor
      split at h
      · rename_i hargument
        cases h
        obtain ⟨x, ⟨before, after, hidents, hbefore, hx⟩, rfl⟩ := iha hargument
        -- The argument is looked at only when all identifiers of the functor are bound.
        have hbound : ∀ y ∈ functor.idents, y.IsBound scope.idents :=
          (scope.binds_idents.isOk_resolveWithShape .module functor).mp ⟨_, hfunctor⟩
        use x
        constructor
        · use functor.idents ++ before, after
          rw [Path.idents, hidents, List.append_assoc, List.forall_mem_append]
          use rfl, ⟨hbound, hbefore⟩
        · rfl
      · cases h

/-! ### Success -/

/-- A projection that is resolved is a member, and the others project the name from what their
head is resolved to. -/
theorem resolve_dot_eq_ok {head : Path} {name : String} {r : Reference}
    (h : scope.resolve kind (.dot head name) = .ok r) :
  r.isResolved ∨ ∃ q, scope.resolve .module head = .ok q ∧ r = .dot q name
  := by
  obtain ⟨⟨_, shape⟩, hdot, rfl⟩ := Outcome.map_eq_ok.mp h
  rw [resolveWithShape] at hdot
  split at hdot
  · cases hdot
  · rename_i parent shape' hhead
    split at hdot
    · cases hdot
      left
      rfl
    · cases hdot
      right
      use .resolved parent
      rw [resolve, hhead]
      constructor <;> rfl
  · rename_i q shape' _ hhead
    cases hdot
    right
    use q
    rw [resolve, hhead]
    constructor <;> rfl

/-- A path is followed up to `count` names: this part of the path stands for `q`, which is
resolved unless no name is followed, and no longer part is resolved. -/
structure FollowedUpTo (scope : Scope) (kind : PathKind) (p : Path) (count : Nat)
    (q : Reference) : Prop where
  le : count ≤ p.names.length
  resolve : scope.resolve (p.kindUpTo kind count) (p.upTo count) = .ok q
  resolved : q.isResolved ∨ count = 0
  longest : ∀ more, count < more → more ≤ p.names.length → ∀ r,
    scope.resolve (p.kindUpTo kind more) (p.upTo more) = .ok r → ¬ r.isResolved

/-- A path that is resolved is followed to its end. -/
theorem FollowedUpTo.of_isResolved {p : Path} {r : Reference}
    (h : scope.resolve kind p = .ok r) (hr : r.isResolved ∨ p.names = []) :
  scope.FollowedUpTo kind p p.names.length r
  where
  le := Nat.le_refl _
  resolve := by rw [Path.kindUpTo_length, Path.upTo_length, h]
  resolved := by rwa [List.length_eq_zero_iff]
  longest more hmore hle := absurd hmore (Nat.not_lt.mpr hle)

/-- A projection that is not resolved is followed as far as its head. -/
theorem FollowedUpTo.dot {head : Path} {count : Nat} {q r : Reference}
    (h : scope.FollowedUpTo .module head count q) {name : String}
    (hdot : scope.resolve kind (.dot head name) = .ok r) (hr : ¬ r.isResolved) :
  scope.FollowedUpTo kind (.dot head name) count q
  where
  le := by
    rw [Path.names, List.length_append]
    apply Nat.le_add_right_of_le h.le
  resolve := by
    rw [Path.kindUpTo_dot h.le, Path.upTo_dot h.le, ← h.resolve, Path.kindUpTo_module]
  resolved := h.resolved
  longest more hmore hle s hs := by
    by_cases hhead : more ≤ head.names.length
    · rw [Path.kindUpTo_dot hhead, Path.upTo_dot hhead] at hs
      apply h.longest more hmore hhead
      rw [Path.kindUpTo_module, hs]
    · have hend : more = (Path.dot head name).names.length := by
        rw [Path.names, List.length_append, List.length_singleton] at hle ⊢
        omega
      rw [hend, Path.kindUpTo_length, Path.upTo_length, hdot] at hs
      obtain rfl := Except.ok.inj hs
      apply hr

/-- A path is followed as far as possible, and the names behind are kept. -/
theorem exists_followedUpTo {p : Path} {r : Reference} (h : scope.resolve kind p = .ok r) :
  ∃ count q, scope.FollowedUpTo kind p count q ∧ r = q.extend (p.names.drop count)
  := by
  induction p generalizing kind r with
  | ident x =>
    use 0, r, FollowedUpTo.of_isResolved h (.inr rfl)
    rfl
  | apply functor argument _ _ =>
    use 0, r, FollowedUpTo.of_isResolved h (.inr rfl)
    rfl
  | dot head name ih =>
    by_cases hr : r.isResolved
    · use (Path.dot head name).names.length, r, FollowedUpTo.of_isResolved h (.inl hr)
      rw [List.drop_length]
      rfl
    · rcases resolve_dot_eq_ok h with hresolved | ⟨s, hs, rfl⟩
      · contradiction
      · obtain ⟨count, q, hfollowed, rfl⟩ := ih hs
        use count, q, hfollowed.dot h hr
        rw [Path.names, List.drop_append_of_le_length hfollowed.le, Reference.extend_concat]

end Scope

/-! ### Resolution -/

/-- Resolving a path fails exactly when one of its identifiers is not bound, and the error names
the first such identifier.  Otherwise the longest part of the path that is resolved, or its base
if there is none, is replaced by what it stands for, and the names behind are kept. -/
theorem resolution_is_maximal (scope : Scope) (kind : PathKind) (p : Path) :
  ((∃ e, scope.resolve kind p = .error e) ↔ ∃ x ∈ p.idents, ¬ x.IsBound scope.idents) ∧
  (∀ e, scope.resolve kind p = .error e →
    ∃ x, scope.FirstUnbound p x ∧ e = .unboundIdent x) ∧
  (∀ r, scope.resolve kind p = .ok r →
    ∃ count q, scope.FollowedUpTo kind p count q ∧ r = q.extend (p.names.drop count))
  := by
  have hfirst : ∀ e, scope.resolve kind p = .error e →
      ∃ x, scope.FirstUnbound p x ∧ e = .unboundIdent x := by
    intro e he
    apply Scope.firstUnbound_of_error (Scope.resolve_eq_error.mp he)
  constructor
  · constructor
    · rintro ⟨e, he⟩
      obtain ⟨x, ⟨before, after, hidents, -, hx⟩, -⟩ := hfirst e he
      use x
      rw [hidents]
      use List.mem_append_right before List.mem_cons_self, hx
    · rintro ⟨x, hx, hunbound⟩
      cases h : scope.resolve kind p with
      | error e => use e
      | ok r =>
        have hbound := (scope.binds_idents.isOk_resolve kind p).mp ⟨r, h⟩ x hx
        contradiction
  · use hfirst
    intro r
    apply Scope.exists_followedUpTo

/-- In the scope of the module `M` of `fragmentSample`, the path `M.B.u` is followed up to `M.B`,
and an application of `M` to the unknown `N` fails at `N`. -/
theorem fragmentSample_resolution :
  let scope : Scope := ⟨[fragmentSample], none⟩
  let module : Path := .ident fragmentSample.ident
  let unknown : Ident := ⟨"N", 2, 0⟩
  (∃ r count q, scope.resolve .type (module.extend ["B", "u"]) = .ok r ∧
    r.text = "Unit.module-M.module-B.u" ∧
    scope.FollowedUpTo .type (module.extend ["B", "u"]) count q ∧
    r = q.extend (["B", "u"].drop count)) ∧
  scope.resolve .module (.dot (.apply module (.ident unknown)) "T")
    = .error (.unboundIdent unknown) ∧
  scope.FirstUnbound (.dot (.apply module (.ident unknown)) "T") unknown
  := by
  intro scope module unknown
  obtain ⟨-, -, hok⟩ := resolution_is_maximal scope .type (module.extend ["B", "u"])
  obtain ⟨-, herror, -⟩ :=
    resolution_is_maximal scope .module (.dot (.apply module (.ident unknown)) "T")
  let member : Reference := .dot (.resolved (fragmentSample.id.child .module "B")) "u"
  have hmember : scope.resolve .type (module.extend ["B", "u"]) = .ok member := rfl
  obtain ⟨count, q, hfollowed, hr⟩ := hok member hmember
  have hunknown : scope.resolve .module (.dot (.apply module (.ident unknown)) "T")
      = .error (.unboundIdent unknown) := by decide
  obtain ⟨x, hfirst, hx⟩ := herror _ hunknown
  cases hx
  constructor
  · use member, count, q, hmember
    constructor
    · decide
    · use hfollowed, hr
  · constructor
    · apply hunknown
    · apply hfirst

end InterfaceDocs
