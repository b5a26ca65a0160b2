import InterfaceDocs.Proofs.Dotted
import InterfaceDocs.Proofs.Outcome

/-!
# Fragments as relative paths

A dotted path is resolved from its last name to its first one, while a fragment is followed
from its first name to its last one.  Both find the same declaration: a path that projects
names from a head is resolved exactly when the head is resolved and its shape can be followed
along the names (`Scope.resolve_extend_eq_resolved`), and this is what a fragment relative to
the head does (`fragment_agrees_with_path`).  A fragment that is not resolved keeps all of its
names, so that it is shown as the long identifier that it stands for.
-/

namespace InterfaceDocs

/-! ### Paths -/

namespace Scope

variable {scope : Scope} {kind : PathKind} {p : Path} {i : Identifier}

/-- A projection is resolved exactly when its head is resolved and has the member. -/
theorem resolveWithShape_dot_eq_resolved {name : String} {shape : Shape} :
  scope.resolveWithShape kind (.dot p name) = .ok (.resolved i, shape) ↔
    ∃ parent shape', scope.resolveWithShape .module p = .ok (.resolved parent, shape') ∧
      shape'.project? parent kind.namespaces name = some (i, shape)
  := by
  rw [resolveWithShape]
  constructor
  · intro h
    split at h
    · cases h
    · rename_i parent shape' hhead
      split at h
      · rename_i hproject
        cases h
        use parent, shape'
      · cases h
    · cases h
  · rintro ⟨parent, shape', hhead, hproject⟩
    simp only [hhead, hproject]

/-- A path that projects names is resolved exactly when its head is resolved and the names can
be followed from there. -/
theorem resolve_extend_eq_resolved {names : List String} (hnames : names ≠ []) :
  scope.resolve kind (p.extend names) = .ok (.resolved i) ↔
    ∃ parent shape, scope.resolveWithShape .module p = .ok (.resolved parent, shape) ∧
      shape.follow? kind parent names = some i
  := by
  induction names generalizing p with
  | nil => contradiction
  | cons name names ih =>
    cases names with
    | nil =>
      have hextend : p.extend [name] = .dot p name := rfl
      rw [hextend, resolve, Outcome.map_eq_ok]
      constructor
      · rintro ⟨⟨r, shape⟩, hresolve, rfl⟩
        obtain ⟨parent, shape', hhead, hproject⟩ :=
          resolveWithShape_dot_eq_resolved.mp hresolve
        use parent, shape', hhead
        rw [Shape.follow?, hproject, Option.map_some]
      · rintro ⟨parent, shape, hhead, hfollow⟩
        rw [Shape.follow?] at hfollow
        obtain ⟨⟨j, shape'⟩, hproject, rfl⟩ := Option.map_eq_some_iff.mp hfollow
        use (.resolved j, shape'), resolveWithShape_dot_eq_resolved.mpr
          ⟨parent, shape, hhead, hproject⟩
    | cons name' names =>
      have hextend : p.extend (name :: name' :: names)
          = (Path.dot p name).extend (name' :: names) := rfl
      rw [hextend, ih (List.cons_ne_nil name' names)]
      constructor
      · rintro ⟨parent, shape, hresolve, hfollow⟩
        obtain ⟨head, shape', hhead, hproject⟩ := resolveWithShape_dot_eq_resolved.mp hresolve
        use head, shape', hhead
        simp only [Shape.follow?, hproject, hfollow]
      · rintro ⟨head, shape', hhead, hfollow⟩
        rw [Shape.follow?] at hfollow
        split at hfollow
        · rename_i parent shape hproject
          use parent, shape, resolveWithShape_dot_eq_resolved.mpr
            ⟨head, shape', hhead, hproject⟩
        · cases hfollow
        · intro h
          cases h

/-- A local identifier is resolved to its binding. -/
theorem resolveWithShape_ident_of_find? {x : Ident} {b : Binding} (hpredef : x.isPredef = false)
    (hstamp : x.stamp ≠ 0) (hbound : scope.find? x = some b) (kind : PathKind) :
  scope.resolveWithShape kind (.ident x) = .ok (.resolved b.id, b.shape)
  := by
  have hpersistent : x.isPersistent = false := beq_eq_false_iff_ne.mpr hstamp
  simp only [resolveWithShape, hpredef, hpersistent, hbound, Bool.false_eq_true, if_false]

end Scope

/-! ### Fragments shown as long identifiers -/

namespace Fragment

/-- A fragment that goes on is not resolved, whatever it starts with. -/
theorem foldl_dot_ne_resolved {names : List String} (f : Fragment) (hnames : names ≠ [])
    (i : Identifier) :
  names.foldl dot f ≠ .resolved i
  := by
  induction names generalizing f with
  | nil => contradiction
  | cons name names ih =>
    cases names with
    | nil =>
      intro h
      cases h
    | cons name' names => apply ih _ (List.cons_ne_nil name' names)

/-- Behind a fragment other than the root, names are shown as in a long identifier. -/
theorem text_foldl_dot {f : Fragment} {x : LongIdent} (hroot : f ≠ .root)
    (htext : f.text = x.text) (names : List String) :
  (names.foldl dot f).text = (x.extend names).text
  := by
  induction names generalizing f x with
  | nil => apply htext
  | cons name names ih =>
    have hdot : (f.dot name).text = (LongIdent.dot x name).text := by
      rw [text, LongIdent.text, htext]
      apply hroot
    apply ih _ hdot
    intro h
    cases h

theorem text_ofComponents {names : List String} (hnames : names ≠ []) :
  (ofComponents names).text = (LongIdent.ofComponents names).text
  := by
  cases names with
  | nil => contradiction
  | cons name names =>
    have hident : (dot root name).text = (LongIdent.ident name).text := rfl
    apply text_foldl_dot _ hident
    intro h
    cases h

end Fragment

namespace Subject

variable {kind : PathKind} {names : List String}

/-- The fragment of a dotted name is resolved if its names can be followed from the origin, and
otherwise it is the unresolved names. -/
theorem fragment_ofComponents (subject : Subject) (kind : PathKind) (hnames : names ≠ []) :
  subject.fragment kind (.ofComponents names)
    = match subject.origin.bind fun origin => subject.shape.follow? kind origin names with
      | some i => .resolved i
      | none => .ofComponents names
  := by
  rw [fragment, LongIdent.components_ofComponents hnames]
  cases subject.origin with
  | none => rfl
  | some origin => rfl

theorem fragment_eq_resolved {subject : Subject} (hnames : names ≠ []) {i : Identifier} :
  subject.fragment kind (.ofComponents names) = .resolved i ↔
    ∃ origin, subject.origin = some origin ∧ subject.shape.follow? kind origin names = some i
  := by
  rw [fragment_ofComponents subject kind hnames, ← Option.bind_eq_some_iff]
  split
  · rename_i found hfound
    rw [hfound, Fragment.resolved.injEq, Option.some.injEq]
  · rename_i hfound
    rw [hfound]
    constructor
    · intro h
      apply absurd h
      apply Fragment.foldl_dot_ne_resolved _ hnames
    · intro h
      cases h

/-- A fragment that is not resolved is the chain of all of its names. -/
theorem fragment_eq_ofComponents {subject : Subject} (hnames : names ≠ [])
    (h : (subject.fragment kind (.ofComponents names)).isResolved = false) :
  subject.fragment kind (.ofComponents names) = .ofComponents names
  := by
  rw [fragment_ofComponents subject kind hnames] at h ⊢
  split
  · rename_i hfound
    rw [hfound] at h
    cases h
  · rfl

end Subject

/-! ### Agreement -/

/-- The fragment of a dotted name relative to what a local identifier is bound to is resolved to
a declaration exactly when the path that projects the names from the identifier is.  Relative to
any subject, a fragment that is not resolved is the chain of all names from the root, and it is
shown as the long identifier. -/
theorem fragment_agrees_with_path {scope : Scope} {x : Ident} {b : Binding}
    (hpredef : x.isPredef = false) (hstamp : x.stamp ≠ 0) (hbound : scope.find? x = some b)
    (kind : PathKind) {names : List String} (hnames : names ≠ []) :
  (∀ i, Subject.fragment ⟨some b.id, b.shape⟩ kind (.ofComponents names) = .resolved i ↔
    scope.resolve kind (Path.extend (.ident x) names) = .ok (.resolved i)) ∧
  ∀ subject : Subject,
    (subject.fragment kind (.ofComponents names)).isResolved = false →
      subject.fragment kind (.ofComponents names) = .ofComponents names ∧
      (subject.fragment kind (.ofComponents names)).text = (LongIdent.ofComponents names).text
  := by
  constructor
  · intro i
    rw [Subject.fragment_eq_resolved hnames, Scope.resolve_extend_eq_resolved hnames]
    have hhead := Scope.resolveWithShape_ident_of_find? hpredef hstamp hbound .module
    constructor
    · rintro ⟨origin, horigin, hfollow⟩
      cases horigin
      use b.id, b.shape
    · rintro ⟨parent, shape, hresolve, hfollow⟩
      cases hhead.symm.trans hresolve
      use b.id
  · intro subject hunresolved
    have hchain := Subject.fragment_eq_ofComponents hnames hunresolved
    use hchain
    rw [hchain]
    apply Fragment.text_ofComponents hnames

/-- A module `M` with an alias `B` of a module `A` that holds a type `t`. -/
def fragmentSample : Binding :=
  let root : Identifier := .root "pkg" "Unit"
  let body : Shape := .signature [.mk .type "t" .unknown]
  ⟨⟨"M", 1, 0⟩, root.child .module "M",
    .signature [.mk .module "A" body, .mk .module "B" (.alias (root.child .module "A") body)]⟩

/-- Relative to the sample the fragment `B.t` leads through the alias, as the path does, and `B.u`
is not resolved. -/
theorem fragmentSample_agrees :
  let b := fragmentSample
  let scope : Scope := ⟨[b], none⟩
  let t : Identifier := .child (.child (.root "pkg" "Unit") .module "A") .type "t"
  b.ident.isPredef = false ∧ b.ident.stamp ≠ 0 ∧ scope.find? b.ident = some b ∧
  Subject.fragment ⟨some b.id, b.shape⟩ .type (.ofComponents ["B", "t"]) = .resolved t ∧
  scope.resolve .type (Path.extend (.ident b.ident) ["B", "t"]) = .ok (.resolved t) ∧
  (Subject.fragment ⟨some b.id, b.shape⟩ .type (.ofComponents ["B", "u"])).isResolved = false ∧
  (Subject.fragment ⟨some b.id, b.shape⟩ .type (.ofComponents ["B", "u"])).text
    = (LongIdent.ofComponents ["B", "u"]).text
  := by
  intro b scope t
  have hpredef : b.ident.isPredef = false := by decide
  have hstamp : b.ident.stamp ≠ 0 := by decide
  have hbound : scope.find? b.ident = some b := rfl
  obtain ⟨hresolved, -⟩ := fragment_agrees_with_path hpredef hstamp hbound .type
    (List.cons_ne_nil "B" ["t"])
  obtain ⟨-, hunresolved⟩ := fragment_agrees_with_path hpredef hstamp hbound .type
    (List.cons_ne_nil "B" ["u"])
  have hfragment : Subject.fragment ⟨some b.id, b.shape⟩ .type (.ofComponents ["B", "t"])
      = .resolved t := rfl
  use hpredef, hstamp, hbound, hfragment, (hresolved t).mp hfragment, rfl
  apply (hunresolved ⟨some b.id, b.shape⟩ rfl).2

end InterfaceDocs
