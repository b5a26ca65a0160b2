import InterfaceDocs.Proofs.Component.Scope
import InterfaceDocs.Proofs.Fragment

/-!
# What scopes know

Shapes are ordered by what is known of them (`Shape.Le`): an unknown shape lies below every
shape, and other shapes are compared part by part, so that a greater shape has the same members
and the same aliases.  A scope lies below another one if whatever is found in it is found in the
other one too, with the same identifier and a greater shape (`Scope.Le`).

Resolution is monotone in this order: what is resolved in a scope is resolved to the same
declaration in a greater one (`Scope.Le.resolveWithShape`).
-/

namespace InterfaceDocs

/-! ### Shapes -/

mutual

/-- The second shape knows what the first one knows. -/
inductive Shape.Le : Shape → Shape → Prop where
  | unknown (shape : Shape) : Shape.Le .unknown shape
  | signature {members members' : List Member} (h : Member.ListLe members members') :
      Shape.Le (.signature members) (.signature members')
  | aliased (target : Identifier) {shape shape' : Shape} (h : Shape.Le shape shape') :
      Shape.Le (.alias target shape) (.alias target shape')

/-- The members have the same keys, and the shapes of the second ones know what those of the
first ones know. -/
inductive Member.ListLe : List Member → List Member → Prop where
  | nil : Member.ListLe [] []
  | cons (space : Namespace) (name : String) {shape shape' : Shape}
      {members members' : List Member} (h : Shape.Le shape shape')
      (hmembers : Member.ListLe members members') :
      Member.ListLe (.mk space name shape :: members) (.mk space name shape' :: members')

end

mutual

theorem Shape.Le.refl :
  ∀ shape : Shape, shape.Le shape
  | .unknown => .unknown .unknown
  | .signature members => .signature (Member.ListLe.refl members)
  | .alias target shape => .aliased target (Shape.Le.refl shape)

theorem Member.ListLe.refl :
  ∀ members : List Member, Member.ListLe members members
  | [] => .nil
  | .mk space name shape :: members =>
    .cons space name (Shape.Le.refl shape) (Member.ListLe.refl members)

end

namespace Member.ListLe

variable {members members' ms ms' : List Member}

/-- Adding members with comparable shapes. -/
theorem insert (h : ListLe members members') (space : Namespace) (name : String)
    {shape shape' : Shape} (hshape : shape.Le shape') :
  ListLe (Member.insert (.mk space name shape) members)
    (Member.insert (.mk space name shape') members')
  := by
  induction members generalizing members' with
  | nil =>
    cases h
    apply cons space name hshape nil
  | cons m members ih =>
    cases h with
    | cons space' name' hm hmembers =>
      rw [Member.insert, Member.insert]
      by_cases hkey : (space', name') = (space, name)
      · have hkeys : ∀ s t, (Member.mk space' name' s).key = (Member.mk space name t).key :=
          fun _ _ => hkey
        rw [if_pos (hkeys _ _), if_pos (hkeys _ _)]
        apply cons space name hshape hmembers
      · have hkeys : ∀ s t, ¬ (Member.mk space' name' s).key = (Member.mk space name t).key :=
          fun _ _ => hkey
        rw [if_neg (hkeys _ _), if_neg (hkeys _ _)]
        apply cons space' name' hm (ih hmembers)

/-- Inserting greater members gives greater members. -/
theorem insertAll (h : ListLe members members') (hms : ListLe ms ms') :
  ListLe (Member.insertAll members ms) (Member.insertAll members' ms')
  := by
  induction ms generalizing members members' ms' with
  | nil =>
    cases hms
    apply h
  | cons m ms ih =>
    cases hms with
    | cons space name hshape hms => apply ih (h.insert space name hshape) hms

/-- Members that are kept by their keys stay in order. -/
theorem filter (h : ListLe members members') (keep : Namespace × String → Bool) :
  ListLe (members.filter fun m => keep m.key) (members'.filter fun m => keep m.key)
  := by
  induction members generalizing members' with
  | nil =>
    cases h
    apply nil
  | cons m members ih =>
    cases h with
    | cons space name hshape hmembers =>
      rw [List.filter_cons, List.filter_cons]
      by_cases hkeep : keep (space, name) = true
      · have hkeys : ∀ s, keep (Member.mk space name s).key = true := fun _ => hkeep
        rw [if_pos (hkeys _), if_pos (hkeys _)]
        apply cons space name hshape (ih hmembers)
      · have hkeys : ∀ s, ¬ keep (Member.mk space name s).key = true := fun _ => hkeep
        rw [if_neg (hkeys _), if_neg (hkeys _)]
        apply ih hmembers

/-- A key is found on both sides, with comparable shapes, or on none. -/
theorem find? (h : ListLe members members') (key : Namespace × String) :
  Option.Rel Shape.Le (Member.find? key members) (Member.find? key members')
  := by
  induction members generalizing members' with
  | nil =>
    cases h
    apply Option.Rel.none
  | cons m members ih =>
    cases h with
    | cons space name hshape hmembers =>
      rw [Member.find?, Member.find?]
      by_cases hkey : (space, name) = key
      · have hkeys : ∀ s, (Member.mk space name s).key = key := fun _ => hkey
        rw [if_pos (hkeys _), if_pos (hkeys _)]
        apply Option.Rel.some hshape
      · have hkeys : ∀ s, ¬ (Member.mk space name s).key = key := fun _ => hkey
        rw [if_neg (hkeys _), if_neg (hkeys _)]
        apply ih hmembers

end Member.ListLe

namespace Shape.Le

variable {shape shape' : Shape}

/-- Removing members keeps shapes in order. -/
theorem without (h : shape.Le shape') (removed : List (Namespace × String)) :
  (shape.without removed).Le (shape'.without removed)
  := by
  cases h with
  | unknown => apply unknown
  | signature hmembers => apply signature (hmembers.filter fun key => !removed.contains key)
  | aliased target h => apply aliased target h

/-- A member of a shape is a member of every greater shape, with the same identifier. -/
theorem project? {spaces : List Namespace} {name : String} :
  ∀ {shape shape' member : Shape} {parent i : Identifier}, shape.Le shape' →
    shape.project? parent spaces name = some (i, member) →
      ∃ member', shape'.project? parent spaces name = some (i, member') ∧ member.Le member'
  | _, _, _, _, _, .unknown _, hproject => by cases hproject
  | _, _, _, _, _, .aliased _ h, hproject => by
    rw [Shape.project?] at hproject ⊢
    apply project? h hproject
  | .signature members, .signature members', _, _, _, .signature hmembers, hproject => by
    rw [Shape.project?] at hproject ⊢
    induction spaces with
    | nil => cases hproject
    | cons space spaces ih =>
      rw [List.findSome?_cons] at hproject ⊢
      have hfound := hmembers.find? (space, name)
      generalize Member.find? (space, name) members = found at hproject hfound
      generalize Member.find? (space, name) members' = found' at hfound ⊢
      cases hfound with
      | @some shape shape' hshape =>
        cases hproject
        use shape', rfl
      | none => apply ih hproject

/-- Names that can be followed from a shape lead to the same declaration from every greater
shape. -/
theorem follow? {kind : PathKind} {parent i : Identifier} {names : List String}
    (h : shape.Le shape') (hfollow : shape.follow? kind parent names = some i) :
  shape'.follow? kind parent names = some i
  := by
  induction names generalizing parent shape shape' with
  | nil => cases hfollow
  | cons name names ih =>
    cases names with
    | nil =>
      rw [Shape.follow?] at hfollow ⊢
      obtain ⟨⟨_, member⟩, hproject, rfl⟩ := Option.map_eq_some_iff.mp hfollow
      obtain ⟨member', hproject', -⟩ := h.project? hproject
      rw [hproject', Option.map_some]
    | cons name' names =>
      simp only [Shape.follow?] at hfollow ⊢
      split at hfollow
      · rename_i j member hproject
        obtain ⟨member', hproject', hmember⟩ := h.project? hproject
        simp only [hproject']
        apply ih hmember hfollow
      · cases hfollow

end Shape.Le

/-! ### Scopes -/

/-- What is found in the first scope is found in the second one, with the same identifier and a
shape that knows more. -/
def Scope.Le (scope scope' : Scope) : Prop :=
  ∀ x b, x.stamp ≠ 0 → scope.find? x = some b →
    ∃ b', scope'.find? x = some b' ∧ b'.id = b.id ∧ b.shape.Le b'.shape

namespace Scope

variable {scope scope' : Scope} {kind : PathKind} {p : Path}

/-- Local identifiers with the same stamp are found alike. -/
theorem find?_congr (scope : Scope) {x y : Ident} (hx : x.stamp ≠ 0)
    (hstamp : y.stamp = x.stamp) :
  scope.find? y = scope.find? x
  := by
  rw [find?, find?]
  congr 1
  funext b
  rw [Ident.same, Ident.same, hstamp]
  by_cases hb : b.ident.stamp ≠ 0
  · rw [if_pos hb, if_pos hb]
  · rw [if_neg hb, if_neg hb, beq_eq_false_iff_ne.mpr hx, Bool.false_and, Bool.false_and]

/-- An added binding is found for its own identifier only. -/
theorem find?_add (scope : Scope) (x y : Ident) (id : Identifier) (shape : Shape) :
  (scope.add x id shape).find? y = if x.same y then some ⟨x, id, shape⟩ else scope.find? y
  := by
  rw [find?, add, List.find?_cons]
  cases x.same y with
  | true => rfl
  | false => rfl

/-- What is known of a path is known of a resolved reference. -/
theorem shape_eq_unknown {r : Reference} {shape : Shape}
    (h : scope.resolveWithShape kind p = .ok (r, shape)) (hr : ∀ i, r ≠ .resolved i) :
  shape = .unknown
  := by
  cases p with
  | ident x =>
    rw [resolveWithShape] at h
    split at h
    · cases h
      rfl
    · split at h
      · cases h
        rfl
      · split at h
        · cases h
          apply absurd rfl (hr _)
        · cases h
  | dot head name =>
    rw [resolveWithShape] at h
    split at h
    · cases h
    · split at h
      · cases h
        apply absurd rfl (hr _)
      · cases h
        rfl
    · cases h
      rfl
  | apply functor argument =>
    rw [resolveWithShape] at h
    split at h
    · cases h
    · split at h
      · cases h
      · cases h
        rfl

namespace Le

theorem refl (scope : Scope) :
  scope.Le scope
  := by
  intro x b hx hfind
  use b, hfind, rfl
  apply Shape.Le.refl

/-- Scopes stay in order when shapes that are in order are bound. -/
theorem add (h : scope.Le scope') (x : Ident) (id : Identifier) {shape shape' : Shape}
    (hshape : shape.Le shape') :
  (scope.add x id shape).Le (scope'.add x id shape')
  := by
  intro y b hy hfind
  rw [find?_add] at hfind ⊢
  by_cases hsame : x.same y
  · rw [if_pos hsame] at hfind ⊢
    cases hfind
    use ⟨x, id, shape'⟩, rfl, rfl
  · rw [if_neg hsame] at hfind ⊢
    apply h y b hy hfind

/-- A binding may be added to the smaller scope if the greater one has it. -/
theorem add_left (h : scope.Le scope') {x : Ident} {b : Binding}
    (hfind : scope'.find? x = some b) {shape : Shape} (hshape : shape.Le b.shape) :
  (scope.add x b.id shape).Le scope'
  := by
  intro y c hy hfind'
  rw [find?_add] at hfind'
  by_cases hsame : x.same y
  · rw [if_pos hsame] at hfind'
    cases hfind'
    rw [find?_congr scope' hy (Ident.stamp_eq_of_same hsame)] at hfind
    use b, hfind, rfl
  · rw [if_neg hsame] at hfind'
    apply h y c hy hfind'

/-- A scope lies below what is made of it by adding identifiers with other stamps. -/
theorem of_adds {entries : List (Ident × Identifier)} (h : scope.Adds entries scope')
    (hfresh : ∀ b ∈ scope.bindings, ∀ e ∈ entries, e.1.stamp ≠ b.ident.stamp) :
  scope.Le scope'
  := by
  intro x b hx hfind
  have hsame : b.ident.same x :=
    List.find?_some (p := fun b : Binding => b.ident.same x) hfind
  have hstamps : ∀ e ∈ entries, e.1.stamp ≠ x.stamp := by
    intro e he
    rw [← Ident.stamp_eq_of_same hsame]
    apply hfresh b (List.mem_of_find?_eq_some hfind) e he
  use b, (h.find?_of_stamps_ne hstamps).trans hfind, rfl
  apply Shape.Le.refl

/-- What is resolved in a scope is resolved to the same declaration in a greater one. -/
theorem resolveWithShape (h : scope.Le scope') {i : Identifier} {shape : Shape}
    (hresolve : scope.resolveWithShape kind p = .ok (.resolved i, shape)) :
  ∃ shape', scope'.resolveWithShape kind p = .ok (.resolved i, shape') ∧ shape.Le shape'
  := by
  induction p generalizing kind i shape with
  | ident x =>
    rw [Scope.resolveWithShape] at hresolve ⊢
    split at hresolve
    · cases hresolve
    · rename_i hpredef
      split at hresolve
      · cases hresolve
      · rename_i hpersistent
        split at hresolve
        · rename_i b hfind
          cases hresolve
          have hstamp : x.stamp ≠ 0 := by
            intro hzero
            apply hpersistent
            rw [Ident.isPersistent, hzero]
            rfl
          obtain ⟨b', hfind', hid, hshape⟩ := h x b hstamp hfind
          rw [if_neg hpredef, if_neg hpersistent, hfind', ← hid]
          use b'.shape
        · cases hresolve
  | dot head name ih =>
    obtain ⟨parent, headShape, hhead, hproject⟩ :=
      resolveWithShape_dot_eq_resolved.mp hresolve
    obtain ⟨headShape', hhead', hheadShape⟩ := ih hhead
    obtain ⟨shape', hproject', hshape⟩ := hheadShape.project? hproject
    use shape', resolveWithShape_dot_eq_resolved.mpr ⟨parent, headShape', hhead', hproject'⟩
  | apply functor argument =>
    rw [Scope.resolveWithShape] at hresolve
    split at hresolve
    · cases hresolve
    · split at hresolve
      · cases hresolve
      · cases hresolve

/-- More is known of a path in a greater scope. -/
theorem pathShape (h : scope.Le scope') (p : Path) :
  (scope.pathShape p).Le (scope'.pathShape p)
  := by
  rw [Scope.pathShape]
  split
  · rename_i r shape hresolve
    by_cases hr : ∃ i, r = .resolved i
    · obtain ⟨i, rfl⟩ := hr
      obtain ⟨shape', hresolve', hshape⟩ := h.resolveWithShape hresolve
      rw [Scope.pathShape, hresolve']
      apply hshape
    · rw [shape_eq_unknown hresolve (not_exists.mp hr)]
      apply Shape.Le.unknown
  · apply Shape.Le.unknown

/-- More is known of an alias in a greater scope. -/
theorem aliasShape (h : scope.Le scope') (p : Path) :
  (scope.aliasShape p).Le (scope'.aliasShape p)
  := by
  rw [Scope.aliasShape]
  split
  · rename_i target shape hresolve
    obtain ⟨shape', hresolve', hshape⟩ := h.resolveWithShape hresolve
    rw [Scope.aliasShape, hresolve']
    apply Shape.Le.aliased target hshape
  · apply Shape.Le.unknown

end Le

end Scope

end InterfaceDocs
