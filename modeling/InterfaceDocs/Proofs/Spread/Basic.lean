import InterfaceDocs.Proofs.Outcome
import InterfaceDocs.Proofs.Spread.Distinct
import Mathlib.Data.List.Nodup
import Mathlib.Data.Set.Insert

/-!
# Spread identifiers

Identifiers form a tree, in which two siblings have nothing in common.  A list of identifiers
is spread over a set of roots when it has no repetitions and each of its identifiers is nested
under a root.  Lists that are spread over different children of the same parent can be put
together (`Spread.append`), and what is spread below an identifier becomes with it a list that
is spread over that identifier (`Spread.node`).
-/

namespace InterfaceDocs

namespace Identifier

/-! ### Siblings -/

/-- The number of identifiers that an identifier is nested under. -/
def depth : Identifier → Nat
  | .root _ _ => 0
  | .child parent _ _ => parent.depth + 1
  | .argument parent _ _ => parent.depth + 1

/-- An identifier lies one step below its parent. -/
theorem depth_of_parent {x p : Identifier} (h : x.parent = some p) :
  x.depth = p.depth + 1
  := by
  cases x with
  | root container name => cases h
  | child parent kind name =>
    obtain rfl := Option.some.inj h
    rfl
  | argument parent position name =>
    obtain rfl := Option.some.inj h
    rfl

/-- An identifier is within itself and within what its parent is within. -/
theorem isWithin_iff {x y : Identifier} :
  x.isWithin y ↔ x = y ∨ ∃ p, x.parent = some p ∧ p.isWithin y
  := by
  cases x with
  | root container name => simp [isWithin, parent]
  | child parent kind name => simp [isWithin, Identifier.parent]
  | argument parent position name => simp [isWithin, Identifier.parent]

theorem isWithin_refl (x : Identifier) :
  x.isWithin x
  := by
  rw [isWithin_iff]
  left
  rfl

/-- Induction along the parents of an identifier. -/
theorem parentInduction {motive : Identifier → Prop}
    (step : ∀ x : Identifier, (∀ p, x.parent = some p → motive p) → motive x) (x : Identifier) :
  motive x
  := by
  induction x with
  | root container name =>
    apply step
    intro p hp
    cases hp
  | child parent kind name ih =>
    apply step
    intro p hp
    obtain rfl := Option.some.inj hp
    apply ih
  | argument parent position name ih =>
    apply step
    intro p hp
    obtain rfl := Option.some.inj hp
    apply ih

/-- What is nested under an identifier does not lie above it. -/
theorem depth_le_of_isWithin {x y : Identifier} (h : x.isWithin y) :
  y.depth ≤ x.depth
  := by
  induction x using parentInduction with
  | step x ih =>
    rcases isWithin_iff.mp h with rfl | ⟨p, hp, hy⟩
    · apply le_rfl
    · rw [depth_of_parent hp]
      apply Nat.le_succ_of_le (ih p hp hy)

/-- Nesting is transitive. -/
theorem isWithin_trans {x y z : Identifier} (hxy : x.isWithin y) (hyz : y.isWithin z) :
  x.isWithin z
  := by
  induction x using parentInduction with
  | step x ih =>
    rcases isWithin_iff.mp hxy with rfl | ⟨p, hp, hpy⟩
    · apply hyz
    · rw [isWithin_iff]
      right
      use p, hp, ih p hp hpy

/-- A parent is not nested under its child. -/
theorem not_isWithin_of_parent {x p : Identifier} (h : x.parent = some p) :
  ¬ p.isWithin x
  := by
  intro hp
  have hle := depth_le_of_isWithin hp
  rw [depth_of_parent h] at hle
  omega

/-- Siblings with a common descendant are equal. -/
theorem eq_of_isWithin_of_isWithin {x k l p : Identifier} (hk : k.parent = some p)
    (hl : l.parent = some p) (hxk : x.isWithin k) (hxl : x.isWithin l) :
  k = l
  := by
  induction x using parentInduction with
  | step x ih =>
    rcases isWithin_iff.mp hxk with rfl | ⟨q, hq, hqk⟩
    · rcases isWithin_iff.mp hxl with rfl | ⟨q, hq, hql⟩
      · rfl
      · obtain rfl := Option.some.inj (hk.symm.trans hq)
        exact absurd hql (not_isWithin_of_parent hl)
    · rcases isWithin_iff.mp hxl with rfl | ⟨q', hq', hql⟩
      · obtain rfl := Option.some.inj (hl.symm.trans hq)
        exact absurd hqk (not_isWithin_of_parent hk)
      · obtain rfl := Option.some.inj (hq.symm.trans hq')
        apply ih q hq hqk hql

/-! ### Identifiers under a parent -/

/-- The identifiers right under a parent. -/
def nested (parent : Identifier) : Set Identifier :=
  {r | r.parent = some parent}

/-- The identifier of an entity that `parent` declares. -/
def ofEntity (parent : Identifier) (e : Entity) : Identifier :=
  parent.child e.1 e.2

/-- The identifiers of the entities that `parent` declares. -/
def children (parent : Identifier) (es : List Entity) : Set Identifier :=
  {r | ∃ e ∈ es, parent.ofEntity e = r}

/-- Different entities of one parent have different identifiers. -/
theorem ofEntity_injective (parent : Identifier) :
  Function.Injective parent.ofEntity
  := by
  rintro ⟨kind, name⟩ ⟨kind', name'⟩ h
  cases h
  rfl

/-- The entities that a parent declares lie right under it. -/
theorem children_subset_nested (parent : Identifier) (es : List Entity) :
  parent.children es ⊆ parent.nested
  := by
  rintro _ ⟨e, -, rfl⟩
  rfl

@[simp]
theorem children_singleton (parent : Identifier) (e : Entity) :
  parent.children [e] = {parent.child e.1 e.2}
  := by
  ext r
  simp [children, ofEntity, eq_comm]

/-- The children for two lists of entities are those for either of them. -/
@[simp]
theorem children_append (parent : Identifier) (es es' : List Entity) :
  parent.children (es ++ es') = parent.children es ∪ parent.children es'
  := by
  ext r
  simp [children, or_and_right, exists_or]

end Identifier

/-! ### Spread lists -/

/-- The identifiers of a list are different and nested under the given roots. -/
structure Spread (roots : Set Identifier) (ids : List Identifier) : Prop where
  nodup : ids.Nodup
  within : ∀ id ∈ ids, ∃ r ∈ roots, id.isWithin r

namespace Spread

variable {α β : Type} {roots roots' : Set Identifier} {ids ids' : List Identifier}
  {parent : Identifier} {es es' : List Entity}

theorem nil :
  Spread roots []
  := ⟨List.nodup_nil, by simp⟩

/-- A list that is spread over some roots is spread over more of them. -/
theorem mono (h : Spread roots ids) (hroots : roots ⊆ roots') :
  Spread roots' ids
  := by
  use h.nodup
  intro id hid
  obtain ⟨r, hr, hwithin⟩ := h.within id hid
  use r, hroots hr

/-- A part of a spread list is spread. -/
theorem sublist (h : Spread roots ids) (hids : ids'.Sublist ids) :
  Spread roots ids'
  := by
  use h.nodup.sublist hids
  intro id hid
  apply h.within id (hids.subset hid)

/-- Lists that are spread over different identifiers under one parent have nothing in
common. -/
theorem append (h : Spread roots ids) (h' : Spread roots' ids') (hroots : roots ⊆ parent.nested)
    (hroots' : roots' ⊆ parent.nested) (hdisjoint : ∀ r ∈ roots, r ∉ roots') :
  Spread (roots ∪ roots') (ids ++ ids')
  := by
  constructor
  · rw [List.nodup_append]
    use h.nodup, h'.nodup
    rintro id hid _ hid' rfl
    obtain ⟨r, hr, hwithin⟩ := h.within id hid
    obtain ⟨r', hr', hwithin'⟩ := h'.within id hid'
    obtain rfl := Identifier.eq_of_isWithin_of_isWithin (hroots hr) (hroots' hr') hwithin hwithin'
    apply hdisjoint r hr hr'
  · intro id hid
    rcases List.mem_append.mp hid with hid | hid
    · obtain ⟨r, hr, hwithin⟩ := h.within id hid
      use r, Or.inl hr
    · obtain ⟨r, hr, hwithin⟩ := h'.within id hid
      use r, Or.inr hr

/-- An identifier differs from everything under it. -/
theorem node (h : Spread parent.nested ids) :
  Spread {parent} (parent :: ids)
  := by
  constructor
  · rw [List.nodup_cons]
    constructor
    · intro hparent
      obtain ⟨r, hr, hwithin⟩ := h.within parent hparent
      apply Identifier.not_isWithin_of_parent hr hwithin
    · apply h.nodup
  · intro id hid
    use parent, rfl
    rcases List.mem_cons.mp hid with rfl | hid
    · apply Identifier.isWithin_refl id
    · obtain ⟨r, hr, hwithin⟩ := h.within id hid
      have hle : r.isWithin parent := Identifier.isWithin_iff.mpr
        (Or.inr ⟨parent, hr, Identifier.isWithin_refl parent⟩)
      apply Identifier.isWithin_trans hwithin hle

theorem singleton (id : Identifier) :
  Spread {id} [id]
  := node nil

/-- Lists that are spread over different entities have nothing in common. -/
theorem append_children (h : Spread (parent.children es) ids)
    (h' : Spread (parent.children es') ids') (hnodup : (es ++ es').Nodup) :
  Spread (parent.children (es ++ es')) (ids ++ ids')
  := by
  rw [Identifier.children_append]
  apply h.append h' (parent.children_subset_nested es) (parent.children_subset_nested es')
  rintro _ ⟨e, he, rfl⟩ ⟨e', he', heq⟩
  obtain rfl := parent.ofEntity_injective heq
  exact (List.nodup_append.mp hnodup).2.2 e' he e' he' rfl

/-- The identifiers of different entities are spread over them. -/
theorem map_ofEntity (hnodup : es.Nodup) :
  Spread (parent.children es) (es.map parent.ofEntity)
  := by
  constructor
  · apply List.Nodup.map parent.ofEntity_injective hnodup
  · intro id hid
    obtain ⟨e, he, rfl⟩ := List.mem_map.mp hid
    use parent.ofEntity e, ⟨e, he, rfl⟩
    apply Identifier.isWithin_refl _

/-- If what is read for each element is spread over the entity of the element, then all that
is read for elements with different entities is spread over these. -/
theorem each {f : α → Reading β} {entity : α → Entity} {declared : β → List Identifier}
    {as : List α} {bs : List β} (h : (Reading.each f as).outcome = .ok bs)
    (hnodup : (as.map entity).Nodup)
    (hspread : ∀ a ∈ as, ∀ b, (f a).outcome = .ok b →
      Spread {parent.ofEntity (entity a)} (declared b)) :
  Spread (parent.children (as.map entity)) (bs.flatMap declared)
  := by
  have hall := Reading.each_eq_ok.mp h
  clear h
  induction hall with
  | nil => apply nil
  | @cons a b as bs hb _ ih =>
    have hhead := hspread a List.mem_cons_self b hb
    have hrest := ih (List.nodup_cons.mp hnodup).2 fun a' ha' =>
      hspread a' (List.mem_cons_of_mem a ha')
    have hchild : Spread (parent.children [entity a]) (declared b) := by
      rw [Identifier.children_singleton]
      apply hhead
    apply hchild.append_children hrest hnodup

end Spread

end InterfaceDocs
