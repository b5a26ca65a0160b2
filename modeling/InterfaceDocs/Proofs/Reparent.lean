import InterfaceDocs.Proofs.Component.Scope
import InterfaceDocs.Proofs.Spread.Basic
import Mathlib.Data.List.Induction

/-!
# Members of a module with a named module type

A module whose type is the path of a module type has the shape of the module type, and the
members of a signature shape are named under the module that they are projected from.  An alias
in a shape is different, because it holds the identifier of its target.  What a path through a
module leads to is therefore nested under the module or under the target of an alias in its
shape (`Scope.resolveWithShape_extend`).  If the body of a module type has no aliases into the
module type itself, then no path through a module of that type leads into the module type
(`module_path_not_within_moduleType`), and with such an alias a path may
(`aliasSample_within_moduleType`).
-/

namespace InterfaceDocs

/-! ### Aliases in shapes -/

/-- Of two identifiers that have something nested under both, one is nested under the other. -/
theorem Identifier.isWithin_or_isWithin {x y z : Identifier} (hy : x.isWithin y)
    (hz : x.isWithin z) :
  y.isWithin z ∨ z.isWithin y
  := by
  induction x using parentInduction with
  | step x ih =>
    rcases isWithin_iff.mp hy with rfl | ⟨p, hp, hpy⟩
    · left
      apply hz
    · rcases isWithin_iff.mp hz with rfl | ⟨q, hq, hqz⟩
      · right
        apply hy
      · obtain rfl := Option.some.inj (hp.symm.trans hq)
        apply ih p hp hpy hqz

mutual

/-- The targets of the aliases in a shape. -/
def Shape.aliasTargets : Shape → List Identifier
  | .unknown => []
  | .signature members => memberAliasTargets members
  | .alias target shape => target :: shape.aliasTargets

/-- The targets of the aliases in the shapes of members. -/
def memberAliasTargets : List Member → List Identifier
  | [] => []
  | .mk _ _ shape :: members => shape.aliasTargets ++ memberAliasTargets members

end

theorem Member.aliasTargets_find? {key : Namespace × String} {members : List Member}
    {shape : Shape} (h : Member.find? key members = some shape) :
  shape.aliasTargets ⊆ memberAliasTargets members
  := by
  induction members with
  | nil => cases h
  | cons m members ih =>
    rcases m with ⟨space, name, shape'⟩
    rw [Member.find?] at h
    rw [memberAliasTargets]
    split at h
    · obtain rfl := Option.some.inj h
      apply List.subset_append_left _ _
    · apply List.Subset.trans (ih h) (List.subset_append_right _ _)

/-- The identifier is nested under `parent` or under the target of an alias in the shape. -/
def Shape.Reaches (parent : Identifier) (shape : Shape) (i : Identifier) : Prop :=
  i.isWithin parent ∨ ∃ target ∈ shape.aliasTargets, i.isWithin target

namespace Shape

/-- A projection leads to what the shape reaches, and to a shape without other aliases. -/
theorem project?_reaches {spaces : List Namespace} {name : String} :
  ∀ {shape : Shape} {parent i : Identifier} {shape' : Shape},
    shape.project? parent spaces name = some (i, shape') →
      shape.Reaches parent i ∧ shape'.aliasTargets ⊆ shape.aliasTargets
  | .unknown, _, _, _, h => by cases h
  | .alias target shape, parent, i, shape', h => by
    rw [project?] at h
    obtain ⟨hreaches, htargets⟩ := project?_reaches h
    constructor
    · right
      rcases hreaches with hwithin | ⟨t, ht, hwithin⟩
      · use target, List.mem_cons_self
      · use t, List.mem_cons_of_mem target ht
    · apply List.Subset.trans htargets (List.subset_cons_self target _)
  | .signature members, parent, i, shape', h => by
    rw [project?, List.findSome?_eq_some_iff] at h
    obtain ⟨_, space, _, -, h, -⟩ := h
    obtain ⟨found, hfound, heq⟩ := Option.map_eq_some_iff.mp h
    obtain ⟨rfl, rfl⟩ := Prod.mk.inj heq
    constructor
    · left
      rw [Identifier.isWithin_iff]
      right
      use parent, rfl, Identifier.isWithin_refl parent
    · apply Member.aliasTargets_find? hfound

theorem Reaches.trans {shape shape' : Shape} {parent i j : Identifier}
    (h : shape.Reaches parent i) (htargets : shape'.aliasTargets ⊆ shape.aliasTargets)
    (h' : shape'.Reaches i j) :
  shape.Reaches parent j
  := by
  rcases h' with hj | ⟨target, htarget, hj⟩
  · rcases h with hi | ⟨target, htarget, hi⟩
    · left
      apply Identifier.isWithin_trans hj hi
    · right
      use target, htarget
      apply Identifier.isWithin_trans hj hi
  · right
    use target, htargets htarget

end Shape

/-! ### Paths through a module -/

namespace Scope

variable {scope : Scope} {x : Ident} {b : Binding}

theorem find?_add_self (scope : Scope) (x : Ident) (id : Identifier) (shape : Shape) :
  (scope.add x id shape).find? x = some ⟨x, id, shape⟩
  := List.find?_cons_of_pos (Ident.same_self x)

/-- An identifier that is resolved has its binding. -/
theorem resolveWithShape_ident (hfind : scope.find? x = some b) {kind : PathKind}
    {i : Identifier} {shape : Shape}
    (h : scope.resolveWithShape kind (.ident x) = .ok (.resolved i, shape)) :
  i = b.id ∧ shape = b.shape
  := by
  rw [resolveWithShape, hfind] at h
  split at h
  · cases h
  · split at h
    · cases h
    · cases h
      constructor <;> rfl

/-- What a path through a bound identifier is resolved to is reached by the shape of the
binding. -/
theorem resolveWithShape_extend (hfind : scope.find? x = some b) {names : List String}
    {kind : PathKind} {i : Identifier} {shape : Shape}
    (h : scope.resolveWithShape kind (Path.extend (.ident x) names) = .ok (.resolved i, shape)) :
  b.shape.Reaches b.id i ∧ shape.aliasTargets ⊆ b.shape.aliasTargets
  := by
  induction names using List.reverseRecOn generalizing kind i shape with
  | nil =>
    obtain ⟨rfl, rfl⟩ := resolveWithShape_ident hfind h
    constructor
    · left
      apply Identifier.isWithin_refl b.id
    · apply List.Subset.refl _
  | append_singleton names name ih =>
    have hextend : Path.extend (.ident x) (names ++ [name])
        = .dot (Path.extend (.ident x) names) name := by
      rw [Path.extend, List.foldl_append]
      rfl
    rw [hextend, resolveWithShape] at h
    split at h
    · cases h
    · rename_i parent shape' hhead
      split at h
      · rename_i j shape'' hproject
        obtain ⟨hreaches, htargets⟩ := ih hhead
        obtain ⟨hreaches', htargets'⟩ := Shape.project?_reaches hproject
        cases h
        use hreaches.trans htargets hreaches', List.Subset.trans htargets' htargets
      · cases h
    · cases h

/-- The shape of the path of a module type has no other aliases than the shape that the module
type is bound with. -/
theorem aliasTargets_pathShape (hfind : scope.find? x = some b) :
  (scope.pathShape (.ident x)).aliasTargets ⊆ b.shape.aliasTargets
  := by
  rw [pathShape, resolveWithShape, hfind]
  split
  · rename_i r shape h
    split at h
    · cases h
      apply List.nil_subset _
    · split at h
      · cases h
        apply List.nil_subset _
      · cases h
        apply List.Subset.refl _
  · apply List.nil_subset _

/-- Binding items keeps what is bound with other stamps. -/
theorem find?_bindWrittenItems (parent : Identifier) (bound : Bound)
    {items : List Written.SignatureItem} (hx : x.stamp ∉ Written.boundStamps items) :
  (bindWrittenItems parent bound items).scope.find? x = bound.scope.find? x
  := by
  apply (bindWrittenItems_declares parent bound items).scope.find?_of_stamps_ne
  intro e he heq
  apply hx
  rw [← heq, ← Written.map_stamp_entries parent]
  apply List.mem_map_of_mem he

end Scope

/-! ### The module type is not entered -/

section

variable (scope : Scope) (parent : Identifier) {s m : Ident}
  {before between after body : List Written.SignatureItem} {info info' : Written.NodeInfo}
  {attributes attributes' : List Attribute} {loc₁ loc₂ loc₃ loc₄ : Location}
  {signature : Written.Signature}

/-- The module is bound with the aliases of the module type. -/
theorem find?_module_of_moduleType
    (hsignature : signature
      = before ++ .moduleType loc₁ ⟨s, some (.signature info body), attributes, loc₂⟩ ::
        (between ++ .module loc₃ ⟨m, .path info' (.ident s), attributes', loc₄⟩ :: after))
    (hstamps : (Written.boundStamps signature).Nodup) :
  ∃ shape, (scope.bindWritten parent signature).scope.find? m
      = some ⟨m, parent.child .module m.name, shape⟩ ∧
    shape.aliasTargets ⊆ ((scope.bindWritten parent before).scope.writtenShape
      (parent.child .moduleType s.name) (.signature info body)).aliasTargets
  := by
  rw [hsignature, Written.boundStamps_append] at hstamps
  -- The stamp of `s` does not come back before `m`, nor that of `m` after it.
  obtain ⟨hs, htail⟩ : s.stamp ∉ Written.boundStamps (between ++ _ :: after) ∧
    (Written.boundStamps (between ++ _ :: after)).Nodup :=
    List.nodup_cons.mp hstamps.of_append_right
  rw [Written.boundStamps_append] at hs htail
  have hbetween : s.stamp ∉ Written.boundStamps between :=
    fun h => hs (List.mem_append_left _ h)
  have hafter : m.stamp ∉ Written.boundStamps after :=
    (List.nodup_cons.mp htail.of_append_right).1
  rw [hsignature, Scope.bindWritten, Scope.bindWrittenItems_append, Scope.bindWrittenItems,
    Scope.bindWrittenItems_append, Scope.bindWrittenItems, Scope.find?_bindWrittenItems _ _ hafter]
  refine ⟨_, Scope.find?_add_self _ _ _ _, ?_⟩
  rw [Scope.writtenShape]
  have hfind := (Scope.find?_bindWrittenItems parent
    ((Scope.bindWrittenItems parent ⟨scope, []⟩ before).declare parent .moduleType s []
      ((scope.bindWritten parent before).scope.writtenShape (parent.child .moduleType s.name)
        (.signature info body))) hbetween).trans (Scope.find?_add_self _ _ _ _)
  apply Scope.aliasTargets_pathShape hfind

/-- Let a signature declare the module type `s` by an inline signature and after it the module
`m` of the type `s`, and let the stamps of its identifiers differ.  If no alias in the shape of
the inline signature leads into the module type or to something that it is nested under, then
whatever a path through `m` is resolved to is not nested under the module type. -/
theorem module_path_not_within_moduleType
    (hsignature : signature
      = before ++ .moduleType loc₁ ⟨s, some (.signature info body), attributes, loc₂⟩ ::
        (between ++ .module loc₃ ⟨m, .path info' (.ident s), attributes', loc₄⟩ :: after))
    (hstamps : (Written.boundStamps signature).Nodup)
    (htargets : ∀ target ∈ ((scope.bindWritten parent before).scope.writtenShape
        (parent.child .moduleType s.name) (.signature info body)).aliasTargets,
      ¬ target.isWithin (parent.child .moduleType s.name) ∧
        ¬ (parent.child .moduleType s.name).isWithin target)
    {kind : PathKind} {names : List String} {i : Identifier}
    (hresolve : (scope.bindWritten parent signature).scope.resolve kind
      (Path.extend (.ident m) names) = .ok (.resolved i)) :
  i.isWithin (parent.child .moduleType s.name) = false
  := by
  obtain ⟨shape, hfind, hshape⟩ := find?_module_of_moduleType scope parent hsignature hstamps
  obtain ⟨⟨r, shape'⟩, hwithShape, rfl⟩ := Outcome.map_eq_ok.mp hresolve
  obtain ⟨hreaches, -⟩ := Scope.resolveWithShape_extend hfind hwithShape
  rw [Bool.eq_false_iff]
  intro hwithin
  rcases hreaches with hmodule | ⟨target, htarget, hi⟩
  · have hsiblings := Identifier.eq_of_isWithin_of_isWithin rfl rfl hmodule hwithin
    cases hsiblings
  · obtain ⟨hout, hover⟩ := htargets target (hshape htarget)
    rcases Identifier.isWithin_or_isWithin hi hwithin with h | h
    · apply hout h
    · apply hover h

end

/-- An abstract type as the body of a module. -/
def typeBody (x : Ident) : Written.ModuleType :=
  .signature ⟨.none, []⟩
    [.type .none .recursive [⟨x, [], [], .abstract, .publicly, none, .none, []⟩]]

/-- A module `A` with a type `t` and an alias `B` of the given path. -/
def aliasBody (target : Path) : List Written.SignatureItem :=
  [.module .none ⟨⟨"A", 2, 0⟩, typeBody ⟨"t", 3, 0⟩, [], .none⟩,
    .module .none ⟨⟨"B", 4, 0⟩, .alias ⟨.none, []⟩ target, [], .none⟩]

/-- A module `O` with a type `u`, a module type `S` with an alias in its body, and a module `M`
of the type `S`. -/
def aliasSample (target : Path) : Written.Signature :=
  [.module .none ⟨⟨"O", 6, 0⟩, typeBody ⟨"u", 7, 0⟩, [], .none⟩,
    .moduleType .none ⟨⟨"S", 1, 0⟩, some (.signature ⟨.none, []⟩ (aliasBody target)), [], .none⟩,
    .module .none ⟨⟨"M", 5, 0⟩, .path ⟨.none, []⟩ (.ident ⟨"S", 1, 0⟩), [], .none⟩]

/-- If `B` is an alias of `O`, then `M.B.u` is the type of `O`. -/
theorem aliasSample_not_within_moduleType :
  let root : Identifier := .root "pkg" "Unit"
  let signature := aliasSample (.ident ⟨"O", 6, 0⟩)
  let i := (root.child .module "O").child .type "u"
  (Written.boundStamps signature).Nodup ∧
    (Scope.empty.bindWritten root signature).scope.resolve .type
        (Path.extend (.ident ⟨"M", 5, 0⟩) ["B", "u"]) = .ok (.resolved i) ∧
      i.isWithin (root.child .moduleType "S") = false
  := by
  intro root signature i
  have hsignature : signature
      = signature.take 1 ++ .moduleType .none ⟨⟨"S", 1, 0⟩,
          some (.signature ⟨.none, []⟩ (aliasBody (.ident ⟨"O", 6, 0⟩))), [], .none⟩ ::
        ([] ++ .module .none
          ⟨⟨"M", 5, 0⟩, .path ⟨.none, []⟩ (.ident ⟨"S", 1, 0⟩), [], .none⟩ :: []) := rfl
  have hstamps : (Written.boundStamps signature).Nodup := by decide
  have hresolve : (Scope.empty.bindWritten root signature).scope.resolve .type
      (Path.extend (.ident ⟨"M", 5, 0⟩) ["B", "u"]) = .ok (.resolved i) := rfl
  use hstamps, hresolve
  apply module_path_not_within_moduleType .empty root hsignature hstamps _ hresolve
  intro target htarget
  obtain rfl : target = root.child .module "O" := List.mem_singleton.mp htarget
  decide

/-- If `B` is an alias of its sibling `A`, then `M.B.t` is a type of the module type `S`. -/
theorem aliasSample_within_moduleType :
  let root : Identifier := .root "pkg" "Unit"
  let signature := aliasSample (.ident ⟨"A", 2, 0⟩)
  let i := ((root.child .moduleType "S").child .module "A").child .type "t"
  (Written.boundStamps signature).Nodup ∧
    (Scope.empty.bindWritten root signature).scope.resolve .type
        (Path.extend (.ident ⟨"M", 5, 0⟩) ["B", "t"]) = .ok (.resolved i) ∧
      i.isWithin (root.child .moduleType "S") = true
  := ⟨by decide, rfl, by decide⟩

end InterfaceDocs
