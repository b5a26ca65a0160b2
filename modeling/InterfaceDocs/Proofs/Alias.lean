import InterfaceDocs.Proofs.Fragment
import InterfaceDocs.Proofs.Hygiene.Scope
import InterfaceDocs.Proofs.Reparent

/-!
# Chains of aliases

A module may be an alias of another module, which is an alias itself, and so on.  The shape of an
alias holds the target with the shape of the target, so members are looked up where the chain
ends, and neither the length of the chain nor the identifiers of the aliases on the way can be
observed in what is found (`aliases_transparent`).
-/

namespace InterfaceDocs

/-! ### Aliases -/

/-- How the module type of an alias is given. -/
inductive AliasForm where
  | written (info : Written.NodeInfo)
  | compiled

/-- The shape of a module that `id` declares as an alias of a path. -/
def AliasForm.shape (scope : Scope) (id : Identifier) (target : Path) : AliasForm → Shape
  | .written info => scope.writtenShape id (.alias info target)
  | .compiled => scope.compiledShape id (.alias target)

/-- A module that is declared as an alias. -/
structure ModuleAlias where
  ident : Ident
  id : Identifier
  form : AliasForm

namespace Scope

/-- Binds an alias of a path. -/
def addAlias (scope : Scope) (target : Path) (a : ModuleAlias) : Scope :=
  scope.add a.ident a.id (a.form.shape scope a.id target)

/-- Binds a chain of aliases: the first one is an alias of the path, and each of the others is an
alias of the one before it. -/
def addAliases (scope : Scope) (target : Path) : List ModuleAlias → Scope
  | [] => scope
  | a :: aliases => (scope.addAlias target a).addAliases (.ident a.ident) aliases

end Scope

/-- The path of the module that a chain of aliases of a path ends with. -/
def Path.throughAliases (target : Path) (aliases : List ModuleAlias) : Path :=
  aliases.foldl (fun _ a => .ident a.ident) target

theorem Path.throughAliases_concat (target : Path) (aliases : List ModuleAlias)
    (last : ModuleAlias) :
  target.throughAliases (aliases ++ [last]) = .ident last.ident
  := List.foldl_append

/-- The members of an alias are those of its target. -/
theorem Shape.follow?_alias (kind : PathKind) (parent target : Identifier) (shape : Shape)
    {names : List String} (hnames : names ≠ []) :
  (Shape.alias target shape).follow? kind parent names = shape.follow? kind target names
  := by
  cases names with
  | nil => contradiction
  | cons name names =>
    cases names with
    | nil => rw [follow?, follow?, project?]
    | cons name' names =>
      rw [follow?, follow?, project?]
      · apply List.cons_ne_nil name' names
      · apply List.cons_ne_nil name' names

theorem Path.idents_extend (p : Path) (names : List String) :
  (p.extend names).idents = p.idents
  := by
  induction names generalizing p with
  | nil => rfl
  | cons name names ih => apply ih (.dot p name)

/-! ### Through aliases -/

namespace Scope

variable {scope : Scope} {target : Path} {kind : PathKind} {names : List String}

/-- The shape of an alias does not depend on how its module type is given. -/
theorem shape_aliasForm (scope : Scope) (id : Identifier) (target : Path) (form : AliasForm) :
  form.shape scope id target = scope.aliasShape target
  := by
  cases form with
  | written info => rw [AliasForm.shape, writtenShape]
  | compiled => rw [AliasForm.shape, compiledShape]

/-- An alias of a module that is resolved is bound with the module as its target. -/
theorem find?_addAlias {a : ModuleAlias} {j : Identifier} {shape : Shape}
    (htarget : scope.resolveWithShape .module target = .ok (.resolved j, shape)) :
  (scope.addAlias target a).find? a.ident = some ⟨a.ident, a.id, .alias j shape⟩
  := by
  have hshape : a.form.shape scope a.id target = .alias j shape := by
    rw [shape_aliasForm, aliasShape, htarget]
  rw [addAlias, find?_add_self, hshape]

/-- Behind an alias, names lead to the same declarations as behind its target. -/
theorem resolve_addAlias {a : ModuleAlias} (hpredef : a.ident.isPredef = false)
    (hstamp : a.ident.stamp ≠ 0) {j : Identifier}
    (htarget : scope.resolve .module target = .ok (.resolved j)) (hnames : names ≠ [])
    (i : Identifier) :
  (scope.addAlias target a).resolve kind (Path.extend (.ident a.ident) names) = .ok (.resolved i)
    ↔ scope.resolve kind (target.extend names) = .ok (.resolved i)
  := by
  obtain ⟨⟨_, shape⟩, hshape, rfl⟩ := Outcome.map_eq_ok.mp htarget
  have halias := resolveWithShape_ident_of_find? hpredef hstamp (find?_addAlias hshape) .module
  rw [resolve_extend_eq_resolved hnames, resolve_extend_eq_resolved hnames, halias, hshape]
  constructor
  · rintro ⟨_, _, ⟨⟩, hfollow⟩
    rw [Shape.follow?_alias kind _ _ _ hnames] at hfollow
    exact ⟨_, _, rfl, hfollow⟩
  · rintro ⟨_, _, ⟨⟩, hfollow⟩
    rw [← Shape.follow?_alias kind a.id _ _ hnames] at hfollow
    exact ⟨_, _, rfl, hfollow⟩

/-- Behind a chain of aliases, names lead to the same declarations as behind the module that the
chain begins with. -/
theorem resolve_addAliases {aliases : List ModuleAlias}
    (hlocal : ∀ a ∈ aliases, a.ident.isPredef = false ∧ a.ident.stamp ≠ 0) {j : Identifier}
    (htarget : scope.resolve .module target = .ok (.resolved j)) (kind : PathKind)
    (hnames : names ≠ []) (i : Identifier) :
  (scope.addAliases target aliases).resolve kind ((target.throughAliases aliases).extend names)
      = .ok (.resolved i)
    ↔ scope.resolve kind (target.extend names) = .ok (.resolved i)
  := by
  induction aliases generalizing scope target j with
  | nil => exact Iff.rfl
  | cons a aliases ih =>
    obtain ⟨⟨hpredef, hstamp⟩, hlocal⟩ := List.forall_mem_cons.mp hlocal
    have hnext : (scope.addAlias target a).resolve .module (.ident a.ident)
        = .ok (.resolved a.id) := by
      obtain ⟨⟨_, shape⟩, hshape, rfl⟩ := Outcome.map_eq_ok.mp htarget
      rw [resolve, resolveWithShape_ident_of_find? hpredef hstamp (find?_addAlias hshape)]
      rfl
    exact (ih hlocal hnext).trans (resolve_addAlias hpredef hstamp htarget hnames i)

/-- A chain of aliases binds nothing but the aliases. -/
theorem agree_addAliases (scope : Scope) (target : Path) {aliases : List ModuleAlias}
    {xs : List Ident} (hfresh : ∀ a ∈ aliases, ∀ x ∈ xs, a.ident.stamp ≠ x.stamp) :
  (scope.addAliases target aliases).Agree xs scope
  := by
  induction aliases generalizing scope target with
  | nil => use rfl, fun _ _ => rfl
  | cons a aliases ih =>
    obtain ⟨ha, haliases⟩ := List.forall_mem_cons.mp hfresh
    have hrest := ih (scope.addAlias target a) (.ident a.ident) haliases
    use hrest.parameter
    intro x hx
    have hsame : a.ident.same x ≠ true := fun h => ha x hx (Ident.stamp_eq_of_same h)
    rw [addAliases, hrest.lookup x hx, addAlias, lookup_add, if_neg hsame]

end Scope

/-- Let a chain of aliases begin with a module that is resolved, where the aliases are local
identifiers.  Behind the last alias, names are resolved to a declaration exactly when they are
resolved to it behind the module, where it makes no difference whether the aliases are bound
already, if they do not occur in the path of the module.  So the length of the chain, the
identifiers of the aliases and the forms of their types are irrelevant. -/
theorem aliases_transparent {scope : Scope} {target : Path} {j : Identifier}
    (htarget : scope.resolve .module target = .ok (.resolved j))
    (aliases : List ModuleAlias) (last : ModuleAlias)
    (hlocal : ∀ a ∈ aliases ++ [last], a.ident.isPredef = false ∧ a.ident.stamp ≠ 0)
    (hfresh : ∀ a ∈ aliases ++ [last], ∀ x ∈ target.idents, a.ident.stamp ≠ x.stamp)
    (kind : PathKind) {names : List String} (hnames : names ≠ []) (i : Identifier) :
  let extended := scope.addAliases target (aliases ++ [last])
  (extended.resolve kind (Path.extend (.ident last.ident) names) = .ok (.resolved i) ↔
    scope.resolve kind (target.extend names) = .ok (.resolved i)) ∧
  (extended.resolve kind (Path.extend (.ident last.ident) names) = .ok (.resolved i) ↔
    extended.resolve kind (target.extend names) = .ok (.resolved i))
  := by
  intro extended
  have hchain : extended.resolve kind (Path.extend (.ident last.ident) names) = .ok (.resolved i) ↔
      scope.resolve kind (target.extend names) = .ok (.resolved i) := by
    have h := Scope.resolve_addAliases hlocal htarget kind hnames i
    rwa [Path.throughAliases_concat] at h
  have hbound : extended.resolve kind (target.extend names)
      = scope.resolve kind (target.extend names) := by
    apply Scope.resolve_congr (scope.agree_addAliases target hfresh) kind
    rw [Path.idents_extend]
    apply List.Subset.refl _
  constructor
  · apply hchain
  · apply hbound ▸ hchain

/-- The module `M` of `fragmentSample`, whose member `B` is an alias itself, with an alias `N` of
`M` and an alias `L` of `N`. -/
theorem fragmentSample_aliases_transparent :
  let scope : Scope := ⟨[fragmentSample], none⟩
  let target : Path := .ident fragmentSample.ident
  let root : Identifier := .root "pkg" "Unit"
  let first : ModuleAlias := ⟨⟨"N", 2, 0⟩, root.child .module "N", .written ⟨.none, []⟩⟩
  let last : ModuleAlias := ⟨⟨"L", 3, 0⟩, root.child .module "L", .compiled⟩
  let id := (root.child .module "A").child .type "t"
  scope.resolve .module target = .ok (.resolved (root.child .module "M")) ∧
  scope.resolve .type (target.extend ["B", "t"]) = .ok (.resolved id) ∧
  (scope.addAliases target [first, last]).resolve .type (Path.extend (.ident last.ident) ["B", "t"])
    = .ok (.resolved id)
  := by
  intro scope target root first last id
  have htarget : scope.resolve .module target = .ok (.resolved (root.child .module "M")) := rfl
  have hfound : scope.resolve .type (target.extend ["B", "t"]) = .ok (.resolved id) := rfl
  have hlocal : ∀ a ∈ [first] ++ [last], a.ident.isPredef = false ∧ a.ident.stamp ≠ 0 := by
    simp only [List.singleton_append, List.forall_mem_cons]
    decide
  have hfresh : ∀ a ∈ [first] ++ [last], ∀ x ∈ target.idents, a.ident.stamp ≠ x.stamp := by
    simp only [List.singleton_append, List.forall_mem_cons]
    decide
  obtain ⟨htransparent, -⟩ := aliases_transparent htarget [first] last hlocal hfresh .type
    (List.cons_ne_nil "B" ["t"]) id
  use htarget, hfound, htransparent.mpr hfound

end InterfaceDocs
