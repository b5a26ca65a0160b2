import InterfaceDocs.Scope.Binding

/-!
# Members removed by substitutions

A destructive substitution on a module type removes the member that it is about.  The shape of a
constrained module type has the members of its body, in their order, without the substituted ones,
unless the innermost body is an alias: the members of an alias are those of its target, and all of
them are kept (`constrained_memberNames`, `aliasType_keeps_substituted`).
-/

namespace InterfaceDocs

/-! ### Constraints -/

namespace Written

/-- A constraint substitutes a member of the signature that it is put on: it is the substitution
of a type or of a module, under a name without dots. -/
inductive WithClause.Substitutes : WithClause → Namespace × String → Prop where
  | type (name : String) (loc : Location) (d : TypeDeclaration) :
    Substitutes ⟨⟨.ident name, loc⟩, .typeSubst d⟩ (.type, name)
  | module (name : String) (loc : Location) (p : Path) :
    Substitutes ⟨⟨.ident name, loc⟩, .moduleSubst p⟩ (.module, name)

/-- The module type that constraints are put on, without any of them. -/
def ModuleType.unconstrained : ModuleType → ModuleType
  | .constrained _ body _ => body.unconstrained
  | type => type

end Written

/-- A clause removes the member that it substitutes. -/
theorem Scope.removedMember_eq_some {clause : Written.WithClause} {key : Namespace × String} :
  removedMember clause = some key ↔ clause.Substitutes key
  := by
  constructor
  · intro h
    obtain ⟨⟨name, loc⟩, constraint⟩ := clause
    unfold removedMember at h
    split at h
    · rename_i d name hconstraint hname
      cases h
      cases hconstraint
      cases hname
      exact .type name loc d
    · rename_i p name hconstraint hname
      cases h
      cases hconstraint
      cases hname
      exact .module name loc p
    · cases h
  · rintro (⟨name, loc, d⟩ | ⟨name, loc, p⟩)
    · rfl
    · rfl

instance (clause : Written.WithClause) (key : Namespace × String) :
    Decidable (clause.Substitutes key) :=
  decidable_of_iff _ Scope.removedMember_eq_some

/-! ### Shapes -/

/-- Whether a shape is that of an alias. -/
def Shape.isAlias : Shape → Bool
  | .alias _ _ => true
  | _ => false

namespace Shape

/-- Removing members does not turn a shape into an alias, or an alias into another shape. -/
theorem isAlias_without (shape : Shape) (removed : List (Namespace × String)) :
  (shape.without removed).isAlias = shape.isAlias
  := by
  cases shape with
  | unknown => rfl
  | signature members => rfl
  | «alias» target shape => rfl

/-- Removing members takes their names away, unless the shape is that of an alias. -/
theorem memberNames_without (shape : Shape) (removed : List (Namespace × String)) :
  (shape.without removed).memberNames
    = if shape.isAlias then shape.memberNames
      else shape.memberNames.filter fun key => key ∉ removed
  := by
  cases shape with
  | unknown => rfl
  | signature members =>
    have hfilter : members.filter (fun m => !removed.contains m.key)
        = members.filter ((fun key => decide (key ∉ removed)) ∘ Member.key) := by
      apply List.filter_congr
      intro m _
      simp
    change (members.filter fun m => !removed.contains m.key).map Member.key
      = (members.map Member.key).filter fun key => key ∉ removed
    rw [hfilter, List.filter_map]
  | «alias» target shape => rfl

end Shape

/-- The shape of a module type is an alias exactly when that of its innermost body is. -/
theorem Scope.isAlias_writtenShape (scope : Scope) (parent : Identifier) :
  ∀ type : Written.ModuleType, (scope.writtenShape parent type).isAlias
    = (scope.writtenShape parent type.unconstrained).isAlias
  | .path _ _ => rfl
  | .signature _ _ => rfl
  | .functor _ _ _ => rfl
  | .constrained info body clauses => by
    rw [writtenShape, Shape.isAlias_without, Written.ModuleType.unconstrained]
    apply isAlias_writtenShape scope parent body
  | .typeOf _ _ => rfl
  | .alias _ _ => rfl

/-- The names of the members of a constrained module type are those of its body, in the same
order, without the members that one of the constraints substitutes.  If the innermost body has
the shape of an alias, then no member is removed. -/
theorem constrained_memberNames (scope : Scope) (parent : Identifier) (info : Written.NodeInfo)
    (body : Written.ModuleType) (clauses : List Written.WithClause) :
  (scope.writtenShape parent (.constrained info body clauses)).memberNames
    = if (scope.writtenShape parent body.unconstrained).isAlias then
        (scope.writtenShape parent body).memberNames
      else
        (scope.writtenShape parent body).memberNames.filter fun key =>
          ¬ ∃ clause ∈ clauses, clause.Substitutes key
  := by
  have hremoved : ∀ key, key ∈ clauses.filterMap Scope.removedMember
      ↔ ∃ clause ∈ clauses, clause.Substitutes key := by
    intro key
    rw [List.mem_filterMap]
    simp only [Scope.removedMember_eq_some]
  rw [Scope.writtenShape, Shape.memberNames_without, Scope.isAlias_writtenShape]
  simp only [hremoved]

/-- A module `A` with types `t` and `u`, and an alias `B` of it. -/
def substitutionSample : Written.Signature :=
  let type (x : Ident) : Written.SignatureItem :=
    .type .none .recursive [⟨x, [], [], .abstract, .publicly, none, .none, []⟩]
  [.module .none ⟨⟨"A", 1, 0⟩, .signature ⟨.none, []⟩ [type ⟨"t", 2, 0⟩, type ⟨"u", 3, 0⟩], [],
      .none⟩,
    .module .none ⟨⟨"B", 4, 0⟩, .alias ⟨.none, []⟩ (.ident ⟨"A", 1, 0⟩), [], .none⟩]

/-- The type of the alias `B` is that of an alias of `A`.  A substitution of the type `t` in
`module type of B` leaves `t` among the members. -/
theorem aliasType_keeps_substituted :
  let root : Identifier := .root "pkg" "Unit"
  let scope := (Scope.empty.bindWritten root substitutionSample).scope
  let body : Written.ModuleType := .typeOf ⟨.none, []⟩
    (.path ⟨.alias (.ident ⟨"A", 1, 0⟩), .none⟩ (.ident ⟨"B", 4, 0⟩))
  let int : Written.CoreType := .constr ⟨.none, []⟩ (.ident ⟨"int", 5, Ident.predefFlag⟩) []
  let clause : Written.WithClause := ⟨⟨.ident "t", .none⟩,
    .typeSubst ⟨⟨"t", 6, 0⟩, [], [], .abstract, .publicly, some int, .none, []⟩⟩
  let names := (scope.writtenShape (root.child .moduleType "T") body).memberNames
  let constrained := scope.writtenShape (root.child .moduleType "T")
    (.constrained ⟨.none, []⟩ body [clause])
  clause.Substitutes (.type, "t") ∧ constrained.memberNames = [(.type, "t"), (.type, "u")] ∧
  constrained.memberNames
    ≠ names.filter fun key => ¬ clause.Substitutes key
  := by
  intro root scope body int clause names constrained
  exact ⟨.type "t" .none _, rfl, by decide⟩

end InterfaceDocs
