import InterfaceDocs.Proofs.Fragment
import InterfaceDocs.Proofs.Parameter.Place
import InterfaceDocs.Proofs.Spread.Signature
import Mathlib.Data.List.Nodup

/-!
# Numbers of functor parameters

The named parameters of a chain of functors are numbered from 1 on, although no number is carried
along the chain: the scope knows the last parameter only.  The types of the parameters and the
result are documented at places of their own (`Source.places`), and the scope of the place with
the number `j` has the first `j` parameters.  So a parameter denotes itself in all that comes
after its type, and nothing before (`functor_parameters_numbered`).
-/

namespace InterfaceDocs

/-! ### Numbered parameters -/

/-- The identifiers of the parameters of a chain, the first of which has the given number. -/
def parameterIds (owner : Identifier) (position : Nat) (params : List (Ident × Source)) :
    List Identifier :=
  params.mapIdx fun k p => .argument owner (k + position) p.1.name

/-- The documentation has the parameters of the source, and those with a name are numbered from
the given number on. -/
structure Source.Numbered (owner : Identifier) (position : Nat) (source : Source)
    (out : Model.ModuleTypeExpr) : Prop where
  kinds : out.parameters.map Option.isSome = source.parameters.map Option.isSome
  ids : out.named.map Prod.fst = parameterIds owner position source.named

section

variable {owner : Identifier} {position : Nat}

theorem parameterIds_cons (p : Ident × Source) (params : List (Ident × Source)) :
  parameterIds owner position (p :: params)
    = .argument owner position p.1.name :: parameterIds owner (position + 1) params
  := by
  simp [parameterIds, List.mapIdx_cons, Nat.add_comm, Nat.add_left_comm]

theorem parameterIds_getElem? {params : List (Ident × Source)} {k : Nat} {p : Ident × Source}
    (h : params[k]? = some p) :
  (parameterIds owner position params)[k]? = some (.argument owner (k + position) p.1.name)
  := by
  rw [parameterIds, List.getElem?_mapIdx, h, Option.map_some]

/-- Parameters are different even if they have the same name. -/
theorem parameterIds_nodup (params : List (Ident × Source)) :
  (parameterIds owner position params).Nodup
  := by
  rw [List.Nodup, List.pairwise_iff_getElem]
  intro i j hi hj hlt heq
  simp only [parameterIds, List.getElem_mapIdx, Identifier.argument.injEq] at heq
  omega

theorem map_stamp_zip_parameterIds (owner : Identifier) (position : Nat)
    (params : List (Ident × Source)) :
  ((params.map Prod.fst).zip (parameterIds owner position params)).map (fun e => e.1.stamp)
    = params.map fun p => p.1.stamp
  := by
  have hlength : (params.map Prod.fst).length ≤ (parameterIds owner position params).length := by
    rw [parameterIds, List.length_map, List.length_mapIdx]
  calc ((params.map Prod.fst).zip (parameterIds owner position params)).map (fun e => e.1.stamp)
      = (((params.map Prod.fst).zip (parameterIds owner position params)).map Prod.fst).map
          Ident.stamp := by rw [List.map_map]; rfl
    _ = (params.map Prod.fst).map Ident.stamp := by rw [List.map_fst_zip hlength]
    _ = params.map fun p => p.1.stamp := by rw [List.map_map]; rfl

end

/-! ### The places of a chain -/

/-- The places of the types of parameters, which are numbered from the given number on, and the
place of the result behind them. -/
def Place.chain (owner : Identifier) (result : Source) :
    Nat → Scope → List (Ident × Source) → List Place
  | _, scope, [] => [⟨scope, owner, .type result⟩]
  | position, scope, (x, type) :: params =>
    let id := .argument owner position x.name
    let inner := scope.addFunctorParameter x id (type.shape scope id)
    ⟨scope, id, .type type⟩ :: chain owner result (position + 1) inner params

/-- The places of the types of the named parameters of a chain, and the place of its result. -/
def Source.places (scope : Scope) (owner : Identifier) (source : Source) : List Place :=
  Place.chain owner source.result 1 scope source.named

/-- The documentation of the types of the named parameters of a chain, and of its result. -/
def Model.ModuleTypeExpr.pieces (type : Model.ModuleTypeExpr) : List Documentation :=
  type.named.map (fun p => .type p.2) ++ [.type type.result]

variable {config : Config} {scope : Scope} {owner : Identifier} {source : Source}
  {out : Model.ModuleTypeExpr}

/-- A chain is documented piece by piece, and its parameters are numbered from the next number
of the scope on. -/
theorem Source.document_chain (h : (source.document config scope owner).outcome = .ok out) :
  source.Numbered owner (scope.nextPosition owner) out ∧
    List.Forall₂ (Place.Documents config)
      (Place.chain owner source.result (scope.nextPosition owner) scope source.named) out.pieces
  := by
  induction source using Source.chainRec generalizing scope out with
  | @functor source parameter rest hfunctor ih =>
    have hparameters := Source.parameters_of_functor? hfunctor
    rw [Source.named, hparameters, Source.result_of_functor? hfunctor]
    cases parameter with
    | none =>
      obtain ⟨out', hout', rfl⟩ := Source.document_unit hfunctor h
      obtain ⟨⟨hkinds, hids⟩, hdocuments⟩ := ih hout'
      constructor
      · constructor
        · rw [hparameters, List.map_cons, ← hkinds]
          rfl
        · rw [Source.named, hparameters]
          apply hids
      · apply hdocuments
    | some parameter =>
      obtain ⟨x, type⟩ := parameter
      obtain ⟨type', expanded, out', htype', hout', rfl⟩ := Source.document_named hfunctor h
      -- The number is not passed on to the result: it comes back from the scope of the result.
      obtain ⟨⟨hkinds, hids⟩, hdocuments⟩ := ih hout'
      rw [Source.scopeOfResult, Scope.nextPosition_addFunctorParameter] at hids hdocuments
      rw [Scope.functorArgument_eq] at htype' hdocuments ⊢
      constructor
      · constructor
        · rw [hparameters, List.map_cons, ← hkinds]
          rfl
        · rw [Source.named, hparameters, List.reduceOption_cons_of_some, parameterIds_cons]
          apply congrArg (List.cons _) hids
      · apply List.Forall₂.cons (.type htype') hdocuments
  | @result source hfunctor =>
    obtain ⟨hparameters, hresult⟩ := Source.chain_of_functor?_eq_none hfunctor
    obtain ⟨hparameters', hresult'⟩ := Source.chain_document_of_functor?_eq_none hfunctor h
    rw [Source.named, hparameters, hresult, Model.ModuleTypeExpr.pieces,
      Model.ModuleTypeExpr.named, hparameters', hresult']
    constructor
    · constructor
      · rw [hparameters, hparameters']
        rfl
      · rw [Source.named, Model.ModuleTypeExpr.named, hparameters, hparameters']
        rfl
    · apply List.Forall₂.cons (.type h) .nil

/-! ### Where the numbering starts -/

/-- The last parameter, if any, is not nested under the identifier. -/
def Scope.Outside (scope : Scope) (owner : Identifier) : Prop :=
  ∀ last parent, scope.functorParameter = some last → last.parent = some parent →
    ¬ parent.isWithin owner

/-- Outside of its owner, a chain is numbered from 1 on. -/
theorem Scope.Outside.nextPosition_eq (h : scope.Outside owner) :
  scope.nextPosition owner = 1
  := by
  unfold Scope.nextPosition
  split
  · rename_i parent position name hlast
    apply if_neg
    rintro rfl
    apply h _ _ hlast rfl (Identifier.isWithin_refl parent)
  · rfl

/-- What is outside of an identifier is outside of what is under it. -/
theorem Scope.Outside.of_parent (h : scope.Outside owner) {id : Identifier}
    (hid : id.parent = some owner) :
  scope.Outside id
  := by
  intro last parent hlast hparent hwithin
  apply h last parent hlast hparent
  apply Identifier.isWithin_trans hwithin
  rw [Identifier.isWithin_iff]
  exact .inr ⟨owner, hid, Identifier.isWithin_refl owner⟩

/-- A parameter is outside of the identifiers that are next to it. -/
theorem Scope.outside_addFunctorParameter (scope : Scope) (x : Ident) {id id' : Identifier}
    (shape : Shape) (hid : id.parent = some owner) (hid' : id'.parent = some owner) :
  (scope.addFunctorParameter x id shape).Outside id'
  := by
  intro last parent hlast hparent
  obtain rfl := Option.some.inj hlast
  obtain rfl := Option.some.inj (hid.symm.trans hparent)
  apply Identifier.not_isWithin_of_parent hid'

/-! ### What a place of a chain is -/

namespace Place

variable {result : Source} {position : Nat} {params : List (Ident × Source)} {place : Place}

/-- The place of a parameter belongs to the parameter and has its type, and the place behind them
belongs to the owner and has the result. -/
theorem chain_parts :
  (chain owner result position scope params).map (fun place => (place.owner, place.part))
    = (parameterIds owner position params).zip (params.map fun p => .type p.2)
      ++ [(owner, .type result)]
  := by
  induction params generalizing position scope with
  | nil => rfl
  | cons p params ih =>
    rw [chain, List.map_cons, ih, parameterIds_cons]
    rfl

/-- The numbering starts again at the place of a parameter. -/
theorem chain_outside {k : Nat}
    (hscope : ∀ id : Identifier, id.parent = some owner → scope.Outside id)
    (hplace : (chain owner result position scope params)[k]? = some place)
    (hlt : k < params.length) :
  place.scope.Outside place.owner
  := by
  induction params generalizing position scope k with
  | nil => cases hlt
  | cons p params ih =>
    cases k with
    | zero =>
      cases hplace
      apply hscope
      rfl
    | succ k =>
      apply ih ?_ hplace (Nat.lt_of_succ_lt_succ hlt)
      intro id hid
      apply Scope.outside_addFunctorParameter
      · rfl
      · apply hid

/-- The scope of a place has the parameters in front of it. -/
theorem chain_adds {j : Nat}
    (hplace : (chain owner result position scope params)[j]? = some place) :
  scope.Adds (((params.map Prod.fst).zip (parameterIds owner position params)).take j) place.scope
  := by
  induction params generalizing position scope j with
  | nil =>
    cases j with
    | zero =>
      cases hplace
      exact .refl scope
    | succ j => cases hplace
  | cons p params ih =>
    obtain ⟨x, type⟩ := p
    cases j with
    | zero =>
      cases hplace
      exact .refl scope
    | succ j =>
      rw [parameterIds_cons]
      exact (adds_addFunctorParameter scope x _ _).trans (ih hplace)

end Place

/-! ### What a parameter denotes -/

/-- The named parameters of a chain can be told apart, and the scope has none of them. -/
structure Source.Separate (scope : Scope) (source : Source) : Prop where
  nodup : (source.named.map fun p => p.1.stamp).Nodup
  stamp_ne_zero : ∀ p ∈ source.named, p.1.stamp ≠ 0
  not_predef : ∀ p ∈ source.named, p.1.isPredef = false
  unbound : ∀ p ∈ source.named, scope.find? p.1 = none

namespace Source.Separate

variable {place : Place} {k j : Nat} {x : Ident} {type : Source}

/-- At a place behind its type a parameter denotes itself. -/
theorem find?_of_lt (h : source.Separate scope) (hparam : source.named[k]? = some (x, type))
    (hplace : (source.places scope owner)[j]? = some place) (hlt : k < j) :
  (place.scope.find? x).map Binding.id = some (.argument owner (k + 1) x.name)
  := by
  apply (Place.chain_adds hplace).find?_of_mem
  · rw [List.map_take, map_stamp_zip_parameterIds]
    apply h.nodup.sublist (List.take_sublist j _)
  · apply List.mem_of_getElem? (i := k)
    rw [List.getElem?_take_of_lt hlt, List.getElem?_zip_eq_some]
    constructor
    · rw [List.getElem?_map, hparam, Option.map_some]
    · apply parameterIds_getElem? hparam

/-- At the place of its type and in front of it a parameter denotes nothing. -/
theorem find?_of_le (h : source.Separate scope) (hparam : source.named[k]? = some (x, type))
    (hplace : (source.places scope owner)[j]? = some place) (hle : j ≤ k) :
  place.scope.find? x = none
  := by
  rw [← h.unbound (x, type) (List.mem_of_getElem? hparam)]
  apply (Place.chain_adds hplace).find?_of_stamps_ne
  intro e he heq
  have hbefore : x.stamp ∈ (source.named.map fun p => p.1.stamp).take j := by
    rw [← map_stamp_zip_parameterIds owner 1, ← List.map_take, ← heq]
    apply List.mem_map_of_mem he
  have hbehind : x.stamp ∈ (source.named.map fun p => p.1.stamp).drop k := by
    apply List.mem_of_getElem? (i := 0)
    rw [List.getElem?_drop, Nat.add_zero, List.getElem?_map, hparam, Option.map_some]
  apply List.disjoint_take_drop h.nodup hle hbefore hbehind

end Source.Separate

/-- What is not bound is not resolved. -/
theorem Scope.resolve_ident_of_find?_eq_none {x : Ident} (hpredef : x.isPredef = false)
    (hstamp : x.stamp ≠ 0) (hfind : scope.find? x = none) (kind : PathKind) :
  scope.resolve kind (.ident x) = .error (.unboundIdent x)
  := by
  have hpersistent : x.isPersistent = false := beq_eq_false_iff_ne.mpr hstamp
  simp [resolve, resolveWithShape, hpredef, hpersistent, hfind, Except.map]

/-- A parameter resolves to itself everywhere inside what is behind its type, and is not bound
inside its type and what is in front of it, as long as it is not bound there. -/
theorem Source.Separate.resolve_inside (hseparate : source.Separate scope) {k j : Nat} {x : Ident}
    {type : Source} {place place' : Place} (hparam : source.named[k]? = some (x, type))
    (hplace : (source.places scope owner)[j]? = some place) (hinside : place.Inside x place')
    (kind : PathKind) :
  place'.scope.resolve kind (.ident x)
    = if k < j then .ok (.resolved (.argument owner (k + 1) x.name))
      else .error (.unboundIdent x)
  := by
  have hmem := List.mem_of_getElem? hparam
  have hpredef := hseparate.not_predef _ hmem
  have hstamp := hseparate.stamp_ne_zero _ hmem
  by_cases hlt : k < j
  · have hfind := hseparate.find?_of_lt hparam hplace hlt
    rw [← hinside.find?_eq] at hfind
    obtain ⟨b, hb, hid⟩ := Option.map_eq_some_iff.mp hfind
    rw [if_pos hlt, Scope.resolve, Scope.resolveWithShape_ident_of_find? hpredef hstamp hb, ← hid]
    rfl
  · have hfind := hseparate.find?_of_le hparam hplace (Nat.not_lt.mp hlt)
    rw [← hinside.find?_eq] at hfind
    rw [if_neg hlt]
    apply Scope.resolve_ident_of_find?_eq_none hpredef hstamp hfind kind

/-- In a scope outside of the owner the named parameters of a chain get different identifiers,
numbered from 1 on.  The chain is documented at its places: the types of the parameters belong to
these identifiers, and what is documented there is numbered from 1 on again.  If the parameters
can be told apart, then wherever a parameter is not bound again, it resolves to itself inside the
later places and is unbound inside the others. -/
theorem functor_parameters_numbered (hscope : scope.Outside owner)
    (h : (source.document config scope owner).outcome = .ok out) :
  source.Numbered owner 1 out ∧ (out.named.map Prod.fst).Nodup ∧
  List.Forall₂ (Place.Documents config) (source.places scope owner) out.pieces ∧
  (source.places scope owner).map (fun place => (place.owner, place.part))
    = (out.named.map Prod.fst).zip (source.named.map fun p => .type p.2)
      ++ [(owner, .type source.result)] ∧
  (∀ (k : Nat) (place : Place), (source.places scope owner)[k]? = some place →
    k < source.named.length → ∀ (inner : Source) (inner' : Model.ModuleTypeExpr),
      (inner.document config place.scope place.owner).outcome = .ok inner' →
        inner.Numbered place.owner 1 inner') ∧
  (source.Separate scope → ∀ (k : Nat) (x : Ident) (type : Source),
    source.named[k]? = some (x, type) → ∀ (j : Nat) (place place' : Place),
      (source.places scope owner)[j]? = some place → place.Inside x place' →
        (∃ piece out', out.pieces[j]? = some piece ∧
          Relation.ReflTransGen Documentation.Holds piece out' ∧ place'.Documents config out') ∧
        ∀ kind, place'.scope.resolve kind (.ident x)
          = if k < j then .ok (.resolved (.argument owner (k + 1) x.name))
            else .error (.unboundIdent x))
  := by
  obtain ⟨hnumbered, hdocuments⟩ := Source.document_chain h
  rw [hscope.nextPosition_eq] at hnumbered hdocuments
  rw [hnumbered.ids]
  use hnumbered, parameterIds_nodup _, hdocuments, Place.chain_parts
  constructor
  · intro k place hplace hlt inner inner' hinner
    have houtside := Place.chain_outside (fun id hid => hscope.of_parent hid) hplace hlt
    rw [← houtside.nextPosition_eq]
    exact (Source.document_chain hinner).1
  · intro hseparate k x type hparam j place place' hplace hinside
    constructor
    · obtain ⟨hj, rfl⟩ := List.getElem?_eq_some_iff.mp hplace
      have hj' : j < out.pieces.length := hdocuments.length_eq ▸ hj
      obtain ⟨out', hholds, hout'⟩ := hinside.documents (hdocuments.get hj hj')
      exact ⟨_, out', List.getElem?_eq_getElem hj', hholds, hout'⟩
    · apply hseparate.resolve_inside hparam hplace hinside

/-- The type of a parameter that is a functor, with an alias of an earlier parameter. -/
def functorSample : Written.ModuleType :=
  .functor ⟨.none, []⟩ (.named ⟨"Y", 3, 0⟩ (.signature ⟨.none, []⟩ []))
    (.signature ⟨.none, []⟩
      [.module .none ⟨⟨"A", 4, 0⟩, .alias ⟨.none, []⟩ (.ident ⟨"X", 1, 0⟩), [], .none⟩])

/-- A signature with an alias of a parameter. -/
def nestedSample : Written.ModuleType :=
  .signature ⟨.none, []⟩
    [.module .none ⟨⟨"B", 5, 0⟩, .alias ⟨.none, []⟩ (.ident ⟨"X", 2, 0⟩), [], .none⟩]

/-- Two parameters of the same name with a unit between them. -/
def chainSample : Source :=
  .written (.functor ⟨.none, []⟩ (.named ⟨"X", 1, 0⟩ (.signature ⟨.none, []⟩ []))
    (.functor ⟨.none, []⟩ .unit
      (.functor ⟨.none, []⟩ (.named ⟨"X", 2, 0⟩ functorSample)
        (.signature ⟨.none, []⟩ [.module .none ⟨⟨"N", 6, 0⟩, nestedSample, [], .none⟩]))))

/-- In the result of another functor the numbering of the sample starts at 1.  The parameter of
the inner functor is numbered under the second parameter, whose type has the first parameter only,
and the second parameter resolves to itself in the nested signature. -/
theorem chainSample_numbered :
  let outer : Identifier := (Identifier.root "pkg" "Unit").child .module "F"
  let owner := outer.child .module "G"
  let scope := Scope.empty.addFunctorParameter ⟨"Z", 9, 0⟩ (.argument outer 1 "Z") .unknown
  let first := Identifier.argument owner 1 "X"
  let second := Identifier.argument owner 2 "X"
  scope.Outside owner ∧ chainSample.Separate scope ∧
    ∃ out, (chainSample.document .standard scope owner).outcome = .ok out ∧
      out.named.map Prod.fst = [first, second] ∧
      (∃ type, out.named[1]? = some (second, type) ∧
        type.named.map Prod.fst = [.argument second 1 "Y"]) ∧
      (∃ place, (chainSample.places scope owner)[1]? = some place ∧
        place.scope.resolve .module (.ident ⟨"X", 1, 0⟩) = .ok (.resolved first) ∧
        place.scope.resolve .module (.ident ⟨"X", 2, 0⟩) = .error (.unboundIdent ⟨"X", 2, 0⟩)) ∧
      ∃ place place', (chainSample.places scope owner)[2]? = some place ∧
        place.Inside ⟨"X", 2, 0⟩ place' ∧ place'.part = .type (.written nestedSample) ∧
        place'.scope.resolve .module (.ident ⟨"X", 2, 0⟩) = .ok (.resolved second)
  := by
  intro outer owner scope first second
  have hscope : scope.Outside owner := by
    intro last parent hlast hparent
    obtain rfl := Option.some.inj hlast
    obtain rfl := Option.some.inj hparent
    decide
  have hseparate : chainSample.Separate scope :=
    ⟨by decide, by decide, by decide, by decide⟩
  obtain ⟨out, hout⟩ : ∃ out, (chainSample.document .standard scope owner).outcome = .ok out :=
    ⟨_, rfl⟩
  obtain ⟨hnumbered, -, -, -, hrestart, hresolve⟩ := functor_parameters_numbered hscope hout
  use hscope, hseparate, out, hout, hnumbered.ids
  refine ⟨?_, ⟨_, rfl, ?_, ?_⟩, ?_⟩
  · obtain rfl := Except.ok.inj hout
    refine ⟨_, rfl, ?_⟩
    exact (hrestart 1 _ rfl (by decide) (.written functorSample) _ rfl).ids
  · exact (hresolve hseparate 0 _ _ rfl 1 _ _ rfl .refl).2 .module
  · exact (hresolve hseparate 1 _ _ rfl 1 _ _ rfl .refl).2 .module
  · obtain ⟨place, hplace⟩ : ∃ place, (chainSample.places scope owner)[2]? = some place := ⟨_, rfl⟩
    obtain ⟨place', hinside, hpart⟩ : ∃ place', place.Inside ⟨"X", 2, 0⟩ place' ∧
        place'.part = .type (.written nestedSample) := by
      cases hplace
      constructor
      constructor
      · apply Relation.ReflTransGen.head (Place.Step.items rfl (by decide))
        exact .single (.inner (List.mem_singleton_self _))
      · rfl
    use place, place', hplace, hinside, hpart,
      (hresolve hseparate 1 _ _ rfl 2 place place' hplace hinside).2 .module

end InterfaceDocs
