import InterfaceDocs.Load.VarNames
import Mathlib.Data.List.Nodup
import Mathlib.Data.Nat.Nth
import Mathlib.Data.Set.Card
import Mathlib.Tactic.Use

/-!
# Names of anonymous variables

The names `a`, `b`, and so on are all different (`VarNames.letterName_injective`), so only
finitely many of them are used in given types.  An anonymous variable with `k` others in front of
its first visit is named by the `k`-th one that is not used (`VarNames.lookup_of_first`), because
enough names are listed for the variables.  The variables and the used names are those that occur
in the types (`Compiled.mem_nodesList`), so that the names tell the variables apart
(`VarNames.print_eq_print_iff`).
-/

namespace InterfaceDocs

/-! ### Occurrences -/

namespace Compiled

/-- A type expression occurs in itself and wherever it occurs in a part: an argument or result, a
component, a method, an argument of a tag, an argument of the abbreviation of a polymorphic
variant, a variable or the body of a quantifier, a type of a package or the type of an alias. -/
inductive TypeExpr.Occurs (t : TypeExpr) : TypeExpr → Prop where
  | self : t.Occurs t
  | argument {label arg res} : t.Occurs arg → t.Occurs (.arrow label arg res)
  | result {label arg res} : t.Occurs res → t.Occurs (.arrow label arg res)
  | component {type types} : type ∈ types → t.Occurs type → t.Occurs (.tuple types)
  | parameter {path type args} : type ∈ args → t.Occurs type → t.Occurs (.constr path args)
  | method {name type methods isOpen} : .mk name type ∈ methods → t.Occurs type →
    t.Occurs (.object methods isOpen)
  | present {tag type fields isClosed name} : .mk tag (.present (some type)) ∈ fields →
    t.Occurs type → t.Occurs (.variant fields isClosed name)
  | either {tag constant type types fields isClosed name} :
    .mk tag (.either constant types) ∈ fields → type ∈ types → t.Occurs type →
    t.Occurs (.variant fields isClosed name)
  | abbreviation {path type args fields isClosed} : type ∈ args → t.Occurs type →
    t.Occurs (.variant fields isClosed (some (.mk path args)))
  | quantified {body type vars} : type ∈ vars → t.Occurs type → t.Occurs (.poly body vars)
  | body {body vars} : t.Occurs body → t.Occurs (.poly body vars)
  | package {path names type types} : type ∈ types → t.Occurs type →
    t.Occurs (.package path names types)
  | aliased {type name} : t.Occurs type → t.Occurs (.alias type name)

/-- A type expression occurs in one of the given types. -/
def OccursIn (t : TypeExpr) (types : List TypeExpr) : Prop :=
  ∃ type ∈ types, t.Occurs type

variable {t : TypeExpr}

/-- The types are visited one after the other. -/
theorem nodesList_eq_flatMap (types : List TypeExpr) :
  nodesList types = types.flatMap TypeExpr.nodes
  := by
  induction types with
  | nil => rfl
  | cons type types ih => rw [nodesList, ih, List.flatMap_cons]

/-- What is visited in one of the types is visited in all of them. -/
theorem mem_nodesList_of_mem {type : TypeExpr} {types : List TypeExpr} (h : type ∈ types)
    (ht : t ∈ type.nodes) :
  t ∈ nodesList types
  := by
  rw [nodesList_eq_flatMap]
  apply List.mem_flatMap_of_mem h ht

/-- What is visited in the type of a method is visited in the methods. -/
theorem mem_nodesMethods_of_mem {name : String} {type : TypeExpr} {methods : List ObjectMethod}
    (h : .mk name type ∈ methods) (ht : t ∈ type.nodes) :
  t ∈ nodesMethods methods
  := by
  induction methods with
  | nil => cases h
  | cons m methods ih =>
    rcases m with ⟨name', type'⟩
    rw [nodesMethods, List.mem_append]
    rcases List.mem_cons.mp h with heq | h
    · cases heq
      left
      apply ht
    · right
      apply ih h

/-- The expressions in the arguments of a tag. -/
def RowField.nodes : RowField → List TypeExpr
  | .present (some type) => type.nodes
  | .present none => []
  | .either _ types => nodesList types
  | .absent => []

theorem nodesRow_cons (tag : String) (field : RowField) (entries : List RowEntry) :
  nodesRow (.mk tag field :: entries) = field.nodes ++ nodesRow entries
  := by
  rcases field with (_ | type) | ⟨constant, types⟩ | _
  · rfl
  · rfl
  · rfl
  · rfl

/-- What is visited in the arguments of a tag is visited in the variant. -/
theorem mem_nodesRow_of_mem {tag : String} {field : RowField} {entries : List RowEntry}
    (h : .mk tag field ∈ entries) (ht : t ∈ field.nodes) :
  t ∈ nodesRow entries
  := by
  induction entries with
  | nil => cases h
  | cons entry entries ih =>
    rcases entry with ⟨tag', field'⟩
    rw [nodesRow_cons, List.mem_append]
    rcases List.mem_cons.mp h with heq | h
    · cases heq
      left
      apply ht
    · right
      apply ih h

/-- A type expression is visited itself. -/
theorem TypeExpr.self_mem_nodes (type : TypeExpr) :
  type ∈ type.nodes
  := by
  cases type with
  | variant fields isClosed name =>
    rcases name with _ | ⟨path, args⟩ <;> apply List.mem_cons_self
  | _ => apply List.mem_cons_self

theorem mem_nodes_of_mem_nodesRow {fields : List RowEntry} {isClosed : Bool}
    {name : Option RowName} (ht : t ∈ nodesRow fields) :
  t ∈ (TypeExpr.variant fields isClosed name).nodes
  := by
  rcases name with _ | ⟨path, args⟩
  all_goals
    rw [TypeExpr.nodes]
    apply List.mem_cons_of_mem
    apply List.mem_append_left _ ht

/-- Every occurrence is visited. -/
theorem TypeExpr.Occurs.mem_nodes {type : TypeExpr} (h : t.Occurs type) :
  t ∈ type.nodes
  := by
  induction h with
  | self => apply t.self_mem_nodes
  | argument _ ih => apply List.mem_cons_of_mem _ (List.mem_append_left _ ih)
  | result _ ih => apply List.mem_cons_of_mem _ (List.mem_append_right _ ih)
  | component htype _ ih => apply List.mem_cons_of_mem _ (mem_nodesList_of_mem htype ih)
  | parameter htype _ ih => apply List.mem_cons_of_mem _ (mem_nodesList_of_mem htype ih)
  | method hmethod _ ih => apply List.mem_cons_of_mem _ (mem_nodesMethods_of_mem hmethod ih)
  | present hfield _ ih =>
    apply mem_nodes_of_mem_nodesRow
    apply mem_nodesRow_of_mem hfield ih
  | either hfield htype _ ih =>
    apply mem_nodes_of_mem_nodesRow
    apply mem_nodesRow_of_mem hfield (mem_nodesList_of_mem htype ih)
  | abbreviation htype _ ih =>
    rw [TypeExpr.nodes]
    apply List.mem_cons_of_mem
    apply List.mem_append_right
    apply mem_nodesList_of_mem htype ih
  | quantified htype _ ih =>
    apply List.mem_cons_of_mem
    apply List.mem_append_left
    apply mem_nodesList_of_mem htype ih
  | body _ ih => apply List.mem_cons_of_mem _ (List.mem_append_right _ ih)
  | package htype _ ih => apply List.mem_cons_of_mem _ (mem_nodesList_of_mem htype ih)
  | aliased _ ih => apply List.mem_cons_of_mem _ ih

namespace TypeExpr.Occurs

/-- What is visited is the visited expression itself or occurs in one of its parts. -/
theorem of_mem_cons {type : TypeExpr} {nodes : List TypeExpr} (h : t ∈ type :: nodes)
    (hparts : t ∈ nodes → t.Occurs type) :
  t.Occurs type
  := by
  rcases List.mem_cons.mp h with rfl | h
  · apply self
  · apply hparts h

end TypeExpr.Occurs

mutual

/-- What is visited occurs. -/
theorem TypeExpr.Occurs.of_mem_nodes :
  ∀ {type : TypeExpr}, t ∈ type.nodes → t.Occurs type
  | .var _ _, h => List.mem_singleton.mp h ▸ .self
  | .univar _ _, h => List.mem_singleton.mp h ▸ .self
  | .arrow _ _ _, h => by
    rw [TypeExpr.nodes] at h
    apply TypeExpr.Occurs.of_mem_cons h
    intro h
    rcases List.mem_append.mp h with h | h
    · apply TypeExpr.Occurs.argument (.of_mem_nodes h)
    · apply TypeExpr.Occurs.result (.of_mem_nodes h)
  | .tuple _, h => by
    rw [TypeExpr.nodes] at h
    apply TypeExpr.Occurs.of_mem_cons h
    intro h
    obtain ⟨type, htype, ht⟩ := occursIn_of_mem_nodesList h
    apply TypeExpr.Occurs.component htype ht
  | .constr _ _, h => by
    rw [TypeExpr.nodes] at h
    apply TypeExpr.Occurs.of_mem_cons h
    intro h
    obtain ⟨type, htype, ht⟩ := occursIn_of_mem_nodesList h
    apply TypeExpr.Occurs.parameter htype ht
  | .package _ _ _, h => by
    rw [TypeExpr.nodes] at h
    apply TypeExpr.Occurs.of_mem_cons h
    intro h
    obtain ⟨type, htype, ht⟩ := occursIn_of_mem_nodesList h
    apply TypeExpr.Occurs.package htype ht
  | .object _ _, h => by
    rw [TypeExpr.nodes] at h
    apply TypeExpr.Occurs.of_mem_cons h
    intro h
    obtain ⟨name, type, hmethod, ht⟩ := occurs_of_mem_nodesMethods h
    apply TypeExpr.Occurs.method hmethod ht
  | .variant fields _ none, h => by
    rw [TypeExpr.nodes, List.append_nil] at h
    apply TypeExpr.Occurs.of_mem_cons h
    intro h
    apply occurs_of_mem_nodesRow h (List.Subset.refl fields)
  | .variant fields _ (some (.mk _ _)), h => by
    rw [TypeExpr.nodes] at h
    apply TypeExpr.Occurs.of_mem_cons h
    intro h
    rcases List.mem_append.mp h with h | h
    · apply occurs_of_mem_nodesRow h (List.Subset.refl fields)
    · obtain ⟨type, htype, ht⟩ := occursIn_of_mem_nodesList h
      apply TypeExpr.Occurs.abbreviation htype ht
  | .poly _ _, h => by
    rw [TypeExpr.nodes] at h
    apply TypeExpr.Occurs.of_mem_cons h
    intro h
    rcases List.mem_append.mp h with h | h
    · obtain ⟨type, htype, ht⟩ := occursIn_of_mem_nodesList h
      apply TypeExpr.Occurs.quantified htype ht
    · apply TypeExpr.Occurs.body (.of_mem_nodes h)
  | .alias _ _, h => by
    rw [TypeExpr.nodes] at h
    apply TypeExpr.Occurs.of_mem_cons h
    intro h
    apply TypeExpr.Occurs.aliased (.of_mem_nodes h)

/-- What is visited in types occurs in one of them. -/
theorem occursIn_of_mem_nodesList :
  ∀ {types : List TypeExpr}, t ∈ nodesList types → OccursIn t types
  | [], h => by cases h
  | type :: types, h => by
    rcases List.mem_append.mp h with h | h
    · use type, List.mem_cons_self, .of_mem_nodes h
    · obtain ⟨type', htype, ht⟩ := occursIn_of_mem_nodesList h
      use type', List.mem_cons_of_mem type htype

/-- What is visited in methods occurs in the type of one of them. -/
theorem occurs_of_mem_nodesMethods :
  ∀ {methods : List ObjectMethod}, t ∈ nodesMethods methods →
    ∃ name type, .mk name type ∈ methods ∧ t.Occurs type
  | [], h => by cases h
  | .mk name type :: methods, h => by
    rcases List.mem_append.mp h with h | h
    · use name, type, List.mem_cons_self, .of_mem_nodes h
    · obtain ⟨name', type', hmethod, ht⟩ := occurs_of_mem_nodesMethods h
      use name', type', List.mem_cons_of_mem _ hmethod

/-- What is visited in some entries of a variant occurs in the variant. -/
theorem occurs_of_mem_nodesRow :
  ∀ {entries : List RowEntry}, t ∈ nodesRow entries → ∀ {fields : List RowEntry},
    entries ⊆ fields → ∀ {isClosed : Bool} {name : Option RowName},
      t.Occurs (.variant fields isClosed name)
  | [], h, _, _, _, _ => by cases h
  | .mk _ (.present (some _)) :: entries, h, _, hsub, _, _ => by
    rw [List.cons_subset] at hsub
    rcases List.mem_append.mp h with h | h
    · apply TypeExpr.Occurs.present hsub.1 (.of_mem_nodes h)
    · apply occurs_of_mem_nodesRow h hsub.2
  | .mk _ (.present none) :: entries, h, _, hsub, _, _ => by
    rw [nodesRow] at h
    apply occurs_of_mem_nodesRow h (List.cons_subset.mp hsub).2
  | .mk _ (.either _ _) :: entries, h, _, hsub, _, _ => by
    rw [List.cons_subset] at hsub
    rcases List.mem_append.mp h with h | h
    · obtain ⟨type, htype, ht⟩ := occursIn_of_mem_nodesList h
      apply TypeExpr.Occurs.either hsub.1 htype ht
    · apply occurs_of_mem_nodesRow h hsub.2
  | .mk _ .absent :: entries, h, _, hsub, _, _ => by
    rw [nodesRow] at h
    apply occurs_of_mem_nodesRow h (List.cons_subset.mp hsub).2

end

/-- The expressions that are visited in types are those that occur in them. -/
theorem mem_nodesList {types : List TypeExpr} :
  t ∈ nodesList types ↔ OccursIn t types
  := by
  constructor
  · apply occursIn_of_mem_nodesList
  · rintro ⟨type, htype, ht⟩
    apply mem_nodesList_of_mem htype ht.mem_nodes

end Compiled

namespace VarNames

open Compiled

/-! ### Letters -/

/-- A name is a letter, and from the second round on the number of the round. -/
theorem toList_letterName (n : Nat) :
  (letterName n).toList
    = Char.ofNat ('a'.toNat + n % 26) :: if n / 26 = 0 then [] else Nat.toDigits 10 (n / 26)
  := by
  rw [letterName]
  split
  · rw [String.toList_ofList]
  · rw [String.toList_append, String.toList_ofList, List.singleton_append,
      Nat.toString_eq_ofList_toDigits, String.toList_ofList]

theorem toNat_letter :
  ∀ i < 26, (Char.ofNat ('a'.toNat + i)).toNat = 'a'.toNat + i
  := by decide

/-- Numbers that are written alike are equal. -/
theorem toDigits_injective :
  Function.Injective (Nat.toDigits 10)
  := by
  intro m n h
  have hread := congrArg (fun cs => Nat.ofDigitChars 10 cs 0) h
  rwa [Nat.ofDigitChars_toDigits (by decide) (by decide),
    Nat.ofDigitChars_toDigits (by decide) (by decide)] at hread

/-- The letter tells the position in a round, and the number tells the round. -/
theorem letterName_injective :
  Function.Injective letterName
  := by
  intro m n h
  have hchars := congrArg String.toList h
  rw [toList_letterName, toList_letterName, List.cons.injEq] at hchars
  obtain ⟨hletter, hround⟩ := hchars
  have hmod : m % 26 = n % 26 := by
    have hnat := congrArg Char.toNat hletter
    rw [toNat_letter _ (Nat.mod_lt m (by decide)), toNat_letter _ (Nat.mod_lt n (by decide))]
      at hnat
    apply Nat.add_left_cancel hnat
  have hdiv : m / 26 = n / 26 := by
    by_cases hm : m / 26 = 0
    · by_cases hn : n / 26 = 0
      · rw [hm, hn]
      · rw [if_pos hm, if_neg hn] at hround
        apply absurd hround.symm Nat.toDigits_ne_nil
    · by_cases hn : n / 26 = 0
      · rw [if_neg hm, if_pos hn] at hround
        apply absurd hround Nat.toDigits_ne_nil
      · rw [if_neg hm, if_neg hn] at hround
        apply toDigits_injective hround
  rw [← Nat.div_add_mod m 26, ← Nat.div_add_mod n 26, hmod, hdiv]

example : [0, 1, 25, 26, 53].map letterName = ["a", "b", "z", "a1", "b2"] := by decide +kernel

/-- A letter has a greater number than the underscore. -/
theorem letterName_ne_fallback (n : Nat) :
  letterName n ≠ "_"
  := by
  intro h
  have hchars := congrArg String.toList h
  have hfallback : "_".toList = ['_'] := rfl
  rw [toList_letterName, hfallback] at hchars
  have hnat := congrArg Char.toNat (List.cons.inj hchars).1
  rw [toNat_letter _ (Nat.mod_lt n (by decide))] at hnat
  have hletter : 'a'.toNat = 97 := rfl
  have hunderscore : '_'.toNat = 95 := rfl
  omega

/-! ### Unused names -/

/-- The name with the given number is not used. -/
def Unused (used : List String) (n : Nat) : Prop :=
  letterName n ∉ used

instance (used : List String) : DecidablePred (Unused used) :=
  fun n => inferInstanceAs (Decidable (letterName n ∉ used))

theorem decide_unused (used : List String) (n : Nat) :
  decide (Unused used n) = !used.contains (letterName n)
  := by
  rw [Bool.eq_iff_iff, decide_eq_true_iff, Unused, Bool.not_eq_true', Bool.eq_false_iff, ne_eq,
    List.contains_iff_mem]

section

variable (used : List String)

/-- Only finitely many names are used. -/
theorem infinite_unused :
  (Set.ofPred (Unused used)).Infinite
  := by
  have hused : (Set.preimage letterName { name | name ∈ used }).Finite :=
    used.finite_toSet.preimage letterName_injective.injOn
  apply hused.infinite_compl

/-- The numbers below a bound with a property are the first numbers with the property. -/
theorem getElem?_filter_range (p : Nat → Prop) [DecidablePred p] {n k : Nat}
    (hk : k < Nat.count p n) :
  ((List.range n).filter fun m => p m)[k]? = some (Nat.nth p k)
  := by
  induction n with
  | zero => cases hk
  | succ n ih =>
    have hlength : ((List.range n).filter fun m => p m).length = Nat.count p n :=
      List.countP_eq_length_filter.symm
    rw [List.range_succ, List.filter_append]
    by_cases hlt : k < Nat.count p n
    · rw [List.getElem?_append_left (hlength ▸ hlt), ih hlt]
    · rw [Nat.count_succ] at hk
      by_cases hp : p n
      · rw [if_pos hp] at hk
        obtain rfl : k = Nat.count p n := by omega
        have hn : [n].filter (fun m => p m) = [n] := List.filter_cons_of_pos (decide_eq_true hp)
        rw [hn, Nat.nth_count hp, ← hlength, List.getElem?_concat_length]
      · rw [if_neg hp] at hk
        contradiction

/-- The unused names are the names of the unused numbers below a bound. -/
theorem unusedNames_eq (n : Nat) :
  unusedNames used n
    = ((List.range (used.length + n)).filter fun m => Unused used m).map letterName
  := by
  rw [unusedNames, List.filter_map]
  congr 2
  funext m
  apply (decide_unused used m).symm

/-- Every used name takes away at most one. -/
theorem le_count_unused (n : Nat) :
  n ≤ Nat.count (Unused used) (used.length + n)
  := by
  let numbers := List.range (used.length + n)
  -- The numbers that are taken away have different names, and all of these are used.
  have htaken : (numbers.filter fun m => !decide (Unused used m)).length ≤ used.length := by
    rw [← List.length_map letterName]
    apply List.Subperm.length_le
    apply List.subperm_of_subset
    · apply List.Nodup.map letterName_injective
      apply List.Nodup.filter _ List.nodup_range
    · intro name hname
      obtain ⟨m, hm, rfl⟩ := List.mem_map.mp hname
      have hcontains := (List.mem_filter.mp hm).2
      rw [decide_unused, Bool.not_not] at hcontains
      apply List.contains_iff_mem.mp hcontains
  have hsplit := List.length_eq_length_filter_add (l := numbers) fun m => decide (Unused used m)
  have hcount : Nat.count (Unused used) (used.length + n)
      = (numbers.filter fun m => decide (Unused used m)).length :=
    List.countP_eq_length_filter
  rw [List.length_range] at hsplit
  omega

/-- The listed names begin with those of the first unused numbers. -/
theorem getElem?_unusedNames {n k : Nat} (hk : k < n) :
  (unusedNames used n)[k]? = some (letterName (Nat.nth (Unused used) k))
  := by
  have hcount := Nat.lt_of_lt_of_le hk (le_count_unused used n)
  rw [unusedNames_eq, List.getElem?_map, getElem?_filter_range _ hcount, Option.map_some]

end

/-! ### Variables -/

/-- The explicit name of a variable, if it has one, and its id. -/
abbrev Variable : Type :=
  Option String × Int32

/-- The variable that an expression is, if it is one. -/
def asVariable : TypeExpr → Option Variable
  | .var name id => some (name, id)
  | .univar name id => some (name, id)
  | _ => none

/-- Variables are the same if they have the same explicit name, or if they are anonymous and have
the same id. -/
def SameVariable : Variable → Variable → Prop
  | (some name, _), (some name', _) => name = name'
  | (none, id), (none, id') => id = id'
  | _, _ => False

/-- The name that is printed for a variable. -/
def print (names : VarNames) (v : Variable) : String :=
  names.name v.1 v.2

/-- The name is the explicit name of a variable in the types, or the name of an alias in them. -/
def IsUsed (types : List TypeExpr) (name : String) : Prop :=
  ∃ t, OccursIn t types ∧
    ((∃ id, asVariable t = some (some name, id)) ∨ ∃ type, t = .alias type name)

/-- The anonymous variables are the variables without a name. -/
theorem anonymousId_eq_some {t : TypeExpr} {id : Int32} :
  anonymousId t = some id ↔ asVariable t = some (none, id)
  := by
  cases t with
  | var name id' => cases name <;> simp [anonymousId, asVariable]
  | univar name id' => cases name <;> simp [anonymousId, asVariable]
  | _ => simp [anonymousId, asVariable]

/-- The used names are those of named variables and of aliases. -/
theorem usedName_eq_some {t : TypeExpr} {name : String} :
  usedName t = some name ↔
    (∃ id, asVariable t = some (some name, id)) ∨ ∃ type, t = .alias type name
  := by
  cases t <;> simp [usedName, asVariable]

/-! ### Ids without repetitions -/

theorem mem_distinct {id : Int32} {ids : List Int32} :
  id ∈ distinct ids ↔ id ∈ ids
  := by
  induction ids with
  | nil => rfl
  | cons id' ids ih =>
    rw [distinct, List.mem_cons, List.mem_cons, List.mem_filter, decide_eq_true_iff, ih]
    constructor
    · rintro (rfl | ⟨hid, -⟩)
      · left
        rfl
      · right
        apply hid
    · intro h
      by_cases heq : id = id'
      · left
        apply heq
      · right
        use h.resolve_left heq

/-- No id is listed twice. -/
theorem nodup_distinct (ids : List Int32) :
  (distinct ids).Nodup
  := by
  induction ids with
  | nil => apply List.nodup_nil
  | cons id ids ih =>
    rw [distinct, List.nodup_cons]
    constructor
    · intro h
      apply of_decide_eq_true (List.mem_filter.mp h).2 rfl
    · apply ih.filter

/-- As many ids are listed as there are. -/
theorem length_distinct (ids : List Int32) :
  (distinct ids).length = Set.ncard { id | id ∈ ids }
  := by
  have hset : { id | id ∈ ids } = ((distinct ids).toFinset : Set Int32) := by
    ext id
    simp [mem_distinct]
  rw [hset, Set.ncard_coe_finset, List.toFinset_card_of_nodup (nodup_distinct ids)]

/-- What comes behind does not change the ids in front. -/
theorem distinct_prefix (front back : List Int32) :
  distinct front <+: distinct (front ++ back)
  := by
  induction front with
  | nil => apply List.nil_prefix
  | cons id front ih =>
    rw [List.cons_append, distinct, distinct, List.prefix_cons_inj]
    apply ih.filter

/-- A new id is listed behind the others. -/
theorem distinct_concat {id : Int32} {ids : List Int32} (h : id ∉ ids) :
  distinct (ids ++ [id]) = distinct ids ++ [id]
  := by
  induction ids with
  | nil => rfl
  | cons id' ids ih =>
    rw [List.mem_cons, not_or] at h
    have hkeep : [id].filter (fun i => decide (i ≠ id')) = [id] :=
      List.filter_cons_of_pos (decide_eq_true h.1)
    rw [List.cons_append, distinct, ih h.2, List.filter_append, hkeep, distinct, List.cons_append]

/-- The place of an id is the number of ids in front of its first occurrence. -/
theorem getElem?_distinct {id : Int32} {front : List Int32} (h : id ∉ front)
    (back : List Int32) :
  (distinct (front ++ id :: back))[(distinct front).length]? = some id
  := by
  obtain ⟨rest, hrest⟩ := distinct_prefix (front ++ [id]) back
  rw [List.append_cons, ← hrest, distinct_concat h, List.append_assoc, List.singleton_append,
    List.getElem?_append_right (Nat.le_refl _), Nat.sub_self, List.getElem?_cons_zero]

/-! ### Collected variables -/

variable {types : List TypeExpr}

/-- An id is collected exactly when an anonymous variable with the id occurs in the types. -/
theorem mem_anonymousIds {id : Int32} :
  id ∈ anonymousIds types ↔ ∃ t, OccursIn t types ∧ asVariable t = some (none, id)
  := by
  rw [anonymousIds, mem_distinct, List.mem_filterMap]
  simp only [mem_nodesList, anonymousId_eq_some]

/-- The used names are those that occur in the types. -/
theorem mem_usedNames {name : String} :
  name ∈ usedNames types ↔ IsUsed types name
  := by
  rw [usedNames, List.mem_filterMap]
  simp only [mem_nodesList, usedName_eq_some]
  rfl

theorem unused_usedNames (types : List TypeExpr) :
  Unused (usedNames types) = fun n => ¬ IsUsed types (letterName n)
  := by
  funext n
  rw [Unused, mem_usedNames]

/-- The name at the place of an id is found for it if the ids are different. -/
theorem lookup_zip {ids : List Int32} (hids : ids.Nodup) {names : List String} {k : Nat}
    {id : Int32} {name : String} (hid : ids[k]? = some id) (hname : names[k]? = some name) :
  (ids.zip names).lookup id = some name
  := by
  induction ids generalizing names k with
  | nil => cases hid
  | cons id' ids ih =>
    rw [List.nodup_cons] at hids
    cases names with
    | nil => cases hname
    | cons name' names =>
      rw [List.zip_cons_cons]
      cases k with
      | zero =>
        cases hid
        cases hname
        apply List.lookup_cons_self
      | succ k =>
        have hne : (id == id') = false := by
          rw [beq_eq_false_iff_ne]
          rintro rfl
          apply hids.1 (List.mem_of_getElem? hid)
        rw [List.lookup_cons, hne]
        apply ih hids.2 hid hname

/-- The `k`-th anonymous variable has the `k`-th unused name. -/
theorem lookup_collect {k : Nat} {id : Int32} (hid : (anonymousIds types)[k]? = some id) :
  (collect types).names.lookup id
    = some (letterName (Nat.nth (Unused (usedNames types)) k))
  := by
  have hk : k < (anonymousIds types).length := (List.getElem?_eq_some_iff.mp hid).1
  apply lookup_zip (nodup_distinct _) hid
  apply getElem?_unusedNames _ hk

/-- An anonymous variable has the unused name whose number is that of the anonymous variables in
front of its first visit. -/
theorem lookup_of_first {front back : List TypeExpr} {t : TypeExpr} {id : Int32}
    (hvisit : nodesList types = front ++ t :: back) (ht : asVariable t = some (none, id))
    (hfirst : ∀ u ∈ front, asVariable u ≠ some (none, id)) :
  (collect types).names.lookup id
    = some (letterName (Nat.nth (Unused (usedNames types))
        (Set.ncard { i | ∃ u ∈ front, asVariable u = some (none, i) })))
  := by
  have hset : { i | ∃ u ∈ front, asVariable u = some (none, i) }
      = { i | i ∈ front.filterMap anonymousId } := by
    ext i
    simp only [Set.mem_ofPred_eq, List.mem_filterMap, anonymousId_eq_some]
  have hfront : id ∉ front.filterMap anonymousId := by
    intro h
    obtain ⟨u, hu, hid⟩ := List.mem_filterMap.mp h
    apply hfirst u hu (anonymousId_eq_some.mp hid)
  have hids : (nodesList types).filterMap anonymousId
      = front.filterMap anonymousId ++ id :: back.filterMap anonymousId := by
    rw [hvisit, List.filterMap_append,
      List.filterMap_cons_some (anonymousId_eq_some.mpr ht)]
  rw [hset, ← length_distinct]
  apply lookup_collect
  rw [anonymousIds, hids]
  apply getElem?_distinct hfront

/-- The name of an anonymous variable that was collected. -/
theorem exists_name {id : Int32} (hid : id ∈ anonymousIds types) :
  ∃ k, (anonymousIds types)[k]? = some id ∧
    (collect types).name none id = letterName (Nat.nth (Unused (usedNames types)) k)
  := by
  obtain ⟨k, hk⟩ := List.mem_iff_getElem?.mp hid
  use k, hk
  rw [name, lookup_collect hk, Option.getD_some]

/-- The name of an anonymous variable is not used otherwise. -/
theorem name_notMem_usedNames {id : Int32} (hid : id ∈ anonymousIds types) :
  (collect types).name none id ∉ usedNames types
  := by
  obtain ⟨k, -, hname⟩ := exists_name hid
  rw [hname]
  apply Nat.nth_mem_of_infinite (infinite_unused (usedNames types)) k

/-- Different anonymous variables have different names. -/
theorem name_injOn {id id' : Int32} (hid : id ∈ anonymousIds types)
    (hid' : id' ∈ anonymousIds types)
    (h : (collect types).name none id = (collect types).name none id') :
  id = id'
  := by
  obtain ⟨k, hk, hname⟩ := exists_name hid
  obtain ⟨k', hk', hname'⟩ := exists_name hid'
  rw [hname, hname'] at h
  obtain rfl : k = k' := Nat.nth_injective (infinite_unused _) (letterName_injective h)
  apply Option.some.inj (hk.symm.trans hk')

/-- Variables that occur in the types have the same name exactly if they are the same. -/
theorem print_eq_print_iff {u v : TypeExpr} (hu : OccursIn u types) (hv : OccursIn v types)
    {x y : Variable} (hx : asVariable u = some x) (hy : asVariable v = some y) :
  (collect types).print x = (collect types).print y ↔ SameVariable x y
  := by
  rcases x with ⟨_ | name, id⟩
  · have hid := mem_anonymousIds.mpr ⟨u, hu, hx⟩
    rcases y with ⟨_ | name', id'⟩
    · have hid' := mem_anonymousIds.mpr ⟨v, hv, hy⟩
      constructor
      · apply name_injOn hid hid'
      · rintro rfl
        rfl
    · have hused : name' ∈ usedNames types := mem_usedNames.mpr ⟨v, hv, .inl ⟨id', hy⟩⟩
      constructor
      · intro (h : (collect types).name none id = name')
        apply name_notMem_usedNames hid (h ▸ hused)
      · intro h
        cases h
  · have hused : name ∈ usedNames types := mem_usedNames.mpr ⟨u, hu, .inl ⟨id, hx⟩⟩
    rcases y with ⟨_ | name', id'⟩
    · have hid' := mem_anonymousIds.mpr ⟨v, hv, hy⟩
      constructor
      · intro (h : name = (collect types).name none id')
        apply name_notMem_usedNames hid' (h ▸ hused)
      · intro h
        cases h
    · rfl

end VarNames

end InterfaceDocs
