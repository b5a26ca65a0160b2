import InterfaceDocs.Scope.Binding
import Mathlib.Data.List.Nodup
import Mathlib.Tactic.Use

/-!
# Components of a signature

A component is what an item of a signature declares under a name in a namespace: a type, a
module, a module type, a class or a class type.  It may have several compiler identifiers, and
it is exposed unless it is the local name of a substitution.  Binding a signature under a parent
adds a binding for each identifier of each of its components, and the exposed components become
members (`Scope.bindWrittenItems_declares`).  If the identifiers have different stamps, each of
them is found in the bound scope (`Scope.Adds.find?_of_mem`).
-/

namespace InterfaceDocs

/-- What an item of a signature declares, with its identifiers in the order in which they are
bound. -/
structure Component where
  space : Namespace
  name : String
  idents : List Ident
  exposed : Bool

namespace Component

/-- The documentation identifier of a component of the signature that `parent` owns. -/
def id (parent : Identifier) (c : Component) : Identifier :=
  parent.child c.space.kind c.name

/-- The key of the member that a component gives, if it is exposed. -/
def key? (c : Component) : Option (Namespace × String) :=
  if c.exposed then some (c.space, c.name) else none

/-- The identifiers of a component with what they denote. -/
def entries (parent : Identifier) (c : Component) : List (Ident × Identifier) :=
  c.idents.map fun x => (x, c.id parent)

/-- The exposed component in a namespace that has the name of its identifier, which is bound
after its companions. -/
def ofIdent (space : Namespace) (x : Ident) (companions : List Ident) : Component :=
  ⟨space, x.name, companions ++ [x], true⟩

/-- The component of a substitution, which is not exposed. -/
def hidden (space : Namespace) (x : Ident) : Component :=
  ⟨space, x.name, [x], false⟩

end Component

/-- The components that an item of a compiled signature declares. -/
def Compiled.SignatureItem.components : Compiled.SignatureItem → List Component
  | .value _ _ => []
  | .extension _ _ _ => []
  | .type x _ _ => [.ofIdent .type x []]
  | .module x _ _ => [.ofIdent .module x []]
  | .moduleType x _ => [.ofIdent .moduleType x []]
  | .class x d _ => [.ofIdent .classDef x (d.classTypeIdent.toList ++ d.objectIdent.toList)]
  | .classType x d _ => [.ofIdent .classType x d.objectIdent.toList]

/-- The components that an item of a written signature declares; those of an include are the
components of its content. -/
def Written.SignatureItem.components : Written.SignatureItem → List Component
  | .value _ _ => []
  | .type _ _ ds => ds.map fun d => .ofIdent .type d.ident []
  | .typeSubst _ ds => ds.map fun d => .hidden .type d.ident
  | .extension _ _ => []
  | .exception _ _ => []
  | .module _ d => [.ofIdent .module d.ident []]
  | .moduleSubst _ d => [.hidden .module d.ident]
  | .recModule _ ds => ds.map fun d => .ofIdent .module d.ident []
  | .moduleType _ d => [.ofIdent .moduleType d.ident []]
  | .opened _ _ => []
  | .included _ d => d.content.flatMap Compiled.SignatureItem.components
  | .class _ ds => ds.map fun d =>
    ⟨.classDef, d.classIdent.name, [d.classIdent, d.classTypeIdent, d.objectIdent], true⟩
  | .classType _ ds => ds.map fun d =>
    ⟨.classType, d.classTypeIdent.name, [d.classTypeIdent, d.objectIdent], true⟩
  | .floating _ _ => []

/-- The stamps of the identifiers that the items of a signature bind. -/
def Written.boundStamps (items : List Written.SignatureItem) : List Int32 :=
  ((items.flatMap Written.SignatureItem.components).flatMap Component.idents).map Ident.stamp

/-- The stamps of items are listed item by item. -/
theorem Written.boundStamps_append (items others : List Written.SignatureItem) :
  boundStamps (items ++ others) = boundStamps items ++ boundStamps others
  := by
  rw [boundStamps, List.flatMap_append, List.flatMap_append, List.map_append]
  rfl

/-- The stamps of the entries of the components of a signature. -/
theorem Written.map_stamp_entries (parent : Identifier) (items : List Written.SignatureItem) :
  ((items.flatMap Written.SignatureItem.components).flatMap (Component.entries parent)).map
      (fun e => e.1.stamp)
    = boundStamps items
  := by
  rw [boundStamps, List.map_flatMap, List.map_flatMap]
  congr 1
  funext c
  rw [Component.entries, List.map_map]
  rfl

/-! ### Added bindings -/

namespace Ident

variable {x y : Ident}

/-- Identifiers that are the same have the same stamp. -/
theorem stamp_eq_of_same (h : y.same x) :
  y.stamp = x.stamp
  := by
  unfold Ident.same at h
  split at h
  · apply eq_of_beq h
  · rename_i hzero
    obtain ⟨hx, -⟩ := Bool.and_eq_true_iff.mp h
    rw [eq_of_beq hx, not_ne_iff.mp hzero]

theorem same_self (x : Ident) :
  x.same x
  := by
  by_cases hzero : x.stamp = 0
  · simp [Ident.same, hzero]
  · simp [Ident.same, hzero]

end Ident

/-- The second scope has bindings for the entries in front of those of the first one, the last
entry first. -/
def Scope.Adds (scope : Scope) (entries : List (Ident × Identifier)) (scope' : Scope) : Prop :=
  ∃ added : List Binding, scope'.bindings = added ++ scope.bindings ∧
    added.map (fun b => (b.ident, b.id)) = entries.reverse

namespace Scope.Adds

variable {scope scope' scope'' : Scope} {entries others : List (Ident × Identifier)} {x : Ident}

theorem refl (scope : Scope) :
  scope.Adds [] scope
  := ⟨[], rfl, rfl⟩

/-- Bindings are added one after the other. -/
theorem trans (h : scope.Adds entries scope') (h' : scope'.Adds others scope'') :
  scope.Adds (entries ++ others) scope''
  := by
  obtain ⟨added, hadded, hentries⟩ := h
  obtain ⟨added', hadded', hothers⟩ := h'
  use added' ++ added
  constructor
  · rw [hadded', hadded, List.append_assoc]
  · rw [List.map_append, hentries, hothers, List.reverse_append]

theorem add (scope : Scope) (x : Ident) (id : Identifier) (shape : Shape) :
  scope.Adds [(x, id)] (scope.add x id shape)
  := ⟨[⟨x, id, shape⟩], rfl, rfl⟩

/-- What is added with other stamps does not change what is found. -/
theorem find?_of_stamps_ne (h : scope.Adds entries scope')
    (hstamps : ∀ e ∈ entries, e.1.stamp ≠ x.stamp) :
  scope'.find? x = scope.find? x
  := by
  obtain ⟨added, hadded, hentries⟩ := h
  have hnone : added.find? (fun b => b.ident.same x) = none := by
    rw [List.find?_eq_none]
    intro b hb hsame
    have hmem : (b.ident, b.id) ∈ entries := by
      rw [← List.mem_reverse, ← hentries]
      apply List.mem_map_of_mem hb
    apply hstamps _ hmem (Ident.stamp_eq_of_same hsame)
  rw [Scope.find?, hadded, List.find?_append, hnone, Option.none_or, Scope.find?]

/-- Bindings for entries with different stamps have different stamps. -/
theorem nodup_stamps {added : List Binding}
    (hentries : added.map (fun b => (b.ident, b.id)) = entries.reverse)
    (hstamps : (entries.map fun e => e.1.stamp).Nodup) :
  (added.map fun b => b.ident.stamp).Nodup
  := by
  have hmap := congrArg (List.map fun e => e.1.stamp) hentries
  rw [List.map_map, List.map_reverse] at hmap
  exact hmap ▸ List.nodup_reverse.mpr hstamps

/-- A binding that was added with a stamp of its own is found. -/
theorem find?_of_mem_added {added : List Binding} {b : Binding}
    (hadded : scope'.bindings = added ++ scope.bindings)
    (hstamps : (added.map fun b => b.ident.stamp).Nodup) (hb : b ∈ added) :
  scope'.find? b.ident = some b
  := by
  have hfind : added.find? (fun c => c.ident.same b.ident) = some b := by
    cases hfound : added.find? (fun c => c.ident.same b.ident) with
    | none =>
      rw [List.find?_eq_none] at hfound
      exact absurd (Ident.same_self b.ident) (hfound b hb)
    | some c =>
      have hsame : c.ident.same b.ident :=
        List.find?_some (p := fun c : Binding => c.ident.same b.ident) hfound
      have hc := List.mem_of_find?_eq_some hfound
      rw [List.inj_on_of_nodup_map hstamps hc hb (Ident.stamp_eq_of_same hsame)]
  rw [Scope.find?, hadded, List.find?_append, hfind, Option.some_or]

/-- Among entries with different stamps each identifier is found. -/
theorem find?_of_mem (h : scope.Adds entries scope')
    (hstamps : (entries.map fun e => e.1.stamp).Nodup) {id : Identifier}
    (hmem : (x, id) ∈ entries) :
  (scope'.find? x).map Binding.id = some id
  := by
  obtain ⟨added, hadded, hentries⟩ := h
  have hmem' : (x, id) ∈ added.map fun b => (b.ident, b.id) := by
    rw [hentries]
    apply List.mem_reverse.mpr hmem
  obtain ⟨b, hb, heq⟩ := List.mem_map.mp hmem'
  cases heq
  rw [find?_of_mem_added hadded (nodup_stamps hentries hstamps) hb, Option.map_some]

end Scope.Adds

/-! ### Exposed members -/

namespace Member

/-- First occurrences may be taken of the second part of a list before they are taken of the
whole list. -/
theorem eraseDups_append_eraseDups {α : Type} [BEq α] [LawfulBEq α] :
  ∀ as bs : List α, (as ++ bs.eraseDups).eraseDups = (as ++ bs).eraseDups
  | as, [] => rfl
  | as, b :: bs => by
    have hfilter : (bs.filter fun c => !c == b).removeAll (as ++ [b])
        = bs.removeAll (as ++ [b]) := by
      rw [List.removeAll, List.filter_filter, List.removeAll]
      apply List.filter_congr
      intro c _
      by_cases hc : c = b
      · simp [hc]
      · simp [hc]
    rw [List.eraseDups_cons, List.append_cons,
      eraseDups_append_eraseDups (as ++ [b]) (bs.filter fun c => !c == b),
      List.eraseDups_append, hfilter, ← List.eraseDups_append, ← List.append_cons]
termination_by _ bs => bs.length
decreasing_by exact Nat.lt_succ_of_le (List.length_filter_le _ _)

/-- The keys after a member is added: a new key comes last, and a present one keeps its
place. -/
theorem keys_insert (m : Member) (members : List Member) :
  (insert m members).map key
    = if m.key ∈ members.map key then members.map key else members.map key ++ [m.key]
  := by
  induction members with
  | nil => rfl
  | cons n members ih =>
    rw [insert]
    by_cases hkey : n.key = m.key
    · simp [hkey]
    · rw [if_neg hkey, List.map_cons, ih]
      by_cases hmem : m.key ∈ members.map key
      · rw [if_pos hmem, List.map_cons, if_pos (List.mem_cons_of_mem _ hmem)]
      · have hnot : m.key ∉ n.key :: members.map key := by
          rw [List.mem_cons, not_or]
          use fun h => hkey h.symm, hmem
        rw [if_neg hmem, List.map_cons, if_neg hnot, List.cons_append]

/-- Adding a member to members whose keys are the first occurrences in a list. -/
theorem keys_insert_of_eq {members : List Member} {keys : List (Namespace × String)}
    (h : members.map key = keys.eraseDups) (m : Member) :
  (insert m members).map key = (keys ++ [m.key]).eraseDups
  := by
  rw [keys_insert, h, List.eraseDups_append]
  by_cases hmem : m.key ∈ keys
  · rw [if_pos (List.mem_eraseDups.mpr hmem)]
    simp [List.removeAll, hmem]
  · rw [if_neg (fun h => hmem (List.mem_eraseDups.mp h))]
    simp [List.removeAll, hmem, List.eraseDups_cons]

/-- Inserting members keeps the keys in the order of their first insertion. -/
theorem keys_insertAll_of_eq {members : List Member} {keys : List (Namespace × String)}
    (h : members.map key = keys.eraseDups) (ms : List Member) :
  (insertAll members ms).map key = (keys ++ ms.map key).eraseDups
  := by
  induction ms generalizing members keys with
  | nil => rw [List.map_nil, List.append_nil, ← h, insertAll, List.foldl_nil]
  | cons m ms ih =>
    rw [List.map_cons, List.append_cons]
    apply ih (keys_insert_of_eq h m)

end Member

/-! ### Declared components -/

/-- Binding the components of a signature that `parent` owns leads from one scope with members to
another. -/
structure Bound.Declares (parent : Identifier) (b : Bound) (components : List Component)
    (b' : Bound) : Prop where
  scope : b.scope.Adds (components.flatMap (Component.entries parent)) b'.scope
  members : ∀ keys, b.members.map Member.key = keys.eraseDups →
    b'.members.map Member.key = (keys ++ components.filterMap Component.key?).eraseDups

namespace Bound

variable {parent : Identifier} {b b' b'' : Bound} {components others : List Component}

theorem Declares.refl (parent : Identifier) (b : Bound) :
  b.Declares parent [] b
  where
  scope := .refl b.scope
  members keys hkeys := by rw [hkeys, List.filterMap_nil, List.append_nil]

/-- Components are declared one after the other. -/
theorem Declares.trans (h : b.Declares parent components b')
    (h' : b'.Declares parent others b'') :
  b.Declares parent (components ++ others) b''
  where
  scope := by
    rw [List.flatMap_append]
    apply h.scope.trans h'.scope
  members keys hkeys := by
    rw [List.filterMap_append, ← List.append_assoc]
    apply h'.members _ (h.members keys hkeys)

/-- Binding identifiers that are no members leaves the members as they are. -/
theorem members_hideAll (b : Bound) (xs : List Ident) (id : Identifier) :
  (b.hideAll xs id).members = b.members
  := by
  induction xs generalizing b with
  | nil => rfl
  | cons x xs ih => apply ih (b.hide x id .unknown)

/-- Binding identifiers of one entity adds a binding for each of them. -/
theorem hideAll_adds (b : Bound) (xs : List Ident) (id : Identifier) :
  b.scope.Adds (xs.map fun x => (x, id)) (b.hideAll xs id).scope
  := by
  induction xs generalizing b with
  | nil => exact .refl b.scope
  | cons x xs ih =>
    exact (Scope.Adds.add b.scope x id .unknown).trans (ih (b.hide x id .unknown))

/-- A hidden component. -/
theorem hide_declares (parent : Identifier) (b : Bound) (space : Namespace) (x : Ident)
    (shape : Shape) :
  b.Declares parent [.hidden space x] (b.hide x (parent.child space.kind x.name) shape)
  where
  scope := .add b.scope x (parent.child space.kind x.name) shape
  members keys hkeys := by
    have hkey : [Component.hidden space x].filterMap Component.key? = [] := rfl
    rw [hkey, List.append_nil]
    apply hkeys

/-- An exposed component of whose identifiers nothing is known. -/
theorem hideAll_expose_declares (parent : Identifier) (b : Bound) (space : Namespace)
    (name : String) (xs : List Ident) :
  b.Declares parent [⟨space, name, xs, true⟩]
    ((b.hideAll xs (parent.child space.kind name)).expose space name .unknown)
  where
  scope := by
    rw [List.flatMap_singleton]
    apply b.hideAll_adds xs (parent.child space.kind name)
  members keys hkeys := by
    rw [← b.members_hideAll xs (parent.child space.kind name)] at hkeys
    apply Member.keys_insert_of_eq hkeys (.mk space name .unknown)

/-- An exposed component with its companions. -/
theorem declare_declares (parent : Identifier) (b : Bound) (space : Namespace) (x : Ident)
    (companions : List Ident) (shape : Shape) :
  b.Declares parent [.ofIdent space x companions]
    (b.declare parent space x companions shape)
  where
  scope := by
    rw [List.flatMap_singleton, Component.entries, Component.ofIdent, List.map_append]
    exact (b.hideAll_adds companions (parent.child space.kind x.name)).trans
      (.add _ x (parent.child space.kind x.name) shape)
  members keys hkeys := by
    rw [← b.members_hideAll companions (parent.child space.kind x.name)] at hkeys
    apply Member.keys_insert_of_eq hkeys (.mk space x.name shape)

end Bound

/-! ### Runs of declarations -/

/-- A relation between what is bound before components are declared under `parent` and what is
bound after that, which holds for each way to declare a component and can be composed. -/
structure Bound.Compositional (parent : Identifier)
    (R : Bound → List Component → Bound → Prop) : Prop where
  refl : ∀ b, R b [] b
  trans : ∀ {b b' b'' components others}, R b components b' → R b' others b'' →
    R b (components ++ others) b''
  hide : ∀ b space x shape,
    R b [.hidden space x] (b.hide x (parent.child space.kind x.name) shape)
  expose : ∀ b space name x xs, R b [⟨space, name, x :: xs, true⟩]
    ((b.hideAll (x :: xs) (parent.child space.kind name)).expose space name .unknown)
  declare : ∀ b space x companions shape, R b [.ofIdent space x companions]
    (b.declare parent space x companions shape)
  included : ∀ {b components content}, R ⟨b.scope, []⟩ components content →
    R b components ⟨content.scope, Member.insertAll b.members content.members⟩

namespace Bound.Compositional

open Scope

variable {parent : Identifier} {R : Bound → List Component → Bound → Prop}

/-- The relation holds along a fold if it holds for its steps. -/
theorem foldl (h : Compositional parent R) {α : Type} {f : Bound → α → Bound}
    {g : α → Component} (hf : ∀ (b : Bound) (a : α), R b [g a] (f b a)) (as : List α)
    (b : Bound) :
  R b (as.map g) (as.foldl f b)
  := by
  induction as generalizing b with
  | nil => apply h.refl b
  | cons a as ih => apply h.trans (hf b a) (ih (f b a))

/-- What is compositional holds of a compiled item and its components. -/
theorem bindCompiledItem (h : Compositional parent R) (b : Bound) :
  ∀ item : Compiled.SignatureItem, R b item.components (bindCompiledItem parent b item)
  | .value _ _ => h.refl b
  | .extension _ _ _ => h.refl b
  | .type x _ _ => h.declare b .type x [] _
  | .module x ⟨_, _, _⟩ _ => h.declare b .module x [] _
  | .moduleType x ⟨some _, _, _⟩ => h.declare b .moduleType x [] _
  | .moduleType x ⟨none, _, _⟩ => h.declare b .moduleType x [] _
  | .class x _ _ => h.declare b .classDef x _ _
  | .classType x _ _ => h.declare b .classType x _ _

/-- What is compositional holds of compiled items and their components. -/
theorem bindCompiledItems (h : Compositional parent R) (b : Bound)
    (items : List Compiled.SignatureItem) :
  R b (items.flatMap Compiled.SignatureItem.components) (bindCompiledItems parent b items)
  := by
  induction items generalizing b with
  | nil => apply h.refl b
  | cons item items ih =>
    rw [List.flatMap_cons, Scope.bindCompiledItems]
    apply h.trans (h.bindCompiledItem b item) (ih _)

/-- What is compositional holds of a group of modules. -/
theorem bindWrittenModules (h : Compositional parent R) (group : Scope) (b : Bound)
    (ds : List Written.ModuleDeclaration) :
  R b (ds.map fun d => .ofIdent .module d.ident []) (bindWrittenModules parent group b ds)
  := by
  induction ds generalizing b with
  | nil => apply h.refl b
  | cons d ds ih =>
    rcases d with ⟨x, type, attributes, loc⟩
    apply h.trans (h.declare b .module x [] _) (ih _)

/-- What is compositional holds of a written item and its components. -/
theorem bindWrittenItem (h : Compositional parent R) (b : Bound) :
  ∀ item : Written.SignatureItem, R b item.components (bindWrittenItem parent b item)
  | .value _ _ => h.refl b
  | .type _ _ ds => h.foldl (fun b d => h.declare b .type d.ident [] .unknown) ds b
  | .typeSubst _ ds => h.foldl (fun b d => h.hide b .type d.ident .unknown) ds b
  | .extension _ _ => h.refl b
  | .exception _ _ => h.refl b
  | .module _ ⟨x, _, _, _⟩ => h.declare b .module x [] _
  | .moduleSubst _ d => h.hide b .module d.ident _
  | .recModule _ ds => h.bindWrittenModules _ b ds
  | .moduleType _ ⟨x, some _, _, _⟩ => h.declare b .moduleType x [] _
  | .moduleType _ ⟨x, none, _, _⟩ => h.declare b .moduleType x [] _
  | .opened _ _ => h.refl b
  | .included _ ⟨_, content, _, _⟩ => h.included (h.bindCompiledItems ⟨b.scope, []⟩ content)
  | .class _ ds => h.foldl (fun b d => h.expose b .classDef d.classIdent.name _ _) ds b
  | .classType _ ds =>
    h.foldl (fun b d => h.expose b .classType d.classTypeIdent.name _ _) ds b
  | .floating _ _ => h.refl b

/-- The relation holds for the items of a signature and the components that they declare. -/
theorem bindWrittenItems (h : Compositional parent R) (b : Bound)
    (items : List Written.SignatureItem) :
  R b (items.flatMap Written.SignatureItem.components) (bindWrittenItems parent b items)
  := by
  induction items generalizing b with
  | nil => apply h.refl b
  | cons item items ih =>
    rw [List.flatMap_cons, Scope.bindWrittenItems]
    apply h.trans (h.bindWrittenItem b item) (ih _)

end Bound.Compositional

/-- Declarations compose: the members of an include join those of the signature. -/
theorem Bound.declares_compositional (parent : Identifier) :
  Bound.Compositional parent (Bound.Declares parent)
  where
  refl := .refl parent
  trans := .trans
  hide := hide_declares parent
  expose b space name x xs := hideAll_expose_declares parent b space name (x :: xs)
  declare := declare_declares parent
  included hcontent := by
    constructor
    · apply hcontent.scope
    · intro keys hkeys
      have hmembers := hcontent.members [] rfl
      rw [Member.keys_insertAll_of_eq hkeys, hmembers, Member.eraseDups_append_eraseDups,
        List.nil_append]

namespace Scope

variable (parent : Identifier)

/-- Binding one list of items after another binds their concatenation. -/
theorem bindWrittenItems_append (b : Bound)
    (items others : List Written.SignatureItem) :
  bindWrittenItems parent b (items ++ others)
    = bindWrittenItems parent (bindWrittenItems parent b items) others
  := by
  induction items generalizing b with
  | nil => rfl
  | cons item items ih =>
    rw [List.cons_append, bindWrittenItems, ih, bindWrittenItems]

/-- Binding the items of a signature declares their components. -/
theorem bindWrittenItems_declares (b : Bound) (items : List Written.SignatureItem) :
  b.Declares parent (items.flatMap Written.SignatureItem.components)
    (bindWrittenItems parent b items)
  := (Bound.declares_compositional parent).bindWrittenItems b items

end Scope

end InterfaceDocs
