import InterfaceDocs.Proofs.Knowledge.Binding
import InterfaceDocs.Proofs.Reparent

/-!
# References from outside and from inside a module

Seen from outside, the members of a module are those of the shape that the module is bound with,
which is computed before the later items of its signature are bound.  Seen from inside, they are
bound once more, in the scope of the whole signature.  The first scope lies below the second one
(`Scope.find?_module`), and the shape of a member is the shape that the last identifier of its
key is bound with (`Bound.exposes_compositional`).  Therefore a reference that is resolved from
outside is resolved to the same declaration from inside (`module_reference_inside`).
-/

namespace InterfaceDocs

/-! ### Members and their bindings -/

namespace Member

/-- An inserted member is found under its key, and the others as before. -/
theorem find?_insert (m : Member) (members : List Member) (key : Namespace × String) :
  find? key (insert m members) = if m.key = key then some m.shape else find? key members
  := by
  induction members with
  | nil => rfl
  | cons n members ih =>
    rw [insert]
    by_cases hkey : n.key = m.key
    · rw [if_pos hkey, find?, find?, hkey]
      by_cases hm : m.key = key
      · rw [if_pos hm, if_pos hm]
      · rw [if_neg hm, if_neg hm, if_neg hm]
    · rw [if_neg hkey, find?, find?, ih]
      by_cases hn : n.key = key
      · have hm : ¬ m.key = key := fun hm => hkey (hn.trans hm.symm)
        rw [if_pos hn, if_pos hn, if_neg hm]
      · rw [if_neg hn, if_neg hn]

/-- Nothing is found under a key that no member has. -/
theorem find?_eq_none {members : List Member} {key : Namespace × String}
    (h : key ∉ members.map Member.key) :
  find? key members = none
  := by
  induction members with
  | nil => rfl
  | cons m members ih =>
    rw [List.map_cons, List.mem_cons, not_or] at h
    rw [find?, if_neg (Ne.symm h.1)]
    apply ih h.2

/-- Added members come before those that are there already. -/
theorem find?_insertAll {ms : List Member} (hms : (ms.map Member.key).Nodup)
    (members : List Member) (key : Namespace × String) :
  find? key (insertAll members ms) = (find? key ms).or (find? key members)
  := by
  induction ms generalizing members with
  | nil => rfl
  | cons m ms ih =>
    rw [List.map_cons, List.nodup_cons] at hms
    have hstep : insertAll members (m :: ms) = insertAll (insert m members) ms := rfl
    rw [hstep, ih hms.2, find?_insert, find?]
    by_cases hm : m.key = key
    · rw [if_pos hm, if_pos hm, find?_eq_none (hm ▸ hms.1), Option.none_or, Option.some_or]
    · rw [if_neg hm, if_neg hm]

/-- Members have different keys after an insertion. -/
theorem nodup_insert (m : Member) {members : List Member}
    (h : (members.map Member.key).Nodup) :
  ((insert m members).map Member.key).Nodup
  := by
  rw [keys_insert]
  split
  · apply h
  · rename_i hm
    apply List.nodup_append.mpr
    use h, List.nodup_singleton m.key
    rintro key hkey _ hm' rfl
    apply hm
    rw [← List.mem_singleton.mp hm']
    apply hkey

theorem nodup_insertAll {members : List Member} (h : (members.map Member.key).Nodup)
    (ms : List Member) :
  ((insertAll members ms).map Member.key).Nodup
  := by
  induction ms generalizing members with
  | nil => apply h
  | cons m ms ih =>
    apply ih
    apply nodup_insert m h

end Member

/-- The last component that gives a member with the key. -/
def Component.last? (key : Namespace × String) (components : List Component) :
    Option Component :=
  components.reverse.find? fun c => c.key? = some key

/-- The last component with a key is looked for in the second list, and then in the first one. -/
theorem Component.last?_append (key : Namespace × String) (components others : List Component) :
  last? key (components ++ others) = (last? key others).or (last? key components)
  := by
  rw [last?, List.reverse_append, List.find?_append]
  rfl

/-- The component behind which no other one has its key is the last one with its key. -/
theorem Component.last?_of_after {key : Namespace × String} {c : Component}
    {before after : List Component} (hkey : c.key? = some key)
    (hlast : ∀ c' ∈ after, c'.key? ≠ some key) :
  last? key (before ++ c :: after) = some c
  := by
  have hafter : last? key after = none := by
    apply List.find?_eq_none.mpr
    intro c' hc' hkey'
    apply hlast c' (List.mem_reverse.mp hc')
    apply of_decide_eq_true hkey'
  have hc : last? key [c] = some c := List.find?_cons_of_pos (decide_eq_true hkey)
  rw [last?_append, ← List.singleton_append, last?_append, hafter, hc]
  rfl

/-- Members agree with bindings: behind declared components, a key whose last component is one of
them has the shape that this component is bound with, and other keys keep their shapes. -/
structure Bound.Exposes (parent : Identifier) (b : Bound) (components : List Component)
    (b' : Bound) : Prop where
  distinct : (b.members.map Member.key).Nodup → (b'.members.map Member.key).Nodup
  added : ∃ added : List Binding, b'.scope.bindings = added ++ b.scope.bindings ∧
    ∀ key c, Component.last? key components = some c → ∃ x ∈ c.idents, ∃ shape,
      ⟨x, c.id parent, shape⟩ ∈ added ∧ Member.find? key b'.members = some shape
  kept : ∀ key, Component.last? key components = none →
    Member.find? key b'.members = Member.find? key b.members

namespace Bound.Exposes

variable {parent : Identifier} {b b' b'' : Bound} {components others : List Component}

theorem refl (parent : Identifier) (b : Bound) :
  b.Exposes parent [] b
  where
  distinct h := h
  added := by
    use [], rfl
    intro key c hc
    cases hc
  kept _ _ := rfl

/-- What is exposed by parts is exposed by the whole. -/
theorem trans (h : b.Exposes parent components b') (h' : b'.Exposes parent others b'') :
  b.Exposes parent (components ++ others) b''
  := by
  obtain ⟨added, hadded, hlast⟩ := h.added
  obtain ⟨added', hadded', hlast'⟩ := h'.added
  constructor
  · intro hdistinct
    apply h'.distinct (h.distinct hdistinct)
  · use added' ++ added
    constructor
    · rw [hadded', hadded, List.append_assoc]
    · intro key c hc
      rw [Component.last?_append] at hc
      cases hothers : Component.last? key others with
      | none =>
        rw [hothers, Option.none_or] at hc
        obtain ⟨x, hx, shape, hmem, hfind⟩ := hlast key c hc
        use x, hx, shape, List.mem_append_right added' hmem
        rw [h'.kept key hothers, hfind]
      | some c' =>
        rw [hothers, Option.some_or] at hc
        obtain ⟨x, hx, shape, hmem, hfind⟩ := hlast' key c' hothers
        cases hc
        use x, hx, shape, List.mem_append_left added hmem
  · intro key hnone
    rw [Component.last?_append, Option.or_eq_none_iff] at hnone
    rw [h'.kept key hnone.1, h.kept key hnone.2]

/-- The component that is declared has the key if it is exposed. -/
theorem last?_singleton {key : Namespace × String} {c c' : Component}
    (h : Component.last? key [c] = some c') :
  c' = c ∧ c.key? = some key
  := by
  have hmem : c' ∈ [c] := List.mem_of_find?_eq_some h
  obtain rfl := List.mem_singleton.mp hmem
  use rfl
  apply of_decide_eq_true (List.find?_some (p := fun c : Component => c.key? = some key) h)

/-- An identifier that is no member exposes nothing. -/
theorem hide (b : Bound) (space : Namespace) (x : Ident) (shape : Shape) :
  b.Exposes parent [.hidden space x] (b.hide x (parent.child space.kind x.name) shape)
  where
  distinct h := h
  added := by
    use [⟨x, parent.child space.kind x.name, shape⟩], rfl
    intro key c hc
    obtain ⟨rfl, hkey⟩ := last?_singleton hc
    cases hkey
  kept _ _ := rfl

/-- A member that is exposed with a shape that one of its identifiers is bound with. -/
theorem of_insert {c : Component} {added : List Binding} {x : Ident} {shape : Shape}
    (hkey : c.key? = some (c.space, c.name)) (hx : x ∈ c.idents)
    (hscope : b'.scope.bindings = added ++ b.scope.bindings)
    (hmem : ⟨x, c.id parent, shape⟩ ∈ added)
    (hmembers : b'.members = Member.insert (.mk c.space c.name shape) b.members) :
  b.Exposes parent [c] b'
  where
  distinct h := by
    rw [hmembers]
    apply Member.nodup_insert _ h
  added := by
    use added, hscope
    intro key c' hc'
    obtain ⟨rfl, hkey'⟩ := last?_singleton hc'
    cases hkey.symm.trans hkey'
    use x, hx, shape, hmem
    rw [hmembers, Member.find?_insert]
    apply if_pos rfl
  kept key hnone := by
    have hne : ¬ (c.space, c.name) = key := by
      intro heq
      have hc : Component.last? key [c] = some c :=
        List.find?_cons_of_pos (decide_eq_true (heq ▸ hkey))
      rw [hnone] at hc
      cases hc
    rw [hmembers, Member.find?_insert]
    apply if_neg hne

/-- The identifiers that are bound without a shape are among the bindings. -/
theorem bindings_hideAll (b : Bound) (xs : List Ident) (id : Identifier) :
  (b.hideAll xs id).scope.bindings
    = (xs.reverse.map fun x => ⟨x, id, .unknown⟩) ++ b.scope.bindings
  := by
  induction xs generalizing b with
  | nil => rfl
  | cons x xs ih =>
    have hstep : b.hideAll (x :: xs) id = (b.hide x id .unknown).hideAll xs id := rfl
    rw [hstep, ih, List.reverse_cons, List.map_append, List.append_assoc]
    rfl

/-- A component of whose identifiers nothing is known. -/
theorem expose (b : Bound) (space : Namespace) (name : String) (x : Ident) (xs : List Ident) :
  b.Exposes parent [⟨space, name, x :: xs, true⟩]
    ((b.hideAll (x :: xs) (parent.child space.kind name)).expose space name .unknown)
  := by
  let id := parent.child space.kind name
  have hscope : ((b.hideAll (x :: xs) id).expose space name .unknown).scope.bindings
      = ((x :: xs).reverse.map fun y => ⟨y, id, .unknown⟩) ++ b.scope.bindings :=
    bindings_hideAll b (x :: xs) id
  have hx : x ∈ (Component.mk space name (x :: xs) true).idents := List.mem_cons_self
  apply of_insert rfl hx hscope
  · apply List.mem_map.mpr
    use x, List.mem_reverse.mpr List.mem_cons_self
    rfl
  · apply congrArg (Member.insert (.mk space name .unknown))
    apply b.members_hideAll (x :: xs) id

/-- A component with a shape, bound after its companions. -/
theorem declare (b : Bound) (space : Namespace) (x : Ident) (companions : List Ident)
    (shape : Shape) :
  b.Exposes parent [.ofIdent space x companions] (b.declare parent space x companions shape)
  := by
  let id := parent.child space.kind x.name
  have hx : x ∈ (Component.ofIdent space x companions).idents := List.mem_concat_self
  have hscope : (b.declare parent space x companions shape).scope.bindings
      = (⟨x, id, shape⟩ :: companions.reverse.map fun y => ⟨y, id, .unknown⟩)
        ++ b.scope.bindings :=
    congrArg (List.cons (Binding.mk x id shape)) (bindings_hideAll b companions id)
  apply of_insert rfl hx hscope List.mem_cons_self
  apply congrArg (Member.insert (.mk space x.name shape))
  apply b.members_hideAll companions id

/-- The content of an include. -/
theorem included {content : Bound} (h : (Bound.mk b.scope []).Exposes parent components content) :
  b.Exposes parent components
    ⟨content.scope, Member.insertAll b.members content.members⟩
  := by
  have hdistinct := h.distinct List.nodup_nil
  obtain ⟨added, hadded, hlast⟩ := h.added
  constructor
  · intro hb
    apply Member.nodup_insertAll hb
  · use added, hadded
    intro key c hc
    obtain ⟨x, hx, shape, hmem, hfind⟩ := hlast key c hc
    use x, hx, shape, hmem
    rw [Member.find?_insertAll hdistinct, hfind, Option.some_or]
  · intro key hnone
    rw [Member.find?_insertAll hdistinct, h.kept key hnone]
    rfl

end Bound.Exposes

/-- The members of a signature agree with its bindings. -/
theorem Bound.exposes_compositional (parent : Identifier) :
  Bound.Compositional parent (Bound.Exposes parent)
  where
  refl := .refl parent
  trans := .trans
  hide := .hide
  expose := .expose
  declare := .declare
  included := .included

/-! ### The scope that a module is bound in -/

/-- The modules that an item declares, alone or in a group of recursive modules. -/
def Written.SignatureItem.modules : Written.SignatureItem → List Written.ModuleDeclaration
  | .module _ d => [d]
  | .recModule _ ds => ds
  | _ => []

theorem Written.SignatureItem.stamp_mem_boundStamps {item : Written.SignatureItem}
    {d : Written.ModuleDeclaration} (hd : d ∈ item.modules) :
  d.ident.stamp ∈ Written.boundStamps [item]
  := by
  cases item with
  | module loc d' =>
    obtain rfl := List.mem_singleton.mp hd
    apply List.mem_singleton_self
  | recModule loc ds =>
    apply List.mem_map_of_mem (f := Ident.stamp)
    apply List.mem_flatMap.mpr
    use .ofIdent .module d.ident []
    constructor
    · apply List.mem_append_left
      apply List.mem_map_of_mem hd
    · apply List.mem_singleton_self
  | _ => cases hd

namespace Scope

variable {parent : Identifier} {bound : Bound} {items : List Written.SignatureItem}

/-- A scope lies below what it becomes when items with fresh stamps are bound. -/
theorem le_bindWrittenItems (parent : Identifier)
    (hfresh : ∀ b ∈ bound.scope.bindings, b.ident.stamp ∉ Written.boundStamps items) :
  bound.scope.Le (bindWrittenItems parent bound items).scope
  := by
  apply Le.of_adds (bindWrittenItems_declares parent bound items).scope
  intro b hb e he heq
  apply hfresh b hb
  rw [← heq, ← Written.map_stamp_entries parent]
  apply List.mem_map_of_mem he

/-- A group of recursive modules lies below a scope that binds its members. -/
theorem bindGroup_le {scope scope' : Scope} (h : scope.Le scope')
    {ds : List Written.ModuleDeclaration}
    (hds : ∀ d ∈ ds, (scope'.find? d.ident).map Binding.id
      = some (parent.child .module d.ident.name)) :
  (bindGroup parent scope ds).Le scope'
  := by
  induction ds generalizing scope with
  | nil => apply h
  | cons d ds ih =>
    obtain ⟨b, hfind, hid⟩ := Option.map_eq_some_iff.mp (hds d List.mem_cons_self)
    have hstep : (scope.add d.ident (parent.child .module d.ident.name) .unknown).Le scope' := by
      rw [← hid]
      apply h.add_left hfind (.unknown b.shape)
    apply ih hstep
    intro d' hd'
    apply hds d' (List.mem_cons_of_mem d hd')

theorem map_stamp_modules (parent : Identifier) (ds : List Written.ModuleDeclaration) :
  ((ds.map fun d => Component.ofIdent .module d.ident []).flatMap
      (Component.entries parent)).map (fun e => e.1.stamp)
    = ds.map fun d => d.ident.stamp
  := by
  induction ds with
  | nil => rfl
  | cons d ds ih => rw [List.map_cons, List.flatMap_cons, List.map_append, ih]; rfl

/-- In a group with different stamps each module is bound with its shape in the group. -/
theorem find?_bindWrittenModules (parent : Identifier) (group : Scope)
    {ds : List Written.ModuleDeclaration} (hstamps : (ds.map fun d => d.ident.stamp).Nodup)
    {d : Written.ModuleDeclaration} (hd : d ∈ ds) (b : Bound) :
  (bindWrittenModules parent group b ds).scope.find? d.ident
    = some ⟨d.ident, parent.child .module d.ident.name,
        group.writtenShape (parent.child .module d.ident.name) d.type⟩
  := by
  induction ds generalizing b with
  | nil => cases hd
  | cons d' ds ih =>
    rw [List.map_cons, List.nodup_cons] at hstamps
    rcases d' with ⟨x, type, attributes, loc⟩
    rw [bindWrittenModules]
    rcases List.mem_cons.mp hd with rfl | hd
    · have hdeclares := (Bound.declares_compositional parent).bindWrittenModules group
        (b.declare parent .module x [] (group.writtenShape (parent.child .module x.name) type)) ds
      rw [hdeclares.scope.find?_of_stamps_ne]
      · apply find?_add_self
      · intro e he heq
        apply hstamps.1
        rw [← heq, ← map_stamp_modules parent]
        apply List.mem_map_of_mem he
    · apply ih hstamps.2 hd

/-- The scope in which the types of the modules of an item are looked at. -/
def moduleScope (parent : Identifier) (scope : Scope) : Written.SignatureItem → Scope
  | .recModule _ ds => bindGroup parent scope ds
  | _ => scope

/-- An item binds its modules with their shapes in the scope of the modules. -/
theorem find?_bindWrittenItem_module (parent : Identifier) (bound : Bound)
    {item : Written.SignatureItem} (hstamps : (Written.boundStamps [item]).Nodup)
    {d : Written.ModuleDeclaration} (hd : d ∈ item.modules) :
  (bindWrittenItem parent bound item).scope.find? d.ident
    = some ⟨d.ident, parent.child .module d.ident.name,
        (moduleScope parent bound.scope item).writtenShape
          (parent.child .module d.ident.name) d.type⟩
  := by
  cases item with
  | module loc d' =>
    obtain rfl := List.mem_singleton.mp hd
    rcases d with ⟨x, type, attributes, loc'⟩
    apply find?_add_self
  | recModule loc ds =>
    apply find?_bindWrittenModules parent _ _ hd
    rw [← map_stamp_modules parent]
    rw [← Written.map_stamp_entries parent, List.flatMap_singleton] at hstamps
    apply hstamps
  | _ => cases hd

/-- The scope of the modules of an item lies below a scope that lies above the one before the
item and binds the modules. -/
theorem moduleScope_le {scope scope' : Scope} (h : scope.Le scope')
    {item : Written.SignatureItem}
    (hids : ∀ d ∈ item.modules, (scope'.find? d.ident).map Binding.id
      = some (parent.child .module d.ident.name)) :
  (moduleScope parent scope item).Le scope'
  := by
  cases item with
  | recModule loc ds => apply bindGroup_le h hids
  | _ => apply h

/-- The bindings behind items are those before them and those of the stamps of the items. -/
theorem stamp_of_mem_bindWrittenItems {b : Binding}
    (hb : b ∈ (bindWrittenItems parent bound items).scope.bindings) :
  b ∈ bound.scope.bindings ∨ b.ident.stamp ∈ Written.boundStamps items
  := by
  obtain ⟨added, hadded, hentries⟩ := (bindWrittenItems_declares parent bound items).scope
  rw [hadded, List.mem_append] at hb
  rcases hb with hb | hb
  · right
    have hmem := List.mem_map_of_mem (f := fun b => (b.ident, b.id)) hb
    rw [hentries, List.mem_reverse] at hmem
    rw [← Written.map_stamp_entries parent]
    apply List.mem_map_of_mem (f := fun e => e.1.stamp) hmem
  · left
    apply hb

/-- A module of a signature with fresh and different stamps is bound with its shape in a scope
that lies below the scope of the whole signature. -/
theorem find?_module (parent : Identifier) (bound : Bound)
    (hstamps : (Written.boundStamps items).Nodup)
    (hfresh : ∀ b ∈ bound.scope.bindings, b.ident.stamp ∉ Written.boundStamps items)
    {d : Written.ModuleDeclaration} (hd : d ∈ items.flatMap Written.SignatureItem.modules) :
  ∃ inner : Scope, inner.Le (bindWrittenItems parent bound items).scope ∧
    (bindWrittenItems parent bound items).scope.find? d.ident
      = some ⟨d.ident, parent.child .module d.ident.name,
          inner.writtenShape (parent.child .module d.ident.name) d.type⟩
  := by
  obtain ⟨item, hitem, hmodule⟩ := List.mem_flatMap.mp hd
  obtain ⟨before, after, rfl⟩ := List.append_of_mem hitem
  rw [Written.boundStamps_append, List.nodup_append] at hstamps
  obtain ⟨-, htail, hbefore⟩ := hstamps
  have hcons : Written.boundStamps (item :: after)
      = Written.boundStamps [item] ++ Written.boundStamps after :=
    Written.boundStamps_append [item] after
  rw [hcons, List.nodup_append] at htail
  obtain ⟨hstamps, -, hafter⟩ := htail
  rw [bindWrittenItems_append]
  let start := bindWrittenItems parent bound before
  -- The stamps of the item do not come back after it, and those of the start not from it on.
  have hfinds : ∀ d ∈ item.modules,
      (bindWrittenItems parent start (item :: after)).scope.find? d.ident
        = some ⟨d.ident, parent.child .module d.ident.name,
            (moduleScope parent start.scope item).writtenShape
              (parent.child .module d.ident.name) d.type⟩ := by
    intro d hd
    rw [bindWrittenItems, find?_bindWrittenItems]
    · apply find?_bindWrittenItem_module parent start hstamps hd
    · intro hmem
      apply hafter _ (Written.SignatureItem.stamp_mem_boundStamps hd) _ hmem rfl
  have hle : start.scope.Le (bindWrittenItems parent start (item :: after)).scope := by
    apply le_bindWrittenItems parent
    intro b hb hmem
    rcases stamp_of_mem_bindWrittenItems hb with hb | hb
    · apply hfresh b hb
      rw [Written.boundStamps_append]
      apply List.mem_append_right _ hmem
    · apply hbefore _ hb _ hmem rfl
  use moduleScope parent start.scope item
  constructor
  · apply moduleScope_le hle
    intro d hd
    rw [hfinds d hd, Option.map_some]
  · apply hfinds d hmodule

end Scope

/-! ### From outside and from inside -/

section

variable {scope : Scope} {parent : Identifier} {signature body : Written.Signature}
  {d : Written.ModuleDeclaration} {info : Written.NodeInfo} {n : Ident}

/-- The first of several names leads to a module among the members. -/
theorem follow?_cons_of_member {kind : PathKind} {members : List Member} {name : String}
    {shape : Shape} {names : List String} (hnames : names ≠ [])
    (hmember : Member.find? (.module, name) members = some shape) :
  (Shape.signature members).follow? kind parent (name :: names)
    = shape.follow? kind (parent.child .module name) names
  := by
  have hproject : (Shape.signature members).project? parent PathKind.module.namespaces name
      = some (parent.child .module name, shape) := by
    simp only [Shape.project?, PathKind.namespaces, List.findSome?_cons, hmember, Option.map_some,
      Namespace.kind]
  cases names with
  | nil => contradiction
  | cons name' names => simp only [Shape.follow?, hproject]

/-- The last module of its name is bound inside with the shape that it has as a member. -/
theorem find?_last_module (parent : Identifier) (bound : Bound) {before after : List Component}
    (hstamps : (Written.boundStamps body).Nodup)
    (hcomponents : body.flatMap Written.SignatureItem.components
      = before ++ .ofIdent .module n [] :: after)
    (hlast : ∀ c ∈ after, c.key? ≠ some (.module, n.name)) :
  ∃ shape, (Scope.bindWrittenItems parent bound body).scope.find? n
      = some ⟨n, parent.child .module n.name, shape⟩ ∧
    Member.find? (.module, n.name) (Scope.bindWrittenItems parent bound body).members
      = some shape
  := by
  have hexposes := (Bound.exposes_compositional parent).bindWrittenItems bound body
  obtain ⟨added, hadded, hmembers⟩ := hexposes.added
  rw [hcomponents] at hmembers
  obtain ⟨x, hx, shape, hmem, hfind⟩ :=
    hmembers (.module, n.name) _ (Component.last?_of_after rfl hlast)
  obtain rfl := List.mem_singleton.mp hx
  have hdistinct : (added.map fun b => b.ident.stamp).Nodup := by
    obtain ⟨added', hadded', hentries⟩ :=
      (Scope.bindWrittenItems_declares parent bound body).scope
    obtain rfl : added = added' := List.append_cancel_right (hadded.symm.trans hadded')
    apply Scope.Adds.nodup_stamps hentries
    rw [Written.map_stamp_entries]
    apply hstamps
  use shape, Scope.Adds.find?_of_mem_added hadded hdistinct hmem

/-- Let a signature be bound in a scope, with different stamps that are not bound there, and let
`d` be one of its modules, with an inline signature as its type.  Let `n` be the last module of
its name in the inline signature, declared alone, in a recursive group or by an include.  If a
path through `d` and the name of `n` is resolved after the signature is bound, then the path
through the identifier `n` is resolved to the same declaration after the inline signature is
bound too.  The stamps need only differ in each of the two signatures. -/
theorem module_reference_inside {before after : List Component} {names : List String}
    {kind : PathKind} {i : Identifier}
    (hstamps : (Written.boundStamps signature).Nodup)
    (hfresh : ∀ b ∈ scope.bindings, b.ident.stamp ∉ Written.boundStamps signature)
    (hmodule : d ∈ signature.flatMap Written.SignatureItem.modules)
    (htype : d.type = .signature info body) (hbody : (Written.boundStamps body).Nodup)
    (hcomponents : body.flatMap Written.SignatureItem.components
      = before ++ .ofIdent .module n [] :: after)
    (hlast : ∀ c ∈ after, c.key? ≠ some (.module, n.name))
    (hpredef : n.isPredef = false) (hlocal : n.stamp ≠ 0) (hnames : names ≠ [])
    (hresolve : (scope.bindWritten parent signature).scope.resolve kind
      (Path.extend (.ident d.ident) (n.name :: names)) = .ok (.resolved i)) :
  ((scope.bindWritten parent signature).scope.bindWritten
      (parent.child .module d.ident.name) body).scope.resolve kind
    (Path.extend (.ident n) names) = .ok (.resolved i)
  := by
  let id := parent.child .module d.ident.name
  obtain ⟨inner, hle, hfind⟩ :=
    Scope.find?_module parent ⟨scope, []⟩ hstamps hfresh hmodule
  obtain ⟨id', shape, hhead, hfollow⟩ :=
    (Scope.resolve_extend_eq_resolved (List.cons_ne_nil n.name names)).mp hresolve
  obtain ⟨rfl, rfl⟩ := Scope.resolveWithShape_ident hfind hhead
  rw [htype] at hfollow
  -- The names can be followed in the shape that the module has in the scope of the signature.
  have hfollow' := (Scope.writtenShape_mono id (.signature info body) hle).follow? hfollow
  obtain ⟨inside, hbound, hmember⟩ :=
    find?_last_module id ⟨(scope.bindWritten parent signature).scope, []⟩ hbody hcomponents hlast
  apply (Scope.resolve_extend_eq_resolved hnames).mpr
  use id.child .module n.name, inside
  constructor
  · apply Scope.resolveWithShape_ident_of_find? hpredef hlocal hbound
  · rw [← follow?_cons_of_member hnames hmember]
    apply hfollow'

end

/-- A body that declares a module `N` with a type `t` and then includes an alias `N` of `O`. -/
def includedAliasBody : Written.Signature :=
  [.module .none ⟨⟨"N", 4, 0⟩, typeBody ⟨"t", 5, 0⟩, [], .none⟩,
    .included .none ⟨.path ⟨.none, []⟩ (.ident ⟨"S", 9, 0⟩),
      [.module ⟨"N", 6, 0⟩ ⟨.alias (.ident ⟨"O", 1, 0⟩), [], .none⟩ .alone], .none, []⟩]

/-- A module `O` with a type `u`, and recursive modules `M` and `P`, of which `M` has the body
above. -/
def recursiveSample : Written.Signature :=
  [.module .none ⟨⟨"O", 1, 0⟩, typeBody ⟨"u", 2, 0⟩, [], .none⟩,
    .recModule .none [⟨⟨"M", 3, 0⟩, .signature ⟨.none, []⟩ includedAliasBody, [], .none⟩,
      ⟨⟨"P", 7, 0⟩, typeBody ⟨"v", 8, 0⟩, [], .none⟩]]

/-- From outside `M.N.u` is the type of `O`, through the alias of the include, and inside the
path through the included identifier leads there too. -/
theorem recursiveSample_reference_inside :
  let root : Identifier := .root "pkg" "Unit"
  let scope := (Scope.empty.bindWritten root recursiveSample).scope
  let i := (root.child .module "O").child .type "u"
  (Written.boundStamps recursiveSample).Nodup ∧ (Written.boundStamps includedAliasBody).Nodup ∧
    scope.resolve .type (Path.extend (.ident ⟨"M", 3, 0⟩) ["N", "u"]) = .ok (.resolved i) ∧
    (scope.bindWritten (root.child .module "M") includedAliasBody).scope.resolve .type
      (Path.extend (.ident ⟨"N", 6, 0⟩) ["u"]) = .ok (.resolved i)
  := by
  intro root scope i
  have hstamps : (Written.boundStamps recursiveSample).Nodup := by decide
  have hbody : (Written.boundStamps includedAliasBody).Nodup := by decide
  have hfresh : ∀ b ∈ Scope.empty.bindings,
      b.ident.stamp ∉ Written.boundStamps recursiveSample := by
    intro b hb
    cases hb
  have hmodule : ⟨⟨"M", 3, 0⟩, .signature ⟨.none, []⟩ includedAliasBody, [], .none⟩
      ∈ recursiveSample.flatMap Written.SignatureItem.modules :=
    List.mem_cons_of_mem _ List.mem_cons_self
  have hcomponents : includedAliasBody.flatMap Written.SignatureItem.components
      = [.ofIdent .module ⟨"N", 4, 0⟩ []] ++ .ofIdent .module ⟨"N", 6, 0⟩ [] :: [] := rfl
  have hlast : ∀ c ∈ ([] : List Component), c.key? ≠ some (.module, "N") := by
    intro c hc
    cases hc
  have hresolve : scope.resolve .type (Path.extend (.ident ⟨"M", 3, 0⟩) ["N", "u"])
      = .ok (.resolved i) := rfl
  use hstamps, hbody, hresolve
  apply module_reference_inside hstamps hfresh hmodule rfl hbody hcomponents hlast (by decide)
    (by decide) (List.cons_ne_nil "u" []) hresolve

end InterfaceDocs
