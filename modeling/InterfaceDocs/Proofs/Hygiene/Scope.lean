import InterfaceDocs.Proofs.Hygiene.Tree
import InterfaceDocs.Scope.Binding

/-!
# Scopes that agree

Two scopes agree on identifiers when the identifiers are looked up with the same results and the
scopes are in the result of the same functor parameter (`Scope.Agree`).  Then paths over these
identifiers resolve to the same references and shapes (`Scope.resolveWithShape_congr`).  Binding
a signature over these identifiers looks at nothing else, so the bound scopes agree again and
expose the same members (`Scope.bindWritten_congr`).
-/

namespace InterfaceDocs

namespace Ident

/-- Identifiers denote the same binding when they have the same stamp and, if they are
persistent, the same name. -/
theorem same_eq_true_iff {x y : Ident} :
  x.same y ↔ x.stamp = y.stamp ∧ (x.stamp = 0 → x.name = y.name)
  := by
  unfold same
  by_cases hx : x.stamp = 0
  · simp [hx, eq_comm (a := (0 : Int32))]
  · simp [hx]

/-- Denoting the same binding is symmetric. -/
theorem same_comm (x y : Ident) :
  x.same y = y.same x
  := by
  rw [Bool.eq_iff_iff, same_eq_true_iff, same_eq_true_iff]
  constructor
  · rintro ⟨hstamp, hname⟩
    use hstamp.symm, fun hy => (hname (hstamp.trans hy)).symm
  · rintro ⟨hstamp, hname⟩
    use hstamp.symm, fun hx => (hname (hstamp.trans hx)).symm

/-- Identifiers that denote the same binding are the same as the same identifiers. -/
theorem same_congr {x y : Ident} (h : x.same y) (z : Ident) :
  x.same z = y.same z
  := by
  obtain ⟨hstamp, hname⟩ := same_eq_true_iff.mp h
  rw [Bool.eq_iff_iff, same_eq_true_iff, same_eq_true_iff]
  constructor
  · rintro ⟨hz, hnamez⟩
    use hstamp.symm.trans hz
    intro hy
    have hx : x.stamp = 0 := hstamp.trans hy
    exact (hname hx).symm.trans (hnamez hx)
  · rintro ⟨hz, hnamez⟩
    use hstamp.trans hz
    intro hx
    exact (hname hx).trans (hnamez (hstamp.symm.trans hx))

end Ident

namespace Scope

/-- What an identifier is bound to. -/
def lookup (scope : Scope) (x : Ident) : Option (Identifier × Shape) :=
  (scope.find? x).map fun b => (b.id, b.shape)

/-- The scopes are in the result of the same functor parameter, and they bind the given
identifiers to the same. -/
structure Agree (xs : List Ident) (s t : Scope) : Prop where
  parameter : s.functorParameter = t.functorParameter
  lookup : ∀ x ∈ xs, s.lookup x = t.lookup x

variable {xs : List Ident} {s t : Scope}

/-- The first binding is found if it is of the identifier, and the others are looked at
otherwise. -/
theorem lookup_cons (b : Binding) (bindings : List Binding) (parameter : Option Identifier)
    (x : Ident) :
  lookup ⟨b :: bindings, parameter⟩ x
    = if b.ident.same x then some (b.id, b.shape) else lookup ⟨bindings, parameter⟩ x
  := by
  rw [lookup, find?, List.find?_cons]
  cases b.ident.same x <;> rfl

/-- The bindings in front are found before those behind. -/
theorem lookup_append (before after : List Binding) (parameter : Option Identifier) (x : Ident) :
  lookup ⟨before ++ after, parameter⟩ x
    = (lookup ⟨before, parameter⟩ x).or (lookup ⟨after, parameter⟩ x)
  := by
  rw [lookup, find?, List.find?_append]
  cases h : before.find? fun b => b.ident.same x <;> simp [lookup, find?, h]

/-- An added binding is found for its own identifier only. -/
theorem lookup_add (scope : Scope) (x y : Ident) (id : Identifier) (shape : Shape) :
  (scope.add x id shape).lookup y = if x.same y then some (id, shape) else scope.lookup y
  := lookup_cons ⟨x, id, shape⟩ scope.bindings scope.functorParameter y

/-- Scopes that agree do so when the same is bound in both. -/
theorem Agree.add (h : s.Agree xs t) (x : Ident) (id : Identifier) (shape : Shape) :
  (s.add x id shape).Agree xs (t.add x id shape)
  := by
  constructor
  · apply h.parameter
  · intro y hy
    rw [lookup_add, lookup_add, h.lookup y hy]

/-- Scopes that agree do so in the result of a functor. -/
theorem Agree.addFunctorParameter (h : s.Agree xs t) (x : Ident) (id : Identifier)
    (shape : Shape) :
  (s.addFunctorParameter x id shape).Agree xs (t.addFunctorParameter x id shape)
  := by
  constructor
  · rfl
  · exact (h.add x id shape).lookup

/-- Functor parameters have the same identifiers in scopes that agree. -/
theorem functorArgument_congr (h : s.Agree xs t) (owner : Identifier) (name : String) :
  s.functorArgument owner name = t.functorArgument owner name
  := by
  rw [functorArgument, functorArgument, h.parameter]

/-! ### Bindings that are not observed -/

section Unobserved

variable {b : Binding} (before after : List Binding) (parameter : Option Identifier)

/-- A binding that an earlier one shadows is never looked up. -/
theorem agree_of_shadowed (xs : List Ident) (h : ∃ c ∈ before, c.ident.same b.ident) :
  Agree xs ⟨before ++ b :: after, parameter⟩ ⟨before ++ after, parameter⟩
  := by
  use rfl
  intro x _
  rw [lookup_append, lookup_append, lookup_cons]
  cases hx : b.ident.same x with
  | false => rfl
  | true =>
    have hfound : (before.find? fun b => b.ident.same x).isSome := by
      obtain ⟨c, hc, hsame⟩ := h
      rw [List.find?_isSome]
      use c, hc, (Ident.same_congr hsame x).trans hx
    obtain ⟨d, hd⟩ := Option.isSome_iff_exists.mp hfound
    have hlookup : lookup ⟨before, parameter⟩ x = some (d.id, d.shape) := by
      rw [lookup, find?, hd]
      rfl
    rw [hlookup]
    rfl

/-- A binding of an identifier that is not looked up can be left out. -/
theorem agree_of_unused (h : ∀ x ∈ xs, b.ident.same x = false) :
  Agree xs ⟨before ++ b :: after, parameter⟩ ⟨before ++ after, parameter⟩
  := by
  use rfl
  intro x hx
  rw [lookup_append, lookup_append, lookup_cons, h x hx]
  rfl

/-- The order of bindings of different identifiers does not matter. -/
theorem agree_of_swap {c : Binding} (xs : List Ident) (h : b.ident.same c.ident = false) :
  Agree xs ⟨before ++ b :: c :: after, parameter⟩ ⟨before ++ c :: b :: after, parameter⟩
  := by
  use rfl
  intro x _
  rw [lookup_append, lookup_append, lookup_cons, lookup_cons, lookup_cons, lookup_cons]
  by_cases hb : b.ident.same x
  · have hc : c.ident.same x = false := by
      rw [Ident.same_comm, ← Ident.same_congr hb, h]
    simp [hb, hc]
  · simp [hb]

end Unobserved

/-! ### Resolving paths -/

/-- An identifier that is neither predefined nor persistent is resolved by looking it up. -/
theorem resolveWithShape_ident_eq (scope : Scope) (kind : PathKind) (x : Ident) :
  scope.resolveWithShape kind (.ident x)
    = if x.isPredef then .ok (.core x.name, .unknown)
      else if x.isPersistent then .ok (.root x.name, .unknown)
      else
        match scope.lookup x with
        | some (id, shape) => .ok (.resolved id, shape)
        | none => .error (.unboundIdent x)
  := by
  rw [resolveWithShape, lookup]
  cases scope.find? x <;> rfl

/-- A path over identifiers that scopes agree on has the same reference and shape in them. -/
theorem resolveWithShape_congr (h : s.Agree xs t) (kind : PathKind) {p : Path}
    (hp : p.idents ⊆ xs) :
  s.resolveWithShape kind p = t.resolveWithShape kind p
  := by
  induction p generalizing kind with
  | ident x =>
    rw [resolveWithShape_ident_eq, resolveWithShape_ident_eq, h.lookup x (hp List.mem_cons_self)]
  | dot head name ih => rw [resolveWithShape, resolveWithShape, ih .module hp]
  | apply functor argument ihf iha =>
    obtain ⟨hfunctor, hargument⟩ := List.append_subset.mp hp
    rw [resolveWithShape, resolveWithShape, ihf .module hfunctor, iha .module hargument]

/-- A path stands for the same in scopes that agree on its identifiers. -/
theorem resolve_congr (h : s.Agree xs t) (kind : PathKind) {p : Path} (hp : p.idents ⊆ xs) :
  s.resolve kind p = t.resolve kind p
  := by
  rw [resolve, resolve, resolveWithShape_congr h kind hp]

/-- A path stands for the same subject in scopes that agree on its identifiers. -/
theorem resolveSubject_congr (h : s.Agree xs t) {p : Path} (hp : p.idents ⊆ xs) :
  s.resolveSubject p = t.resolveSubject p
  := by
  rw [resolveSubject, resolveSubject, resolveWithShape_congr h .moduleType hp]

theorem pathShape_congr (h : s.Agree xs t) {p : Path} (hp : p.idents ⊆ xs) :
  s.pathShape p = t.pathShape p
  := by
  rw [pathShape, pathShape, resolveWithShape_congr h .moduleType hp]

theorem aliasShape_congr (h : s.Agree xs t) {p : Path} (hp : p.idents ⊆ xs) :
  s.aliasShape p = t.aliasShape p
  := by
  rw [aliasShape, aliasShape, resolveWithShape_congr h .module hp]

end Scope

/-! ### Binding signatures -/

/-- The bound scopes agree on the given identifiers and expose the same members. -/
structure Bound.Agree (xs : List Ident) (b c : Bound) : Prop where
  scope : b.scope.Agree xs c.scope
  members : b.members = c.members

namespace Bound.Agree

variable {xs : List Ident} {b c : Bound}

theorem start {s t : Scope} (h : s.Agree xs t) :
  Bound.Agree xs ⟨s, []⟩ ⟨t, []⟩
  := ⟨h, rfl⟩

theorem hide (h : b.Agree xs c) (x : Ident) (id : Identifier) (shape : Shape) :
  (b.hide x id shape).Agree xs (c.hide x id shape)
  := ⟨h.scope.add x id shape, h.members⟩

theorem expose (h : b.Agree xs c) (space : Namespace) (name : String) (shape : Shape) :
  (b.expose space name shape).Agree xs (c.expose space name shape)
  := ⟨h.scope, congrArg (Member.insert (.mk space name shape)) h.members⟩

/-- Steps that keep what is bound in agreement do so in sequence. -/
theorem foldl {α : Type} {f : Bound → α → Bound} {as : List α} (h : b.Agree xs c)
    (hf : ∀ a, ∀ {b c : Bound}, b.Agree xs c → (f b a).Agree xs (f c a)) :
  (as.foldl f b).Agree xs (as.foldl f c)
  := by
  induction as generalizing b c with
  | nil => apply h
  | cons a as ih => apply ih (hf a h)

theorem hideAll (h : b.Agree xs c) (ys : List Ident) (id : Identifier) :
  (b.hideAll ys id).Agree xs (c.hideAll ys id)
  := by
  apply h.foldl
  intro y b c h
  apply h.hide y id .unknown

/-- Declaring the same member keeps what is bound in agreement. -/
theorem declare (h : b.Agree xs c) (parent : Identifier) (space : Namespace) (x : Ident)
    (companions : List Ident) (shape : Shape) :
  (b.declare parent space x companions shape).Agree xs
    (c.declare parent space x companions shape)
  := by
  apply expose
  apply hide
  apply h.hideAll companions _

end Bound.Agree

namespace Scope

variable {xs : List Ident}

mutual

/-- The shape of a compiled module type depends on what its identifiers are bound to. -/
theorem compiledShape_congr :
  ∀ {s t : Scope}, s.Agree xs t → ∀ (parent : Identifier) (type : Compiled.ModuleType),
    type.idents ⊆ xs → s.compiledShape parent type = t.compiledShape parent type
  | _, _, h, _, .path _, hx => by
    rw [compiledShape, compiledShape, pathShape_congr h hx]
  | _, _, h, parent, .signature items, hx => by
    have hitems := bindCompiledItems_congr (.start h) parent items hx
    rw [compiledShape, compiledShape, hitems.members]
  | _, _, _, _, .functor _ _ _, _ => by
    rw [compiledShape, compiledShape]
  | _, _, h, _, .alias _, hx => by
    rw [compiledShape, compiledShape, aliasShape_congr h hx]

/-- Binding compiled items keeps agreement on all identifiers if the scopes agree on those of the
items. -/
theorem bindCompiledItems_congr :
  ∀ {b c : Bound}, b.Agree xs c → ∀ (parent : Identifier) (items : List Compiled.SignatureItem),
    Compiled.identsItems items ⊆ xs →
      (bindCompiledItems parent b items).Agree xs (bindCompiledItems parent c items)
  | _, _, h, _, [], _ => h
  | _, _, h, parent, item :: items, hx => by
    obtain ⟨hitem, hitems⟩ := List.append_subset.mp hx
    apply bindCompiledItems_congr _ parent items hitems
    apply bindCompiledItem_congr h parent item hitem

/-- A compiled item binds the same in scopes that agree on its identifiers. -/
theorem bindCompiledItem_congr :
  ∀ {b c : Bound}, b.Agree xs c → ∀ (parent : Identifier) (item : Compiled.SignatureItem),
    item.idents ⊆ xs → (bindCompiledItem parent b item).Agree xs (bindCompiledItem parent c item)
  | _, _, h, _, .value _ _, _ => h
  | _, _, h, _, .extension _ _ _, _ => h
  | _, _, h, parent, .type x _ _, _ => h.declare parent .type x [] .unknown
  | _, _, h, parent, .module x ⟨type, _, _⟩ _, hx => by
    rw [bindCompiledItem, bindCompiledItem, compiledShape_congr h.scope _ type hx]
    apply h.declare parent .module x [] _
  | _, _, h, parent, .moduleType x ⟨some type, _, _⟩, hx => by
    rw [bindCompiledItem, bindCompiledItem, compiledShape_congr h.scope _ type hx]
    apply h.declare parent .moduleType x [] _
  | _, _, h, parent, .moduleType x ⟨none, _, _⟩, _ => h.declare parent .moduleType x [] .unknown
  | _, _, h, parent, .class x _ _, _ => h.declare parent .classDef x _ .unknown
  | _, _, h, parent, .classType x _ _, _ => h.declare parent .classType x _ .unknown

end

/-- A compiled signature binds the same in scopes that agree on its identifiers. -/
theorem bindCompiled_congr {s t : Scope} (h : s.Agree xs t) (parent : Identifier)
    {items : Compiled.Signature} (hx : Compiled.identsItems items ⊆ xs) :
  (s.bindCompiled parent items).Agree xs (t.bindCompiled parent items)
  := bindCompiledItems_congr (.start h) parent items hx

/-- Scopes that agree do so in a recursive group. -/
theorem Agree.bindGroup {s t : Scope} (h : s.Agree xs t) (parent : Identifier)
    (ds : List Written.ModuleDeclaration) :
  (bindGroup parent s ds).Agree xs (bindGroup parent t ds)
  := by
  induction ds generalizing s t with
  | nil => apply h
  | cons d ds ih => apply ih (h.add d.ident _ .unknown)

/-- A class binds the same in scopes that agree on any identifiers. -/
theorem bindClass_congr (parent : Identifier) (d : Written.ClassDeclaration) {b c : Bound}
    (h : b.Agree xs c) :
  (bindClass parent b d).Agree xs (bindClass parent c d)
  := by
  apply Bound.Agree.expose
  apply h.hideAll _ _

theorem bindClassType_congr (parent : Identifier) (d : Written.ClassDeclaration) {b c : Bound}
    (h : b.Agree xs c) :
  (bindClassType parent b d).Agree xs (bindClassType parent c d)
  := by
  apply Bound.Agree.expose
  apply h.hideAll _ _

mutual

/-- The shape of a written module type depends on what its identifiers are bound to. -/
theorem writtenShape_congr :
  ∀ {s t : Scope}, s.Agree xs t → ∀ (parent : Identifier) (type : Written.ModuleType),
    type.idents ⊆ xs → s.writtenShape parent type = t.writtenShape parent type
  | _, _, h, _, .path _ _, hx => by
    rw [writtenShape, writtenShape, pathShape_congr h hx]
  | _, _, h, parent, .signature _ items, hx => by
    have hitems := bindWrittenItems_congr (.start h) parent items hx
    rw [writtenShape, writtenShape, hitems.members]
  | _, _, _, _, .functor _ _ _, _ => by
    rw [writtenShape, writtenShape]
  | _, _, h, parent, .constrained _ body _, hx => by
    have hbody := writtenShape_congr h parent body (List.append_subset.mp hx).1
    rw [writtenShape, writtenShape, hbody]
  | _, _, h, parent, .typeOf _ expr, hx => by
    have htype : expr.info.type.idents ⊆ xs := by
      cases expr with
      | path info p => exact (List.append_subset.mp hx).2
      | _ => apply hx
    rw [writtenShape, writtenShape, compiledShape_congr h parent _ htype]
  | _, _, h, _, .alias _ _, hx => by
    rw [writtenShape, writtenShape, aliasShape_congr h hx]

/-- Binding written items keeps agreement on all identifiers if the scopes agree on those of the
items. -/
theorem bindWrittenItems_congr :
  ∀ {b c : Bound}, b.Agree xs c → ∀ (parent : Identifier) (items : List Written.SignatureItem),
    Written.identsItems items ⊆ xs →
      (bindWrittenItems parent b items).Agree xs (bindWrittenItems parent c items)
  | _, _, h, _, [], _ => h
  | _, _, h, parent, item :: items, hx => by
    obtain ⟨hitem, hitems⟩ := List.append_subset.mp hx
    apply bindWrittenItems_congr _ parent items hitems
    apply bindWrittenItem_congr h parent item hitem

/-- A written item binds the same in scopes that agree on its identifiers. -/
theorem bindWrittenItem_congr :
  ∀ {b c : Bound}, b.Agree xs c → ∀ (parent : Identifier) (item : Written.SignatureItem),
    item.idents ⊆ xs → (bindWrittenItem parent b item).Agree xs (bindWrittenItem parent c item)
  | _, _, h, _, .value _ _, _ => h
  | _, _, h, parent, .type _ _ _, _ =>
    h.foldl fun d _ _ h => h.declare parent .type d.ident [] .unknown
  | _, _, h, parent, .typeSubst _ _, _ => h.foldl fun d _ _ h => h.hide d.ident _ .unknown
  | _, _, h, _, .extension _ _, _ => h
  | _, _, h, _, .exception _ _, _ => h
  | _, _, h, parent, .module _ ⟨x, type, _, _⟩, hx => by
    rw [bindWrittenItem, bindWrittenItem, writtenShape_congr h.scope _ type hx]
    apply h.declare parent .module x [] _
  | _, _, h, parent, .moduleSubst _ d, hx => by
    rw [bindWrittenItem, bindWrittenItem, aliasShape_congr h.scope hx]
    apply h.hide d.ident _ _
  | _, _, h, parent, .recModule _ ds, hx => by
    have hgroup := h.scope.bindGroup parent ds
    apply bindWrittenModules_congr hgroup h parent ds hx
  | _, _, h, parent, .moduleType _ ⟨x, some type, _, _⟩, hx => by
    rw [bindWrittenItem, bindWrittenItem, writtenShape_congr h.scope _ type hx]
    apply h.declare parent .moduleType x [] _
  | _, _, h, parent, .moduleType _ ⟨x, none, _, _⟩, _ =>
    h.declare parent .moduleType x [] .unknown
  | _, _, h, _, .opened _ _, _ => h
  | _, _, h, parent, .included _ ⟨_, content, _, _⟩, hx => by
    have hcontent := bindCompiled_congr h.scope parent (List.append_subset.mp hx).2
    constructor
    · apply hcontent.scope
    · rw [bindWrittenItem, bindWrittenItem, h.members, hcontent.members]
  | _, _, h, parent, .class _ _, _ => h.foldl (bindClass_congr parent)
  | _, _, h, parent, .classType _ _, _ => h.foldl (bindClassType_congr parent)
  | _, _, h, _, .floating _ _, _ => h

/-- The modules of a group bind the same in scopes that agree on their identifiers. -/
theorem bindWrittenModules_congr :
  ∀ {s t : Scope}, s.Agree xs t → ∀ {b c : Bound}, b.Agree xs c →
    ∀ (parent : Identifier) (ds : List Written.ModuleDeclaration),
      Written.identsModules ds ⊆ xs →
        (bindWrittenModules parent s b ds).Agree xs (bindWrittenModules parent t c ds)
  | _, _, _, _, _, h, _, [], _ => h
  | _, _, hgroup, _, _, h, parent, ⟨x, type, _, _⟩ :: ds, hx => by
    obtain ⟨htype, hds⟩ := List.append_subset.mp hx
    rw [bindWrittenModules, bindWrittenModules, writtenShape_congr hgroup _ type htype]
    apply bindWrittenModules_congr hgroup _ parent ds hds
    apply h.declare parent .module x [] _

end

/-- A written signature binds the same in scopes that agree on its identifiers. -/
theorem bindWritten_congr {s t : Scope} (h : s.Agree xs t) (parent : Identifier)
    {items : Written.Signature} (hx : Written.identsItems items ⊆ xs) :
  (s.bindWritten parent items).Agree xs (t.bindWritten parent items)
  := bindWrittenItems_congr (.start h) parent items hx

/-- The subject of constraints depends on what the identifiers of the module type are bound to. -/
theorem subjectOf_congr {s t : Scope} (h : s.Agree xs t) (owner : Identifier) :
  ∀ type : Written.ModuleType, type.idents ⊆ xs → s.subjectOf owner type = t.subjectOf owner type
  | .path _ _, hx => by
    rw [subjectOf, subjectOf, resolveSubject_congr h hx]
  | .signature _ _, hx => by
    rw [subjectOf, subjectOf, writtenShape_congr h owner _ hx]
  | .constrained _ body _, hx => by
    rw [subjectOf, subjectOf, subjectOf_congr h owner body (List.append_subset.mp hx).1]
  | .functor info param result, hx => by
    rw [subjectOf, subjectOf, writtenShape_congr h owner _ hx]
    all_goals simp
  | .typeOf _ _, hx => by
    rw [subjectOf, subjectOf, writtenShape_congr h owner _ hx]
    all_goals simp
  | .alias _ _, hx => by
    rw [subjectOf, subjectOf, writtenShape_congr h owner _ hx]
    all_goals simp

end Scope

end InterfaceDocs
