import InterfaceDocs.Proofs.Image.Tree
import InterfaceDocs.Scope.Binding

/-!
# Binding images

A written signature and its compiled image bind the same identifiers with the same shapes and
expose the same members (`ItemsCompile.bind`).
-/

namespace InterfaceDocs

theorem Scope.bindCompiledItems_append (parent : Identifier) (b : Bound)
    (items others : List Compiled.SignatureItem) :
  bindCompiledItems parent b (items ++ others)
    = bindCompiledItems parent (bindCompiledItems parent b items) others
  := by
  induction items generalizing b with
  | nil => rfl
  | cons item items ih =>
    rw [List.cons_append, bindCompiledItems, ih, bindCompiledItems]

namespace Written

open Scope

variable {config : Config}

/-- The constructors of an extension bind nothing. -/
theorem ExtensionCompiles.bind {d : TypeExtension} {status : Compiled.ExtStatus}
    {cs : List ExtensionConstructor} {items : List Compiled.SignatureItem}
    (h : ExtensionCompiles d status cs items) (parent : Identifier) (b : Bound) :
  bindCompiledItems parent b items = b
  := by
  induction h with
  | nil => rfl
  | cons _ _ _ ih =>
    rw [bindCompiledItems, bindCompiledItem]
    apply ih

/-- A group of types is bound one type after the other. -/
theorem TypeGroupCompiles.bind {status : Compiled.RecStatus} {ds : List TypeDeclaration}
    {items : List Compiled.SignatureItem} (h : TypeGroupCompiles config status ds items)
    (parent : Identifier) (b : Bound) :
  bindCompiledItems parent b items
    = ds.foldl (fun b d => b.declare parent .type d.ident [] .unknown) b
  := by
  induction h generalizing b with
  | nil => rfl
  | cons _ _ _ ih =>
    rw [bindCompiledItems, bindCompiledItem, ih, List.foldl_cons]

mutual

/-- A module type and its image have the same shape. -/
theorem ModuleTypeCompiles.shape :
  ∀ {type : ModuleType} {type' : Compiled.ModuleType}, ModuleTypeCompiles config type type' →
    ∀ (scope : Scope) (parent : Identifier),
      scope.writtenShape parent type = scope.compiledShape parent type'
  | _, _, .path, _, _ => rfl
  | _, _, .signature hitems, scope, parent => by
    rw [writtenShape, compiledShape, hitems.bind]
  | _, _, .generative _, _, _ => rfl
  | _, _, .functor _ _, _, _ => rfl
  | _, _, .alias, _, _ => rfl

/-- The items of a signature and their images are bound alike. -/
theorem ItemsCompile.bind :
  ∀ {items : List SignatureItem} {items' : List Compiled.SignatureItem},
    ItemsCompile config items items' → ∀ (parent : Identifier) (b : Bound),
      bindWrittenItems parent b items = bindCompiledItems parent b items'
  | _, _, .nil, _, _ => rfl
  | _, _, .cons hitem hitems, parent, b => by
    rw [bindWrittenItems, bindCompiledItems_append, hitem.bind, hitems.bind]

/-- An item of a signature and its images are bound alike. -/
theorem ItemCompiles.bind :
  ∀ {item : SignatureItem} {items' : List Compiled.SignatureItem},
    ItemCompiles config item items' → ∀ (parent : Identifier) (b : Bound),
      bindWrittenItem parent b item = bindCompiledItems parent b items'
  | _, _, .value _ _, _, _ => rfl
  | _, _, .type hgroup, parent, b => by
    rw [bindWrittenItem, hgroup.bind]
  | _, _, .extension _ _ hconstructors, parent, b => by
    rw [bindWrittenItem, hconstructors.bind]
  | _, _, .exception _ _, _, _ => rfl
  | _, _, .module _ htype _, parent, b => by
    rw [bindWrittenItem, bindCompiledItems, bindCompiledItems, bindCompiledItem, htype.shape]
  | _, _, .moduleType _ htype, parent, b => by
    rw [bindWrittenItem, bindCompiledItems, bindCompiledItems, bindCompiledItem, htype.shape]
  | _, _, .abstractModuleType _, _, _ => rfl

end

end Written

end InterfaceDocs
