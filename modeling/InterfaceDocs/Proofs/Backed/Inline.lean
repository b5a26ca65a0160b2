import InterfaceDocs.Written.Signature

/-!
# Inline signatures

A signature is inline when every module, module type and functor parameter in it is given by
a signature, a functor, constraints on such a module type or the computed type of a module
expression that is not a path, and a module possibly by an alias.  The operands of includes and
the results of functors may be any module types; there `operand` is set.
-/

namespace InterfaceDocs

namespace Compiled

mutual

/-- Whether a compiled module type is inline. -/
def ModuleType.isInline (operand : Bool) : ModuleType → Bool
  | .path _ => operand
  | .signature items => inlineItems items
  | .functor _ none result => result.isInline true
  | .functor _ (some arg) result => arg.isInline false && result.isInline true
  | .alias _ => operand

/-- Whether the items of a compiled signature are inline. -/
def inlineItems : List SignatureItem → Bool
  | [] => true
  | item :: items => item.isInline && inlineItems items

/-- Whether an item of a compiled signature is inline; a module may be an alias. -/
def SignatureItem.isInline : SignatureItem → Bool
  | .module _ ⟨type, _, _⟩ _ => type.alias?.isSome || type.isInline false
  | .moduleType _ ⟨some type, _, _⟩ => type.isInline false
  | .moduleType _ ⟨none, _, _⟩ => true
  | .value _ _ => true
  | .type _ _ _ => true
  | .extension _ _ _ => true
  | .class _ _ _ => true
  | .classType _ _ _ => true

end

end Compiled

namespace Written

/-- Whether the operand of `module type of` is inline; a path is not. -/
def ModuleExpr.isInline (operand : Bool) : ModuleExpr → Bool
  | .path _ _ => operand
  | expr => expr.info.type.isInline operand

mutual

/-- Whether a written module type is inline. -/
def ModuleType.isInline (operand : Bool) : ModuleType → Bool
  | .path _ _ => operand
  | .signature _ items => inlineItems items
  | .functor _ .unit result => result.isInline true
  | .functor _ (.named _ arg) result => arg.isInline false && result.isInline true
  | .constrained _ body _ => body.isInline operand
  | .typeOf _ expr => expr.isInline operand
  | .alias _ _ => operand

/-- Whether the items of a written signature are inline. -/
def inlineItems : List SignatureItem → Bool
  | [] => true
  | item :: items => item.isInline && inlineItems items

/-- Whether an item of a written signature is inline. -/
def SignatureItem.isInline : SignatureItem → Bool
  | .module _ d => d.isInline
  | .recModule _ ds => inlineModules ds
  | .moduleType _ ⟨_, some type, _, _⟩ => type.isInline false
  | .moduleType _ ⟨_, none, _, _⟩ => true
  | .included _ ⟨type, content, _, _⟩ => type.isInline true && Compiled.inlineItems content
  | .value _ _ => true
  | .type _ _ _ => true
  | .typeSubst _ _ => true
  | .extension _ _ => true
  | .exception _ _ => true
  | .moduleSubst _ _ => true
  | .opened _ _ => true
  | .class _ _ => true
  | .classType _ _ => true
  | .floating _ _ => true

/-- Whether the members of a group of modules are inline. -/
def inlineModules : List ModuleDeclaration → Bool
  | [] => true
  | d :: ds => d.isInline && inlineModules ds

/-- Whether a module is inline; it may be an alias. -/
def ModuleDeclaration.isInline : ModuleDeclaration → Bool
  | ⟨_, type, _, _⟩ => type.alias?.isSome || type.isInline false

end

end Written

end InterfaceDocs
