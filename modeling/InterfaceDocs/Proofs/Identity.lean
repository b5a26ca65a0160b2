import InterfaceDocs.Load.Interface
import InterfaceDocs.Proofs.Outcome

/-!
# Identifiers of documented declarations

The documentation of a declaration bears the identifier of its name under its parent.  The
documentation of a module says besides whether the module is an alias, and it bears the marks
that its name, its documentation and its type give.
-/

namespace InterfaceDocs

variable {config : Config} {scope : Scope} {parent : Identifier}

namespace Compiled

/-- A type is named under its parent. -/
theorem TypeDeclaration.document_id {x : Ident} {d : TypeDeclaration} {out : Model.TypeDecl}
    (h : (d.document config scope parent x).outcome = .ok out) :
  out.id = parent.child .type x.name
  := by
  simp [document] at h
  obtain ⟨_, -, _, -, rfl⟩ := h
  rfl

/-- A class is named under its parent. -/
theorem ClassDeclaration.document_id {x : Ident} {d : ClassDeclaration} {out : Model.Class}
    (h : (d.document config scope parent x).outcome = .ok out) :
  out.id = parent.child .classDef x.name
  := by
  simp [document] at h
  obtain ⟨_, -, rfl⟩ := h
  rfl

/-- A class type is named under its parent. -/
theorem ClassTypeDeclaration.document_id {x : Ident} {d : ClassTypeDeclaration}
    {out : Model.ClassType} (h : (d.document config scope parent x).outcome = .ok out) :
  out.id = parent.child .classType x.name
  := by
  simp [document] at h
  obtain ⟨_, -, rfl⟩ := h
  rfl

theorem ModuleType.alias?_eq_some {type : ModuleType} {p : Path} (h : type.alias? = some p) :
  type = .alias p
  := by
  unfold ModuleType.alias? at h
  split at h
  · apply congrArg ModuleType.alias (Option.some.inj h)
  · cases h

/-- A documented module is an alias of what its path resolves to, or it has the documentation
of its module type, and its marks come from its name, its documentation and its type.  It is in
front of the documented items behind it. -/
theorem documentItems_module_marks {continues : Bool} {x : Ident} {type : ModuleType}
    {attributes : List Attribute} {loc : Location} {status : RecStatus}
    {items : List SignatureItem} {following : Following}
    (h : (documentItems config scope parent continues
      (.module x ⟨type, attributes, loc⟩ status :: items)).outcome = .ok following) :
  let doc := Doc.ofAttributes config attributes
  ∃ declType rest, (documentItems config scope parent false items).outcome = .ok rest ∧
    following = .cons (.module status.documentModule ⟨parent.child .module x.name, doc, declType,
      Load.canonicalPath doc, Load.isHidden config x.name (Load.canonicalPath doc),
      type.isSignature⟩) rest ∧
    ((∃ p r, type = .alias p ∧ scope.resolve .module p = .ok r ∧ declType = .alias r) ∨
      (type.alias? = none ∧ ∃ out,
        (type.document config scope (parent.child .module x.name)).outcome = .ok out ∧
          declType = .moduleType out))
  := by
  simp [documentItems] at h
  cases halias : type.alias? with
  | some p =>
    obtain rfl := ModuleType.alias?_eq_some halias
    simp [halias] at h
    obtain ⟨r, hr, rest, hrest, rfl⟩ := h
    refine ⟨_, rest, hrest, rfl, ?_⟩
    left
    use p, r
  | none =>
    simp [halias] at h
    obtain ⟨out, hout, rest, hrest, rfl⟩ := h
    refine ⟨_, rest, hrest, rfl, ?_⟩
    right
    use rfl, out

/-- A documented module is an alias of what its path resolves to, or it has the documentation
of its module type, in front of the documented items behind it. -/
theorem documentItems_module {continues : Bool} {x : Ident} {type : ModuleType}
    {attributes : List Attribute} {loc : Location} {status : RecStatus}
    {items : List SignatureItem} {following : Following}
    (h : (documentItems config scope parent continues
      (.module x ⟨type, attributes, loc⟩ status :: items)).outcome = .ok following) :
  ∃ declType canonical hidden expanded rest,
    (documentItems config scope parent false items).outcome = .ok rest ∧
      following = .cons (.module status.documentModule ⟨parent.child .module x.name,
        .ofAttributes config attributes, declType, canonical, hidden, expanded⟩) rest ∧
      canonical = Load.canonicalPath (.ofAttributes config attributes) ∧
      ((∃ p r, type = .alias p ∧ scope.resolve .module p = .ok r ∧ declType = .alias r) ∨
        (type.alias? = none ∧ ∃ out,
          (type.document config scope (parent.child .module x.name)).outcome = .ok out ∧
            declType = .moduleType out))
  := by
  obtain ⟨declType, rest, hrest, hfollowing, htype⟩ := documentItems_module_marks h
  exact ⟨declType, _, _, _, rest, hrest, hfollowing, rfl, htype⟩

end Compiled

namespace Written

/-- A written type is named under its parent. -/
theorem TypeDeclaration.document_id {d : TypeDeclaration} {out : Model.TypeDecl}
    (h : (d.document config scope parent).outcome = .ok out) :
  out.id = parent.child .type d.ident.name
  := by
  simp [document] at h
  obtain ⟨_, -, _, -, rfl⟩ := h
  rfl

/-- A written class is named under its parent by its own identifier. -/
theorem ClassDeclaration.document_id {d : ClassDeclaration} {out : Model.Class}
    (h : (d.document config scope parent).outcome = .ok out) :
  out.id = parent.child .classDef d.classIdent.name
  := by
  simp [document] at h
  obtain ⟨_, -, _, -, rfl⟩ := h
  rfl

/-- A written class type is named under its parent by the identifier of its class type. -/
theorem ClassDeclaration.documentClassType_id {d : ClassDeclaration} {out : Model.ClassType}
    (h : (d.documentClassType config scope parent).outcome = .ok out) :
  out.id = parent.child .classType d.classTypeIdent.name
  := by
  simp [documentClassType] at h
  obtain ⟨_, -, _, -, rfl⟩ := h
  rfl

theorem ModuleType.alias?_eq_some {type : ModuleType} {p : Path} (h : type.alias? = some p) :
  ∃ info, type = .alias info p
  := by
  unfold ModuleType.alias? at h
  split at h
  · rename_i info q
    use info
    apply congrArg (ModuleType.alias info) (Option.some.inj h)
  · cases h

/-- A documented module is an alias of what its path resolves to, or it has the documentation
of its module type, and its marks come from its name, its documentation and its type.  It is
behind the comments of the module. -/
theorem ModuleDeclaration.document_marks {flag : Model.RecFlag} {x : Ident} {type : ModuleType}
    {attributes : List Attribute} {loc : Location} {items : List Model.Item}
    (h : (ModuleDeclaration.document config scope parent flag
      ⟨x, type, attributes, loc⟩).outcome = .ok items) :
  let doc := Doc.ofAttributes config attributes
  ∃ (comments : List CommentItem) (declType : Model.ModuleDeclType),
    items = comments.map .comment ++ [.module flag ⟨parent.child .module x.name, doc, declType,
      Load.canonicalPath doc, Load.isHidden config x.name (Load.canonicalPath doc),
      type.isSignature⟩] ∧
    ((∃ info p r, type = .alias info p ∧ scope.resolve .module p = .ok r ∧
        declType = .alias r) ∨
      (type.alias? = none ∧ ∃ out,
        (type.document config scope (parent.child .module x.name)).outcome = .ok out ∧
          declType = .moduleType out))
  := by
  simp [ModuleDeclaration.document, documentCommented] at h
  cases halias : type.alias? with
  | some p =>
    obtain ⟨info, rfl⟩ := ModuleType.alias?_eq_some halias
    simp [halias] at h
    obtain ⟨r, hr, rfl⟩ := h
    refine ⟨_, _, rfl, ?_⟩
    left
    use info, p, r
  | none =>
    simp [halias] at h
    obtain ⟨out, hout, rfl⟩ := h
    refine ⟨_, _, rfl, ?_⟩
    right
    use rfl, out

/-- A documented module is an alias of what its path resolves to, or it has the documentation
of its module type, behind the comments of the module. -/
theorem ModuleDeclaration.document_eq_ok {flag : Model.RecFlag} {x : Ident} {type : ModuleType}
    {attributes : List Attribute} {loc : Location} {items : List Model.Item}
    (h : (ModuleDeclaration.document config scope parent flag
      ⟨x, type, attributes, loc⟩).outcome = .ok items) :
  ∃ (comments : List CommentItem) (declType : Model.ModuleDeclType)
    (canonical : Option Reference) (hidden expanded : Bool),
    items = comments.map .comment ++ [.module flag ⟨parent.child .module x.name,
      .ofAttributes config attributes, declType, canonical, hidden, expanded⟩] ∧
    canonical = Load.canonicalPath (.ofAttributes config attributes) ∧
    ((∃ info p r, type = .alias info p ∧ scope.resolve .module p = .ok r ∧
        declType = .alias r) ∨
      (type.alias? = none ∧ ∃ out,
        (type.document config scope (parent.child .module x.name)).outcome = .ok out ∧
          declType = .moduleType out))
  := by
  obtain ⟨comments, declType, hitems, htype⟩ := ModuleDeclaration.document_marks h
  exact ⟨comments, declType, _, _, _, hitems, rfl, htype⟩

end Written

end InterfaceDocs
