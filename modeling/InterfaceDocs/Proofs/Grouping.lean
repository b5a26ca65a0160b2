import InterfaceDocs.Proofs.Placement

/-!
# Grouping of extension constructors

The constructors of an extension are items of their own in a compiled signature, and the
documentation gathers them again.  Splitting every documented extension into its constructors
gives one entry for each compiled item, in order.  Two neighbours stand in the same extension
exactly when the first one is a constructor and the second one continues it, and an extension is
headed by its first constructor.

The documented items behind an item begin with the constructors that continue its extension, so
what is proved by induction is about both of them (`Following.Gathers`).  The main statement is
`Compiled.extensions_gathered`.
-/

namespace InterfaceDocs

namespace Model

/-! ### Entries -/

/-- The entry of a constructor of an extension. -/
def Constructor.entry (c : Constructor) : Heading :=
  .extension [c.id]

/-- The entries of an item: an extension has those of its constructors, any other record has its
heading, and a comment has none. -/
def Item.entries : Item → List Heading
  | .extension e => e.constructors.map Constructor.entry
  | item => item.heading?.toList

/-- The entries with the numbers `n` and `n + 1` are constructors of the same extension. -/
def SameExtension (items : List Item) (n : Nat) : Prop :=
  ∃ front e back, items = front ++ .extension e :: back ∧
    (front.flatMap Item.entries).length ≤ n ∧
    n + 1 < (front.flatMap Item.entries).length + e.constructors.length

/-- Neighbours in a list of items are both in the first item, if that is an extension, or both
behind it. -/
theorem sameExtension_cons {item : Item} {items : List Item} {n : Nat} :
  SameExtension (item :: items) n ↔
    (∃ e, item = .extension e ∧ n + 1 < e.constructors.length) ∨
    (item.entries.length ≤ n ∧ SameExtension items (n - item.entries.length))
  := by
  constructor
  · rintro ⟨front, e, back, h, hle, hlt⟩
    cases front with
    | nil =>
      cases h
      left
      use e, rfl
      simpa using hlt
    | cons first front =>
      cases h
      rw [List.flatMap_cons, List.length_append] at hle hlt
      right
      use by omega, front, e, back, rfl, by omega, by omega
  · rintro (⟨e, rfl, hlt⟩ | ⟨hle, front, e, back, rfl, hle', hlt⟩)
    · use [], e, items, rfl, Nat.zero_le n, by simpa using hlt
    · use item :: front, e, back, rfl
      constructor
      · rw [List.flatMap_cons, List.length_append]
        omega
      · rw [List.flatMap_cons, List.length_append]
        omega

end Model

open Model (Item SameExtension)

namespace Compiled

/-! ### Compiled items -/

namespace SignatureItem

/-- Whether an item is a constructor of an extension; exceptions are not. -/
def isConstructor : SignatureItem → Bool
  | .extension _ _ .exception => false
  | .extension _ _ _ => true
  | _ => false

/-- Whether an item is a constructor that continues the extension of the one before it. -/
def isContinuation : SignatureItem → Bool
  | .extension _ _ .next => true
  | _ => false

theorem exists_of_isConstructor {item : SignatureItem} (h : item.isConstructor) :
  ∃ x d status, item = .extension x d status ∧ status ≠ .exception
  := by
  unfold isConstructor at h
  split at h
  · cases h
  · rename_i x d status hstatus
    use x, d, status, rfl, hstatus
  · cases h

/-- The entry that documents an item in the signature that `parent` owns. -/
def entry (parent : Identifier) : SignatureItem → Model.Heading
  | .value x d =>
    match d.kind with
    | .regular => .value (parent.child .value x.name)
    | .primitive _ => .external (parent.child .value x.name)
  | .type x _ status => .type status.document (parent.child .type x.name)
  | .extension x _ .exception => .exception (parent.child .exception x.name)
  | .extension x _ _ => .extension [parent.child .extension x.name]
  | .module x _ status => .module status.documentModule (parent.child .module x.name)
  | .moduleType x _ => .moduleType (parent.child .moduleType x.name)
  | .class x _ status => .class status.document (parent.child .classDef x.name)
  | .classType x _ status => .classType status.document (parent.child .classType x.name)

end SignatureItem

/-- An extension has the type, the parameters and the privacy of a constructor. -/
structure ExtensionConstructor.Heads (scope : Scope) (d : ExtensionConstructor)
    (e : Model.Extension) : Prop where
  typePath : scope.resolve .type d.typePath = .ok e.typePath
  typeParams : e.typeParams = documentParams (.collect d.types) d.typeParams []
  isPrivate : e.isPrivate = d.privacy.isPrivate

variable {config : Config} {scope : Scope} {parent : Identifier}

theorem ExtensionConstructor.heads_of_documentHead {d : ExtensionConstructor}
    {constructors : List Model.Constructor} {e : Model.Extension}
    (h : d.documentHead scope constructors = .ok e) (others : List Model.Constructor) :
  d.Heads scope { e with constructors := others }
  := by
  simp [documentHead] at h
  obtain ⟨typePath, hpath, rfl⟩ := h
  exact ⟨hpath, rfl, rfl⟩

/-! ### One item -/

/-- An item other than a constructor of an extension is documented by one record, which has its
entry. -/
theorem documentItems_of_isConstructor_eq_false {item : SignatureItem}
    {items : List SignatureItem} {continues : Bool} {following : Following}
    (hitem : item.isConstructor = false)
    (h : (documentItems config scope parent continues (item :: items)).outcome = .ok following) :
  ∃ record rest, (documentItems config scope parent false items).outcome = .ok rest ∧
    following = .cons record rest ∧ record.entries = [item.entry parent] ∧
    ∀ e, record ≠ .extension e
  := by
  cases item with
  | value x d =>
    simp [documentItems, ValueDescription.document] at h
    obtain ⟨type, -, rest, hrest, rfl⟩ := h
    refine ⟨_, rest, hrest, rfl, ?_⟩
    cases hkind : d.kind <;> simp [SignatureItem.entry, Item.entries, Item.heading?, hkind]
  | type x d status =>
    simp [documentItems] at h
    obtain ⟨decl, hdecl, rest, hrest, rfl⟩ := h
    refine ⟨_, rest, hrest, rfl, ?_⟩
    simp [SignatureItem.entry, Item.entries, Item.heading?, TypeDeclaration.document_id hdecl]
  | extension x d status =>
    cases status with
    | first => cases hitem
    | next => cases hitem
    | exception =>
      simp [documentItems, ExtensionConstructor.document, documentConstructor] at h
      obtain ⟨args, -, result, -, rest, hrest, rfl⟩ := h
      refine ⟨_, rest, hrest, rfl, ?_⟩
      simp [SignatureItem.entry, Item.entries, Item.heading?]
  | module x d status =>
    obtain ⟨type, attributes, loc⟩ := d
    obtain ⟨declType, rest, hrest, rfl, -⟩ := documentItems_module_marks h
    refine ⟨_, rest, hrest, rfl, ?_⟩
    simp [SignatureItem.entry, Item.entries, Item.heading?]
  | moduleType x d =>
    obtain ⟨type, attributes, loc⟩ := d
    cases type with
    | none =>
      simp [documentItems] at h
      obtain ⟨rest, hrest, rfl⟩ := h
      refine ⟨_, rest, hrest, rfl, ?_⟩
      simp [SignatureItem.entry, Item.entries, Item.heading?]
    | some type =>
      simp [documentItems] at h
      obtain ⟨out, -, rest, hrest, rfl⟩ := h
      refine ⟨_, rest, hrest, rfl, ?_⟩
      simp [SignatureItem.entry, Item.entries, Item.heading?]
  | «class» x d status =>
    simp [documentItems] at h
    obtain ⟨c, hc, rest, hrest, rfl⟩ := h
    refine ⟨_, rest, hrest, rfl, ?_⟩
    simp [SignatureItem.entry, Item.entries, Item.heading?, ClassDeclaration.document_id hc]
  | classType x d status =>
    simp [documentItems] at h
    obtain ⟨c, hc, rest, hrest, rfl⟩ := h
    refine ⟨_, rest, hrest, rfl, ?_⟩
    simp [SignatureItem.entry, Item.entries, Item.heading?, ClassTypeDeclaration.document_id hc]

/-- A constructor continues the extension before it, or it opens an extension with the
constructors that continue it. -/
theorem documentItems_constructor {x : Ident} {d : ExtensionConstructor} {status : ExtStatus}
    {items : List SignatureItem} {continues : Bool} {following : Following}
    (hstatus : status ≠ .exception)
    (h : (documentItems config scope parent continues
      (.extension x d status :: items)).outcome = .ok following) :
  ∃ c rest, c.id = parent.child .extension x.name ∧
    (documentItems config scope parent true items).outcome = .ok rest ∧
    ((continues = true ∧ status = .next ∧ following = ⟨c :: rest.constructors, rest.items⟩) ∨
      (¬ (continues = true ∧ status = .next) ∧ ∃ e, d.Heads scope e ∧
        e.constructors = c :: rest.constructors ∧ following = .cons (.extension e) rest))
  := by
  simp [documentItems] at h
  obtain ⟨c, hc, h⟩ := h
  have hid : c.id = parent.child .extension x.name := by
    simp [ExtensionConstructor.document, documentConstructor] at hc
    obtain ⟨args, -, result, -, rfl⟩ := hc
    rfl
  split at h
  · rename_i hcontinues
    simp at h
    obtain ⟨rest, hrest, rfl⟩ := h
    use c, rest, hid, hrest, .inl ⟨hcontinues.1, hcontinues.2, rfl⟩
  · rename_i hcontinues
    simp at h
    obtain ⟨e, he, rest, hrest, rfl⟩ := h
    use c, rest, hid, hrest, .inr ⟨hcontinues, _,
      ExtensionConstructor.heads_of_documentHead he (c :: rest.constructors), rfl, rfl⟩

/-! ### All items -/

/-- The entries with the numbers `n` and `n + 1` both continue the extension before them, or they
are both behind these constructors and in the same extension. -/
def Following.Together (following : Following) (n : Nat) : Prop :=
  n + 1 < following.constructors.length ∨
    (following.constructors.length ≤ n ∧
      SameExtension following.items (n - following.constructors.length))

/-- What is documented behind an item gathers the compiled items behind it, where `continues`
tells whether the item belongs to an extension. -/
structure Following.Gathers (scope : Scope) (parent : Identifier) (continues : Bool)
    (items : List SignatureItem) (following : Following) : Prop where
  entries : following.constructors.map Model.Constructor.entry
    ++ following.items.flatMap Item.entries = items.map (SignatureItem.entry parent)
  continued : following.constructors ≠ [] ↔
    continues = true ∧ ∃ b, items.head? = some b ∧ b.isContinuation
  together : ∀ n a b, items[n]? = some a → items[n + 1]? = some b →
    (following.Together n ↔ a.isConstructor ∧ b.isContinuation)
  headed : ∀ front e back, following.items = front ++ .extension e :: back →
    e.constructors ≠ [] ∧ ∃ x d status,
      items[following.constructors.length + (front.flatMap Item.entries).length]?
        = some (.extension x d status) ∧ d.Heads scope e
  comments : ∀ c, .comment c ∉ following.items

namespace Following

variable {items : List SignatureItem} {rest : Following}

/-- Nothing continues an item that does not belong to an extension. -/
theorem Gathers.constructors_eq_nil (h : rest.Gathers scope parent false items) :
  rest.constructors = []
  := by
  by_contra hne
  apply Bool.false_ne_true (h.continued.mp hne).1

/-- In front of the rest, a constructor stands with its neighbour if that one continues it. -/
theorem Gathers.together_constructor (h : rest.Gathers scope parent true items)
    {item : SignatureItem} (hitem : item.isConstructor) (c : Model.Constructor) :
  ∀ n a b, (item :: items)[n]? = some a → (item :: items)[n + 1]? = some b →
    (Following.Together ⟨c :: rest.constructors, rest.items⟩ n ↔
      a.isConstructor ∧ b.isContinuation)
  := by
  intro n a b ha hb
  rw [List.getElem?_cons_succ] at hb
  cases n with
  | zero =>
    obtain rfl := Option.some.inj ha
    have hcontinued : rest.constructors ≠ [] ↔ b.isContinuation := by
      rw [h.continued, List.head?_eq_getElem?, hb]
      simp
    simp only [Together, List.length_cons, hitem, true_and, ← hcontinued]
    rw [← List.length_pos_iff]
    omega
  | succ n =>
    rw [List.getElem?_cons_succ] at ha
    rw [← h.together n a b ha hb]
    simp only [Together, List.length_cons, Nat.add_sub_add_right, Nat.add_lt_add_iff_right,
      Nat.add_le_add_iff_right]

/-- An extension in front of the rest stands for its constructors. -/
theorem together_cons_extension {e : Model.Extension} {c : Model.Constructor}
    (he : e.constructors = c :: rest.constructors) (n : Nat) :
  (Following.cons (.extension e) rest).Together n ↔
    Following.Together ⟨c :: rest.constructors, rest.items⟩ n
  := by
  simp [Together, Following.cons, Model.sameExtension_cons, Item.entries, he]

theorem Gathers.nil (scope : Scope) (parent : Identifier) (continues : Bool) :
  Gathers scope parent continues [] ⟨[], []⟩
  := by
  constructor <;> simp

/-- A record in front of the rest, which is not an extension. -/
theorem Gathers.cons (h : rest.Gathers scope parent false items) (continues : Bool)
    {item : SignatureItem} (hitem : item.isConstructor = false) {record : Item}
    (hentries : record.entries = [item.entry parent]) (hrecord : ∀ e, record ≠ .extension e) :
  (Following.cons record rest).Gathers scope parent continues (item :: items)
  := by
  have hrest := h.constructors_eq_nil
  constructor
  case entries =>
    have hflat := h.entries
    rw [hrest, List.map_nil, List.nil_append] at hflat
    rw [Following.cons, List.map_nil, List.nil_append, List.flatMap_cons, hentries, hflat]
    rfl
  case continued =>
    have hcontinuation : item.isContinuation = false := by
      cases item with
      | extension x d status =>
        cases status with
        | first => rfl
        | next => cases hitem
        | exception => rfl
      | _ => rfl
    simp [Following.cons, hcontinuation]
  case together =>
    intro n a b ha hb
    rw [List.getElem?_cons_succ] at hb
    cases n with
    | zero =>
      obtain rfl := Option.some.inj ha
      simp [Together, Following.cons, Model.sameExtension_cons, hentries, hrecord, hitem]
    | succ n =>
      rw [List.getElem?_cons_succ] at ha
      rw [← h.together n a b ha hb]
      simp [Together, Following.cons, Model.sameExtension_cons, hentries, hrecord, hrest]
  case headed =>
    intro front e back hitems
    cases front with
    | nil => exact absurd (List.cons.inj hitems).1 (hrecord e)
    | cons first front =>
      obtain ⟨rfl, htail⟩ := List.cons.inj hitems
      obtain ⟨hne, x, d, status, hfirst, hheads⟩ := h.headed front e back htail
      rw [hrest, List.length_nil, Nat.zero_add] at hfirst
      use hne, x, d, status
      constructor
      · rw [Following.cons, List.length_nil, Nat.zero_add, List.flatMap_cons, List.length_append,
          hentries, List.length_singleton, Nat.add_comm, List.getElem?_cons_succ, hfirst]
      · apply hheads
  case comments =>
    intro c hc
    rcases List.mem_cons.mp hc with rfl | hmem
    · cases hentries
    · apply h.comments c hmem

section Constructor

variable {x : Ident} {d : ExtensionConstructor} {status : ExtStatus} {c : Model.Constructor}

/-- A constructor in front of the rest that continues the extension before it. -/
theorem Gathers.continuing (h : rest.Gathers scope parent true items)
    (hid : c.id = parent.child .extension x.name) :
  Gathers scope parent true (.extension x d .next :: items) ⟨c :: rest.constructors, rest.items⟩
  := by
  constructor
  case entries =>
    rw [List.map_cons, List.cons_append, h.entries, Model.Constructor.entry, hid]
    rfl
  case continued => simp [SignatureItem.isContinuation]
  case together => exact h.together_constructor rfl c
  case headed =>
    intro front e back hitems
    obtain ⟨hne, y, d', status', hfirst, hheads⟩ := h.headed front e back hitems
    use hne, y, d', status'
    constructor
    · rw [List.length_cons, Nat.add_right_comm, List.getElem?_cons_succ, hfirst]
    · apply hheads
  case comments => exact h.comments

/-- An extension in front of the rest, which the constructor opens. -/
theorem Gathers.opening (h : rest.Gathers scope parent true items)
    (hid : c.id = parent.child .extension x.name) (hstatus : status ≠ .exception)
    {continues : Bool} (hcontinues : ¬ (continues = true ∧ status = .next)) {e : Model.Extension}
    (hheads : d.Heads scope e) (he : e.constructors = c :: rest.constructors) :
  (Following.cons (.extension e) rest).Gathers scope parent continues
    (.extension x d status :: items)
  := by
  have hitem : SignatureItem.isConstructor (.extension x d status) := by
    cases status with
    | first => rfl
    | next => rfl
    | exception => contradiction
  constructor
  case entries =>
    have hentry : SignatureItem.entry parent (.extension x d status) = c.entry := by
      rw [Model.Constructor.entry, hid]
      cases status with
      | first => rfl
      | next => rfl
      | exception => contradiction
    rw [Following.cons, List.map_nil, List.nil_append, List.flatMap_cons, Item.entries, he,
      List.map_cons, List.cons_append, h.entries, List.map_cons, hentry]
  case continued =>
    have hcontinuation : continues = true → SignatureItem.isContinuation (.extension x d status)
        = false := by
      intro hc
      cases status with
      | first => rfl
      | next => exact absurd ⟨hc, rfl⟩ hcontinues
      | exception => rfl
    simpa [Following.cons] using hcontinuation
  case together =>
    intro n a b ha hb
    rw [together_cons_extension he]
    exact h.together_constructor hitem c n a b ha hb
  case headed =>
    intro front e' back hitems
    cases front with
    | nil =>
      obtain ⟨heq, -⟩ := List.cons.inj hitems
      obtain rfl := Item.extension.inj heq
      rw [he]
      exact ⟨List.cons_ne_nil _ _, x, d, status, rfl, hheads⟩
    | cons first front =>
      obtain ⟨rfl, htail⟩ := List.cons.inj hitems
      obtain ⟨hne, y, d', status', hfirst, hheads'⟩ := h.headed front e' back htail
      use hne, y, d', status'
      constructor
      · rw [Following.cons, List.length_nil, Nat.zero_add, List.flatMap_cons, List.length_append,
          Item.entries, he, List.length_map, List.length_cons, Nat.add_right_comm,
          List.getElem?_cons_succ, hfirst]
      · apply hheads'
  case comments =>
    intro c' hc'
    rcases List.mem_cons.mp hc' with hcomment | hmem
    · cases hcomment
    · apply h.comments c' hmem

end Constructor

end Following

/-- The documented items gather the compiled ones. -/
theorem documentItems_gathers {items : List SignatureItem} {continues : Bool}
    {following : Following}
    (h : (documentItems config scope parent continues items).outcome = .ok following) :
  following.Gathers scope parent continues items
  := by
  induction items generalizing continues following with
  | nil =>
    obtain rfl := Except.ok.inj h
    exact .nil scope parent continues
  | cons item items ih =>
    cases hitem : item.isConstructor with
    | false =>
      obtain ⟨record, rest, hrest, rfl, hentries, hrecord⟩ :=
        documentItems_of_isConstructor_eq_false hitem h
      exact (ih hrest).cons continues hitem hentries hrecord
    | true =>
      obtain ⟨x, d, status, rfl, hstatus⟩ := SignatureItem.exists_of_isConstructor hitem
      obtain ⟨c, rest, hid, hrest, hcase⟩ := documentItems_constructor hstatus h
      rcases hcase with ⟨rfl, rfl, rfl⟩ | ⟨hcontinues, e, hheads, he, rfl⟩
      · exact (ih hrest).continuing hid
      · exact (ih hrest).opening hid hstatus hcontinues hheads he

/-- Items without comments are a signature without a summary. -/
theorem ofItems_eq_of_comments {items : List Item} (h : ∀ c, .comment c ∉ items) (lift : Bool) :
  Model.Signature.ofItems lift items = ⟨items, .absent⟩
  := by
  unfold Model.Signature.ofItems
  split
  · exact absurd List.mem_cons_self (h _)
  · rfl

/-- Grouping the constructors of extensions loses nothing.  The documentation of a compiled
signature has neither a summary nor comments.  The entries of its items, extensions split into
their constructors, are those of the compiled items, in order.  Neighbours are in the same
extension exactly when the first one is a constructor and the second one continues it.  An
extension is not empty, and it has the type, the parameters and the privacy of its first
constructor. -/
theorem extensions_gathered {items : Signature} {s : Model.Signature}
    (h : (Signature.document config scope parent items).outcome = .ok s) :
  s.doc = .absent ∧ (∀ c, .comment c ∉ s.items) ∧
  s.items.flatMap Item.entries = items.map (SignatureItem.entry parent) ∧
  (∀ n a b, items[n]? = some a → items[n + 1]? = some b →
    (SameExtension s.items n ↔ a.isConstructor ∧ b.isContinuation)) ∧
  (∀ front e back, s.items = front ++ .extension e :: back →
    e.constructors ≠ [] ∧ ∃ x d status,
      items[(front.flatMap Item.entries).length]? = some (.extension x d status) ∧
        d.Heads (scope.bindCompiled parent items).scope e)
  := by
  simp [Signature.document] at h
  obtain ⟨following, hfollowing, rfl⟩ := h
  have hgathers := documentItems_gathers hfollowing
  have hnone := hgathers.constructors_eq_nil
  rw [ofItems_eq_of_comments hgathers.comments]
  use rfl, hgathers.comments
  constructor
  · simpa [hnone] using hgathers.entries
  constructor
  · simpa [hnone, Following.Together] using hgathers.together
  · simpa [hnone] using hgathers.headed

/-- An extensible type with two constructors of one extension, an exception, and a constructor
that claims to continue the exception. -/
def groupingSample : Signature :=
  let constructor : ExtensionConstructor :=
    ⟨.ident ⟨"t", 1, 0⟩, [], .tuple [], none, .publicly, .none, []⟩
  [.type ⟨"t", 1, 0⟩ ⟨[], .extensible, .publicly, none, [], .none, []⟩ .first,
    .extension ⟨"A", 2, 0⟩ constructor .first, .extension ⟨"B", 3, 0⟩ constructor .next,
    .extension ⟨"E", 4, 0⟩ constructor .exception, .extension ⟨"C", 5, 0⟩ constructor .next]

/-- The first two constructors are gathered, and the third one opens an extension. -/
theorem groupingSample_gathered :
  ∃ s, (Signature.document .standard .empty (.root "pkg" "U") groupingSample).outcome = .ok s ∧
    s.items.length = 4 ∧
    s.items.flatMap Item.entries = groupingSample.map (SignatureItem.entry (.root "pkg" "U")) ∧
    SameExtension s.items 1 ∧ ¬ SameExtension s.items 3
  := by
  obtain ⟨s, hs⟩ : ∃ s,
      (Signature.document .standard .empty (.root "pkg" "U") groupingSample).outcome = .ok s :=
    ⟨_, rfl⟩
  obtain ⟨-, -, hentries, htogether, -⟩ := extensions_gathered hs
  use s, hs, ?_, hentries, ?_, ?_
  · obtain rfl := Except.ok.inj hs
    rfl
  · exact (htogether 1 _ _ rfl rfl).mpr ⟨rfl, rfl⟩
  · intro h
    apply Bool.false_ne_true ((htogether 3 _ _ rfl rfl).mp h).1

end Compiled

end InterfaceDocs
