import InterfaceDocs.Proofs.Comment.Joining
import InterfaceDocs.Proofs.Outcome

/-!
# Attached documentation

The documentation of a declaration is what its documentation attributes say, one after the other.
`Gathered` relates attributes whose texts can all be parsed to the elements of these texts, and
`FirstFailure` is the error of the first text that cannot be parsed.  The documentation is absent
without texts, the first failure if there is one, and otherwise the gathered elements; it is
compatible with putting attributes one after the other, and with putting their texts one after the
other (`documentation_concatenated`).
-/

namespace InterfaceDocs

open Comment (parse)

/-- The attribute has a name for documentation, and the text is its payload. -/
def Config.Documents (config : Config) (a : Attribute) (text : String) : Prop :=
  a.name.txt ∈ config.docAttributes ∧ a.payload = .str text

/-- The texts of the documentation attributes can all be parsed, and have these elements. -/
inductive Gathered (config : Config) : List Attribute → List DocElement → Prop where
  | nil : Gathered config [] []
  | skip {a : Attribute} {attributes : List Attribute} {elements : List DocElement}
      (h : ∀ text, ¬ config.Documents a text) (hrest : Gathered config attributes elements) :
    Gathered config (a :: attributes) elements
  | parsed {a : Attribute} {text : String} {comment : Comment} {attributes : List Attribute}
      {elements : List DocElement} (h : config.Documents a text)
      (hparse : parse text a.loc = .ok comment) (hrest : Gathered config attributes elements) :
    Gathered config (a :: attributes) (comment.elements ++ elements)

/-- The first text of a documentation attribute that cannot be parsed has this error. -/
def FirstFailure (config : Config) (attributes : List Attribute) (e : DocError) : Prop :=
  ∃ front a back text, attributes = front ++ a :: back ∧
    config.Documents a text ∧ parse text a.loc = .error e ∧
    ∀ b ∈ front, ∀ text, config.Documents b text → ∃ comment, parse text b.loc = .ok comment

/-- There is a text among the documentation attributes. -/
def Documented (config : Config) (attributes : List Attribute) : Prop :=
  ∃ a ∈ attributes, ∃ text, config.Documents a text

/-- An attribute documents with a text if it has the name of documentation and the text as its
payload. -/
theorem Config.documents_iff {config : Config} {a : Attribute} {text : String} :
  config.Documents a text ↔ config.isDocAttribute a.name.txt ∧ a.text? = some text
  := by
  have htext : a.text? = some text ↔ a.payload = .str text := by
    rw [Attribute.text?]
    cases a.payload <;> simp
  rw [htext, Config.isDocAttribute, List.contains_iff_mem, Config.Documents]

/-- An attribute documents with at most one text. -/
theorem Config.Documents.unique {config : Config} {a : Attribute} {text other : String}
    (h : config.Documents a text) (h' : config.Documents a other) :
  text = other
  := by
  have hpayload := h.2.symm.trans h'.2
  cases hpayload
  rfl

/-! ### One documentation after another -/

namespace Doc

/-- What follows a failed documentation does not matter. -/
theorem failed_append (e : DocError) (d : Doc) :
  append (.failed e) d = .failed e
  := by
  cases d <;> rfl

/-- Documentation is joined from left to right, so the first one may be split off. -/
theorem foldl_append (d : Doc) (ds : List Doc) :
  ds.foldl append d = append d (ds.foldl append .absent)
  := by
  induction ds generalizing d with
  | nil => exact (append_absent d).symm
  | cons e ds ih =>
    rw [List.foldl_cons, List.foldl_cons, ih, ih (append .absent e), absent_append, append_assoc]

variable {config : Config} {a : Attribute} {attributes : List Attribute} {text : String}

/-- The documentation of attributes is that of the ones in front, joined with that of the ones
behind. -/
theorem ofAttributes_append (config : Config) (front back : List Attribute) :
  ofAttributes config (front ++ back)
    = append (ofAttributes config front) (ofAttributes config back)
  := by
  rw [ofAttributes, Config.docAttributesOf, List.filter_append, List.filterMap_append,
    List.foldl_append, foldl_append]
  rfl

/-- The text of the first attribute comes first. -/
theorem ofAttributes_cons_of_documents (h : config.Documents a text)
    (attributes : List Attribute) :
  ofAttributes config (a :: attributes)
    = append (ofText text a.loc) (ofAttributes config attributes)
  := by
  obtain ⟨hname, htext⟩ := Config.documents_iff.mp h
  have hsingle : ofAttributes config [a] = ofText text a.loc := by
    simp [ofAttributes, Config.docAttributesOf, hname, ofAttribute, htext, absent_append]
  rw [← hsingle]
  apply ofAttributes_append config [a] attributes

/-- An attribute that does not document is skipped. -/
theorem ofAttributes_cons_of_skip (h : ∀ text, ¬ config.Documents a text)
    (attributes : List Attribute) :
  ofAttributes config (a :: attributes) = ofAttributes config attributes
  := by
  have hsingle : ofAttributes config [a] = .absent := by
    by_cases hname : config.isDocAttribute a.name.txt
    · have htext : a.text? = none :=
        Option.eq_none_iff_forall_ne_some.mpr fun text htext =>
          h text (Config.documents_iff.mpr ⟨hname, htext⟩)
      simp [ofAttributes, Config.docAttributesOf, hname, ofAttribute, htext]
    · simp [ofAttributes, Config.docAttributesOf, hname]
  rw [← absent_append (ofAttributes config attributes), ← hsingle]
  apply ofAttributes_append config [a] attributes

end Doc

/-! ### The three cases -/

section

variable {config : Config} {attributes : List Attribute} {elements : List DocElement}
  {e : DocError}

theorem FirstFailure.cons {a : Attribute}
    (ha : ∀ text, config.Documents a text → ∃ comment, parse text a.loc = .ok comment)
    (h : FirstFailure config attributes e) :
  FirstFailure config (a :: attributes) e
  := by
  obtain ⟨front, b, back, text, rfl, hb, hparse, hfront⟩ := h
  use a :: front, b, back, text, rfl, hb, hparse, List.forall_mem_cons.mpr ⟨ha, hfront⟩

/-- All texts can be parsed, or one of them is the first that cannot. -/
theorem gathered_or_failure (config : Config) (attributes : List Attribute) :
  (∃ elements, Gathered config attributes elements) ∨ ∃ e, FirstFailure config attributes e
  := by
  induction attributes with
  | nil =>
    left
    use [], .nil
  | cons a attributes ih =>
    by_cases ha : ∃ text, config.Documents a text
    · obtain ⟨text, htext⟩ := ha
      cases hparse : parse text a.loc with
      | error e =>
        right
        use e, [], a, attributes, text, rfl, htext, hparse, List.forall_mem_nil _
      | ok comment =>
        rcases ih with ⟨elements, hgathered⟩ | ⟨e, hfailure⟩
        · left
          exact ⟨_, .parsed htext hparse hgathered⟩
        · right
          refine ⟨e, hfailure.cons fun other hother => ⟨comment, ?_⟩⟩
          rwa [hother.unique htext]
    · rw [not_exists] at ha
      rcases ih with ⟨elements, hgathered⟩ | ⟨e, hfailure⟩
      · left
        use elements, .skip ha hgathered
      · right
        exact ⟨e, hfailure.cons fun text htext => absurd htext (ha text)⟩

/-- Gathered elements are the documentation, which is absent when there are no texts. -/
theorem Gathered.ofAttributes_eq (h : Gathered config attributes elements) :
  (¬ Documented config attributes ∧ elements = [] ∧ Doc.ofAttributes config attributes = .absent) ∨
  (Documented config attributes ∧ Doc.ofAttributes config attributes = .parsed ⟨elements⟩)
  := by
  induction h with
  | nil =>
    left
    constructor
    · rintro ⟨a, ha, -⟩
      cases ha
    · constructor <;> rfl
  | @skip a attributes elements ha _ ih =>
    have hdocumented : Documented config (a :: attributes) ↔ Documented config attributes := by
      simp [Documented, ha]
    rw [hdocumented, Doc.ofAttributes_cons_of_skip ha]
    apply ih
  | @parsed a text comment attributes elements ha hparse _ ih =>
    right
    use ⟨a, List.mem_cons_self, text, ha⟩
    rw [Doc.ofAttributes_cons_of_documents ha, Doc.ofText, hparse]
    rcases ih with ⟨-, rfl, habsent⟩ | ⟨-, hparsed⟩
    · rw [habsent, List.append_nil]
      rfl
    · rw [hparsed]
      rfl

/-- Texts that can all be parsed do not change the first failure behind them. -/
theorem FirstFailure.ofAttributes_eq (h : FirstFailure config attributes e) :
  Doc.ofAttributes config attributes = .failed e
  := by
  obtain ⟨front, a, back, text, rfl, ha, hparse, hfront⟩ := h
  have hback : Doc.ofAttributes config (a :: back) = .failed e := by
    rw [Doc.ofAttributes_cons_of_documents ha, Doc.ofText, hparse]
    exact Doc.failed_append e _
  rw [Doc.ofAttributes_append, hback]
  rcases gathered_or_failure config front with ⟨elements, hgathered⟩ | ⟨other, hother⟩
  · rcases hgathered.ofAttributes_eq with ⟨-, -, habsent⟩ | ⟨-, hparsed⟩
    · rw [habsent]
      rfl
    · rw [hparsed]
      rfl
  · obtain ⟨before, b, behind, text, rfl, hb, hfault, -⟩ := hother
    obtain ⟨comment, hok⟩ := hfront b List.mem_append_cons_self text hb
    rw [hok] at hfault
    cases hfault

/-- A text that cannot be parsed is a text. -/
theorem FirstFailure.documented (h : FirstFailure config attributes e) :
  Documented config attributes
  := by
  obtain ⟨front, a, back, text, rfl, ha, -, -⟩ := h
  exact ⟨a, List.mem_append_cons_self, text, ha⟩

/-- There are no texts, or all of them can be parsed, or one of them is the first that cannot. -/
theorem ofAttributes_cases (config : Config) (attributes : List Attribute) :
  (¬ Documented config attributes ∧ Doc.ofAttributes config attributes = .absent) ∨
  (∃ elements, Documented config attributes ∧ Gathered config attributes elements ∧
    Doc.ofAttributes config attributes = .parsed ⟨elements⟩) ∨
  ∃ e, FirstFailure config attributes e ∧ Doc.ofAttributes config attributes = .failed e
  := by
  rcases gathered_or_failure config attributes with ⟨elements, hgathered⟩ | ⟨e, hfailure⟩
  · rcases hgathered.ofAttributes_eq with ⟨hnone, -, habsent⟩ | ⟨hsome, hparsed⟩
    · left
      use hnone, habsent
    · right; left
      use elements, hsome, hgathered, hparsed
  · right; right
    use e, hfailure, hfailure.ofAttributes_eq

/-- Documentation is absent exactly when no attribute documents. -/
theorem ofAttributes_eq_absent :
  Doc.ofAttributes config attributes = .absent ↔ ¬ Documented config attributes
  := by
  rcases ofAttributes_cases config attributes with
    ⟨hnone, habsent⟩ | ⟨_, hsome, -, hparsed⟩ | ⟨e, hfailure, hfailed⟩
  · apply iff_of_true habsent hnone
  · rw [hparsed]
    apply iff_of_false nofun (not_not_intro hsome)
  · rw [hfailed]
    apply iff_of_false nofun (not_not_intro hfailure.documented)

/-- Documentation fails exactly with the failure of the first text that cannot be parsed. -/
theorem ofAttributes_eq_failed :
  Doc.ofAttributes config attributes = .failed e ↔ FirstFailure config attributes e
  := by
  constructor
  · intro h
    rcases ofAttributes_cases config attributes with
      ⟨-, habsent⟩ | ⟨_, -, -, hparsed⟩ | ⟨other, hfailure, hfailed⟩
    · cases habsent.symm.trans h
    · cases hparsed.symm.trans h
    · cases hfailed.symm.trans h
      apply hfailure
  · apply FirstFailure.ofAttributes_eq

/-- Documentation is parsed exactly when there is a text and all elements can be gathered. -/
theorem ofAttributes_eq_parsed {comment : Comment} :
  Doc.ofAttributes config attributes = .parsed comment ↔
    Documented config attributes ∧ Gathered config attributes comment.elements
  := by
  constructor
  · intro h
    rcases ofAttributes_cases config attributes with
      ⟨-, habsent⟩ | ⟨elements, hsome, hgathered, hparsed⟩ | ⟨_, -, hfailed⟩
    · cases habsent.symm.trans h
    · cases hparsed.symm.trans h
      use hsome, hgathered
    · cases hfailed.symm.trans h
  · rintro ⟨hsome, hgathered⟩
    rcases hgathered.ofAttributes_eq with ⟨hnone, -, -⟩ | ⟨-, hparsed⟩
    · exact absurd hsome hnone
    · apply hparsed

end

/-! ### Joined texts -/

section

variable {t₁ t₂ : String} {a b : Comment}

/-- The documentation of two joined texts is the joined documentation of the texts. -/
theorem ofText_joined {loc₁ loc₂ : Location} (h₁ : parse t₁ loc₁ = .ok a)
    (h₂ : parse t₂ loc₂ = .ok b) (loc : Location) :
  Doc.ofText (t₁ ++ "\n\n" ++ t₂) loc = Doc.append (.ofText t₁ loc₁) (.ofText t₂ loc₂)
  := by
  rcases Comment.parse_joined h₁ t₂ loc₂ loc with ⟨b', hb, hjoined⟩ | ⟨e, e', he, -⟩
  · rw [h₂] at hb
    cases hb
    rw [Doc.ofText, Doc.ofText, Doc.ofText, h₁, h₂, hjoined]
    rfl
  · rw [h₂] at he
    cases he

/-- Two attributes whose texts can be parsed document the same as one with the joined text. -/
theorem ofAttributes_joined {config : Config} {x y z : Attribute} (hx : config.Documents x t₁)
    (hy : config.Documents y t₂) (hz : config.Documents z (t₁ ++ "\n\n" ++ t₂))
    (h₁ : parse t₁ x.loc = .ok a) (h₂ : parse t₂ y.loc = .ok b) (front back : List Attribute) :
  Doc.ofAttributes config (front ++ x :: y :: back) = Doc.ofAttributes config (front ++ z :: back)
  := by
  rw [Doc.ofAttributes_append, Doc.ofAttributes_append,
    Doc.ofAttributes_cons_of_documents hx, Doc.ofAttributes_cons_of_documents hy,
    Doc.ofAttributes_cons_of_documents hz, ofText_joined h₁ h₂, Doc.append_assoc]

/-- Behind a comment that can be parsed and a blank line, a text can be parsed exactly when it can
be parsed alone, and its elements are added. -/
theorem parse_joined_iff {loc₁ : Location} (h : parse t₁ loc₁ = .ok a) (t₂ : String)
    (loc₂ loc : Location) :
  ((∃ c, parse (t₁ ++ "\n\n" ++ t₂) loc = .ok c) ↔ ∃ b, parse t₂ loc₂ = .ok b) ∧
  ∀ b, parse t₂ loc₂ = .ok b → parse (t₁ ++ "\n\n" ++ t₂) loc = .ok ⟨a.elements ++ b.elements⟩
  := by
  rcases Comment.parse_joined h t₂ loc₂ loc with ⟨b, hb, hjoined⟩ | ⟨e, e', he, hjoined⟩
  · rw [hb, hjoined]
    use iff_of_true ⟨_, rfl⟩ ⟨b, rfl⟩
    rintro _ ⟨⟩
    rfl
  · rw [he, hjoined]
    use iff_of_false nofun nofun, nofun

end

/-! ### Concatenation -/

/-- The documentation of a declaration is absent when there are no texts, else it is the first
failure or the elements of all texts, in order.  It is read from a list of attributes piece by
piece, and from a text piece by piece where the pieces can be parsed and a blank line is between
them. -/
theorem documentation_concatenated :
  (∀ (config : Config) (id : Identifier) (attributes : List Attribute), ∃ doc : Doc,
    (Load.readDoc config id attributes).outcome = .ok doc ∧
    (doc = .absent ↔ ¬ Documented config attributes) ∧
    (∀ e, doc = .failed e ↔ FirstFailure config attributes e) ∧
    ∀ comment, doc = .parsed comment ↔
      Documented config attributes ∧ Gathered config attributes comment.elements) ∧
  (∀ (config : Config) (id : Identifier) (front back : List Attribute), ∃ d e : Doc,
    (Load.readDoc config id front).outcome = .ok d ∧
    (Load.readDoc config id back).outcome = .ok e ∧
    (Load.readDoc config id (front ++ back)).outcome = .ok (d.append e)) ∧
  (∀ d : Doc, Doc.append .absent d = d ∧ d.append .absent = d) ∧
  (∀ d e f : Doc, (d.append e).append f = d.append (e.append f)) ∧
  (∀ (t₁ t₂ : String) (loc₁ loc₂ loc : Location) (a : Comment), parse t₁ loc₁ = .ok a →
    ((∃ c, parse (t₁ ++ "\n\n" ++ t₂) loc = .ok c) ↔ ∃ b, parse t₂ loc₂ = .ok b) ∧
    ∀ b, parse t₂ loc₂ = .ok b →
      parse (t₁ ++ "\n\n" ++ t₂) loc = .ok ⟨a.elements ++ b.elements⟩) ∧
  ∀ (config : Config) (id : Identifier) (t₁ t₂ : String) (x y z : Attribute) (a b : Comment)
    (front back : List Attribute), config.Documents x t₁ → config.Documents y t₂ →
    config.Documents z (t₁ ++ "\n\n" ++ t₂) → parse t₁ x.loc = .ok a → parse t₂ y.loc = .ok b →
    (Load.readDoc config id (front ++ x :: y :: back)).outcome
      = (Load.readDoc config id (front ++ z :: back)).outcome
  := by
  constructor
  · intro config id attributes
    exact ⟨_, Load.outcome_readDoc config id attributes, ofAttributes_eq_absent,
      fun _ => ofAttributes_eq_failed, fun _ => ofAttributes_eq_parsed⟩
  constructor
  · intro config id front back
    refine ⟨_, _, Load.outcome_readDoc config id front, Load.outcome_readDoc config id back, ?_⟩
    rw [Load.outcome_readDoc, Doc.ofAttributes_append]
  constructor
  · intro d
    use Doc.absent_append d, Doc.append_absent d
  constructor
  · apply Doc.append_assoc
  constructor
  · intro t₁ t₂ loc₁ loc₂ loc a h
    apply parse_joined_iff h t₂ loc₂ loc
  · intro config id t₁ t₂ x y z a b front back hx hy hz h₁ h₂
    rw [Load.outcome_readDoc, Load.outcome_readDoc, ofAttributes_joined hx hy hz h₁ h₂]

/-- A text that ends with a code block and one that ends with a tag, behind an attribute without a
text. -/
theorem documentationSample_concatenated :
  let t₁ := "One.\n\x7b[ let x = 1 ]\x7d"
  let t₂ := "two\n@since 2.0"
  let x : Attribute := ⟨⟨"ocaml.doc", .none⟩, .str t₁, .none⟩
  let y : Attribute := ⟨⟨"doc", .none⟩, .str t₂, .inFile "a.mli"⟩
  let z : Attribute := ⟨⟨"doc", .none⟩, .str (t₁ ++ "\n\n" ++ t₂), .none⟩
  let front : List Attribute := [⟨⟨"doc", .none⟩, .empty, .none⟩]
  let a : Comment := ⟨[.paragraph "One.", .codeBlock "let x = 1"]⟩
  let b : Comment := ⟨[.paragraph "two", .tag (.since "2.0")]⟩
  let id : Identifier := .root "pkg" "Unit"
  Config.standard.Documents x t₁ ∧ Config.standard.Documents y t₂ ∧
  Config.standard.Documents z (t₁ ++ "\n\n" ++ t₂) ∧
  parse t₁ x.loc = .ok a ∧ parse t₂ y.loc = .ok b ∧
  parse (t₁ ++ "\n\n" ++ t₂) z.loc = .ok ⟨a.elements ++ b.elements⟩ ∧
  (Load.readDoc .standard id (front ++ [x, y])).outcome
    = (Load.readDoc .standard id (front ++ [z])).outcome
  := by
  intro t₁ t₂ x y z front a b id
  have hx : Config.standard.Documents x t₁ := ⟨by decide, rfl⟩
  have hy : Config.standard.Documents y t₂ := ⟨by decide, rfl⟩
  have hz : Config.standard.Documents z (t₁ ++ "\n\n" ++ t₂) := ⟨by decide, rfl⟩
  have h₁ : parse t₁ x.loc = .ok a := by unfold t₁; rfl
  have h₂ : parse t₂ y.loc = .ok b := by unfold t₂; rfl
  obtain ⟨-, -, -, -, htexts, hattributes⟩ := documentation_concatenated
  use hx, hy, hz, h₁, h₂, (htexts t₁ t₂ x.loc y.loc z.loc a h₁).2 b h₂,
    hattributes .standard id t₁ t₂ x y z a b front [] hx hy hz h₁ h₂

end InterfaceDocs
