import InterfaceDocs.Json.Leaf

/-!
# Reading back what is written

A reader reads back what a writer writes when it gives the value that was written, in every
layout of records (`Json.ReadsBack`).  Here are the parts from which such statements are made.

* A record whose fields have different names is read back field by field
  (`Layout.record?_record`): a mentioned field is given, and a field that is left out holds its
  default (`Layout.orDefault_slot`).
* A nested value is read back if one level of it is, given a reader that reads back all that is
  less high (`Json.ReadsBelow`, `Json.read_of_step`).
* Arrays and values that may be null are read back if their parts are (`Json.list?_ofList`,
  `Json.nullable?_ofOption`).
-/

namespace InterfaceDocs

namespace Json

variable {α : Type}

/-- The reader gives back what the writer writes, in every layout. -/
def ReadsBack (read : Json → Option α) (write : Layout → α → Json) : Prop :=
  ∀ (layout : Layout) (a : α), read (write layout a) = some a

/-! ### Scalars -/

@[simp]
theorem string?_str (s : String) :
  string? (.str s) = some s
  := rfl

@[simp]
theorem bool?_bool (b : Bool) :
  bool? (.bool b) = some b
  := rfl

/-- A signed number of 32 bits is read back. -/
@[simp]
theorem int32?_int (n : Int32) :
  int32? (.int n.toInt) = some n
  := by
  have hrange : Int32.minValue.toInt ≤ n.toInt ∧ n.toInt ≤ Int32.maxValue.toInt :=
    ⟨n.minValue_le_toInt, n.toInt_le⟩
  have hread : int32? (.int n.toInt) = some (Int32.ofInt n.toInt) := if_pos hrange
  rw [hread, Int32.ofInt_toInt]

/-- An unsigned number of 8 bits is read back. -/
@[simp]
theorem uint8?_int (n : UInt8) :
  uint8? (.int n.toNat) = some n
  := by
  have hlt : (n.toNat : Int) < 256 := Int.ofNat_lt.mpr n.toNat_lt
  simp [uint8?, int?, hlt]

/-! ### Arrays and values that may be null -/

/-- The elements of a list are read back if each of them is. -/
theorem readAll_map {read : Json → Option α} {write : α → Json} {as : List α}
    (h : ∀ a ∈ as, read (write a) = some a) :
  readAll read (as.map write) = some as
  := by
  induction as with
  | nil => rfl
  | cons a as ih =>
    have has := ih fun b hb => h b (List.mem_cons_of_mem a hb)
    rw [List.map_cons, readAll, h a List.mem_cons_self, has]

/-- An array is read back if its elements are. -/
@[simp]
theorem list?_ofList {read : Json → Option α} {write : α → Json} {as : List α}
    (h : ∀ a ∈ as, read (write a) = some a) :
  list? read (.ofList write as) = some as
  := readAll_map h

/-- A value that may be null is read back if the value is, and if it is not written as null. -/
theorem nullable?_ofOption {read : Json → Option α} {write : α → Json} {a : Option α}
    (h : ∀ b, a = some b → read (write b) = some b) (hnull : ∀ b, write b ≠ .null) :
  nullable? read (ofOption write a) = some a
  := by
  cases a with
  | none => rfl
  | some b =>
    have hread := h b rfl
    rw [ofOption, nullable?, hread]
    · rfl
    · apply hnull b

/-! ### Nested values -/

/-- Every value has a height. -/
theorem height_pos (j : Json) :
  0 < j.height
  := by
  cases j <;> simp [height]

/-- The content of a tagged value has less height than the value. -/
theorem height_lt_tagged (name : String) (j : Json) :
  j.height < (tagged name j).height
  := by
  simp [tagged, height, heightMembers]

/-- An item of an array has less height than the array. -/
theorem height_lt_arr {j : Json} {items : List Json} (h : j ∈ items) :
  j.height < (arr items).height
  := by
  rw [height, Nat.lt_succ_iff]
  induction items with
  | nil => cases h
  | cons item items ih =>
    rw [heightItems]
    rcases List.mem_cons.mp h with rfl | h
    · apply Nat.le_max_left _ _
    · apply Nat.le_trans (ih h) (Nat.le_max_right _ _)

/-- A member of an object has less height than the object. -/
theorem height_lt_obj {m : String × Json} {members : List (String × Json)}
    (h : m ∈ members) :
  m.2.height < (obj members).height
  := by
  rw [height, Nat.lt_succ_iff]
  induction members with
  | nil => cases h
  | cons member members ih =>
    rw [heightMembers]
    rcases List.mem_cons.mp h with rfl | h
    · apply Nat.le_max_left _ _
    · apply Nat.le_trans (ih h) (Nat.le_max_right _ _)

/-- The reader gives back what the writer writes as a value that is less high than `j`. -/
def ReadsBelow (read : Json → Option α) (write : α → Json) (j : Json) : Prop :=
  ∀ a, (write a).height < j.height → read (write a) = some a

namespace ReadsBelow

variable {β : Type} {read : Json → Option α} {write : α → Json}

/-- What reads back everything reads back all below a value. -/
theorem of_forall (h : ∀ a, read (write a) = some a) (j : Json) :
  ReadsBelow read write j
  := by
  intro a _
  apply h a

/-- What reads back all below a value reads back all below a value of less height. -/
theorem of_lt {j k : Json} (h : ReadsBelow read write k) (hlt : j.height < k.height) :
  ReadsBelow read write j
  := by
  intro a ha
  apply h a (Nat.lt_trans ha hlt)

theorem content {name : String} {j : Json} (h : ReadsBelow read write (tagged name j)) :
  ReadsBelow read write j
  := h.of_lt (height_lt_tagged name j)

theorem item {items : List Json} (h : ReadsBelow read write (arr items)) {j : Json}
    (hmem : j ∈ items) :
  ReadsBelow read write j
  := h.of_lt (height_lt_arr hmem)

/-- The content of a tagged value is read back by what reads back all below the value. -/
theorem read_content {name : String} {a : α} (h : ReadsBelow read write (tagged name (write a))) :
  read (write a) = some a
  := h a (height_lt_tagged name (write a))

/-- An item of an array is read back by what reads back all below the array. -/
theorem read_item {items : List Json} (h : ReadsBelow read write (arr items)) {a : α}
    (hmem : write a ∈ items) :
  read (write a) = some a
  := h a (height_lt_arr hmem)

/-- The elements of an array are less high than the array. -/
theorem list {readItem : Json → Option β} {writeItem : β → Json} {bs : List β}
    (h : ReadsBelow read write (.ofList writeItem bs))
    (hitem : ∀ b, ReadsBelow read write (writeItem b) → readItem (writeItem b) = some b) :
  list? readItem (.ofList writeItem bs) = some bs
  := by
  apply list?_ofList
  intro b hb
  apply hitem
  apply h.item (List.mem_map_of_mem hb)

end ReadsBelow

/-- A nested value is read back if one level of it is read back by means of every reader that
reads back the written values of smaller height. -/
theorem read_of_step {step : (Json → Option α) → Json → Option α} {write : α → Json}
    (h : ∀ (self : Json → Option α) (a : α),
      ReadsBelow self write (write a) → step self (write a) = some a) (a : α) :
  (write a).read step = some a
  := by
  have key : ∀ (n : Nat) (a : α), (write a).height ≤ n → knot step n (write a) = some a := by
    intro n
    induction n with
    | zero =>
      intro a ha
      exact absurd (height_pos (write a)) (Nat.not_lt.mpr ha)
    | succ n ih =>
      intro a ha
      apply h
      intro b hb
      apply ih
      apply Nat.le_of_lt_succ (Nat.lt_of_lt_of_le hb ha)
  apply key _ a (Nat.le_refl _)

/-! ### Fields of objects -/

/-- A field is the only one of its name when the names of a record differ. -/
theorem filter_name_eq {fields : List Field} {field : Field}
    (h : (fields.map Field.name).Nodup) (hmem : field ∈ fields) :
  fields.filter (fun f => f.name == field.name) = [field]
  := by
  induction fields with
  | nil => cases hmem
  | cons f fields ih =>
    obtain ⟨hf, hfields⟩ := List.nodup_cons.mp h
    rcases List.mem_cons.mp hmem with rfl | hmem
    · have hnone : fields.filter (fun f => f.name == field.name) = [] := by
        apply List.filter_eq_nil_iff.mpr
        intro g hg heq
        apply hf
        rw [← eq_of_beq heq]
        apply List.mem_map_of_mem hg
      rw [List.filter_cons, if_pos (beq_self_eq_true field.name), hnone]
    · have hne : ¬ (f.name == field.name) = true := by
        intro heq
        apply hf
        rw [eq_of_beq heq]
        apply List.mem_map_of_mem hmem
      rw [List.filter_cons, if_neg hne, ih hfields hmem]

/-- The slot of a field in the object of the fields that are kept. -/
theorem slot?_of_mem {fields : List Field} {field : Field} (kept : Field → Bool)
    (h : (fields.map Field.name).Nodup) (hmem : field ∈ fields) :
  slot? ((fields.filter kept).map fun f => (f.name, f.value)) field.name
    = some (if kept field then .given field.value else .unmentioned)
  := by
  have hfilter : ((fields.filter kept).map fun f => (f.name, f.value)).filter
      (fun member => member.1 == field.name)
      = ([field].filter kept).map fun f => (f.name, f.value) := by
    rw [List.filter_map, ← filter_name_eq h hmem, List.filter_filter, List.filter_filter]
    simp only [Function.comp_def, Bool.and_comm]
  rw [slot?, hfilter]
  by_cases hkept : kept field
  · rw [List.filter_cons_of_pos hkept, if_pos hkept]
    rfl
  · rw [List.filter_cons_of_neg hkept, if_neg hkept]
    rfl

/-- The slots of a record are found if the slot of each field is. -/
theorem slots?_of_forall {members : List (String × Json)} {slot : Field → Slot}
    {fields : List Field}
    (h : ∀ field ∈ fields, slot? members field.name = some (slot field)) :
  slots? members (fields.map Field.name) = some (fields.map slot)
  := by
  induction fields with
  | nil => rfl
  | cons field fields ih =>
    have hfields := ih fun f hf => h f (List.mem_cons_of_mem field hf)
    rw [List.map_cons, slots?, h field List.mem_cons_self, hfields]
    rfl

end Json

/-! ### Records -/

namespace Layout

open Json

variable {α : Type} (layout : Layout)

/-- Whether a record mentions a field. -/
def mentions (field : Field) : Bool :=
  layout ≠ .brief || !field.isDefault

/-- The slot that a written field is read back from. -/
def slot (field : Field) : Slot :=
  if layout.mentions field then .given field.value else .unmentioned

/-- A record whose fields have different names is read back field by field. -/
theorem record?_record {fields : List Field} {names : List String}
    (hnames : fields.map Field.name = names) (h : names.Nodup) :
  (layout.record fields).record? names = some (fields.map layout.slot)
  := by
  subst hnames
  cases layout with
  | full =>
    apply slots?_of_forall
    intro field hfield
    have hslot := slot?_of_mem (fun _ => true) h hfield
    rw [List.filter_eq_self.mpr fun _ _ => rfl] at hslot
    apply hslot
  | brief =>
    apply slots?_of_forall
    intro field hfield
    apply slot?_of_mem (fun field => !field.isDefault) h hfield
  | positional =>
    simp [record, record?, slot, mentions]

/-- A field without a default is written in every layout. -/
@[simp]
theorem mentions_plain (name : String) (value : Json) :
  layout.mentions (.plain name value) = true
  := by
  simp [mentions, Field.plain]

@[simp]
theorem required_slot_plain (name : String) (value : Json) (f : Json → Option α) :
  (layout.slot (.plain name value)).required f = f value
  := by
  rw [slot, if_pos (layout.mentions_plain name value)]
  rfl

/-- A field that is left out only where it holds its default is read back. -/
theorem orDefault_slot {field : Field} {f : Json → Option α} {a default : α}
    (hread : f field.value = some a) (hdefault : field.isDefault = true → default = a) :
  (layout.slot field).orDefault default f = some a
  := by
  by_cases hmentions : layout.mentions field
  · rw [slot, if_pos hmentions]
    apply hread
  · have hisDefault : field.isDefault = true := by
      simp only [mentions, Bool.or_eq_true, not_or, Bool.not_eq_true', Bool.not_eq_false]
        at hmentions
      apply hmentions.2
    rw [slot, if_neg hmentions]
    apply congrArg some (hdefault hisDefault)

/-- A field whose value may be left out if it is none. -/
@[simp]
theorem orDefault_none_slot {read : Json → Option α} {write : α → Json} {name : String}
    {a : Option α} (h : ∀ b, a = some b → read (write b) = some b)
    (hnull : ∀ b, write b ≠ .null) :
  (layout.slot ⟨name, ofOption write a, a.isNone⟩).orDefault none (nullable? read) = some a
  := by
  apply layout.orDefault_slot
  · apply nullable?_ofOption h hnull
  · intro hnone
    exact (Option.isNone_iff_eq_none.mp hnone).symm

/-- A field whose value may be left out if it is an empty list. -/
@[simp]
theorem orDefault_nil_slot {read : Json → Option α} {write : α → Json} {name : String}
    {as : List α} (h : ∀ a ∈ as, read (write a) = some a) :
  (layout.slot ⟨name, .ofList write as, as.isEmpty⟩).orDefault [] (list? read) = some as
  := by
  apply layout.orDefault_slot
  · apply list?_ofList h
  · intro hempty
    exact (List.isEmpty_iff.mp hempty).symm

/-- A field whose value may be left out if it is the given one. -/
@[simp]
theorem orDefault_beq_slot [BEq α] [LawfulBEq α] {read : Json → Option α} {write : α → Json}
    {name : String} {a default : α} (h : read (write a) = some a) :
  (layout.slot ⟨name, write a, a == default⟩).orDefault default read = some a
  := by
  apply layout.orDefault_slot
  · apply h
  · intro heq
    exact (eq_of_beq heq).symm

/-- The fields that a record mentions are less high than the record. -/
theorem height_lt_record {fields : List Field} {field : Field} (hmem : field ∈ fields)
    (hmentions : layout.mentions field) :
  field.value.height < (layout.record fields).height
  := by
  cases layout with
  | full =>
    apply height_lt_obj (List.mem_map_of_mem (f := fun f : Field => (f.name, f.value)) hmem)
  | brief =>
    have hkept : field ∈ fields.filter fun f => !f.isDefault :=
      List.mem_filter.mpr ⟨hmem, hmentions⟩
    apply height_lt_obj (List.mem_map_of_mem (f := fun f : Field => (f.name, f.value)) hkept)
  | positional => apply height_lt_arr (List.mem_map_of_mem hmem)

/-- A record is never written as null. -/
@[simp]
theorem record_ne_null (fields : List Field) :
  layout.record fields ≠ .null
  := by
  cases layout <;> simp [record]

end Layout

/-- What reads back all below a record reads back all below the value of a field that is written. -/
theorem Json.ReadsBelow.field {α : Type} {read : Json → Option α} {write : α → Json}
    {layout : Layout} {fields : List Field} (h : ReadsBelow read write (layout.record fields))
    {f : Field} (hmem : f ∈ fields) (hmentions : layout.mentions f) :
  ReadsBelow read write f.value
  := h.of_lt (layout.height_lt_record hmem hmentions)

/-- A field without a default is read back by what reads back all below the record. -/
theorem Json.ReadsBelow.read_field {α : Type} {read : Json → Option α} {write : α → Json}
    {layout : Layout} {fields : List Field} (h : ReadsBelow read write (layout.record fields))
    {name : String} {a : α} (hmem : .plain name (write a) ∈ fields) :
  read (write a) = some a
  := h a (layout.height_lt_record hmem (layout.mentions_plain name (write a)))

end InterfaceDocs
