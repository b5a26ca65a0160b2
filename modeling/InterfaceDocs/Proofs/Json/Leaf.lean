import InterfaceDocs.Proofs.Json.Record

/-!
# Reading back the small types

Positions, locations, identifiers, paths, flags and attributes are read back.  Fields that hold
a location or attributes are read back from their slots, where a placeholder location and an
empty list of attributes may be left out.  `leavesReadBack` lists all these types.
-/

namespace InterfaceDocs

open Json

variable (layout : Layout)

/-- A list of texts is read back. -/
@[simp]
theorem Json.list?_strings (ss : List String) :
  list? string? (.ofList .str ss) = some ss
  := by
  apply list?_ofList
  intro s _
  apply string?_str s

/-! ### Locations -/

/-- A position is read back. -/
@[simp]
theorem Position.ofJson?_toJson (p : Position) :
  Position.ofJson? (p.toJson layout) = some p
  := by
  rw [Position.ofJson?, Position.toJson, layout.record?_record]
  · simp
  · rfl
  · decide

/-- A location is read back, also when the flag that marks it as a placeholder is left out. -/
@[simp]
theorem Location.ofJson?_toJson (l : Location) :
  Location.ofJson? (l.toJson layout) = some l
  := by
  rw [Location.ofJson?, Location.toJson, layout.record?_record]
  · have hghost : (layout.slot ⟨"loc_ghost", .bool l.ghost, !l.ghost⟩).orDefault false bool?
        = some l.ghost := by
      apply layout.orDefault_slot
      · rfl
      · simp
    simp [hghost]
  · rfl
  · decide

/-- A location is read back from its slot, which may be empty for the placeholder location. -/
@[simp]
theorem Location.ofSlot_field (name : String) (l : Location) :
  Location.ofSlot (layout.slot (l.field layout name)) = some l
  := by
  apply layout.orDefault_beq_slot
  apply l.ofJson?_toJson layout

/-- A value with a location is read back if the value is. -/
theorem Located.ofJson?_toJson {α : Type} {read : Json → Option α} {write : α → Json}
    (h : ∀ a, read (write a) = some a) (x : Located α) :
  Located.ofJson? read (x.toJson layout write) = some x
  := by
  rw [Located.ofJson?, Located.toJson, layout.record?_record]
  · simp [h]
  · rfl
  · decide

/-! ### Names -/

/-- An identifier is read back, also when its flags are zero and left out. -/
@[simp]
theorem Ident.ofJson?_toJson (x : Ident) :
  Ident.ofJson? (x.toJson layout) = some x
  := by
  rw [Ident.ofJson?, Ident.toJson, layout.record?_record]
  · have hflags : (layout.slot ⟨"flags", .int x.flags.toNat, x.flags == 0⟩).orDefault 0 uint8?
        = some x.flags := by
      apply layout.orDefault_slot
      · apply uint8?_int x.flags
      · intro h
        exact (eq_of_beq h).symm
    simp [hflags]
  · rfl
  · decide

/-- A long identifier is read back. -/
@[simp]
theorem LongIdent.ofJson?_toJson (x : LongIdent) :
  LongIdent.ofJson? x.toJson = some x
  := by
  apply read_of_step _ x
  intro self x h
  cases x with
  | ident name => rfl
  | dot head name =>
    have hhead : self head.toJson = some head := h.content.read_item (by simp)
    simp [LongIdent.toJson, LongIdent.step, variant?, tagged, hhead]
  | apply functor argument =>
    have hfunctor : self functor.toJson = some functor := h.content.read_item (by simp)
    have hargument : self argument.toJson = some argument := h.content.read_item (by simp)
    simp [LongIdent.toJson, LongIdent.step, variant?, tagged, hfunctor, hargument]

/-- A path is read back. -/
@[simp]
theorem Path.ofJson?_toJson (p : Path) :
  Path.ofJson? (p.toJson layout) = some p
  := by
  apply read_of_step _ p
  intro self p h
  cases p with
  | ident x => simp [Path.toJson, Path.step, variant?, tagged]
  | dot head name =>
    have hhead : self (head.toJson layout) = some head := h.content.read_item (by simp)
    simp [Path.toJson, Path.step, variant?, tagged, hhead]
  | apply functor argument =>
    have hfunctor : self (functor.toJson layout) = some functor :=
      h.content.read_item (by simp)
    have hargument : self (argument.toJson layout) = some argument :=
      h.content.read_item (by simp)
    simp [Path.toJson, Path.step, variant?, tagged, hfunctor, hargument]

/-! ### Flags -/

@[simp]
theorem RecFlag.ofJson?_toJson (flag : RecFlag) :
  RecFlag.ofJson? flag.toJson = some flag
  := by
  cases flag <;> rfl

@[simp]
theorem PrivateFlag.ofJson?_toJson (flag : PrivateFlag) :
  PrivateFlag.ofJson? flag.toJson = some flag
  := by
  cases flag <;> rfl

@[simp]
theorem MutableFlag.ofJson?_toJson (flag : MutableFlag) :
  MutableFlag.ofJson? flag.toJson = some flag
  := by
  cases flag <;> rfl

@[simp]
theorem VirtualFlag.ofJson?_toJson (flag : VirtualFlag) :
  VirtualFlag.ofJson? flag.toJson = some flag
  := by
  cases flag <;> rfl

@[simp]
theorem ClosedFlag.ofJson?_toJson (flag : ClosedFlag) :
  ClosedFlag.ofJson? flag.toJson = some flag
  := by
  cases flag <;> rfl

@[simp]
theorem VarianceMark.ofJson?_toJson (mark : VarianceMark) :
  VarianceMark.ofJson? mark.toJson = some mark
  := by
  cases mark <;> rfl

@[simp]
theorem Injectivity.ofJson?_toJson (mark : Injectivity) :
  Injectivity.ofJson? mark.toJson = some mark
  := by
  cases mark <;> rfl

/-- The label of an argument is read back. -/
@[simp]
theorem ArgLabel.ofJson?_toJson (label : ArgLabel) :
  ArgLabel.ofJson? label.toJson = some label
  := by
  cases label <;> rfl

/-- A variance is read back with each of its bits. -/
@[simp]
theorem Variance.ofJson?_toJson (v : Variance) :
  Variance.ofJson? v.toJson = some v
  := by
  simp [Variance.ofJson?, Variance.toJson]

/-! ### Attributes -/

/-- The payload of an attribute is read back, and so is the location of a text in it. -/
@[simp]
theorem AttributePayload.ofJson?_toJson (payload : AttributePayload) :
  AttributePayload.ofJson? payload.toJson = some payload
  := by
  cases payload <;> rfl

/-- An attribute is read back. -/
@[simp]
theorem Attribute.ofJson?_toJson (a : Attribute) :
  Attribute.ofJson? (a.toJson layout) = some a
  := by
  rw [Attribute.ofJson?, Attribute.toJson, layout.record?_record]
  · have hname := a.name.ofJson?_toJson layout string?_str
    simp [hname]
  · rfl
  · decide

/-- Attributes are read back from their slot, which may be empty when there are none. -/
@[simp]
theorem Attribute.listOfSlot_listField (name : String) (as : List Attribute) :
  Attribute.listOfSlot (layout.slot (Attribute.listField layout name as)) = some as
  := by
  apply layout.orDefault_nil_slot
  intro a _
  apply a.ofJson?_toJson layout

/-- The small types of the input format are read back. -/
structure LeavesReadBack : Prop where
  positions : ReadsBack Position.ofJson? Position.toJson
  locations : ReadsBack Location.ofJson? Location.toJson
  locatedStrings : ReadsBack (Located.ofJson? string?) fun layout x => x.toJson layout .str
  locatedLongIdents :
    ReadsBack (Located.ofJson? LongIdent.ofJson?) fun layout x => x.toJson layout LongIdent.toJson
  idents : ReadsBack Ident.ofJson? Ident.toJson
  paths : ReadsBack Path.ofJson? Path.toJson
  longIdents : ReadsBack LongIdent.ofJson? fun _ => LongIdent.toJson
  recFlags : ReadsBack RecFlag.ofJson? fun _ => RecFlag.toJson
  privateFlags : ReadsBack PrivateFlag.ofJson? fun _ => PrivateFlag.toJson
  mutableFlags : ReadsBack MutableFlag.ofJson? fun _ => MutableFlag.toJson
  virtualFlags : ReadsBack VirtualFlag.ofJson? fun _ => VirtualFlag.toJson
  closedFlags : ReadsBack ClosedFlag.ofJson? fun _ => ClosedFlag.toJson
  varianceMarks : ReadsBack VarianceMark.ofJson? fun _ => VarianceMark.toJson
  injectivities : ReadsBack Injectivity.ofJson? fun _ => Injectivity.toJson
  labels : ReadsBack ArgLabel.ofJson? fun _ => ArgLabel.toJson
  variances : ReadsBack Variance.ofJson? fun _ => Variance.toJson
  payloads : ReadsBack AttributePayload.ofJson? fun _ => AttributePayload.toJson
  attributes : ReadsBack Attribute.ofJson? Attribute.toJson

/-- All small types are read back, in every layout. -/
theorem leavesReadBack :
  LeavesReadBack
  where
  positions := Position.ofJson?_toJson
  locations := Location.ofJson?_toJson
  locatedStrings := fun layout => Located.ofJson?_toJson layout string?_str
  locatedLongIdents := fun layout => Located.ofJson?_toJson layout LongIdent.ofJson?_toJson
  idents := Ident.ofJson?_toJson
  paths := Path.ofJson?_toJson
  longIdents := fun _ => LongIdent.ofJson?_toJson
  recFlags := fun _ => RecFlag.ofJson?_toJson
  privateFlags := fun _ => PrivateFlag.ofJson?_toJson
  mutableFlags := fun _ => MutableFlag.ofJson?_toJson
  virtualFlags := fun _ => VirtualFlag.ofJson?_toJson
  closedFlags := fun _ => ClosedFlag.ofJson?_toJson
  varianceMarks := fun _ => VarianceMark.ofJson?_toJson
  injectivities := fun _ => Injectivity.ofJson?_toJson
  labels := fun _ => ArgLabel.ofJson?_toJson
  variances := fun _ => Variance.ofJson?_toJson
  payloads := fun _ => AttributePayload.ofJson?_toJson
  attributes := Attribute.ofJson?_toJson

end InterfaceDocs
