import ApiDesign.Proofs.Schema.Visits

/-!
Contract: a wider type accepts whatever a narrower one accepts.

A type is widened at any depth at once: a built-in type gives way to one that accepts more, any type to `Any`, parts to
wider parts, and an object gets further fields. References stay as they are, so what they lead to is the same before
and after, in whatever vocabulary. An array, a map or an object accepts a value exactly if its parts are accepted; so
acceptance carries over from the parts, along the derivation that one type is wider than the other.

Owns: `DataType.WidensTo`, acceptance by composed types in terms of their parts.
Does not own: which values a reference accepts (`Proofs.Schema.Acceptance`).
-/

namespace ApiDesign

/-! ## Wider types -/

/-- Whether a built-in type gives way to another one: integers to wider ones and to floats, floats to each other, texts
to bytes, and everything to `Any`. -/
def Primitive.widensTo : Primitive → Primitive → Bool
  | _, .any => true
  | .int32, .int64 | .int32, .float32 | .int32, .float64 => true
  | .int64, .float32 | .int64, .float64 => true
  | .float32, .float64 | .float64, .float32 => true
  | .string, .bytes => true
  | narrow, wide => narrow == wide

mutual

/-- A type and a wider one. What is said about attributes besides their types may change in any way. -/
inductive DataType.WidensTo : DataType → DataType → Prop
  | same (type : DataType) : DataType.WidensTo type type
  | primitive {narrow wide : Primitive} (widens : narrow.widensTo wide = true) :
      DataType.WidensTo (.primitive narrow) (.primitive wide)
  | any (type : DataType) : DataType.WidensTo type (.primitive .any)
  | array {narrow wide : Attribute} (ofElement : narrow.type.WidensTo wide.type) :
      DataType.WidensTo (.array narrow) (.array wide)
  | map {narrowKey wideKey narrowValue wideValue : Attribute} (ofKey : narrowKey.type.WidensTo wideKey.type)
      (ofValue : narrowValue.type.WidensTo wideValue.type) :
      DataType.WidensTo (.map narrowKey narrowValue) (.map wideKey wideValue)
  | object {narrow wide : List (String × Attribute)} (ofFields : DataType.FieldsWidenTo narrow wide) :
      DataType.WidensTo (.object narrow) (.object wide)

/-- Fields and wider ones of the same names in the same order, with any others after them: the first field of a name
counts, so no field is hidden by a later one. -/
inductive DataType.FieldsWidenTo : List (String × Attribute) → List (String × Attribute) → Prop
  | appended (more : List (String × Attribute)) : DataType.FieldsWidenTo [] more
  | cons (name : String) {narrow wide : Attribute} {rest wideRest : List (String × Attribute)}
      (ofField : narrow.type.WidensTo wide.type) (ofRest : DataType.FieldsWidenTo rest wideRest) :
      DataType.FieldsWidenTo ((name, narrow) :: rest) ((name, wide) :: wideRest)

end

theorem Primitive.accepts_wider {narrow wide : Primitive} (widens : narrow.widensTo wide = true) {value : Value}
    (accepted : narrow.accepts value = true) : wide.accepts value = true := by
  cases narrow <;> cases wide <;> first | exact accepted | cases widens
  all_goals cases value <;> first | rfl | cases accepted

/-- What a name finds among fields, it finds wider among wider ones. -/
theorem DataType.FieldsWidenTo.exists_lookup : {narrow wide : List (String × Attribute)} →
    DataType.FieldsWidenTo narrow wide → {name : String} → {field : Attribute} → narrow.lookup name = some field →
      ∃ wider, wide.lookup name = some wider ∧ field.type.WidensTo wider.type
  | _, _, .appended _, _, _, found => by cases found
  | _, _, .cons here ofField ofRest, name, field, found => by
      rw [List.lookup_cons] at found ⊢
      by_cases same : name = here
      · rw [beq_iff_eq.mpr same] at found ⊢
        cases found
        exact ⟨_, rfl, ofField⟩
      · rw [beq_eq_false_iff_ne.mpr same] at found ⊢
        exact ofRest.exists_lookup found

namespace Vocabulary

variable {vocabulary : Vocabulary}

/-! ## Acceptance by parts -/

theorem accepts_primitive (builtIn : Primitive) (value : Value) :
    vocabulary.accepts (.primitive builtIn) value = builtIn.accepts value := by
  have means : vocabulary.meaning (.primitive builtIn) = .concrete (.primitive builtIn) :=
    meaning_eq_concrete (.concrete rfl)
  cases value <;> simp only [accepts, means]

theorem accepts_array_iff {element : Attribute} {value : Value} :
    vocabulary.accepts (.array element) value = true ↔
      ∃ items, value = .array items ∧ ∀ item ∈ items, vocabulary.accepts element.type item = true := by
  have means : vocabulary.meaning (.array element) = .concrete (.array element) :=
    meaning_eq_concrete (.concrete rfl)
  cases value <;> simp [accepts, means, acceptsItems_eq_all]

theorem accepts_map_iff {key item : Attribute} {value : Value} :
    vocabulary.accepts (.map key item) value = true ↔
      ∃ entries, value = .map entries ∧ ∀ entry ∈ entries,
        vocabulary.accepts key.type entry.1 = true ∧ vocabulary.accepts item.type entry.2 = true := by
  have means : vocabulary.meaning (.map key item) = .concrete (.map key item) :=
    meaning_eq_concrete (.concrete rfl)
  cases value <;> simp [accepts, means, acceptsEntries_eq_all]

theorem accepts_object_iff {fields : List (String × Attribute)} {value : Value} :
    vocabulary.accepts (.object fields) value = true ↔
      ∃ entries, value = .map entries ∧ ∀ entry ∈ entries, ∃ name field, entry.1.text? = some name ∧
        fields.lookup name = some field ∧ vocabulary.accepts field.type entry.2 = true := by
  have means : vocabulary.meaning (.object fields) = .concrete (.object fields) :=
    meaning_eq_concrete (.concrete rfl)
  cases value with
  | map entries =>
      simp only [accepts, means, acceptsMembers_eq_all, List.all_eq_true, Value.map.injEq, exists_eq_left']
      refine forall₂_congr fun entry _ => ?_
      cases entry.1.text? with
      | none => simp
      | some name => cases found : fields.lookup name <;> simp [found]
  | _ => simp [accepts, means]

/-! ## Acceptance by wider types -/

/-- In every vocabulary, a wider type accepts every value that the narrower one accepts. -/
theorem accepts_of_widensTo (vocabulary : Vocabulary) {narrow wide : DataType} (widens : narrow.WidensTo wide)
    (value : Value) (accepted : vocabulary.accepts narrow value = true) : vocabulary.accepts wide value = true := by
  -- A type has its parts where the value has, so the induction is on the levels of the value.
  induction levels : value.height using Nat.strongRecOn generalizing narrow wide value with
  | ind height inductionHypothesis =>
      subst levels
      have onParts : ∀ part ∈ value.parts, ∀ {narrow wide : DataType}, narrow.WidensTo wide →
          vocabulary.accepts narrow part = true → vocabulary.accepts wide part = true := by
        intro part isPart narrow wide widens accepted
        exact inductionHypothesis part.height (Value.height_lt_of_mem_parts isPart) widens part accepted rfl
      cases widens with
      | same => exact accepted
      | primitive widens =>
          rw [accepts_primitive] at accepted ⊢
          exact Primitive.accepts_wider widens accepted
      | any => exact accepts_primitive .any value
      | array ofElement =>
          obtain ⟨items, rfl, each⟩ := accepts_array_iff.mp accepted
          refine accepts_array_iff.mpr ⟨items, rfl, fun item member => ?_⟩
          exact onParts item member ofElement (each item member)
      | map ofKey ofValue =>
          obtain ⟨entries, rfl, each⟩ := accepts_map_iff.mp accepted
          refine accepts_map_iff.mpr ⟨entries, rfl, fun entry member => ?_⟩
          obtain ⟨isKey, isValue⟩ := Value.mem_parts_of_mem member
          obtain ⟨keyAccepted, valueAccepted⟩ := each entry member
          exact ⟨onParts entry.1 isKey ofKey keyAccepted, onParts entry.2 isValue ofValue valueAccepted⟩
      | object ofFields =>
          obtain ⟨entries, rfl, each⟩ := accepts_object_iff.mp accepted
          refine accepts_object_iff.mpr ⟨entries, rfl, fun entry member => ?_⟩
          obtain ⟨name, field, isText, found, fieldAccepts⟩ := each entry member
          obtain ⟨wider, foundWider, ofField⟩ := ofFields.exists_lookup found
          exact ⟨name, wider, isText, foundWider,
            onParts entry.2 (Value.mem_parts_of_mem member).2 ofField fieldAccepts⟩

end Vocabulary

/-- A vocabulary of one type, which refers to itself. -/
def treeVocabulary : Vocabulary where
  shapeOf name := if name = "Tree" then some (.ofType (.array (.ofType (.reference "Tree")))) else none
  names := ["Tree"]
  covers := by
    intro name known
    by_cases same : name = "Tree"
    · exact List.mem_singleton.mpr same
    · rw [if_neg same] at known
      cases known

def seedlingType : DataType :=
  .object [("tree", .ofType (.reference "Tree")), ("height", .ofType (.primitive .int32)),
    ("labels", .ofType (.map .string (.ofType (.array .string)))), ("origin", .object)]

/-- Seedlings with wider heights, labels and origins, and one more field. -/
def plantType : DataType :=
  .object [("tree", .ofType (.reference "Tree")), ("height", .ofType (.primitive .float64)),
    ("labels", .ofType (.map (.ofType (.primitive .bytes)) (.ofType (.array (.ofType (.primitive .bytes)))))),
    ("origin", .ofType (.primitive .any)), ("age", .ofType (.primitive .int64))]

theorem accepts_of_widensTo_plant :
    seedlingType.WidensTo plantType ∧ ∃ seedling,
      seedling = .map [(.text "tree", .array [.array []]), (.text "height", .int 2),
        (.text "labels", .map [(.text "leaf", .array [.text "green"])]), (.text "origin", .map [])] ∧
      treeVocabulary.accepts seedlingType seedling = true ∧ treeVocabulary.accepts plantType seedling = true := by
  have labels : DataType.WidensTo (.map .string (.ofType (.array .string)))
      (.map (.ofType (.primitive .bytes)) (.ofType (.array (.ofType (.primitive .bytes))))) :=
    .map (.primitive rfl) (.array (.primitive rfl))
  have widens : seedlingType.WidensTo plantType :=
    .object (.cons _ (.same _) (.cons _ (.primitive rfl) (.cons _ labels (.cons _ (.any _) (.appended _)))))
  have accepted : treeVocabulary.accepts seedlingType (.map [(.text "tree", .array [.array []]),
      (.text "height", .int 2), (.text "labels", .map [(.text "leaf", .array [.text "green"])]),
      (.text "origin", .map [])]) = true := by decide +kernel
  exact ⟨widens, _, rfl, accepted, treeVocabulary.accepts_of_widensTo widens _ accepted⟩

end ApiDesign
