import ApiDesign.Proofs.Schema.Aliases
import ApiDesign.Schema.Traversal

/-!
Contract: what a type means depends on the names that can be reached from it, and on no others.

Two vocabularies agree on some names if each of these names has the same shape in both, and the shapes refer to such
names only. A type that refers to such names only then means the same in both and accepts the same values, whatever
else the vocabularies know: following the one never leaves what they share.

Owns: `DataType.RefersWithin`, `Vocabulary.AgreeOn`, meaning and acceptance under it.
Does not own: vocabularies whose shapes differ in links (`Proofs.Schema.Relinking`).
-/

namespace ApiDesign

/-! ## References in a type -/

/-- Every reference in a type, shortcuts included and at any depth, has one of some names. -/
def DataType.RefersWithin (names : String → Prop) (type : DataType) : Prop :=
  (∀ reference ∈ type.reference?, names reference.name) ∧
    ∀ node ∈ type.nodes, ∀ reference ∈ node.type.reference?, names reference.name

variable {names : String → Prop}

/-- The references of an attribute are those of its nodes. -/
theorem Attribute.refersWithin_iff {shape : Attribute} :
    shape.type.RefersWithin names ↔ ∀ node ∈ shape.nodes, ∀ reference ∈ node.type.reference?, names reference.name := by
  cases shape
  simp only [Attribute.nodes, List.forall_mem_cons]
  rfl

namespace DataType

theorem RefersWithin.array {element : Attribute} (within : (DataType.array element).RefersWithin names) :
    element.type.RefersWithin names :=
  Attribute.refersWithin_iff.mpr fun node member => within.2 node (by rwa [DataType.nodes])

theorem RefersWithin.map {key value : Attribute} (within : (DataType.map key value).RefersWithin names) :
    key.type.RefersWithin names ∧ value.type.RefersWithin names := by
  constructor <;> refine Attribute.refersWithin_iff.mpr fun node member => within.2 node ?_
  · rw [DataType.nodes]
    exact List.mem_append_left _ member
  · rw [DataType.nodes]
    exact List.mem_append_right _ member

/-- The nodes of a field are among those of all fields. -/
theorem mem_fieldNodes_of_lookup {name : String} {field node : Attribute} (inField : node ∈ field.nodes) :
    ∀ {fields : List (String × Attribute)}, fields.lookup name = some field → node ∈ DataType.fieldNodes fields
  | (first, child) :: rest, found => by
      rw [DataType.fieldNodes]
      rw [List.lookup_cons] at found
      split at found
      · cases found
        exact List.mem_append_left _ inField
      · exact List.mem_append_right _ (mem_fieldNodes_of_lookup inField found)

theorem RefersWithin.field {fields : List (String × Attribute)} (within : (DataType.object fields).RefersWithin names)
    {name : String} {field : Attribute} (found : fields.lookup name = some field) : field.type.RefersWithin names :=
  Attribute.refersWithin_iff.mpr fun node member => within.2 node (mem_fieldNodes_of_lookup member found)

end DataType

/-- Every reference in the types of a meaning has one of some names. -/
def Meaning.RefersWithin (names : String → Prop) : Meaning → Prop
  | .anything => True
  | .itemsOf type => type.RefersWithin names
  | .concrete type => type.RefersWithin names

namespace Vocabulary

/-- Some names have the same shapes in both vocabularies, and these refer to such names only. -/
structure AgreeOn (names : String → Prop) (left right : Vocabulary) : Prop where
  shapeOf : ∀ name, names name → left.shapeOf name = right.shapeOf name
  closed : ∀ name shape, names name → left.shapeOf name = some shape → shape.type.RefersWithin names

variable {left right : Vocabulary}

/-! ## Meaning -/

section Following

variable {vocabulary : Vocabulary} {reference : TypeRef} {seen : List String}

theorem follow_of_met (met : reference.name ∈ seen) (bound : Nat) :
    vocabulary.follow bound seen (.named reference) = .anything := by
  unfold follow
  rw [if_pos (by simpa using met)]

theorem follow_of_unknown (unknown : vocabulary.shapeOf reference.name = none) (bound : Nat) :
    vocabulary.follow bound seen (.named reference) = .anything := by
  unfold follow
  split
  · rfl
  · rw [unknown]

theorem follow_of_known {shape : Attribute} (notMet : reference.name ∉ seen)
    (known : vocabulary.shapeOf reference.name = some shape) (bound : Nat) :
    vocabulary.follow (bound + 1) seen (.named reference) =
      vocabulary.follow bound (reference.name :: seen) shape.type := by
  conv_lhs => unfold follow
  rw [if_neg (by simpa using notMet)]
  simp only [known]

/-- One more known name leaves room among the names of a vocabulary. -/
theorem length_lt_of_known (distinct : seen.Nodup) (known : ∀ name ∈ seen, (vocabulary.shapeOf name).isSome)
    (notMet : reference.name ∉ seen) (isKnown : (vocabulary.shapeOf reference.name).isSome) :
    seen.length < vocabulary.names.length := by
  have longer := length_le_of_seen (List.nodup_cons.mpr ⟨notMet, distinct⟩) (List.forall_mem_cons.mpr ⟨isKnown, known⟩)
  rwa [List.length_cons] at longer

end Following

/-- A type that is no reference to a name is followed no further. -/
theorem AgreeOn.follow_of_end (agree : AgreeOn names left right) {type : DataType} (within : type.RefersWithin names)
    (isEnd : ∀ reference, type ≠ .named reference) (leftBound rightBound : Nat) (seen : List String) :
    left.follow leftBound seen type = right.follow rightBound seen type ∧
      (left.follow leftBound seen type).RefersWithin names := by
  cases type with
  | named reference => exact absurd rfl (isEnd reference)
  | collection shortcut =>
      have isWithin := within.1 shortcut rfl
      unfold Vocabulary.follow
      rw [← agree.shapeOf _ isWithin]
      split
      · exact ⟨rfl, trivial⟩
      · cases stands : left.shapeOf shortcut.name with
        | none => exact ⟨rfl, trivial⟩
        | some shape => exact ⟨rfl, agree.closed _ shape isWithin stands⟩
  | _ =>
      simp only [Vocabulary.follow]
      exact ⟨trivial, within⟩

/-- After some names that both vocabularies know, both follow a type to the same meaning, if each has steps enough for
the names it knows. -/
theorem AgreeOn.follow (agree : AgreeOn names left right) {leftBound rightBound : Nat} {seen : List String}
    {type : DataType} (enough : left.names.length ≤ leftBound + seen.length)
    (otherEnough : right.names.length ≤ rightBound + seen.length) (distinct : seen.Nodup)
    (known : ∀ name ∈ seen, (left.shapeOf name).isSome) (otherKnown : ∀ name ∈ seen, (right.shapeOf name).isSome)
    (within : type.RefersWithin names) :
    left.follow leftBound seen type = right.follow rightBound seen type ∧
      (left.follow leftBound seen type).RefersWithin names := by
  by_cases isNamed : ∃ reference, type = .named reference
  · obtain ⟨reference, rfl⟩ := isNamed
    have sameShape := agree.shapeOf _ (within.1 reference rfl)
    by_cases met : reference.name ∈ seen
    · rw [follow_of_met met, follow_of_met met]
      exact ⟨rfl, trivial⟩
    · cases stands : left.shapeOf reference.name with
      | none =>
          rw [follow_of_unknown stands, follow_of_unknown (sameShape ▸ stands)]
          exact ⟨rfl, trivial⟩
      | some shape =>
          have otherStands : right.shapeOf reference.name = some shape := sameShape ▸ stands
          -- Each vocabulary has a step left for this name, so neither search stops before the other.
          have room := length_lt_of_known distinct known met (by rw [stands]; rfl)
          have otherRoom := length_lt_of_known distinct otherKnown met (by rw [otherStands]; rfl)
          obtain ⟨leftRest, rfl⟩ : ∃ rest, leftBound = rest + 1 := ⟨leftBound - 1, by omega⟩
          obtain ⟨rightRest, rfl⟩ : ∃ rest, rightBound = rest + 1 := ⟨rightBound - 1, by omega⟩
          rw [follow_of_known met stands, follow_of_known met otherStands]
          exact agree.follow (by rw [List.length_cons]; omega) (by rw [List.length_cons]; omega)
            (List.nodup_cons.mpr ⟨met, distinct⟩) (List.forall_mem_cons.mpr ⟨by rw [stands]; rfl, known⟩)
            (List.forall_mem_cons.mpr ⟨by rw [otherStands]; rfl, otherKnown⟩)
            (agree.closed _ shape (within.1 reference rfl) stands)
  · exact agree.follow_of_end within (fun reference is => isNamed ⟨reference, is⟩) leftBound rightBound seen
termination_by leftBound

/-- A type that refers to shared names only means the same, and its meaning refers to such names only. -/
theorem AgreeOn.meaning (agree : AgreeOn names left right) {type : DataType} (within : type.RefersWithin names) :
    left.meaning type = right.meaning type ∧ (left.meaning type).RefersWithin names :=
  agree.follow (Nat.le_refl _) (Nat.le_refl _) List.nodup_nil (by simp) (by simp) within

theorem AgreeOn.fieldsOf?_eq (agree : AgreeOn names left right) {type : DataType} (within : type.RefersWithin names) :
    left.fieldsOf? type = right.fieldsOf? type := by
  rw [fieldsOf?, (agree.meaning within).1, fieldsOf?]

/-! ## Acceptance -/

mutual

/-- A type that refers to shared names only accepts the same values. -/
theorem AgreeOn.accepts_eq (agree : AgreeOn names left right) :
    ∀ (value : Value) {type : DataType}, type.RefersWithin names → left.accepts type value = right.accepts type value
  | .array items, type, within => by
      obtain ⟨same, meansWithin⟩ := agree.meaning within
      rw [accepts, accepts, ← same]
      cases means : left.meaning type with
      | anything => rfl
      | itemsOf item =>
          rw [means] at meansWithin
          exact agree.acceptsItems_eq items meansWithin
      | concrete final =>
          rw [means] at meansWithin
          cases final with
          | array element => exact agree.acceptsItems_eq items (DataType.RefersWithin.array meansWithin)
          | _ => rfl
  | .map entries, type, within => by
      obtain ⟨same, meansWithin⟩ := agree.meaning within
      rw [accepts, accepts, ← same]
      cases means : left.meaning type with
      | anything => rfl
      | itemsOf item => rfl
      | concrete final =>
          rw [means] at meansWithin
          cases final with
          | map key value =>
              obtain ⟨keyWithin, valueWithin⟩ := DataType.RefersWithin.map meansWithin
              exact agree.acceptsEntries_eq entries keyWithin valueWithin
          | object fields => exact agree.acceptsMembers_eq entries meansWithin
          | _ => rfl
  | .null, _, within => by simp only [accepts, (agree.meaning within).1]
  | .bool _, _, within => by simp only [accepts, (agree.meaning within).1]
  | .int _, _, within => by simp only [accepts, (agree.meaning within).1]
  | .float _, _, within => by simp only [accepts, (agree.meaning within).1]
  | .text _, _, within => by simp only [accepts, (agree.meaning within).1]
  | .bytes _, _, within => by simp only [accepts, (agree.meaning within).1]

theorem AgreeOn.acceptsItems_eq (agree : AgreeOn names left right) :
    ∀ (items : List Value) {type : DataType}, type.RefersWithin names →
      left.acceptsItems type items = right.acceptsItems type items
  | [], _, _ => rfl
  | item :: rest, type, within => by
      rw [acceptsItems, acceptsItems, agree.accepts_eq item within, agree.acceptsItems_eq rest within]

theorem AgreeOn.acceptsEntries_eq (agree : AgreeOn names left right) :
    ∀ (entries : List (Value × Value)) {keyType valueType : DataType}, keyType.RefersWithin names →
      valueType.RefersWithin names →
      left.acceptsEntries keyType valueType entries = right.acceptsEntries keyType valueType entries
  | [], _, _, _, _ => rfl
  | (key, value) :: rest, keyType, valueType, keyWithin, valueWithin => by
      rw [acceptsEntries, acceptsEntries, agree.accepts_eq key keyWithin, agree.accepts_eq value valueWithin,
        agree.acceptsEntries_eq rest keyWithin valueWithin]

theorem AgreeOn.acceptsMembers_eq (agree : AgreeOn names left right) :
    ∀ (entries : List (Value × Value)) {fields : List (String × Attribute)},
      (DataType.object fields).RefersWithin names →
      left.acceptsMembers fields entries = right.acceptsMembers fields entries
  | [], _, _ => rfl
  | (key, value) :: rest, fields, within => by
      rw [acceptsMembers, acceptsMembers, agree.acceptsMembers_eq rest within]
      congr 1
      cases found : key.text?.bind fun name => fields.lookup name with
      | none => rfl
      | some field =>
          obtain ⟨name, _, here⟩ := Option.bind_eq_some_iff.mp found
          exact agree.accepts_eq value (within.field here)

end

end Vocabulary

end ApiDesign
