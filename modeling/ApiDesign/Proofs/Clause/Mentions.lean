import ApiDesign.Proofs.Clause.NameLists
import ApiDesign.Proofs.Schema.Completion

/-!
Contract: name lists hold the first mentions of what clauses say.

Clauses can be applied by any rule for adding names to a name list. With the rule that appends whatever is said, a name
list records all mentions, in reading order and with repetitions. A change of name lists that turns one rule into the
one of the language turns the whole application into the one of the language. First mentions do that for the appending
rule.

Owns: application by a rule, the types that clauses give, types made by the language.
Does not own: whole designs (`Proofs.Design.Mentions`).
-/

namespace ApiDesign

/-! ## Application by a rule -/

section Rule

variable (add : List String → List String → List String)

/-- `Setting.set?` with another rule for adding names. -/
def Setting.setBy? (node : Node) : Setting → Option Node
  | .required names => node.modifyDetails? (Details.mapRequired (add names))
  | .services names => node.modify? .server fun server => { server with services := add names server.services }
  | what => what.set? node

/-- `Block.childSite` with another rule for adding names. -/
def Block.childSiteBy (name : String) (signature : Signature) : Node → Site
  | .view held => .listed (.view (held.mapNames (add [name])))
  | node => childSite name signature node

/-- `Block.site` with another rule for adding names. -/
def Block.siteBy (node : Node) : Block → Site
  | .attr name signature => childSiteBy add name signature node
  | .field _ name signature => childSiteBy add name signature node
  | what => what.site node

namespace Clause

mutual

/-- `Clause.apply` with another rule for adding names. -/
def applyBy : Clause → Node → Reporter → Outcome
  | .setting what, node, reporter =>
      match what.setBy? add node with
      | some changed => ⟨changed, reporter, none⟩
      | none => ⟨node, reportMisplaced what.call node reporter, none⟩
  | .block what clauses, node, reporter =>
      match what.siteBy add node with
      | .misplaced => skipping clauses node reporter ⟨node, reportMisplaced what.call node reporter, none⟩
      | .listed changed => skipping clauses node reporter ⟨changed, reporter, none⟩
      | .inside frame opened => closing what node frame (applyAllBy clauses opened (enterFrame frame reporter))
  | .failed _ diagnostic, node, reporter => ⟨node, reporter, some (reporter.locate diagnostic)⟩

/-- `Clause.applyAll` with another rule for adding names. -/
def applyAllBy : List Clause → Node → Reporter → Outcome
  | [], node, reporter => ⟨node, reporter, none⟩
  | clause :: rest, node, reporter =>
      match applyBy clause node reporter with
      | ⟨changed, after, none⟩ => applyAllBy rest changed after
      | ⟨changed, after, some diagnostic⟩ => ⟨changed, after, some diagnostic⟩

end

end Clause

/-- A change of name lists that turns a rule for adding names into the one of the language. -/
structure TurnsIntoFirsts (change : List String → List String) : Prop where
  empty : change [] = []
  added : ∀ names known, change (add names known) = addNames names (change known)

end Rule

/-- The rule that records every mention. -/
def recording (names known : List String) : List String := known ++ names

theorem turnsIntoFirsts_eraseDups : TurnsIntoFirsts recording List.eraseDups where
  empty := rfl
  added names known := (addNames_eraseDups names known).symm

/-! ## The rule of the language -/

theorem Setting.setBy?_addNames (node : Node) (what : Setting) : what.setBy? addNames node = what.set? node := by
  cases what <;> rfl

theorem Block.siteBy_addNames (node : Node) (what : Block) : what.siteBy addNames node = what.site node := by
  cases what <;> cases node <;> rfl

namespace Clause

mutual

/-- By the rule of the language, clauses are applied as the language applies them. -/
theorem applyBy_addNames : ∀ (clause : Clause) (node : Node) (reporter : Reporter),
    clause.applyBy addNames node reporter = clause.apply node reporter
  | .setting what, node, reporter => by
      unfold applyBy apply
      have same := Setting.setBy?_addNames node what
      cases outcome : what.set? node with
      | none => simp only [same, outcome]
      | some changed => simp only [same, outcome]
  | .block what clauses, node, reporter => by
      unfold applyBy apply
      rw [Block.siteBy_addNames]
      cases what.site node with
      | inside frame opened => exact congrArg (closing what node frame) (applyAllBy_addNames clauses opened _)
      | _ => rfl
  | .failed _ _, _, _ => by
      unfold applyBy apply
      rfl

theorem applyAllBy_addNames : ∀ (clauses : List Clause) (node : Node) (reporter : Reporter),
    applyAllBy addNames clauses node reporter = applyAll clauses node reporter
  | [], _, _ => by
      unfold applyAllBy applyAll
      rfl
  | clause :: rest, node, reporter => by
      unfold applyAllBy applyAll
      rw [applyBy_addNames clause node reporter]
      obtain ⟨changed, after, failure⟩ := clause.apply node reporter
      cases failure with
      | none => exact applyAllBy_addNames rest changed after
      | some diagnostic => rfl

end

end Clause

/-! ## Given types -/

/-- The type that a setting gives. -/
def Setting.givenType? : Setting → Option DataType
  | .type given => some given
  | _ => none

/-- The type that a block gives to what it opens. -/
def Block.givenType? : Block → Option DataType
  | .attr _ signature => signature.type
  | .field _ _ signature => signature.type
  | .hostVariable _ signature => signature.type
  | .payload signature => signature.type
  | .result signature => signature.type
  | .error _ signature => signature.type
  | _ => none

namespace Clause

mutual

/-- The types that a clause gives, those of clauses inside it included. -/
def givenTypes : Clause → List DataType
  | .setting what => what.givenType?.toList
  | .block what clauses => what.givenType?.toList ++ givenTypesOf clauses
  | .failed _ _ => []

/-- The types that clauses give. -/
def givenTypesOf : List Clause → List DataType
  | [] => []
  | clause :: rest => givenTypes clause ++ givenTypesOf rest

end

end Clause

/-! ## Simulation -/

section Simulation

variable {add : List String → List String → List String} {change : List String → List String}
  (turns : TurnsIntoFirsts add change)

include turns

theorem Details.mapRequired_added (names : List String) (details : Details) :
    (details.mapRequired (add names)).mapRequired change =
      { details.mapRequired change with
        validation := (details.mapRequired change).validation.addRequired names } := by
  simp [mapRequired, Validation.addRequired, turns.added]

theorem Setting.set?_mapNames (node : Node) (what : Setting)
    (given : ∀ type ∈ what.givenType?, type.mapRequired change = type) :
    what.set? (node.mapNames change) = (what.setBy? add node).map (Node.mapNames change) := by
  cases what with
  | description text => exact node.describe?_mapNames text
  | url address => exact node.setContactText?_mapNames address .url
  | name text => exact node.setContactText?_mapNames text .name
  | email address => exact node.setContactText?_mapNames address .email
  | metadata key text => exact node.annotate?_mapNames key text
  | apiText which text => exact node.modify?_mapNames fun _ => by cases which <;> rfl
  | required names => exact node.modifyDetails?_mapNames fun details => details.mapRequired_added turns names
  | defaultValue value => exact node.modifyDetails?_mapNames fun _ => rfl
  | type type =>
      refine node.modifyShape?_mapNames fun shape => ?_
      cases shape
      simp [given type rfl]
  | sample value => exact node.modifyDetails?_mapNames fun _ => rfl
  | sampleValue value => exact node.modify?_mapNames fun _ => rfl
  | rule limit => exact node.modifyDetails?_mapNames fun _ => by cases limit <;> rfl
  | services names =>
      refine node.modify?_mapNames fun server => ?_
      simp [Server.mapNames, Server.mapShapes, turns.added]
  | uri template => exact node.modify?_mapNames fun _ => rfl
  | qualifier which =>
      show (if (node.mapNames change).kind = .error then (node.mapNames change).annotate? which.mark "true" else none) =
        Option.map _ (if node.kind = .error then node.annotate? which.mark "true" else none)
      rw [Node.kind_mapNames, Node.annotate?_mapNames]
      split <;> rfl

/-- An attribute that nothing was said about has no required children. -/
theorem Attribute.mapRequired_fresh {type : DataType} (fixed : type.mapRequired change = type)
    (description : Option String) :
    (⟨type, { description := description }⟩ : Attribute).mapRequired change =
      ⟨type, { description := description }⟩ := by
  simp [fixed, Details.mapRequired, turns.empty]

theorem Attribute.mapRequired_given {given : Option DataType}
    (fixed : ∀ type ∈ given, type.mapRequired change = type) {usual : DataType}
    (usualFixed : usual.mapRequired change = usual) (description : Option String) :
    (⟨given.getD usual, { description := description }⟩ : Attribute).mapRequired change =
      ⟨given.getD usual, { description := description }⟩ := by
  cases given with
  | none => exact mapRequired_fresh turns usualFixed description
  | some type => exact mapRequired_fresh turns (fixed type rfl) description

theorem Block.childSite_mapNames (name : String) (signature : Signature) (node : Node)
    (given : ∀ type ∈ signature.type, type.mapRequired change = type) :
    childSite name signature (node.mapNames change) = (childSiteBy add name signature node).mapNames change := by
  have inShape : ∀ shape : Attribute, childSite name signature (.attr (shape.mapRequired change)) =
      (childSite name signature (.attr shape)).mapNames change := by
    intro shape
    obtain ⟨type, details⟩ := shape
    have opened : signature.shape.mapRequired change = signature.shape :=
      Attribute.mapRequired_given turns given (DataType.mapRequired_emptyObject change) _
    cases type <;> simp [childSite, Node.shape?, Site.mapNames, Node.mapNames, opened]
  cases node with
  | view held =>
      simp [childSite, childSiteBy, Site.mapNames, Node.mapNames, View.mapNames, View.select, turns.added]
  | attr shape => exact inShape shape
  | userType held => exact inShape held.shape
  | resultType held => exact inShape held.shape
  | error held => exact inShape held.shape
  | _ => rfl

theorem Block.site_mapNames (node : Node) (what : Block)
    (given : ∀ type ∈ what.givenType?, type.mapRequired change = type) :
    what.site (node.mapNames change) = (what.siteBy add node).mapNames change := by
  have fresh : ∀ signature : Signature, (∀ type ∈ signature.type, type.mapRequired change = type) →
      (Node.attr signature.shape).mapNames change = .attr signature.shape := fun signature given =>
    congrArg Node.attr (Attribute.mapRequired_given turns given (DataType.mapRequired_emptyObject change) _)
  cases what with
  | attr name signature => exact childSite_mapNames turns name signature node given
  | field tag name signature => exact childSite_mapNames turns name signature node given
  | attributes =>
      simp only [siteBy, site, Node.has_mapNames]
      split <;> rfl
  | method name => cases node <;> rfl
  | element =>
      simp only [siteBy, site, Node.shape?_mapNames]
      cases node.shape? with
      | none => rfl
      | some shape =>
          obtain ⟨type, details⟩ := shape
          cases type <;> rfl
  | key =>
      simp only [siteBy, site, Node.shape?_mapNames]
      cases node.shape? with
      | none => rfl
      | some shape =>
          obtain ⟨type, details⟩ := shape
          cases type <;> rfl
  | server name =>
      exact opening_mapNames _ _ node (by simp [Node.mapNames, Server.mapNames, Server.mapShapes, turns.empty])
  | host name =>
      have object := Attribute.mapRequired_fresh turns (DataType.mapRequired_emptyObject change) none
      exact opening_mapNames _ _ node (congrArg (fun shape => Node.host { name := name, uriVariables := shape }) object)
  | view name => exact opening_mapNames _ _ node (by simp [Node.mapNames, View.mapNames, turns.empty])
  | hostVariable name signature => exact opening_mapNames _ _ node (fresh signature given)
  | payload signature => exact opening_mapNames _ _ node (fresh signature given)
  | result signature => exact opening_mapNames _ _ node (fresh signature given)
  | error name signature =>
      have shape := Attribute.mapRequired_given turns given (DataType.mapRequired_named change ⟨errorResultName, none⟩)
        signature.description
      exact opening_mapNames _ _ node (congrArg (fun shape => Node.error ⟨name, shape, false⟩) shape)
  | _ => exact opening_mapNames _ _ node rfl

end Simulation

namespace Clause

variable {add : List String → List String → List String} {change : List String → List String}

mutual

/-- Applying a clause to changed name lists is applying it by the other rule and changing name lists afterwards. -/
theorem apply_mapNames (turns : TurnsIntoFirsts add change) :
    ∀ (clause : Clause) (node : Node) (reporter : Reporter),
      (∀ type ∈ clause.givenTypes, type.mapRequired change = type) →
      clause.apply (node.mapNames change) reporter = (clause.applyBy add node reporter).mapNames change
  | .setting what, node, reporter, given => by
      unfold apply applyBy
      rw [Setting.set?_mapNames turns node what fun type member => given type (by simpa [givenTypes] using member)]
      cases what.setBy? add node with
      | none => simp [Outcome.mapNames, reportMisplaced]
      | some changed => rfl
  | .block what clauses, node, reporter, given => by
      have ofBlock : ∀ type ∈ what.givenType?, type.mapRequired change = type := fun type member =>
        given type (List.mem_append_left _ (Option.mem_toList.mpr member))
      have ofClauses : ∀ type ∈ givenTypesOf clauses, type.mapRequired change = type := fun type member =>
        given type (List.mem_append_right _ member)
      unfold apply applyBy
      rw [Block.site_mapNames turns node what ofBlock]
      cases what.siteBy add node with
      | misplaced =>
          simp only [Site.mapNames, reportMisplaced, Node.kind_mapNames]
          exact skipping_mapNames clauses node reporter ⟨node, _, none⟩
      | listed changed => exact skipping_mapNames clauses node reporter ⟨changed, reporter, none⟩
      | inside frame opened =>
          simp only [Site.mapNames]
          rw [applyAll_mapNames turns clauses opened _ ofClauses, closing_mapNames]
  | .failed _ _, _, _, _ => by
      unfold apply applyBy
      rfl

theorem applyAll_mapNames (turns : TurnsIntoFirsts add change) :
    ∀ (clauses : List Clause) (node : Node) (reporter : Reporter),
      (∀ type ∈ givenTypesOf clauses, type.mapRequired change = type) →
      applyAll clauses (node.mapNames change) reporter = (applyAllBy add clauses node reporter).mapNames change
  | [], _, _, _ => by
      unfold applyAll applyAllBy
      rfl
  | clause :: rest, node, reporter, given => by
      have ofRest : ∀ type ∈ givenTypesOf rest, type.mapRequired change = type := fun type member =>
        given type (List.mem_append_right _ member)
      unfold applyAll applyAllBy
      rw [apply_mapNames turns clause node reporter fun type member => given type (List.mem_append_left _ member)]
      obtain ⟨changed, after, failure⟩ := clause.applyBy add node reporter
      cases failure with
      | none => exact applyAll_mapNames turns rest changed after ofRest
      | some diagnostic => rfl

end

end Clause

/-! ## Types made by the language -/

mutual

/-- A type that the language makes: a built-in one, a reference, or one composed of attributes that it makes. -/
inductive DataType.IsMade : DataType → Prop
  | primitive (builtIn : Primitive) : DataType.IsMade (.primitive builtIn)
  | named (reference : TypeRef) : DataType.IsMade (.named reference)
  | collection (reference : TypeRef) : DataType.IsMade (.collection reference)
  | array {element : Attribute} (ofElement : element.IsMade) : DataType.IsMade (.array element)
  | map {key value : Attribute} (ofKey : key.IsMade) (ofValue : value.IsMade) : DataType.IsMade (.map key value)
  | object {fields : List (String × Attribute)} (ofFields : ∀ field ∈ fields, field.2.IsMade) :
      DataType.IsMade (.object fields)

/-- An attribute that the language makes: a fresh attribute of a type, to which clauses were applied. -/
inductive Attribute.IsMade : Attribute → Prop
  | applied {type : DataType} {clauses : List Clause} {reporter : Reporter} {shape : Attribute} (ofType : type.IsMade)
      (ofGiven : ∀ given ∈ Clause.givenTypesOf clauses, given.IsMade)
      (made : (Clause.applyAll clauses (.attr (.ofType type)) reporter).node = .attr shape) : Attribute.IsMade shape

end

/-- Reducing name lists to their first mentions twice does no more than doing it once. -/
theorem Attribute.mapRequired_eraseDups_idem (shape : Attribute) :
    (shape.mapRequired List.eraseDups).mapRequired List.eraseDups = shape.mapRequired List.eraseDups := by
  have once : (requiring List.eraseDups).andThen (requiring List.eraseDups) = requiring List.eraseDups := by
    simp only [requiring, Transformation.andThen, DataType.transform, Transformation.mk.injEq, true_and]
    funext details
    simp [Details.mapRequired, eraseDups_eq_self (nodup_eraseDups _)]
  rw [mapRequired, mapRequired, Attribute.transform_transform, once]

/-- What clauses make of a fresh attribute has first mentions for name lists. -/
theorem Attribute.mapRequired_of_applied {type : DataType} {clauses : List Clause} {reporter : Reporter}
    {shape : Attribute} (ofType : type.mapRequired List.eraseDups = type)
    (ofGiven : ∀ given ∈ Clause.givenTypesOf clauses, given.mapRequired List.eraseDups = given)
    (made : (Clause.applyAll clauses (.attr (.ofType type)) reporter).node = .attr shape) :
    shape.mapRequired List.eraseDups = shape := by
  have fresh : (Node.attr (.ofType type)).mapNames List.eraseDups = .attr (.ofType type) :=
    congrArg Node.attr (mapRequired_fresh turnsIntoFirsts_eraseDups ofType none)
  have recorded := Clause.applyAll_mapNames turnsIntoFirsts_eraseDups clauses (.attr (.ofType type)) reporter ofGiven
  rw [fresh] at recorded
  rw [recorded, Outcome.mapNames] at made
  -- A change of name lists leaves the kind of an expression alone, so clauses recorded an attribute.
  cases raw : (Clause.applyAllBy recording clauses (.attr (.ofType type)) reporter).node with
  | attr recordedShape =>
      simp only [raw, Node.mapNames, Node.attr.injEq] at made
      rw [← made, mapRequired_eraseDups_idem]
  | _ => simp [raw, Node.mapNames] at made

mutual

/-- A type that the language makes repeats no name of a required child. -/
theorem DataType.IsMade.mapRequired_eq : ∀ {type : DataType}, type.IsMade → type.mapRequired List.eraseDups = type
  | _, .primitive _ => rfl
  | _, .named _ => rfl
  | _, .collection _ => rfl
  | _, .array ofElement => by rw [DataType.mapRequired_array, ofElement.mapRequired_eq]
  | _, .map ofKey ofValue => by rw [DataType.mapRequired_map, ofKey.mapRequired_eq, ofValue.mapRequired_eq]
  | _, @DataType.IsMade.object fields ofFields => by
      have same : ∀ field ∈ fields, (field.1, field.2.mapRequired List.eraseDups) = field := fun field member => by
        rw [(ofFields field member).mapRequired_eq]
      rw [DataType.mapRequired_object, List.map_congr_left same, List.map_id']

theorem Attribute.IsMade.mapRequired_eq :
    ∀ {shape : Attribute}, shape.IsMade → shape.mapRequired List.eraseDups = shape
  | _, .applied ofType ofGiven made =>
      Attribute.mapRequired_of_applied ofType.mapRequired_eq (fun given member => (ofGiven given member).mapRequired_eq)
        made

end

end ApiDesign
