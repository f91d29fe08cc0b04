import ApiDesign.Proofs.Clause.Mentions
import ApiDesign.Proofs.Design.FirstOfKey

/-!
Contract: what declarations mention is what the name lists of a design hold, each name once.

A design can be declared by any rule for adding names, as clauses can be applied by one. Registration looks at no name
list, so a change of name lists that turns the rule into the one of the language goes through every declaration. The
recorded design has all mentions in its name lists, the declared one their first mentions.

Owns: declaration by a rule, `ListsNamesOnce`.
Does not own: what evaluation does to name lists (`Proofs.Model.NameLists`).
-/

namespace ApiDesign

/-! ## Given types -/

/-- The types that an argument gives. -/
def Argument.givenTypes : Argument → List DataType
  | .text _ => []
  | .type given => [given]
  | .clauses held => Clause.givenTypesOf held

/-- The types that a declaration gives, at any depth. -/
def Declaration.givenTypes : Declaration → List DataType
  | .api _ clauses => Clause.givenTypesOf clauses
  | .service _ clauses => Clause.givenTypesOf clauses
  | .userType _ arguments => arguments.flatMap Argument.givenTypes
  | .resultType _ clauses => Clause.givenTypesOf clauses
  | .collectionOf _ clauses => Clause.givenTypesOf clauses

/-- The type and the clauses that are read stand in the arguments. -/
theorem Arguments.mem_of_read {call : String} {arguments : List Argument} {parsed : Arguments}
    (reads : Arguments.read call arguments = .ok parsed) :
    (∀ type ∈ parsed.signature.type, ∃ argument ∈ arguments, argument.type? = some type) ∧
      (parsed.clauses = [] ∨ .clauses parsed.clauses ∈ arguments) := by
  unfold Arguments.read at reads
  grind

/-- A change of name lists that fixes the types in arguments fixes what is read from them. -/
theorem Arguments.mapRequired_of_read {change : List String → List String} {call : String} {arguments : List Argument}
    {parsed : Arguments} (reads : Arguments.read call arguments = .ok parsed)
    (given : ∀ type ∈ arguments.flatMap Argument.givenTypes, type.mapRequired change = type) :
    (∀ type ∈ parsed.signature.type, type.mapRequired change = type) ∧
      ∀ type ∈ Clause.givenTypesOf parsed.clauses, type.mapRequired change = type := by
  obtain ⟨isType, areClauses⟩ := Arguments.mem_of_read reads
  constructor
  · intro type isGiven
    obtain ⟨argument, member, gives⟩ := isType type isGiven
    cases argument with
    | text reference =>
        cases gives
        rfl
    | type held =>
        cases gives
        exact given _ (List.mem_flatMap.mpr ⟨_, member, List.mem_cons_self⟩)
    | clauses _ => cases gives
  · rcases areClauses with none | inArguments
    · rw [none]
      exact fun _ member => absurd member List.not_mem_nil
    · exact fun type member => given type (List.mem_flatMap.mpr ⟨_, inArguments, member⟩)

/-! ## Registration -/

section Registration

variable {change : List String → List String}

theorem Node.root?_mapNames (node : Node) : (node.mapNames change).root? = node.root?.map (Root.mapNames change) := by
  cases node <;> rfl

namespace Registry

theorem objection?_mapNames (root : Root) (registry : Registry) :
    (registry.mapNames change).objection? (root.mapNames change) = registry.objection? root := by
  obtain ⟨phase, api, services, userTypes, resultTypes, index⟩ := registry
  cases root <;> cases api <;> rfl

theorem append_mapNames (root : Root) (registry : Registry) :
    (registry.mapNames change).append (root.mapNames change) = (registry.append root).mapNames change := by
  cases root <;> simp [append, mapNames, Root.mapNames, Api.mapNames, Service.mapNames, Service.mapShapes,
    UserType.mapShape, ResultType.mapNames, ResultType.mapShape]

theorem register_mapNames (root : Root) (registry : Registry) :
    (registry.mapNames change).register (root.mapNames change) =
      (registry.register root).map (Registry.mapNames change) := by
  rw [register, register, objection?_mapNames, append_mapNames]
  cases registry.objection? root <;> rfl

end Registry

end Registration

/-! ## Declaration by a rule -/

namespace Design

section Rule

variable (add : List String → List String → List String)

/-- `Design.declare` with another rule for adding names. -/
def declareBy (declaration : Declaration) (design : Design) : Design × Option Diagnostic :=
  match declaration.opening with
  | .error diagnostic => (design, some diagnostic)
  | .ok opening =>
      let outcome := Clause.applyAllBy add opening.clauses opening.node (design.reporter.enter opening.frame)
      let after : Design := { design with reporter := outcome.reporter.leave }
      match outcome.failure with
      | some diagnostic => (after, some diagnostic)
      | none => (after.register opening.frame outcome.node, none)

/-- `Design.declareEach` with another rule for adding names. -/
def declareEachBy (declarations : List Declaration) (design : Design) : Design :=
  declarations.foldl (fun design declaration => (design.declareBy add declaration).1) design

end Rule

/-- By the rule of the language, declarations are made as the language makes them. -/
theorem declareEachBy_addNames (declarations : List Declaration) (design : Design) :
    design.declareEachBy addNames declarations = design.declareEach declarations := by
  have each : ∀ (declaration : Declaration) (design : Design),
      design.declareBy addNames declaration = design.declare declaration := by
    intro declaration design
    unfold declareBy declare
    cases declaration.opening with
    | error diagnostic => rfl
    | ok opening =>
        have same := Clause.applyAllBy_addNames opening.clauses opening.node (design.reporter.enter opening.frame)
        cases failure :
            (Clause.applyAll opening.clauses opening.node (design.reporter.enter opening.frame)).failure with
        | none => simp only [same, failure]
        | some diagnostic => simp only [same, failure]
  simp only [declareEachBy, declareEach, each]

/-- The design with every name list changed. -/
def mapNames (change : List String → List String) (design : Design) : Design :=
  { design with registry := design.registry.mapNames change }

theorem register_mapNames {change : List String → List String} (frame : String) (node : Node) (design : Design) :
    (design.mapNames change).register frame (node.mapNames change) =
      (design.register frame node).mapNames change := by
  unfold register
  rw [Node.root?_mapNames]
  cases node.root? with
  | none => rfl
  | some root =>
      simp only [Option.map_some, mapNames, Registry.register_mapNames]
      cases design.registry.register root <;> rfl

section Simulation

variable {add : List String → List String → List String} {change : List String → List String}
  (turns : TurnsIntoFirsts add change)

include turns

/-- What a declaration begins with mentions no name yet. -/
theorem mapNames_of_opening {declaration : Declaration} {opening : Opening} (opens : declaration.opening = .ok opening)
    (given : ∀ type ∈ declaration.givenTypes, type.mapRequired change = type) :
    opening.node.mapNames change = opening.node ∧
      ∀ type ∈ Clause.givenTypesOf opening.clauses, type.mapRequired change = type := by
  unfold Declaration.opening at opens
  split at opens
  · cases opens
  · cases declaration with
    | api name clauses =>
        cases opens
        exact ⟨rfl, given⟩
    | service name clauses =>
        cases opens
        exact ⟨rfl, given⟩
    | resultType identifier clauses =>
        cases opens
        have object := Attribute.mapRequired_fresh turns (DataType.mapRequired_emptyObject change) none
        exact ⟨congrArg (fun shape => Node.resultType { ResultType.named identifier with shape := shape }) object,
          given⟩
    | collectionOf element clauses =>
        cases opens
        have reference := Attribute.mapRequired_fresh turns (DataType.mapRequired_named change ⟨element, none⟩) none
        have array := Attribute.mapRequired_fresh turns
          ((DataType.mapRequired_array change _).trans (congrArg DataType.array reference)) none
        exact ⟨congrArg (fun shape => Node.resultType { ResultType.collectionOf element with shape := shape }) array,
          given⟩
    | userType name arguments =>
        simp only [Declaration.begin] at opens
        split at opens
        · rename_i parsed reads
          cases opens
          obtain ⟨ofType, ofClauses⟩ := Arguments.mapRequired_of_read reads given
          have shape := Attribute.mapRequired_given turns ofType (DataType.mapRequired_emptyObject change)
            parsed.signature.description
          exact ⟨congrArg (fun shape => Node.userType ⟨name, shape⟩) shape, ofClauses⟩
        · cases opens

/-- Declaring into changed name lists is declaring by the other rule and changing name lists afterwards. -/
theorem declare_mapNames (declaration : Declaration) (design : Design)
    (given : ∀ type ∈ declaration.givenTypes, type.mapRequired change = type) :
    (design.mapNames change).declare declaration =
      ((design.declareBy add declaration).1.mapNames change, (design.declareBy add declaration).2) := by
  unfold declare declareBy
  cases opens : declaration.opening with
  | error diagnostic => rfl
  | ok opening =>
      obtain ⟨fresh, ofClauses⟩ := mapNames_of_opening turns opens given
      have applied := Clause.applyAll_mapNames turns opening.clauses opening.node
        (design.reporter.enter opening.frame) ofClauses
      rw [fresh] at applied
      simp only [mapNames, applied]
      obtain ⟨node, reporter, failure⟩ :=
        Clause.applyAllBy add opening.clauses opening.node (design.reporter.enter opening.frame)
      cases failure with
      | some diagnostic => rfl
      | none =>
          exact congrArg (·, none) (register_mapNames opening.frame node ⟨design.registry, reporter.leave⟩)

theorem declareEach_mapNames : ∀ (declarations : List Declaration) (design : Design),
    (∀ declaration ∈ declarations, ∀ type ∈ declaration.givenTypes, type.mapRequired change = type) →
      (design.mapNames change).declareEach declarations = (design.declareEachBy add declarations).mapNames change
  | [], _, _ => rfl
  | declaration :: rest, design, given => by
      rw [declareEach, List.foldl_cons, declare_mapNames turns declaration design (given _ List.mem_cons_self)]
      exact declareEach_mapNames rest (design.declareBy add declaration).1 fun other member =>
        given other (List.mem_cons_of_mem _ member)

end Simulation

/-- The built-in error type requires no child twice. -/
theorem mapNames_empty : empty.mapNames List.eraseDups = empty := by
  have distinct : errorResult.shape.required.eraseDups = errorResult.shape.required := by decide
  have builtIn : errorResult.mapShape (Attribute.mapRequired List.eraseDups) = errorResult := by
    simp only [Attribute.required, errorResult] at distinct
    simp [UserType.mapShape, errorResult, describedField, Details.mapRequired, distinct]
  show (⟨{ Registry.initial with
    userTypes := [errorResult.mapShape (Attribute.mapRequired List.eraseDups)] }, {}⟩ : Design) = empty
  rw [builtIn]
  rfl

/-- After any declarations, name lists hold the first mentions of what was recorded. -/
theorem registry_declareEach (declarations : List Declaration)
    (given : ∀ declaration ∈ declarations, ∀ type ∈ declaration.givenTypes,
      type.mapRequired List.eraseDups = type) :
    (empty.declareEach declarations).registry =
      (empty.declareEachBy recording declarations).registry.mapNames List.eraseDups := by
  have declared := declareEach_mapNames turnsIntoFirsts_eraseDups declarations empty given
  rw [mapNames_empty] at declared
  rw [declared]
  rfl

end Design

/-! ## Names listed once -/

/-- No attribute requires a child twice, no view selects an attribute twice, no server offers a service twice. -/
structure ListsNamesOnce (nodes : List Attribute) (views : List View) (servers : List Server) : Prop where
  required : ∀ node ∈ nodes, node.required.Nodup
  selected : ∀ view ∈ views, view.attributes.Nodup
  offered : ∀ server ∈ servers, server.services.Nodup

namespace Registry

/-- All views of result types. -/
def views (registry : Registry) : List View := registry.resultTypes.flatMap (·.views)

/-- In first mentions nothing is named twice. -/
theorem listsNamesOnce_mapNames (registry : Registry) :
    let firsts := registry.mapNames List.eraseDups
    ListsNamesOnce firsts.nodes firsts.views firsts.servers where
  required node member := by
    rw [nodes_mapNames] at member
    obtain ⟨raw, _, rfl⟩ := List.mem_map.mp member
    rw [Attribute.required_mapRequired]
    exact nodup_eraseDups _
  selected view member := by
    obtain ⟨_, inFirsts, inViews⟩ := List.mem_flatMap.mp member
    obtain ⟨resultType, _, rfl⟩ := List.mem_map.mp inFirsts
    obtain ⟨raw, _, rfl⟩ := List.mem_map.mp inViews
    exact nodup_eraseDups raw.attributes
  offered server member := by
    rw [servers_mapNames] at member
    obtain ⟨raw, _, rfl⟩ := List.mem_map.mp member
    exact nodup_eraseDups raw.services

end Registry

end ApiDesign
