import ApiDesign.ResultType.Basic

/-!
Contract: what can be configured about an evaluation.
-/

namespace ApiDesign

/-- Whether examples may be generated at all, and the ending of the type names of collections. -/
structure Settings where
  generateExamples : Bool := true
  collectionSuffix : String := ResultType.defaultSuffix
deriving DecidableEq, Repr

/-- The settings that switch examples off. -/
def Settings.withoutExamples : Settings := { generateExamples := false }

end ApiDesign
