import ApiDesign.Evaluation.Collections
import ApiDesign.Evaluation.Defaults

/-!
Contract: a registry made ready for checking.

Collections are named and shortcuts replaced, then everything left unsaid is filled in, then the registry is sealed.
-/

namespace ApiDesign.Registry

/-- The registry with named collections, and the duplicates among their names. -/
def nameCollections (suffix : String) (registry : Registry) : Registry × List Diagnostic :=
  let naming := Naming.run suffix registry.resultTypes
  ({ registry with resultTypes := naming.resultTypes }.reindex, naming.diagnostics)

/-- The registry ready for checking, and what was found on the way. -/
def prepare (settings : Settings) (registry : Registry) : Registry × List Diagnostic :=
  let (named, duplicates) := registry.beginPreparing.nameCollections settings.collectionSuffix
  let (generated, refusals) := Generation.run settings.collectionSuffix named
  ((generated.markExamples settings).canonicalViews.shareErrors.toSealed, duplicates ++ refusals)

end ApiDesign.Registry
