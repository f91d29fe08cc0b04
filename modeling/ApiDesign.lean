import ApiDesign.Evaluation.Basic
import ApiDesign.Model.Agreement
import ApiDesign.Proofs.Evaluation.Order
import ApiDesign.Proofs.Model.CollectionNames
import ApiDesign.Proofs.Model.Defaults
import ApiDesign.Proofs.Model.Selections
import ApiDesign.Proofs.Model.Shortcuts
import ApiDesign.Proofs.Model.Views
import ApiDesign.Proofs.Clause.Failure
import ApiDesign.Proofs.Design.FirstOfKey
import ApiDesign.Proofs.Evaluation.Leftovers
import ApiDesign.Proofs.ResultType.TypeName
import ApiDesign.Proofs.Evaluation.CollectionChains
import ApiDesign.Proofs.Evaluation.DistinctNames
import ApiDesign.Proofs.Model.DistinctNames
import ApiDesign.Proofs.Clause.Trails
import ApiDesign.Proofs.Design.Unrelated
import ApiDesign.Proofs.Evaluation.Agreement
import ApiDesign.Proofs.Evaluation.DiagnosticOrder
import ApiDesign.Proofs.Evaluation.ShapeFree
import ApiDesign.Proofs.Evaluation.Trails
import ApiDesign.Proofs.Evaluation.Unrelated
import ApiDesign.Proofs.Model.RequiredNames
import ApiDesign.Proofs.Model.Preservation
import ApiDesign.Proofs.Registry.Lifecycle
import ApiDesign.Proofs.Registry.Sealing
import ApiDesign.Proofs.Value.Keys
import ApiDesign.Proofs.Model.NamedTypes
import ApiDesign.Proofs.Model.HostUris
import ApiDesign.Proofs.Evaluation.Locations
import ApiDesign.Proofs.Evaluation.Exactness
import ApiDesign.Proofs.Model.Errors
import ApiDesign.Proofs.Model.Examples
import ApiDesign.Proofs.Clause.Misplaced
import ApiDesign.Proofs.Evaluation.Unresolved
import ApiDesign.Proofs.Registry.Resolution
import ApiDesign.Proofs.ResultType.DerivedNames
import ApiDesign.Proofs.Schema.Widening
import ApiDesign.Proofs.Evaluation.MissingDefaults
import ApiDesign.Proofs.Evaluation.StrictPreparation
import ApiDesign.Proofs.Model.NameLists
