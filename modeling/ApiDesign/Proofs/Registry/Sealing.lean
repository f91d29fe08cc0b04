import ApiDesign.Proofs.Registry.Lifecycle
import ApiDesign.Proofs.Registry.Rearranged
import ApiDesign.Proofs.Text.ByteOrder

/-!
Contract: a sealed registry does not know in which order its declarations were registered.

Sealing sorts each kind of declarations by name, and names are distinct, so declarations registered in any order end in
one order. Whatever an indexed registry answers follows from its declarations and their order alone; so two sealed
registries of the same declarations answer every question alike.

Owns: `Registry.HoldsTheSame`, `Registry.AnswersAlike`, `Registry.IsAscending`.
-/

namespace ApiDesign.Registry

/-- The same declarations in the same order. -/
structure HoldsTheSame (left right : Registry) : Prop where
  api : left.api = right.api
  services : left.services = right.services
  userTypes : left.userTypes = right.userTypes
  resultTypes : left.resultTypes = right.resultTypes

/-- The same answers about every name. -/
structure AnswersAlike (left right : Registry) : Prop where
  typeIndex : left.typeIndex = right.typeIndex
  contains : ∀ kind name, left.contains kind name = right.contains kind name
  resolve : ∀ name, left.resolve name = right.resolve name
  resultTypePosition : ∀ name, left.resultTypePosition? name = right.resultTypePosition? name
  shapeOf : ∀ name, left.shapeOf? name = right.shapeOf? name

/-- The declarations of each kind stand in strictly ascending order of the bytes of their names. -/
structure IsAscending (registry : Registry) : Prop where
  services : registry.services.Pairwise fun left right => Text.utf8 left.name < Text.utf8 right.name
  userTypes : registry.userTypes.Pairwise fun left right => Text.utf8 left.name < Text.utf8 right.name
  resultTypes : registry.resultTypes.Pairwise fun left right =>
    Text.utf8 left.identifier < Text.utf8 right.identifier

variable {left right registry : Registry}

theorem HoldsTheSame.names (same : left.HoldsTheSame right) (kind : RootKind) : left.names kind = right.names kind := by
  cases kind with
  | api => rw [Registry.names, Registry.names, same.api]
  | service => rw [Registry.names, Registry.names, same.services]
  | userType => rw [Registry.names, Registry.names, same.userTypes]
  | resultType => rw [Registry.names, Registry.names, same.resultTypes]

/-- What an indexed registry answers follows from its declarations, however its index came about. -/
theorem HoldsTheSame.answersAlike (same : left.HoldsTheSame right) (indexed : left.IsIndexed)
    (otherIndexed : right.IsIndexed) : left.AnswersAlike right := by
  have resolved : ∀ name, left.resolve? name = right.resolve? name := by
    intro name
    rw [indexed.resolve?_eq_denoted?, otherIndexed.resolve?_eq_denoted?, denoted?, denoted?, same.names, same.names,
      same.resultTypes]
  refine ⟨?typeIndex, ?contains, ?resolve, ?resultTypePosition, ?shapeOf⟩
  case typeIndex => rw [Registry.typeIndex, Registry.typeIndex, same.userTypes, same.resultTypes]
  case contains =>
    intro kind name
    rw [Bool.eq_iff_iff, indexed.contains_iff, otherIndexed.contains_iff, same.names]
  case resolve =>
    intro name
    rw [Registry.resolve, Registry.resolve, resolved]
  case resultTypePosition =>
    intro name
    rw [indexed.resultTypePosition?_eq, otherIndexed.resultTypePosition?_eq, same.resultTypes]
  case shapeOf =>
    intro name
    have sameShape : ∀ target, left.shapeAt? target = right.shapeAt? target := by
      intro target
      cases target with
      | user position => rw [shapeAt?, shapeAt?, same.userTypes]
      | result position => rw [shapeAt?, shapeAt?, same.resultTypes]
    rw [shapeOf?, shapeOf?, resolved, funext sameShape]

/-- Sealing puts rearranged declarations into one order. -/
theorem Rearranged.holdsTheSame (rearranged : left.Rearranged right) : left.toSealed.HoldsTheSame right.toSealed where
  api := rearranged.api
  services := sortByName_eq_of_perm rearranged.services (rearranged.indexed.nodup .service)
  userTypes := sortByName_eq_of_perm rearranged.userTypes (rearranged.indexed.nodup .userType)
  resultTypes := sortByName_eq_of_perm rearranged.resultTypes (rearranged.indexed.nodup .resultType)

theorem pairwise_utf8_sortByName {α : Type} (name : α → String) (items : List α) (distinct : (items.map name).Nodup) :
    (sortByName name items).Pairwise fun left right => Text.utf8 (name left) < Text.utf8 (name right) :=
  (pairwise_lt_sortByName name items distinct).imp fun before => (Text.lt_iff_utf8_lt _ _).mp before

theorem IsIndexed.isAscending_toSealed (indexed : registry.IsIndexed) : registry.toSealed.IsAscending where
  services := pairwise_utf8_sortByName _ _ (indexed.nodup .service)
  userTypes := pairwise_utf8_sortByName _ _ (indexed.nodup .userType)
  resultTypes := pairwise_utf8_sortByName _ _ (indexed.nodup .resultType)

/-- Roots that can all be registered can be registered in any order, and after sealing nothing tells the two orders
apart: the declarations are the same, in strictly ascending order, and so are the answers about every name. -/
theorem toSealed_of_perm {roots others : List Root} (permutation : roots.Perm others)
    (registered : registerAll roots initial = .ok registry) :
    ∃ other, registerAll others initial = .ok other ∧ other.toSealed.HoldsTheSame registry.toSealed ∧
      other.toSealed.IsAscending ∧ other.toSealed.AnswersAlike registry.toSealed := by
  obtain ⟨other, otherRegistered, rearranged⟩ :=
    registerAll_perm permutation (Rearranged.refl isIndexed_initial) registered
  have same := rearranged.symm.holdsTheSame
  have indexed := rearranged.otherIndexed
  exact ⟨other, otherRegistered, same, indexed.isAscending_toSealed,
    same.answersAlike indexed.toSealed rearranged.indexed.toSealed⟩

/-- A user type, two result types of one type name and a service, in two orders. -/
def bottleRoots : List Root :=
  [.resultType { identifier := "b/x", typeName := "Bottle" }, .service { name := "cellar" },
    .userType ⟨"Vintage", Attribute.string⟩, .resultType { identifier := "a/x", typeName := "Bottle" }]

theorem toSealed_bottleRoots :
    ∃ registry, registerAll bottleRoots initial = .ok registry ∧
      ∃ other, registerAll bottleRoots.reverse initial = .ok other ∧ other.toSealed.HoldsTheSame registry.toSealed ∧
        other.toSealed.IsAscending ∧ other.toSealed.AnswersAlike registry.toSealed :=
  ⟨_, rfl, toSealed_of_perm (List.reverse_perm bottleRoots).symm rfl⟩

end ApiDesign.Registry
