import ApiDesign.Proofs.Sorting
import ApiDesign.Registry.Basic
import Mathlib.Data.List.Find
import Mathlib.Data.List.Nodup

/-!
Contract: the index of a registry agrees with its declarations.

`Registry.IsIndexed` says that the index knows a name of a kind at a place exactly when the declaration of that kind
at that place has that name. It holds of the registry before the first declaration; registering and sealing keep it,
and rebuilding the index brings it about whenever no name is used twice within a kind.

Owns: `Registry.names`, `Registry.IsIndexed`, its preservation, the look-ups it makes exact.
Does not own: the index of types by any of their names (`Proofs.Registry.TypeIndex`).
-/

namespace ApiDesign

/-! ## Look-up in an association list -/

theorem map_fst_zipIdx {α κ υ : Type} (key : α → κ) (value : Nat → υ) (items : List α) :
    (items.zipIdx.map fun entry => (key entry.1, value entry.2)).map Prod.fst = items.map key := by
  calc (items.zipIdx.map fun entry => (key entry.1, value entry.2)).map Prod.fst
      = (items.zipIdx.map Prod.fst).map key := by rw [List.map_map, List.map_map]; rfl
    _ = items.map key := by rw [List.zipIdx_map_fst]

section Entries

variable {κ υ : Type} [BEq κ] [LawfulBEq κ]

/-- With distinct keys, an entry is found exactly if it is there. -/
theorem lookup_eq_some_iff_mem {entries : List (κ × υ)} (distinct : (entries.map Prod.fst).Nodup) {key : κ}
    {value : υ} : entries.lookup key = some value ↔ (key, value) ∈ entries := by
  induction entries with
  | nil => simp
  | cons head rest inductionHypothesis =>
      obtain ⟨headKey, headValue⟩ := head
      rw [List.map_cons, List.nodup_cons] at distinct
      rw [List.lookup_cons, List.mem_cons]
      by_cases same : key = headKey
      · subst same
        have absent : (key, value) ∉ rest := by
          intro member
          exact distinct.1 (List.mem_map.mpr ⟨(key, value), member, rfl⟩)
        simp [absent, eq_comm]
      · have different : (key == headKey) = false := beq_eq_false_iff_ne.mpr same
        simp [different, same, inductionHypothesis distinct.2]

theorem mem_of_lookup {entries : List (κ × υ)} {key : κ} {value : υ} (found : entries.lookup key = some value) :
    (key, value) ∈ entries := by
  obtain ⟨before, after, entriesAre, _⟩ := List.lookup_eq_some_iff.mp found
  rw [entriesAre]
  simp

theorem lookup_eq_none_iff_notMem {entries : List (κ × υ)} {key : κ} :
    entries.lookup key = none ↔ key ∉ entries.map Prod.fst := by
  simp only [List.lookup_eq_none_iff, List.mem_map, bne_iff_ne, ne_eq]
  grind

/-- With distinct keys, the order of the entries does not matter. -/
theorem lookup_reverse {entries : List (κ × υ)} (distinct : (entries.map Prod.fst).Nodup) (key : κ) :
    entries.reverse.lookup key = entries.lookup key := by
  have reversed : (entries.reverse.map Prod.fst).Nodup := by
    rw [List.map_reverse, List.nodup_reverse]
    exact distinct
  apply Option.ext
  intro value
  rw [lookup_eq_some_iff_mem reversed, lookup_eq_some_iff_mem distinct, List.mem_reverse]

/-- In a numbered list the number of the first item with a key is found. -/
theorem lookup_zipIdx {α : Type} (key : α → κ) (value : Nat → υ) (items : List α) (start : Nat) (wanted : κ) :
    ((items.zipIdx start).map fun entry => (key entry.1, value entry.2)).lookup wanted =
      (items.findIdx? fun item => key item == wanted).map fun position => value (start + position) := by
  induction items generalizing start with
  | nil => rfl
  | cons head rest inductionHypothesis =>
      simp only [List.zipIdx_cons, List.map_cons, List.lookup_cons, List.findIdx?_cons]
      by_cases same : key head = wanted
      · simp [same]
      · have different : ¬ wanted = key head := fun equal => same equal.symm
        simp only [beq_eq_false_iff_ne.mpr same, beq_eq_false_iff_ne.mpr different, Bool.false_eq_true, if_false]
        rw [inductionHypothesis, Option.map_map]
        simp [Function.comp_def, Nat.add_comm, Nat.add_left_comm]

end Entries

/-! ## Look-up among named items -/

section Named

variable {α : Type} {name : α → String}

/-- With distinct names, an item is found by its name exactly if it is there. -/
theorem find?_eq_some_iff_mem {items : List α} (distinct : (items.map name).Nodup) {wanted : String} {item : α} :
    items.find? (fun item => name item == wanted) = some item ↔ item ∈ items ∧ name item = wanted := by
  constructor
  · intro first
    exact ⟨List.mem_of_find?_eq_some first, by simpa using List.find?_some first⟩
  · rintro ⟨member, named⟩
    cases first : items.find? fun item => name item == wanted with
    | none => simpa [named] using List.find?_eq_none.mp first item member
    | some other =>
        have otherNamed : name other = wanted := by simpa using List.find?_some first
        have same := List.inj_on_of_nodup_map distinct (List.mem_of_find?_eq_some first) member
          (otherNamed.trans named.symm)
        rw [same]

/-- Among items with distinct names, the order does not matter for finding one by name. -/
theorem find?_eq_of_perm {left right : List α} (permutation : left.Perm right)
    (distinct : (left.map name).Nodup) (wanted : String) :
    left.find? (fun item => name item == wanted) = right.find? fun item => name item == wanted := by
  refine List.find?_eq_find?_of_perm permutation ?_
  rintro first ⟨firstMember, firstNamed⟩ second ⟨secondMember, secondNamed⟩
  exact List.inj_on_of_nodup_map distinct firstMember secondMember
    ((beq_iff_eq.mp firstNamed).trans (beq_iff_eq.mp secondNamed).symm)

end Named

/-! ## Names -/

namespace Registry

/-- The names of the declarations of a kind, in their order. -/
def names (kind : RootKind) (registry : Registry) : List String :=
  match kind with
  | .api => registry.api.toList.map (·.name)
  | .service => registry.services.map (·.name)
  | .userType => registry.userTypes.map (·.name)
  | .resultType => registry.resultTypes.map (·.identifier)

/-- The index knows each name at its place and nothing else. -/
def IsIndexed (registry : Registry) : Prop :=
  ∀ kind name position,
    registry.index.find? kind name = some position ↔ (registry.names kind)[position]? = some name

namespace IsIndexed

variable {registry : Registry}

/-- No name is used twice within a kind. -/
theorem nodup (indexed : registry.IsIndexed) (kind : RootKind) : (registry.names kind).Nodup := by
  rw [List.Nodup, List.pairwise_iff_getElem]
  intro first second firstBelow secondBelow before same
  have atFirst := (indexed kind _ first).mpr (List.getElem?_eq_getElem firstBelow)
  have atSecond := (indexed kind _ second).mpr (List.getElem?_eq_getElem secondBelow)
  rw [same, atSecond] at atFirst
  have equal : second = first := Option.some.inj atFirst
  omega

/-- A key is taken exactly if a declaration of the kind has the name. -/
theorem contains_iff (indexed : registry.IsIndexed) {kind : RootKind} {name : String} :
    registry.contains kind name = true ↔ name ∈ registry.names kind := by
  rw [contains, Option.isSome_iff_exists, List.mem_iff_getElem?]
  constructor
  · rintro ⟨position, found⟩
    exact ⟨position, (indexed kind name position).mp found⟩
  · rintro ⟨position, atPosition⟩
    exact ⟨position, (indexed kind name position).mpr atPosition⟩

/-- The place that the index gives is the first one of the name. -/
theorem find?_eq_findIdx? (indexed : registry.IsIndexed) (kind : RootKind) (name : String) :
    registry.index.find? kind name = (registry.names kind).findIdx? (· == name) := by
  apply Option.ext
  intro position
  rw [indexed kind name position, List.findIdx?_eq_some_iff_getElem]
  constructor
  · intro atPosition
    obtain ⟨below, named⟩ := List.getElem?_eq_some_iff.mp atPosition
    refine ⟨below, by simp [named], ?_⟩
    intro earlier before
    have different := List.pairwise_iff_getElem.mp (indexed.nodup kind) earlier position (by omega) below before
    simpa [named] using different
  · rintro ⟨below, named, _⟩
    rw [List.getElem?_eq_getElem below]
    simpa using named

end IsIndexed

end Registry

/-! ## Changes of the index -/

namespace DeclarationIndex

/-- An entry that was just set is found; it hides nothing else. -/
theorem find?_insert (kind other : RootKind) (name wanted : String) (position : Nat) (index : DeclarationIndex) :
    (index.insert kind name position).find? other wanted =
      if (other, wanted) = (kind, name) then some position else index.find? other wanted := by
  unfold insert find?
  rw [List.lookup_cons]
  by_cases same : (other, wanted) = (kind, name)
  · rw [if_pos same, beq_iff_eq.mpr same]
  · rw [if_neg same, beq_eq_false_iff_ne.mpr same]

/-- The entries that setting several places puts in front, the last place first. -/
theorem entries_insertAll (kind : RootKind) (names : List String) (start : Nat) (index : DeclarationIndex) :
    (index.insertAll kind start names).entries =
      ((names.zipIdx start).map fun entry => ((kind, entry.1), entry.2)).reverse ++ index.entries := by
  induction names generalizing start index with
  | nil => rfl
  | cons head rest inductionHypothesis =>
      simp only [insertAll, List.zipIdx_cons, List.map_cons, List.reverse_cons]
      rw [inductionHypothesis]
      simp [insert]

end DeclarationIndex

namespace Registry

/-! ## Building the index anew -/

/-- The entries that the declarations of a kind make. -/
def entriesOf (kind : RootKind) (registry : Registry) : List ((RootKind × String) × Nat) :=
  ((registry.names kind).zipIdx.map fun entry => ((kind, entry.1), entry.2)).reverse

theorem mem_entriesOf {kind other : RootKind} {name : String} {position : Nat} {registry : Registry} :
    ((other, name), position) ∈ registry.entriesOf kind ↔
      other = kind ∧ (registry.names kind)[position]? = some name := by
  simp only [entriesOf, List.mem_reverse, List.mem_map, Prod.mk.injEq, Prod.exists]
  constructor
  · rintro ⟨_, _, member, ⟨rfl, rfl⟩, rfl⟩
    exact ⟨rfl, List.mem_zipIdx_iff_getElem?.mp member⟩
  · rintro ⟨rfl, atPosition⟩
    exact ⟨name, position, List.mem_zipIdx_iff_getElem?.mpr atPosition, ⟨rfl, rfl⟩, rfl⟩

theorem nodup_keys_entriesOf {kind : RootKind} {registry : Registry} (distinct : (registry.names kind).Nodup) :
    ((registry.entriesOf kind).map Prod.fst).Nodup := by
  have keys : (registry.entriesOf kind).map Prod.fst =
      ((registry.names kind).map fun name => (kind, name)).reverse := by
    rw [entriesOf, List.map_reverse, List.map_map]
    congr 1
    calc (registry.names kind).zipIdx.map (Prod.fst ∘ fun entry => ((kind, entry.1), entry.2))
        = ((registry.names kind).zipIdx.map Prod.fst).map fun name => (kind, name) := by
          rw [List.map_map]
          rfl
      _ = (registry.names kind).map fun name => (kind, name) := by rw [List.zipIdx_map_fst]
  rw [keys, List.nodup_reverse]
  exact distinct.map fun _ _ same => (Prod.mk.inj same).2

theorem entries_reindex (registry : Registry) :
    registry.reindex.index.entries =
      registry.entriesOf .resultType ++ (registry.entriesOf .userType ++
        (registry.entriesOf .service ++ registry.entriesOf .api)) := by
  simp only [reindex, DeclarationIndex.entries_insertAll]
  cases present : registry.api <;> simp [entriesOf, names, present, DeclarationIndex.insert]

theorem mem_entries_reindex {kind : RootKind} {name : String} {position : Nat} {registry : Registry} :
    ((kind, name), position) ∈ registry.reindex.index.entries ↔
      (registry.names kind)[position]? = some name := by
  simp only [entries_reindex, List.mem_append, mem_entriesOf]
  cases kind <;> simp

theorem nodup_keys_reindex {registry : Registry} (distinct : ∀ kind, (registry.names kind).Nodup) :
    (registry.reindex.index.entries.map Prod.fst).Nodup := by
  have apart : ∀ {left right : RootKind}, left ≠ right →
      ((registry.entriesOf left).map Prod.fst).Disjoint ((registry.entriesOf right).map Prod.fst) := by
    intro left right different key inLeft inRight
    obtain ⟨⟨⟨_, _⟩, _⟩, leftMember, rfl⟩ := List.mem_map.mp inLeft
    obtain ⟨⟨⟨_, _⟩, _⟩, rightMember, same⟩ := List.mem_map.mp inRight
    have leftKind := (mem_entriesOf.mp leftMember).1
    have rightKind := (mem_entriesOf.mp rightMember).1
    have sameKind := congrArg Prod.fst same
    simp only at sameKind
    exact different (leftKind.symm.trans (sameKind.symm.trans rightKind))
  rw [entries_reindex]
  simp only [List.map_append, List.nodup_append', List.disjoint_append_right]
  exact ⟨nodup_keys_entriesOf (distinct _),
    ⟨nodup_keys_entriesOf (distinct _),
      ⟨nodup_keys_entriesOf (distinct _), nodup_keys_entriesOf (distinct _), apart (by decide)⟩,
      apart (by decide), apart (by decide)⟩,
    apart (by decide), apart (by decide), apart (by decide)⟩

@[simp] theorem names_reindex (kind : RootKind) (registry : Registry) :
    registry.reindex.names kind = registry.names kind := by
  cases kind <;> rfl

/-- Rebuilding the index makes it agree with the declarations, as long as no name is used twice within a kind. -/
theorem isIndexed_reindex {registry : Registry} (distinct : ∀ kind, (registry.names kind).Nodup) :
    registry.reindex.IsIndexed := by
  intro kind name position
  rw [names_reindex, DeclarationIndex.find?, lookup_eq_some_iff_mem (nodup_keys_reindex distinct),
    mem_entries_reindex]

/-! ## Registration and sealing -/

theorem isIndexed_initial : initial.IsIndexed := by
  intro kind name position
  have built : initial.index = ({} : DeclarationIndex).insert .userType errorResultName 0 := rfl
  rw [built, DeclarationIndex.find?_insert]
  by_cases same : (kind, name) = (RootKind.userType, errorResultName)
  · obtain ⟨rfl, rfl⟩ := Prod.mk.inj same
    rw [if_pos rfl]
    cases position <;> simp [names, initial, errorResult]
  · rw [if_neg same]
    cases kind <;> simp [names, initial, DeclarationIndex.find?]
    have different : errorResultName ≠ name := fun equal => same (by rw [equal])
    cases position <;> simp [errorResult, different]

/-- Nothing speaks against a declaration whose kind is admitted and whose key is free; an API must be the first. -/
theorem objection?_eq_none_iff {root : Root} {registry : Registry} :
    registry.objection? root = none ↔
      registry.phase.admits root.kind = true ∧ (root.kind = .api → registry.api = none) ∧
        registry.contains root.kind root.name = false := by
  unfold objection?
  cases admitted : registry.phase.admits root.kind with
  | false => simp
  | true =>
      have decided : ∀ (taken : Bool) (cause : Cause),
          (if taken then some cause else none) = none ↔ taken = false := by
        intro taken cause
        cases taken <;> simp
      simp only [Bool.not_true, Bool.false_eq_true, if_false, true_and]
      cases root <;> cases registry.api <;> simp [Root.kind] <;> exact decided _ _

theorem names_append {root : Root} {registry : Registry} (vacant : root.kind = .api → registry.api = none)
    (kind : RootKind) :
    (registry.append root).names kind =
      if kind = root.kind then registry.names kind ++ [root.name] else registry.names kind := by
  cases root <;> cases kind <;> simp [append, names, Root.kind, Root.name]
  simp [vacant rfl]

theorem index_append {root : Root} {registry : Registry} (vacant : root.kind = .api → registry.api = none) :
    (registry.append root).index =
      registry.index.insert root.kind root.name (registry.names root.kind).length := by
  cases root <;> simp [append, names, Root.kind, Root.name]
  simp [vacant rfl]

/-- A declaration under a free key leaves the index in agreement with the declarations. -/
theorem IsIndexed.append {root : Root} {registry : Registry} (indexed : registry.IsIndexed)
    (free : registry.objection? root = none) : (registry.append root).IsIndexed := by
  obtain ⟨_, vacant, notTaken⟩ := objection?_eq_none_iff.mp free
  intro kind name position
  rw [names_append vacant, index_append vacant, DeclarationIndex.find?_insert]
  by_cases sameKind : kind = root.kind
  · subst sameKind
    rw [if_pos rfl, List.getElem?_append]
    by_cases sameName : name = root.name
    · subst sameName
      rw [if_pos rfl]
      have absent : root.name ∉ registry.names root.kind := by
        intro member
        rw [indexed.contains_iff.mpr member] at notTaken
        exact Bool.noConfusion notTaken
      by_cases below : position < (registry.names root.kind).length
      · rw [if_pos below]
        constructor
        · intro last
          have equal := Option.some.inj last
          omega
        · intro found
          exact absurd (List.mem_of_getElem? found) absent
      · rw [if_neg below]
        constructor
        · intro last
          have equal := Option.some.inj last
          simp [equal]
        · intro found
          obtain ⟨atLast, _⟩ := List.getElem?_eq_some_iff.mp found
          simp only [List.length_singleton] at atLast
          congr 1
          omega
    · rw [if_neg fun same => sameName (Prod.mk.inj same).2, indexed _ _ _]
      by_cases below : position < (registry.names root.kind).length
      · rw [if_pos below]
      · rw [if_neg below, List.getElem?_eq_none (by omega)]
        cases position - (registry.names root.kind).length <;> simp [Ne.symm sameName]
  · rw [if_neg sameKind, if_neg fun same => sameKind (Prod.mk.inj same).1]
    exact indexed kind name position

/-- Registration leaves the index in agreement with the declarations. -/
theorem IsIndexed.register {root : Root} {registry after : Registry} (indexed : registry.IsIndexed)
    (registered : registry.register root = .ok after) : after.IsIndexed := by
  unfold Registry.register at registered
  cases free : registry.objection? root with
  | some cause => simp [free] at registered
  | none =>
      simp only [free, Except.ok.injEq] at registered
      rw [← registered]
      exact indexed.append free

/-- Sealing keeps the names of each kind and puts them in ascending order. -/
theorem names_toSealed_perm (kind : RootKind) (registry : Registry) :
    (registry.toSealed.names kind).Perm (registry.names kind) := by
  cases kind with
  | api => exact List.Perm.refl _
  | service => exact (sortByName_perm _ _).map _
  | userType => exact (sortByName_perm _ _).map _
  | resultType => exact (sortByName_perm _ _).map _

theorem IsIndexed.toSealed {registry : Registry} (indexed : registry.IsIndexed) : registry.toSealed.IsIndexed := by
  apply isIndexed_reindex
  intro kind
  have distinct := (names_toSealed_perm kind registry).nodup_iff.mpr (indexed.nodup kind)
  rwa [Registry.toSealed, names_reindex] at distinct

end Registry

end ApiDesign
