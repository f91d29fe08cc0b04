import ApiDesign.Node

/-!
Contract: a change of what expressions of one kind hold.

An expression is known from its kind and from what it holds. So whatever is true of such a change is proved for all
kinds at once: of an expression of the kind, by what the change does to what it holds, and for the others there is
nothing to prove.

Owns: the laws of `Node.of`, `Node.content?` and `Node.modify?`.
-/

namespace ApiDesign

namespace Node

theorem exists_eq_of {kind : Kind} {node : Node} (ofKind : node.kind = kind) : ∃ held, node = of kind held := by
  subst ofKind
  cases node <;> exact ⟨_, rfl⟩

@[simp] theorem content?_of (kind : Kind) (held : kind.Content) : (of kind held).content? kind = some held := by
  cases kind <;> rfl

theorem content?_eq_none {kind : Kind} {node : Node} (different : node.kind ≠ kind) : node.content? kind = none := by
  unfold content?
  split <;> first | rfl | exact absurd rfl different

theorem modify?_of (kind : Kind) (change : kind.Content → kind.Content) (held : kind.Content) :
    (of kind held).modify? kind change = some (of kind (change held)) := by
  rw [modify?, content?_of, Option.map_some]

theorem modify?_eq_none {kind : Kind} {node : Node} (different : node.kind ≠ kind)
    (change : kind.Content → kind.Content) : node.modify? kind change = none := by
  rw [modify?, content?_eq_none different, Option.map_none]

/-- An expression is changed if it is of the kind, and what becomes of it is of the kind too. -/
theorem modify?_eq_some_iff {kind : Kind} {change : kind.Content → kind.Content} {node changed : Node} :
    node.modify? kind change = some changed ↔ ∃ held, node = of kind held ∧ changed = of kind (change held) := by
  constructor
  · intro changes
    by_cases ofKind : node.kind = kind
    · obtain ⟨held, rfl⟩ := exists_eq_of ofKind
      rw [modify?_of, Option.some.injEq] at changes
      exact ⟨held, rfl, changes.symm⟩
    · rw [modify?_eq_none ofKind] at changes
      cases changes
  · rintro ⟨held, rfl, rfl⟩
    exact modify?_of kind change held

end Node

end ApiDesign
