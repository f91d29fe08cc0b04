import ApiDesign.Clause.Arguments
import ApiDesign.Proofs.Clause.Application

/-!
Contract: which calls make an application fail, and with what.

A design is written in calls, some of them with argument lists. A call is at fault by itself if its arguments have none
of the six shapes, if it needs an argument and has none, or if it was made to fail; what stands in the arguments of a
call at fault is not read. Building the clause of a call predicts the fault of the first such call in reading order,
and applying the clause fails with it, whatever it is applied to and whether or not what encloses it is in place.

Owns: the shapes of argument lists, `Call`, its reading order and its faults, the failure of every application.
Does not own: what an application changes (`Proofs.Clause.Identity`).
-/

namespace ApiDesign

@[simp] theorem Reporter.cause_locate (reporter : Reporter) (diagnostic : Diagnostic) :
    (reporter.locate diagnostic).cause = diagnostic.cause := by
  unfold Reporter.locate Diagnostic.locate
  split <;> rfl

/-! ## Failing applications -/

namespace Clause

/-- A clause is a failed call or holds one, at any depth. -/
inductive HasFailed : Clause → Prop
  | failed (call : String) (diagnostic : Diagnostic) : HasFailed (.failed call diagnostic)
  | inside {what : Block} {clauses : List Clause} {clause : Clause} (member : clause ∈ clauses)
      (fails : HasFailed clause) : HasFailed (.block what clauses)

theorem failure_skipping {clauses : List Clause} {node : Node} {reporter : Reporter} {skipped : Outcome}
    (succeeds : skipped.failure = none) :
    (skipping clauses node reporter skipped).failure.map (·.cause) = (firstFailure? clauses).map (·.cause) := by
  unfold skipping
  cases firstFailure? clauses with
  | none => simp [succeeds]
  | some diagnostic => simp

theorem failure_closing (what : Block) (node : Node) (frame : Option String) (inner : Outcome) :
    (closing what node frame inner).failure = inner.failure := by
  unfold closing
  cases failure : inner.failure <;> rfl

mutual

/-- A clause fails with the cause that reading it predicts, whatever it is applied to. -/
theorem failure_apply :
    ∀ (clause : Clause) (node : Node) (reporter : Reporter),
      (clause.apply node reporter).failure.map (·.cause) = clause.failure?.map (·.cause)
  | .setting what, node, reporter => by
      unfold apply failure?
      cases what.set? node <;> rfl
  | .block what clauses, node, reporter => by
      unfold apply failure?
      cases what.site node with
      | misplaced => exact failure_skipping rfl
      | listed changed => exact failure_skipping rfl
      | inside frame opened =>
          simp only [failure_closing]
          exact failure_applyAll clauses opened (enterFrame frame reporter)
  | .failed _ diagnostic, node, reporter => by
      simp [apply, failure?]

theorem failure_applyAll :
    ∀ (clauses : List Clause) (node : Node) (reporter : Reporter),
      (applyAll clauses node reporter).failure.map (·.cause) = (firstFailure? clauses).map (·.cause)
  | [], _, _ => rfl
  | clause :: rest, node, reporter => by
      have first := failure_apply clause node reporter
      unfold applyAll firstFailure?
      cases outcome : clause.apply node reporter with
      | mk changed after failure =>
          rw [outcome] at first
          cases failure with
          | none =>
              have nothing : clause.failure? = none := by simpa using first.symm
              rw [nothing, Option.none_or]
              exact failure_applyAll rest changed after
          | some diagnostic =>
              obtain ⟨predicted, isPredicted, _⟩ := Option.map_eq_some_iff.mp first.symm
              rw [isPredicted, Option.some_or]
              rw [isPredicted] at first
              exact first

end

mutual

/-- A failure is predicted exactly where a failed call is. -/
theorem isSome_failure?_iff : ∀ clause : Clause, clause.failure?.isSome ↔ clause.HasFailed
  | .setting what => by
      simp only [failure?, Option.isSome_none, Bool.false_eq_true, false_iff]
      intro fails
      cases fails
  | .block what clauses => by
      rw [failure?, isSome_firstFailure?_iff clauses]
      constructor
      · rintro ⟨clause, member, fails⟩
        exact .inside member fails
      · intro fails
        cases fails with
        | inside member fails => exact ⟨_, member, fails⟩
  | .failed call diagnostic => by
      simp only [failure?, Option.isSome_some, true_iff]
      exact .failed call diagnostic

theorem isSome_firstFailure?_iff :
    ∀ clauses : List Clause, (firstFailure? clauses).isSome ↔ ∃ clause ∈ clauses, clause.HasFailed
  | [] => by simp [firstFailure?]
  | clause :: rest => by
      rw [firstFailure?, Option.isSome_or, Bool.or_eq_true, isSome_failure?_iff clause, isSome_firstFailure?_iff rest]
      simp only [List.mem_cons, exists_eq_or_imp]

end

end Clause

/-! ## Shapes of argument lists -/

/-- What an argument is, without its content. -/
inductive ArgumentForm where
  | text | type | clauses
deriving DecidableEq, Repr

namespace ArgumentForm

/-- The six shapes that an argument list may have. -/
def shapes : List (List ArgumentForm) :=
  [[], [.clauses], [.type], [.type, .clauses], [.type, .text], [.type, .text, .clauses]]

/-- Whether the arguments of these forms have one of the six shapes. A text in the first place names a type. -/
def isShape : List ArgumentForm → Bool
  | .text :: rest => shapes.contains (.type :: rest)
  | forms => shapes.contains forms

end ArgumentForm

namespace Argument

def form : Argument → ArgumentForm
  | .text _ => .text
  | .type _ => .type
  | .clauses _ => .clauses

/-- The clauses that an argument holds. -/
def held : Argument → List Clause
  | .text _ => []
  | .type _ => []
  | .clauses held => held

end Argument

namespace Arguments

/-- Behind an argument that gives a type, there may be clauses, a description, or a description and clauses. -/
theorem read_cases_of_type {first : Argument} {type : DataType} (gives : first.type? = some type) (call : String)
    (rest : List Argument) :
    (ArgumentForm.shapes.contains (.type :: rest.map Argument.form) = true ∧
        ∃ signature, read call (first :: rest) = .ok ⟨signature, rest.flatMap Argument.held⟩) ∨
      (ArgumentForm.shapes.contains (.type :: rest.map Argument.form) = false ∧
        read call (first :: rest) = .error (malformed call allShapes)) := by
  match rest with
  | [] =>
      refine .inl ⟨rfl, ⟨some type, none⟩, ?_⟩
      cases first <;> cases gives <;> rfl
  | [.clauses clauses] => exact .inl ⟨rfl, ⟨some type, none⟩, by simp [read, gives, Argument.held]⟩
  | [.text description] => exact .inl ⟨rfl, ⟨some type, some description⟩, by simp [read, gives, Argument.held]⟩
  | [.text description, .clauses clauses] =>
      exact .inl ⟨rfl, ⟨some type, some description⟩, by simp [read, gives, Argument.held]⟩
  | .type _ :: _ => exact .inr ⟨by simp [ArgumentForm.shapes, Argument.form], by simp [read]⟩
  | .clauses _ :: _ :: _ => exact .inr ⟨by simp [ArgumentForm.shapes, Argument.form], by simp [read]⟩
  | .text _ :: .text _ :: _ => exact .inr ⟨by simp [ArgumentForm.shapes, Argument.form], by simp [read]⟩
  | .text _ :: .type _ :: _ => exact .inr ⟨by simp [ArgumentForm.shapes, Argument.form], by simp [read]⟩
  | .text _ :: .clauses _ :: _ :: _ => exact .inr ⟨by simp [ArgumentForm.shapes, Argument.form], by simp [read]⟩

/-- An argument list is read exactly if it has one of the six shapes, and then with all its clauses. -/
theorem read_cases (call : String) (arguments : List Argument) :
    (ArgumentForm.isShape (arguments.map Argument.form) = true ∧
        ∃ signature, read call arguments = .ok ⟨signature, arguments.flatMap Argument.held⟩) ∨
      (ArgumentForm.isShape (arguments.map Argument.form) = false ∧
        read call arguments = .error (malformed call allShapes)) := by
  match arguments with
  | [] => exact .inl ⟨rfl, {}, rfl⟩
  | [.clauses clauses] => exact .inl ⟨rfl, {}, by simp [read, Argument.held]⟩
  | .clauses _ :: second :: _ =>
      refine .inr ⟨?_, rfl⟩
      simp [ArgumentForm.isShape, ArgumentForm.shapes, Argument.form]
  | .text name :: rest => exact read_cases_of_type rfl call rest
  | .type given :: rest =>
      exact read_cases_of_type rfl call rest

end Arguments

/-! ## Calls -/

/-- A call that declares an attribute by an argument list. -/
inductive Declarator where
  | child (name : String)
  | field (tag : Nat) (name : String)
  | hostVariable (name : String)
  | payload
  | result
  | error (name : String)
deriving DecidableEq, Repr

mutual

/-- A call as it is written in a design. -/
inductive Call where
  | setting (setting : Setting)
  | block (block : Block) (calls : List Call)
  | declaring (declarator : Declarator) (arguments : List CallArgument)
  | failed (call : String) (diagnostic : Diagnostic)

/-- An argument of a call as it is written. -/
inductive CallArgument where
  | text (text : String)
  | type (type : DataType)
  | calls (calls : List Call)

end

namespace Declarator

/-- The clause of a declaring call with some arguments. -/
def clause (arguments : List Argument) : Declarator → Clause
  | .child name => .child name arguments
  | .field tag name => .field tag name arguments
  | .hostVariable name => .hostVariable name arguments
  | .payload => .payload arguments
  | .result => .result arguments
  | .error name => .error name arguments

def call : Declarator → String
  | .child _ => "attribute"
  | .field .. => "field"
  | .hostVariable _ => "variable"
  | .payload => "payload"
  | .result => "result"
  | .error _ => "error"

/-- Whether there must be an argument. -/
def needsArgument : Declarator → Bool
  | .payload => true
  | .result => true
  | _ => false

/-- What is wrong with arguments of these forms, if anything is. -/
def fault? (forms : List ArgumentForm) (declarator : Declarator) : Option Diagnostic :=
  if forms.isEmpty && declarator.needsArgument then
    some (Arguments.malformed declarator.call Arguments.someShapes)
  else if ArgumentForm.isShape forms then none
  else some (Arguments.malformed declarator.call Arguments.allShapes)

end Declarator

mutual

/-- The clause of a call. -/
def Call.clause : Call → Clause
  | .setting what => .setting what
  | .block what calls => .block what (Call.clauses calls)
  | .declaring declarator arguments => declarator.clause (CallArgument.arguments arguments)
  | .failed call diagnostic => .failed call diagnostic

def Call.clauses : List Call → List Clause
  | [] => []
  | call :: rest => call.clause :: Call.clauses rest

def CallArgument.argument : CallArgument → Argument
  | .text text => .text text
  | .type type => .type type
  | .calls calls => .clauses (Call.clauses calls)

def CallArgument.arguments : List CallArgument → List Argument
  | [] => []
  | argument :: rest => argument.argument :: CallArgument.arguments rest

end

def CallArgument.form : CallArgument → ArgumentForm
  | .text _ => .text
  | .type _ => .type
  | .calls _ => .clauses

/-- What is wrong with a call itself, if anything is. -/
def Call.fault? : Call → Option Diagnostic
  | .setting _ => none
  | .block .. => none
  | .declaring declarator arguments => declarator.fault? (arguments.map CallArgument.form)
  | .failed _ diagnostic => some diagnostic

mutual

/-- A call and the calls nested in it, each before those nested in it. What stands in the arguments of a call at fault
is left out. -/
def Call.inOrder : Call → List Call
  | .setting what => [.setting what]
  | .block what calls => .block what calls :: Call.allInOrder calls
  | .declaring declarator arguments =>
      .declaring declarator arguments ::
        if (declarator.fault? (arguments.map CallArgument.form)).isSome then []
        else CallArgument.allInOrder arguments
  | .failed call diagnostic => [.failed call diagnostic]

def Call.allInOrder : List Call → List Call
  | [] => []
  | call :: rest => call.inOrder ++ Call.allInOrder rest

def CallArgument.inOrder : CallArgument → List Call
  | .text _ => []
  | .type _ => []
  | .calls calls => Call.allInOrder calls

def CallArgument.allInOrder : List CallArgument → List Call
  | [] => []
  | argument :: rest => argument.inOrder ++ CallArgument.allInOrder rest

end

namespace Clause

theorem firstFailure?_append (clauses more : List Clause) :
    firstFailure? (clauses ++ more) = (firstFailure? clauses).or (firstFailure? more) := by
  induction clauses with
  | nil => simp [firstFailure?]
  | cons clause rest inductionHypothesis =>
      rw [List.cons_append, firstFailure?, inductionHypothesis, firstFailure?, Option.or_assoc]

end Clause

/-- A clause that declares by arguments fails unless they have a shape, and otherwise by what they hold. -/
theorem Clause.failure?_declaring (call : String) (block : Signature → Block) (arguments : List Argument) :
    (declaring call block (Arguments.read call arguments)).failure? =
      (if ArgumentForm.isShape (arguments.map Argument.form) then none
        else some (Arguments.malformed call Arguments.allShapes)).or
          (firstFailure? (arguments.flatMap Argument.held)) := by
  rcases Arguments.read_cases call arguments with ⟨isShape, signature, isRead⟩ | ⟨noShape, notRead⟩
  · rw [isRead, isShape, if_pos rfl, Option.none_or]
    rfl
  · rw [notRead, noShape]
    rfl

/-- The clause of a declaring call fails by its own fault, and otherwise by what its arguments hold. -/
theorem Declarator.failure?_clause (declarator : Declarator) (arguments : List Argument) :
    (declarator.clause arguments).failure? =
      (declarator.fault? (arguments.map Argument.form)).or
        (Clause.firstFailure? (arguments.flatMap Argument.held)) := by
  have readsSome : ∀ (call : String) (block : Signature → Block) (first : Argument) (rest : List Argument),
      (Clause.declaring call block (Arguments.readSome call (first :: rest))).failure? =
        (Clause.declaring call block (Arguments.read call (first :: rest))).failure? := fun _ _ _ _ => rfl
  cases declarator with
  | payload =>
      cases arguments with
      | nil => rfl
      | cons first rest => exact (readsSome _ _ first rest).trans (Clause.failure?_declaring _ _ _)
  | result =>
      cases arguments with
      | nil => rfl
      | cons first rest => exact (readsSome _ _ first rest).trans (Clause.failure?_declaring _ _ _)
  | _ =>
      simp only [fault?, needsArgument, Bool.and_false, Bool.false_eq_true, if_false]
      exact Clause.failure?_declaring _ _ arguments

theorem CallArgument.map_form_arguments :
    ∀ arguments : List CallArgument,
      (CallArgument.arguments arguments).map Argument.form = arguments.map CallArgument.form
  | [] => rfl
  | argument :: rest => by
      rw [CallArgument.arguments, List.map_cons, List.map_cons, CallArgument.map_form_arguments rest]
      cases argument <;> rfl

mutual

/-- The failure predicted for the clause of a call is the first fault in reading order. -/
theorem Call.failure?_clause : ∀ call : Call, call.clause.failure? = call.inOrder.findSome? Call.fault?
  | .setting what => rfl
  | .block what calls => by
      rw [Call.clause, Clause.failure?, Call.inOrder, List.findSome?_cons]
      exact Call.firstFailure?_clauses calls
  | .declaring declarator arguments => by
      rw [Call.clause, declarator.failure?_clause, CallArgument.map_form_arguments,
        CallArgument.firstFailure?_arguments arguments, Call.inOrder, List.findSome?_cons, Call.fault?]
      cases declarator.fault? (arguments.map CallArgument.form) with
      | none => simp
      | some diagnostic => rfl
  | .failed _ _ => rfl

theorem Call.firstFailure?_clauses :
    ∀ calls : List Call, Clause.firstFailure? (Call.clauses calls) = (Call.allInOrder calls).findSome? Call.fault?
  | [] => rfl
  | call :: rest => by
      rw [Call.clauses, Clause.firstFailure?, Call.failure?_clause call, Call.firstFailure?_clauses rest,
        Call.allInOrder, List.findSome?_append]

theorem CallArgument.firstFailure?_argument :
    ∀ argument : CallArgument,
      Clause.firstFailure? argument.argument.held = argument.inOrder.findSome? Call.fault?
  | .text _ => rfl
  | .type _ => rfl
  | .calls calls => Call.firstFailure?_clauses calls

theorem CallArgument.firstFailure?_arguments :
    ∀ arguments : List CallArgument,
      Clause.firstFailure? ((CallArgument.arguments arguments).flatMap Argument.held) =
        (CallArgument.allInOrder arguments).findSome? Call.fault?
  | [] => rfl
  | argument :: rest => by
      rw [CallArgument.arguments, List.flatMap_cons, Clause.firstFailure?_append,
        CallArgument.firstFailure?_argument argument, CallArgument.firstFailure?_arguments rest,
        CallArgument.allInOrder, List.findSome?_append]

end

/-! ## Faults decide -/

/-- Applying the clause of a call fails exactly if the failure was predicted, with its cause, on every target; the
failure predicted is the fault of the first call at fault in reading order; and so calls applied in order fail with the
first fault among them. -/
theorem failure_is_first_fault (call : Call) (node : Node) (reporter : Reporter) :
    (call.clause.apply node reporter).failure.map (·.cause) = call.clause.failure?.map (·.cause) ∧
      call.clause.failure? = call.inOrder.findSome? Call.fault? ∧
      (call.clause.failure?.isSome ↔ ∃ inner ∈ call.inOrder, inner.fault?.isSome) ∧
      (∀ otherNode otherReporter, (call.clause.apply otherNode otherReporter).failure.map (·.cause) =
        (call.clause.apply node reporter).failure.map (·.cause)) ∧
      ∀ calls : List Call, (Clause.applyAll (Call.clauses calls) node reporter).failure.map (·.cause) =
        ((Call.allInOrder calls).findSome? Call.fault?).map (·.cause) := by
  have applied := Clause.failure_apply call.clause
  refine ⟨applied node reporter, call.failure?_clause, ?_, ?_, ?_⟩
  · rw [call.failure?_clause, List.findSome?_isSome_iff]
  · intro otherNode otherReporter
    rw [applied, applied]
  · intro calls
    rw [Clause.failure_applyAll, Call.firstFailure?_clauses]

end ApiDesign
