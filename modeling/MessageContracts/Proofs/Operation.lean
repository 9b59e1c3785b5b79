import MessageContracts.CallLog
import MessageContracts.Generation

/-!
# Operations on a sink and the calls they come to

An operation is a call of the sink itself, a text written through the template-aware layer, or a
change of level. What an operation makes of a sink is a row of calls, each at a definite level, and
that row does not depend on the sink. The steps of a generation pass are operations as well, apart
from the reports among them. Operations stay in range when none of them raises the highest level,
which would go around to zero.
-/

namespace MessageContracts

/-- After an action that is not refused the next one goes on from where it has led. -/
theorem andThen_apply {σ : Type} (action next : EStateM OutputFault σ Unit) (state : σ) :
    (do action; next) state =
      match action state with
      | .ok _ reached => next reached
      | .error fault stopped => .error fault stopped := by
  simp only [Bind.bind, EStateM.bind]
  cases action state <;> rfl

/-- Something that can be done to a sink. -/
inductive Operation where
  /-- Hand a text to the sink and leave the line open. -/
  | put (text : String)
  /-- Hand a text to the sink and end the line. -/
  | putLine (text : String)
  /-- End the current line. -/
  | endLine
  /-- Write a text of any number of lines and leave the last one open. -/
  | text (content : String)
  /-- Write a text of any number of lines and end the last one too. -/
  | lines (content : String)
  /-- Render a template and leave the last line open. -/
  | fill {arity : Nat} (template : Template arity) (arguments : Vector String arity)
  /-- Render a template and end the last line too. -/
  | fillLines {arity : Nat} (template : Template arity) (arguments : Vector String arity)
  /-- Set the level. -/
  | setLevel (level : Level)
  /-- Raise the level by one. -/
  | indent
  /-- Lower the level by one, but not below zero. -/
  | dedent

namespace Operation

section Performing

variable {σ : Type} [LineSink σ]

/-- What an operation does to a sink. -/
def perform : Operation → EStateM OutputFault σ Unit
  | put content => LineSink.put content
  | putLine content => LineSink.putLine content
  | endLine => LineSink.endLine
  | text content => LineSink.putText content
  | lines content => LineSink.putLines content
  | fill template arguments => LineSink.putText (template.render arguments)
  | fillLines template arguments => LineSink.putLines (template.render arguments)
  | setLevel level => modify (LineSink.setLevel level)
  | indent => modify LineSink.indent
  | dedent => modify LineSink.dedent

/-- Perform operations one after the other, up to the first refusal. -/
def performAll : List Operation → EStateM OutputFault σ Unit
  | [] => pure ()
  | operation :: rest => do operation.perform; performAll rest

/-- The rest of a row of operations is performed unless the first one is refused. -/
theorem performAll_cons (operation : Operation) (rest : List Operation) (sink : σ) :
    performAll (operation :: rest) sink =
      match operation.perform sink with
      | .ok _ later => performAll rest later
      | .error fault stopped => .error fault stopped :=
  andThen_apply operation.perform (performAll rest) sink

/-- Two rows of operations are performed one after the other, unless the first is refused. -/
theorem performAll_append (first second : List Operation) (sink : σ) :
    performAll (first ++ second) sink =
      match performAll first sink with
      | .ok _ later => performAll second later
      | .error fault stopped => .error fault stopped := by
  induction first generalizing sink with
  | nil => rfl
  | cons operation rest ih =>
    rw [List.cons_append, performAll_cons, performAll_cons]
    cases operation.perform sink with
    | ok _ later => exact ih later
    | error fault stopped => rfl

end Performing

/-- The level after an operation. -/
def levelAfter (level : Level) : Operation → Level
  | setLevel later => later
  | indent => level.deeper
  | dedent => level.higher
  | _ => level

/-- The operation does not raise the highest level. -/
def InRange (level : Level) : Operation → Prop
  | indent => level ≠ .top
  | _ => True

/-- The calls that write lines and leave the last one open. -/
def openCalls (level : Nat) : List String → List SinkCall
  | [] => []
  | [last] => [⟨false, level, last⟩]
  | line :: rest => ⟨true, level, line⟩ :: openCalls level rest

/-- A line with another one after it is ended. -/
theorem openCalls_cons_cons (level : Nat) (line second : String) (rest : List String) :
    openCalls level (line :: second :: rest) =
      ⟨true, level, line⟩ :: openCalls level (second :: rest) := rfl

/-- The calls that write lines and end each of them. -/
def closedCalls (level : Nat) (lines : List String) : List SinkCall :=
  lines.map fun line => ⟨true, level, line⟩

/-- The calls of an operation on a sink at this level. -/
def calls (level : Level) : Operation → List SinkCall
  | put content => [⟨false, level, content⟩]
  | putLine content => [⟨true, level, content⟩]
  | endLine => [⟨true, level, ""⟩]
  | text content => openCalls level (Text.lines content)
  | lines content => closedCalls level (Text.lines content)
  | fill template arguments => openCalls level (Text.lines (template.render arguments))
  | fillLines template arguments => closedCalls level (Text.lines (template.render arguments))
  | setLevel _ | indent | dedent => []

/-- The calls of operations one after the other, from this level on. -/
def trace : Level → List Operation → List SinkCall
  | _, [] => []
  | level, operation :: rest => operation.calls level ++ trace (operation.levelAfter level) rest

/-- The level after operations one after the other. -/
def endLevel : Level → List Operation → Level
  | level, [] => level
  | level, operation :: rest => endLevel (operation.levelAfter level) rest

/-- None of the operations raises the highest level. -/
def AllInRange : Level → List Operation → Prop
  | _, [] => True
  | level, operation :: rest =>
    operation.InRange level ∧ AllInRange (operation.levelAfter level) rest

/-- Levels pass from one row of operations to the next. -/
theorem endLevel_append (level : Level) (first second : List Operation) :
    endLevel level (first ++ second) = endLevel (endLevel level first) second := by
  induction first generalizing level with
  | nil => rfl
  | cons operation rest ih => exact ih (operation.levelAfter level)

/-- The second row of operations calls from the level that the first leaves. -/
theorem trace_append (level : Level) (first second : List Operation) :
    trace level (first ++ second) = trace level first ++ trace (endLevel level first) second := by
  induction first generalizing level with
  | nil => rfl
  | cons operation rest ih =>
    simp only [List.cons_append, trace, endLevel, ih, List.append_assoc]

/-- Two rows of operations stay in range when each does, the second from the level that the first
leaves. -/
theorem allInRange_append (level : Level) (first second : List Operation) :
    AllInRange level (first ++ second) ↔
      AllInRange level first ∧ AllInRange (endLevel level first) second := by
  induction first generalizing level with
  | nil => exact ⟨fun inside => ⟨trivial, inside⟩, And.right⟩
  | cons operation rest ih =>
    simp only [List.cons_append, AllInRange, endLevel, ih, and_assoc]

end Operation

namespace Step

/-- A step as operations: a report does nothing to the sink. -/
def operations : Step → List Operation
  | text content => [.text content]
  | lines content => [.lines content]
  | endLine => [.endLine]
  | indent => [.indent]
  | dedent => [.dedent]
  | report _ => []

/-- The calls of steps one after the other, from this level on. -/
def trace (level : Level) (steps : List Step) : List SinkCall :=
  Operation.trace level (steps.flatMap operations)

/-- The level after steps one after the other. -/
def endLevel (level : Level) (steps : List Step) : Level :=
  Operation.endLevel level (steps.flatMap operations)

/-- None of the steps raises the highest level. -/
def InRange (level : Level) (steps : List Step) : Prop :=
  Operation.AllInRange level (steps.flatMap operations)

/-- Levels pass from one row of steps to the next. -/
theorem endLevel_append (level : Level) (first second : List Step) :
    endLevel level (first ++ second) = endLevel (endLevel level first) second := by
  rw [endLevel, List.flatMap_append, Operation.endLevel_append]
  rfl

/-- The second row of steps calls from the level that the first leaves. -/
theorem trace_append (level : Level) (first second : List Step) :
    trace level (first ++ second) = trace level first ++ trace (endLevel level first) second := by
  rw [trace, List.flatMap_append, Operation.trace_append]
  rfl

/-- Two rows of steps stay in range when each does, the second from the level that the first
leaves. -/
theorem inRange_append (level : Level) (first second : List Step) :
    InRange level (first ++ second) ↔
      InRange level first ∧ InRange (endLevel level first) second := by
  rw [InRange, List.flatMap_append, Operation.allInRange_append]
  rfl

/-- A block stays in range when its level can be raised and its body stays in range. -/
theorem inRange_block {body : List Step} {level : Level} :
    InRange level (Generator.block body) ↔ level ≠ .top ∧ InRange level.deeper body := by
  have deeper : endLevel level [lines "\x7b", indent] = level.deeper := rfl
  have opens : InRange level [lines "\x7b", indent] ↔ level ≠ .top :=
    ⟨fun inside => inside.2.1, fun below => ⟨trivial, below, trivial⟩⟩
  have closes (inner : Level) : InRange inner [dedent, lines "\x7d"] := ⟨trivial, trivial, trivial⟩
  rw [Generator.block, inRange_append, inRange_append, deeper, opens]
  exact and_iff_left (closes _)

/-- A block ends at its level when its body does. -/
theorem endLevel_block {body : List Step} {level : Level} (below : level ≠ .top)
    (balanced : endLevel level.deeper body = level.deeper) :
    endLevel level (Generator.block body) = level := by
  have deeper : endLevel level [lines "\x7b", indent] = level.deeper := rfl
  have closes : endLevel level.deeper [dedent, lines "\x7d"] = level := Level.higher_deeper below
  rw [Generator.block, endLevel_append, endLevel_append, deeper, balanced, closes]

/-- The calls of a block are the braces and, one level deeper, the calls of its body. -/
theorem trace_block {body : List Step} {level : Level} (below : level ≠ .top)
    (balanced : endLevel level.deeper body = level.deeper) :
    trace level (Generator.block body) =
      ⟨true, level, "\x7b"⟩ :: trace level.deeper body ++ [⟨true, level, "\x7d"⟩] := by
  have before : trace level [lines "\x7b", indent] = [⟨true, level, "\x7b"⟩] := rfl
  have deeper : endLevel level [lines "\x7b", indent] = level.deeper := rfl
  have after : trace level.deeper [dedent, lines "\x7d"] = [⟨true, level, "\x7d"⟩] := by
    have closes : trace level.deeper [dedent, lines "\x7d"] =
        [⟨true, level.deeper.higher, "\x7d"⟩] := rfl
    rw [closes, Level.higher_deeper below]
  rw [Generator.block, trace_append, trace_append, endLevel_append, deeper, balanced, before, after]
  rfl

section Performing

variable {σ : Type} [LineSink σ]

/-- A step does what its operations do. -/
theorem performAll_operations (step : Step) (sink : σ) :
    Operation.performAll step.operations sink = step.perform sink := by
  have single (operation : Operation) :
      Operation.performAll [operation] sink = operation.perform sink := by
    rw [Operation.performAll_cons]
    cases operation.perform sink <;> rfl
  cases step with
  | text content => exact single (.text content)
  | lines content => exact single (.lines content)
  | endLine => exact single .endLine
  | indent => exact single .indent
  | dedent => exact single .dedent
  | report event => rfl

/-- A pass does to the sink what the operations of its steps do, up to the same refusal. -/
theorem performAll_flatMap_operations (steps : List Step) (sink : σ) :
    Operation.performAll (steps.flatMap operations) sink =
      match (performAll steps sink).fault with
      | none => .ok () (performAll steps sink).sink
      | some fault => .error fault (performAll steps sink).sink := by
  induction steps generalizing sink with
  | nil => rfl
  | cons step rest ih =>
    rw [List.flatMap_cons, Operation.performAll_append, performAll_operations, performAll]
    cases step.perform sink with
    | ok _ later => exact ih later
    | error fault stopped => rfl

end Performing

end Step

namespace Generator

variable {σ : Type} [LineSink σ] {generator : Generator} {model : Model} {sink : σ}

/-- A pass whose operations are all performed succeeds. -/
theorem generate_of_ok {reached : σ} (run : Operation.performAll
      ((generator.steps model).flatMap Step.operations) sink = .ok () reached) :
    (generator.generate model sink).result = .ok (generator.summary model) ∧
      (generator.generate model sink).sink = reached := by
  rw [Step.performAll_flatMap_operations] at run
  cases fault : (Step.performAll (generator.steps model) sink).fault with
  | some fault => rw [fault] at run; cases run
  | none =>
    rw [fault] at run
    injection run with _ same
    simp only [generate, fault, same, and_self]

/-- A pass of which an operation is refused fails with the fault of the refusal. -/
theorem generate_of_error {fault : OutputFault} {stopped : σ} (run : Operation.performAll
      ((generator.steps model).flatMap Step.operations) sink = .error fault stopped) :
    (generator.generate model sink).result = .error (.output fault) ∧
      (generator.generate model sink).sink = stopped := by
  rw [Step.performAll_flatMap_operations] at run
  cases found : (Step.performAll (generator.steps model) sink).fault with
  | none => rw [found] at run; cases run
  | some refusal =>
    rw [found] at run
    injection run with same reached
    simp only [generate, found, same, reached, and_self]

end Generator

end MessageContracts
