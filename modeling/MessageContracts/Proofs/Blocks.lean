import MessageContracts.Proofs.CutOutput

/-!
# The blocks of a generation pass

A pass writes the braces around its blocks itself, and a brace that comes from a template or from
the model is text like any other. The steps of a pass are therefore repeated here with a mark on
the braces of the pass, set where the pass writes them; without the marks they are the steps of the
pass. From block to block it follows that the level of every call is fixed by the braces before it,
and that a pass which starts deeper makes the same calls, only deeper. Both end where a block is
opened at the highest level, because inside that block the level is zero again.
-/

namespace MessageContracts

/-- The part of a call in the blocks of a pass. -/
inductive Mark where
  /-- No part: a text of its own. -/
  | plain
  /-- The brace that opens a block. -/
  | opening
  /-- The brace that closes a block. -/
  | closing
deriving DecidableEq, Repr

/-- The call at a level raised by so much. -/
def SinkCall.raise (up : Nat) (call : SinkCall) : SinkCall := { call with level := call.level + up }

/-- A call with its part in the blocks. -/
structure MarkedCall where
  /-- The part in the blocks. -/
  mark : Mark
  /-- The call. -/
  call : SinkCall
deriving DecidableEq, Repr

namespace MarkedCall

/-- The call at a level raised by so much, with the same part in the blocks. -/
def raise (up : Nat) (marked : MarkedCall) : MarkedCall := ⟨marked.mark, marked.call.raise up⟩

/-- How many blocks the calls open. -/
def opened (calls : List MarkedCall) : Nat := (calls.map mark).count .opening

/-- How many blocks the calls close. -/
def closed (calls : List MarkedCall) : Nat := (calls.map mark).count .closing

/-- Calls that lead from one level to another: a call stands at the level in force, which is one
deeper after the opening of a block and has come back before its closing. -/
inductive Leads : Nat → List MarkedCall → Nat → Prop where
  /-- No calls lead nowhere. -/
  | nil (level : Nat) : Leads level [] level
  /-- A plain call stays at its level. -/
  | plain {level last : Nat} {endsLine : Bool} {text : String} {rest : List MarkedCall} :
    Leads level rest last → Leads level (⟨.plain, ⟨endsLine, level, text⟩⟩ :: rest) last
  /-- The opening of a block is a line of its own, and leads one level deeper. -/
  | opening {level last : Nat} {rest : List MarkedCall} :
    Leads (level + 1) rest last → Leads level (⟨.opening, ⟨true, level, "\x7b"⟩⟩ :: rest) last
  /-- The closing of a block is a line of its own, one level higher than the block. -/
  | closing {level last : Nat} {rest : List MarkedCall} :
    Leads level rest last → Leads (level + 1) (⟨.closing, ⟨true, level, "\x7d"⟩⟩ :: rest) last

namespace Leads

variable {start middle last : Nat} {calls first second : List MarkedCall}

/-- Calls go on from where other calls have led. -/
theorem append (head : Leads start first middle) (tail : Leads middle second last) :
    Leads start (first ++ second) last := by
  induction head with
  | nil => exact tail
  | plain _ ih => exact (ih tail).plain
  | opening _ ih => exact (ih tail).opening
  | closing _ ih => exact (ih tail).closing

end Leads

/-- Calls that lead from one level to another and are never made above the first one. -/
structure Within (start : Nat) (calls : List MarkedCall) (last : Nat) : Prop where
  /-- Every call stands where the braces before it put it. -/
  leads : Leads start calls last
  /-- No call is made above the first level. -/
  start_le : ∀ marked ∈ calls, start ≤ marked.call.level

namespace Within

variable {start last : Nat} {calls first second : List MarkedCall}

/-- No calls lead nowhere. -/
theorem nil (start : Nat) : Within start [] start := ⟨.nil start, by simp⟩

/-- Calls go on from where other calls have come back to. -/
theorem append (head : Within start first start) (tail : Within start second last) :
    Within start (first ++ second) last :=
  ⟨head.leads.append tail.leads, List.forall_mem_append.mpr ⟨head.start_le, tail.start_le⟩⟩

/-- Calls inside a block, after the brace that opens it. -/
theorem opening (inside : Within (start + 1) calls last) :
    Within start (⟨.opening, ⟨true, start, "\x7b"⟩⟩ :: calls) last := by
  refine ⟨inside.leads.opening, List.forall_mem_cons.mpr ⟨Nat.le_refl start, ?_⟩⟩
  exact fun marked member => Nat.le_of_succ_le (inside.start_le marked member)

/-- Calls inside a block, between its braces. -/
theorem block (inside : Within (start + 1) calls (start + 1)) :
    Within start (⟨.opening, ⟨true, start, "\x7b"⟩⟩ :: calls ++ [⟨.closing, ⟨true, start, "\x7d"⟩⟩])
      start := by
  refine ⟨(inside.leads.append (.closing (.nil start))).opening, ?_⟩
  rw [List.forall_mem_append, List.forall_mem_singleton]
  exact ⟨inside.opening.start_le, Nat.le_refl start⟩

/-- Plain calls at one level stay there. -/
theorem plain_calls {calls : List SinkCall} (level : Nat)
    (same : ∀ call ∈ calls, call.level = level) :
    Within level (calls.map (MarkedCall.mk .plain)) level := by
  induction calls with
  | nil => exact .nil level
  | cons call rest ih =>
    obtain ⟨endsLine, callLevel, text⟩ := call
    have atLevel : callLevel = level := same _ List.mem_cons_self
    subst atLevel
    have others := ih fun other member => same other (List.mem_cons_of_mem _ member)
    exact ⟨others.leads.plain, List.forall_mem_cons.mpr ⟨Nat.le_refl _, others.start_le⟩⟩

end Within

/-- Calls that open no block at the highest level. -/
def OpensBelowTop (calls : List MarkedCall) : Prop :=
  ∀ marked ∈ calls, marked.mark = .opening → marked.call.level < Level.top.count

/-- Calls in two parts open no block at the highest level when neither part does. -/
theorem opensBelowTop_append {first second : List MarkedCall} :
    OpensBelowTop (first ++ second) ↔ OpensBelowTop first ∧ OpensBelowTop second :=
  List.forall_mem_append

/-- A block that is not opened at the highest level is opened below it. -/
theorem OpensBelowTop.of_opening {level : Level} {rest : List MarkedCall}
    (below : OpensBelowTop (⟨.opening, ⟨true, level, "\x7b"⟩⟩ :: rest)) :
    level ≠ .top ∧ OpensBelowTop rest := by
  obtain ⟨first, others⟩ := List.forall_mem_cons.mp below
  refine ⟨?_, others⟩
  rintro rfl
  exact absurd (first rfl) (Nat.lt_irrefl _)

end MarkedCall

/-- A step of a pass, with the braces that the pass itself writes told apart from texts. -/
inductive MarkedStep where
  /-- Any other step. -/
  | plain (step : Step)
  /-- The brace that opens a block. -/
  | opening
  /-- The brace that closes a block. -/
  | closing
deriving DecidableEq, Repr

namespace MarkedStep

/-- The step without its mark. -/
def step : MarkedStep → Step
  | plain step => step
  | opening => .lines "\x7b"
  | closing => .lines "\x7d"

/-- The mark of a step. -/
def mark : MarkedStep → Mark
  | plain _ => .plain
  | opening => .opening
  | closing => .closing

/-- The calls of steps one after the other, from this level on, each with the mark of its step. -/
def trace : Level → List MarkedStep → List MarkedCall
  | _, [] => []
  | level, marked :: rest =>
    (Step.trace level [marked.step]).map (MarkedCall.mk marked.mark)
      ++ trace (Step.endLevel level [marked.step]) rest

/-- The level after steps one after the other. -/
def endLevel (level : Level) (steps : List MarkedStep) : Level :=
  Step.endLevel level (steps.map step)

/-- None of the steps raises the highest level. -/
def InRange (level : Level) (steps : List MarkedStep) : Prop := Step.InRange level (steps.map step)

/-- A block: its steps one level deeper, between the braces of the pass. -/
def block (body : List MarkedStep) : List MarkedStep :=
  [opening, plain .indent] ++ body ++ [plain .dedent, closing]

/-- Without the marks a block is a block. -/
theorem map_step_block (body : List MarkedStep) :
    (block body).map step = Generator.block (body.map step) := by
  rw [block, List.map_append, List.map_append]
  rfl

/-- Levels pass from one row of steps to the next. -/
theorem endLevel_append (level : Level) (first second : List MarkedStep) :
    endLevel level (first ++ second) = endLevel (endLevel level first) second := by
  rw [endLevel, List.map_append, Step.endLevel_append]
  rfl

/-- Two rows of steps stay in range when each does, the second from the level that the first
leaves. -/
theorem inRange_append (level : Level) (first second : List MarkedStep) :
    InRange level (first ++ second) ↔
      InRange level first ∧ InRange (endLevel level first) second := by
  rw [InRange, List.map_append, Step.inRange_append]
  rfl

/-- The second row of steps calls from the level that the first leaves. -/
theorem trace_append (level : Level) (first second : List MarkedStep) :
    trace level (first ++ second) = trace level first ++ trace (endLevel level first) second := by
  induction first generalizing level with
  | nil => rfl
  | cons marked rest ih =>
    have levels : endLevel level (marked :: rest) =
        endLevel (Step.endLevel level [marked.step]) rest :=
      endLevel_append level [marked] rest
    rw [List.cons_append, trace, ih, trace, levels, List.append_assoc]

/-- A block stays in range when its level can be raised and its body stays in range. -/
theorem inRange_block {body : List MarkedStep} {level : Level} :
    InRange level (block body) ↔ level ≠ .top ∧ InRange level.deeper body := by
  rw [InRange, map_step_block]
  exact Step.inRange_block

/-- After the brace that opens a block come the calls of its body, from the level that is one
deeper. -/
theorem trace_block_eq_cons (body : List MarkedStep) (level : Level) :
    trace level (block body) = ⟨.opening, ⟨true, level, "\x7b"⟩⟩ :: (trace level.deeper body
      ++ trace (endLevel level.deeper body) [plain .dedent, closing]) := by
  rw [block, List.append_assoc, trace_append, trace_append]
  rfl

/-- The braces of a block, and its calls one level deeper. -/
theorem trace_block {body : List MarkedStep} {level : Level} (below : level ≠ .top)
    (balanced : endLevel level.deeper body = level.deeper) :
    trace level (block body) = ⟨.opening, ⟨true, level, "\x7b"⟩⟩ :: trace level.deeper body
      ++ [⟨.closing, ⟨true, level, "\x7d"⟩⟩] := by
  have closes : trace level.deeper [plain .dedent, closing] =
      [⟨.closing, ⟨true, level.deeper.higher, "\x7d"⟩⟩] := rfl
  rw [trace_block_eq_cons, balanced, closes, Level.higher_deeper below]
  rfl

/-- Steps whose blocks are nested in one another, at most so deep, and that come back to their
level. -/
structure Nested (bound : Nat) (steps : List MarkedStep) : Prop where
  /-- They stay in range exactly when the levels suffice for the blocks within blocks. -/
  depth : ∃ depth ≤ bound, ∀ level, InRange level steps ↔ level.count + depth ≤ Level.top.count
  /-- They end at the level where they begin. -/
  balanced : ∀ {level}, InRange level steps → endLevel level steps = level
  /-- They end at level zero once they have gone out of range, because no level is lowered below
  it. -/
  stranded : ∀ {level}, ¬InRange level steps → endLevel level steps = 0
  /-- The level of every call is fixed by the braces before it. -/
  within : ∀ {level}, InRange level steps →
    MarkedCall.Within level.count (trace level steps) level.count
  /-- Only a block that is opened at the highest level takes them out of range. -/
  inRange_iff : ∀ {level}, InRange level steps ↔ MarkedCall.OpensBelowTop (trace level steps)
  /-- As long as no block has been opened at the highest level, the level of the next call is fixed
  by the braces before it. -/
  upTo : ∀ {level n}, MarkedCall.OpensBelowTop ((trace level steps).take n) →
    ∃ last, MarkedCall.Within level.count ((trace level steps).take (n + 1)) last
  /-- From a deeper level on they make the same calls, all deeper by as much. -/
  raised : ∀ {low high : Level} {up : Nat}, high.count = low.count + up → InRange high steps →
    trace high steps = (trace low steps).map (MarkedCall.raise up)

namespace Nested

variable {bound : Nat} {steps first second body : List MarkedStep}

/-- Steps stay in range when there are as many levels left as blocks can be nested. -/
theorem inRange (nested : Nested bound steps) {level : Level}
    (room : level.count + bound ≤ Level.top.count) : InRange level steps := by
  obtain ⟨depth, within, exactly⟩ := nested.depth
  exact (exactly level).mpr (by omega)

/-- Steps that stay in range do so from any level that is not as deep. -/
theorem inRange_of_le (nested : Nested bound steps) {low high : Level}
    (under : low.count ≤ high.count) (inside : InRange high steps) : InRange low steps := by
  obtain ⟨depth, -, exactly⟩ := nested.depth
  have room := (exactly high).mp inside
  exact (exactly low).mpr (by omega)

/-- From level zero steps come back to it, in range or not. -/
theorem endLevel_zero (nested : Nested bound steps) : endLevel 0 steps = 0 := by
  by_cases inside : InRange 0 steps
  · exact nested.balanced inside
  · exact nested.stranded inside

/-- Blocks that are nested at most so deep are at most as deep as any larger bound says. -/
theorem weaken (nested : Nested bound steps) {larger : Nat} (below : bound ≤ larger) :
    Nested larger steps where
  depth := by
    obtain ⟨depth, within, exactly⟩ := nested.depth
    exact ⟨depth, Nat.le_trans within below, exactly⟩
  balanced := nested.balanced
  stranded := nested.stranded
  within := nested.within
  inRange_iff := nested.inRange_iff
  upTo := nested.upTo
  raised := nested.raised

/-- No steps hold no blocks. -/
theorem nil : Nested bound [] where
  depth := ⟨0, bound.zero_le, fun level => iff_of_true trivial level.count_le_top⟩
  balanced _ := rfl
  stranded beyond := absurd trivial beyond
  within _ := .nil _
  inRange_iff := iff_of_true trivial (by simp [trace, MarkedCall.OpensBelowTop])
  upTo _ := ⟨_, .nil _⟩
  raised _ _ := rfl

/-- Steps one after the other stay in range when each of them does. -/
theorem inRange_append_iff (head : Nested bound first) {level : Level} :
    InRange level (first ++ second) ↔ InRange level first ∧ InRange level second := by
  rw [inRange_append]
  refine and_congr_right fun inFirst => ?_
  rw [head.balanced inFirst]

/-- Steps one after the other make their calls from the same level. -/
theorem trace_append_eq (head : Nested bound first) {level : Level}
    (inFirst : InRange level first) :
    trace level (first ++ second) = trace level first ++ trace level second := by
  rw [trace_append, head.balanced inFirst]

/-- Steps one after the other up to a call of either. -/
theorem upTo_append (head : Nested bound first) (tail : Nested bound second) {level : Level}
    {n : Nat} (below : MarkedCall.OpensBelowTop ((trace level (first ++ second)).take n)) :
    ∃ last, MarkedCall.Within level.count ((trace level (first ++ second)).take (n + 1)) last := by
  rw [trace_append] at below ⊢
  rcases Nat.lt_or_ge n (trace level first).length with early | late
  · rw [List.take_append_of_le_length (Nat.le_of_lt early)] at below
    rw [List.take_append_of_le_length early]
    exact head.upTo below
  · have next : n + 1 - (trace level first).length = n - (trace level first).length + 1 := by omega
    rw [List.take_append, List.take_of_length_le late] at below
    rw [List.take_append, List.take_of_length_le (Nat.le_succ_of_le late), next]
    obtain ⟨ofFirst, ofSecond⟩ := MarkedCall.opensBelowTop_append.mp below
    have inFirst := head.inRange_iff.mpr ofFirst
    rw [head.balanced inFirst] at ofSecond ⊢
    obtain ⟨last, within⟩ := tail.upTo ofSecond
    exact ⟨last, (head.within inFirst).append within⟩

/-- Steps one after the other. -/
theorem append (head : Nested bound first) (tail : Nested bound second) :
    Nested bound (first ++ second) := by
  constructor
  case depth =>
    obtain ⟨depth, within, exactly⟩ := head.depth
    obtain ⟨later, laterWithin, laterExactly⟩ := tail.depth
    refine ⟨max depth later, Nat.max_le.mpr ⟨within, laterWithin⟩, fun level => ?_⟩
    rw [head.inRange_append_iff, exactly, laterExactly, ← Nat.add_max_add_left, Nat.max_le]
  case balanced =>
    intro level inside
    obtain ⟨inFirst, inSecond⟩ := head.inRange_append_iff.mp inside
    rw [endLevel_append, head.balanced inFirst, tail.balanced inSecond]
  case stranded =>
    intro level beyond
    rw [endLevel_append]
    by_cases inFirst : InRange level first
    · rw [head.balanced inFirst]
      exact tail.stranded fun inSecond =>
        beyond (head.inRange_append_iff.mpr ⟨inFirst, inSecond⟩)
    · rw [head.stranded inFirst]
      exact tail.endLevel_zero
  case within =>
    intro level inside
    obtain ⟨inFirst, inSecond⟩ := head.inRange_append_iff.mp inside
    rw [head.trace_append_eq inFirst]
    exact (head.within inFirst).append (tail.within inSecond)
  case inRange_iff =>
    intro level
    rw [inRange_append, trace_append, MarkedCall.opensBelowTop_append, ← head.inRange_iff]
    refine and_congr_right fun inFirst => ?_
    rw [head.balanced inFirst]
    exact tail.inRange_iff
  case upTo => exact head.upTo_append tail
  case raised =>
    intro low high up higher inside
    obtain ⟨inFirst, inSecond⟩ := head.inRange_append_iff.mp inside
    have lowFirst : InRange low first := head.inRange_of_le (by omega) inFirst
    rw [head.trace_append_eq inFirst, head.trace_append_eq lowFirst, head.raised higher inFirst,
      tail.raised higher inSecond, List.map_append]

/-- Steps for every item of a list. -/
theorem flatMap {α : Type} {items : List α} {stepsOf : α → List MarkedStep}
    (each : ∀ item, Nested bound (stepsOf item)) : Nested bound (items.flatMap stepsOf) := by
  induction items with
  | nil => exact nil
  | cons item rest ih => exact (each item).append ih

/-- The calls that write lines and leave the last one open are all made at one level. -/
theorem level_openCalls (level : Nat) (lines : List String) :
    ∀ call ∈ Operation.openCalls level lines, call.level = level := by
  induction lines with
  | nil => simp [Operation.openCalls]
  | cons line rest ih =>
    cases rest with
    | nil => simp [Operation.openCalls]
    | cons second rest =>
      rw [Operation.openCalls_cons_cons, List.forall_mem_cons]
      exact ⟨rfl, ih⟩

/-- The calls that write lines and leave the last one open, from a deeper level. -/
theorem openCalls_add (level up : Nat) (lines : List String) :
    Operation.openCalls (level + up) lines =
      (Operation.openCalls level lines).map (SinkCall.raise up) := by
  induction lines with
  | nil => rfl
  | cons line rest ih =>
    cases rest with
    | nil => rfl
    | cons second rest =>
      rw [Operation.openCalls_cons_cons, Operation.openCalls_cons_cons, List.map_cons, ih]
      rfl

/-- A step that makes no change of level makes all its calls at the level in force. -/
theorem plain {step : Step} (keeps : ∀ level, Step.endLevel level [step] = level) :
    Nested bound [.plain step] := by
  have calls (level : Level) : trace level [.plain step] =
      (Step.trace level [step]).map (MarkedCall.mk .plain) := List.append_nil _
  have facts (level : Level) : Step.InRange level [step] ∧
      (∀ call ∈ Step.trace level [step], call.level = level.count) ∧
      ∀ {high : Level} {up : Nat}, high.count = level.count + up →
        Step.trace high [step] = (Step.trace level [step]).map (SinkCall.raise up) := by
    cases step with
    | text content =>
      have text (level : Level) : Step.trace level [.text content] =
          Operation.openCalls level (Text.lines content) := List.append_nil _
      refine ⟨⟨trivial, trivial⟩, ?_, fun higher => ?_⟩
      · rw [text]
        exact level_openCalls _ _
      · rw [text, text, higher]
        exact openCalls_add _ _ _
    | lines content =>
      have text (level : Level) : Step.trace level [.lines content] =
          Operation.closedCalls level (Text.lines content) := List.append_nil _
      refine ⟨⟨trivial, trivial⟩, fun call member => ?_, fun higher => ?_⟩
      · rw [text, Operation.closedCalls] at member
        obtain ⟨line, -, rfl⟩ := List.mem_map.mp member
        rfl
      · rw [text, text, higher, Operation.closedCalls, Operation.closedCalls, List.map_map]
        rfl
    | endLine =>
      have text (level : Level) : Step.trace level [.endLine] = [⟨true, level, ""⟩] := rfl
      refine ⟨⟨trivial, trivial⟩, fun call member => ?_, fun higher => ?_⟩
      · rw [List.mem_singleton.mp member]
      · rw [text, text, higher]
        rfl
    | indent => exact absurd (keeps 0) (by decide)
    | dedent => exact absurd (keeps 1) (by decide)
    | report event =>
      exact ⟨trivial, fun call member => absurd member List.not_mem_nil, fun _ => rfl⟩
  constructor
  case depth =>
    exact ⟨0, bound.zero_le, fun level => iff_of_true (facts level).1 level.count_le_top⟩
  case balanced => exact fun _ => keeps _
  case stranded => exact fun beyond => absurd (facts _).1 beyond
  case within =>
    intro level _
    rw [calls]
    exact .plain_calls level (facts level).2.1
  case inRange_iff =>
    intro level
    refine iff_of_true (facts level).1 fun marked member opens => ?_
    rw [calls] at member
    obtain ⟨call, -, rfl⟩ := List.mem_map.mp member
    cases opens
  case upTo =>
    intro level n _
    rw [calls, ← List.map_take]
    exact ⟨level, .plain_calls level fun call member =>
      (facts level).2.1 call (List.mem_of_mem_take member)⟩
  case raised =>
    intro low high up higher _
    rw [calls, calls, (facts low).2.2 higher, List.map_map, List.map_map]
    rfl

/-- A block stays in range when neither it nor a block inside it is opened at the highest level. -/
theorem inRange_block_iff (inside : Nested bound body) {level : Level} :
    InRange level (MarkedStep.block body) ↔
      MarkedCall.OpensBelowTop (trace level (MarkedStep.block body)) := by
  constructor
  · intro inRange
    obtain ⟨below, inner⟩ := inRange_block.mp inRange
    have atOpening (opens : Mark.opening = .opening) := Level.count_lt_top below
    have atClosing (opens : Mark.closing = .opening) : level.count < Level.top.count := by
      cases opens
    rw [trace_block below (inside.balanced inner), MarkedCall.opensBelowTop_append]
    exact ⟨List.forall_mem_cons.mpr ⟨atOpening, inside.inRange_iff.mp inner⟩,
      List.forall_mem_singleton.mpr atClosing⟩
  · intro below
    rw [trace_block_eq_cons] at below
    obtain ⟨notTop, rest⟩ := below.of_opening
    have ofBody := (MarkedCall.opensBelowTop_append.mp rest).1
    exact inRange_block.mpr ⟨notTop, inside.inRange_iff.mpr ofBody⟩

/-- A block that goes out of range, or whose body does, ends at level zero. -/
theorem stranded_block (inside : Nested bound body) {level : Level}
    (beyond : ¬InRange level (MarkedStep.block body)) :
    endLevel level (MarkedStep.block body) = 0 := by
  have inner : endLevel level.deeper body = 0 := by
    by_cases below : level = .top
    · rw [below, Level.deeper_top]
      exact inside.endLevel_zero
    · exact inside.stranded fun inRange => beyond (inRange_block.mpr ⟨below, inRange⟩)
  have opens : endLevel level [.opening, .plain .indent] = level.deeper := rfl
  have closes : endLevel 0 [.plain .dedent, .closing] = 0 := rfl
  rw [MarkedStep.block, endLevel_append, endLevel_append, opens, inner, closes]

/-- The calls of a block that stays in range. -/
theorem within_block (inside : Nested bound body) {level : Level}
    (inRange : InRange level (MarkedStep.block body)) :
    MarkedCall.Within level.count (trace level (MarkedStep.block body)) level.count := by
  obtain ⟨below, inner⟩ := inRange_block.mp inRange
  have within := inside.within inner
  rw [Level.count_deeper below] at within
  rw [trace_block below (inside.balanced inner)]
  exact within.block

/-- A block up to a call of it: to its first brace, to a call of its body, or to its last brace. -/
theorem upTo_block (inside : Nested bound body) {level : Level} {n : Nat}
    (below : MarkedCall.OpensBelowTop ((trace level (MarkedStep.block body)).take n)) :
    ∃ last,
      MarkedCall.Within level.count ((trace level (MarkedStep.block body)).take (n + 1)) last := by
  cases n with
  | zero =>
    rw [trace_block_eq_cons, List.take_succ_cons]
    exact ⟨_, (MarkedCall.Within.nil _).opening⟩
  | succ n =>
    rw [trace_block_eq_cons, List.take_succ_cons] at below
    obtain ⟨notTop, ofRest⟩ := below.of_opening
    rcases Nat.lt_or_ge n (trace level.deeper body).length with early | late
    · rw [List.take_append_of_le_length (Nat.le_of_lt early)] at ofRest
      obtain ⟨last, within⟩ := inside.upTo ofRest
      rw [Level.count_deeper notTop] at within
      rw [trace_block_eq_cons, List.take_succ_cons, List.take_append_of_le_length early]
      exact ⟨last, within.opening⟩
    · rw [List.take_append, List.take_of_length_le late] at ofRest
      have inner := inside.inRange_iff.mpr (MarkedCall.opensBelowTop_append.mp ofRest).1
      have whole : (trace level (MarkedStep.block body)).length ≤ n + 1 + 1 := by
        rw [trace_block notTop (inside.balanced inner)]
        simp [late]
      rw [List.take_of_length_le whole]
      exact ⟨_, inside.within_block (inRange_block.mpr ⟨notTop, inner⟩)⟩

/-- A block of steps. -/
theorem block (inside : Nested bound body) : Nested (bound + 1) (MarkedStep.block body) := by
  constructor
  case depth =>
    obtain ⟨depth, within, exactly⟩ := inside.depth
    refine ⟨depth + 1, Nat.succ_le_succ within, fun level => inRange_block.trans ?_⟩
    rw [exactly]
    constructor
    · rintro ⟨below, room⟩
      rw [Level.count_deeper below] at room
      omega
    · intro room
      have below : level ≠ .top := by
        rintro rfl
        omega
      rw [Level.count_deeper below]
      exact ⟨below, by omega⟩
  case balanced =>
    intro level inRange
    obtain ⟨below, inner⟩ := inRange_block.mp inRange
    rw [endLevel, map_step_block]
    exact Step.endLevel_block below (inside.balanced inner)
  case stranded => exact inside.stranded_block
  case within => exact inside.within_block
  case inRange_iff => exact inside.inRange_block_iff
  case upTo => exact inside.upTo_block
  case raised =>
    intro low high up higher inRange
    obtain ⟨below, inner⟩ := inRange_block.mp inRange
    have lowBelow : low ≠ .top := by
      have bound := Level.count_lt_top below
      rintro rfl
      omega
    have deeper : high.deeper.count = low.deeper.count + up := by
      rw [Level.count_deeper below, Level.count_deeper lowBelow]
      omega
    have lowInner : InRange low.deeper body := inside.inRange_of_le (by omega) inner
    rw [trace_block below (inside.balanced inner), trace_block lowBelow (inside.balanced lowInner),
      inside.raised deeper inner, higher, List.map_append, List.map_cons]
    rfl

end Nested

end MarkedStep

end MessageContracts
