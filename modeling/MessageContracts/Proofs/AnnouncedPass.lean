import MessageContracts.Proofs.PassParts
import MessageContracts.Proofs.RecordedCalls

/-!
# What a pass announces when its sink refuses

Every part of a pass reports its event first and then only writes, so a part reports the same
whether or not the sink takes what it writes. A pass that stops has therefore announced all the
parts that it has written and the one during which it stopped, and no more; in particular it never
reports that it has finished.
-/

namespace MessageContracts

namespace Step

variable {σ : Type} [LineSink σ]

/-- Of steps after one that is refused nothing is seen. -/
theorem performAll_append_of_fault {first : List Step} {sink : σ} {fault : OutputFault}
    (refused : (performAll first sink).fault = some fault) (second : List Step) :
    performAll (first ++ second) sink = performAll first sink := by
  induction first generalizing sink with
  | nil => cases refused
  | cons step rest ih =>
    rw [List.cons_append, performAll, performAll]
    rw [performAll] at refused
    cases run : step.perform sink with
    | error fault stopped => rfl
    | ok _ reached =>
      rw [run] at refused
      dsimp only
      rw [ih refused]

/-- Steps after others that are all performed go on from the sink that those lead to. -/
theorem performAll_append_of_done {first : List Step} {sink : σ}
    (done : (performAll first sink).fault = none) (second : List Step) :
    let before := performAll first sink
    let after := performAll second before.sink
    performAll (first ++ second) sink =
      ⟨after.sink, before.events ++ after.events, after.fault⟩ := by
  induction first generalizing sink with
  | nil => rfl
  | cons step rest ih =>
    rw [List.cons_append, performAll, performAll]
    rw [performAll] at done
    cases run : step.perform sink with
    | error fault stopped =>
      rw [run] at done
      cases done
    | ok _ reached =>
      rw [run] at done
      dsimp only
      rw [ih done, List.append_assoc]

end Step

namespace PassPart

open Step

variable {σ : Type} [LineSink σ] (generator : Generator)

/-- A part reports what announces it before anything else, and nothing after that. -/
theorem exists_steps_eq (part : PassPart) :
    ∃ written, Quiet written ∧
      part.steps generator = part.event?.toList.map .report ++ written := by
  cases part with
  | opening => exact ⟨_, (Generator.quiet_wrappers generator.settings).1, rfl⟩
  | contract message => exact ⟨_, Generator.quiet_class generator message, rfl⟩
  | unnamed => exact ⟨[], rfl, rfl⟩
  | interface name entity rule matched =>
    have joins : ¬ (Generator.joining rule entity).isEmpty = true := by
      rw [Generator.joining_eq_filter, List.isEmpty_iff]
      exact matched
    have quiet := Generator.quiet_interface generator (rule.name.render #v[name])
      (rule.matching entity)
    refine ⟨_, quiet, ?_⟩
    rw [PassPart.steps, Generator.interfaceSteps, if_neg joins, Generator.joining_eq_filter]
    rfl
  | closing => exact ⟨_, (Generator.quiet_wrappers generator.settings).2, rfl⟩

/-- A part reports what announces it, whatever the sink makes of its steps. -/
theorem performAll_events (part : PassPart) (sink : σ) :
    (performAll (part.steps generator) sink).events = part.event?.toList := by
  obtain ⟨written, quiet, steps⟩ := part.exists_steps_eq generator
  rw [steps]
  cases part.event? with
  | none => exact quiet.performAll_events sink
  | some event => exact congrArg (event :: ·) (quiet.performAll_events sink)

/-- A pass over parts stops in one of them: the sink takes all that is written before it, and from
the sink that this leads to a call of the part itself is refused. -/
structure StopsIn (sink : σ) (earlier : List PassPart) (part : PassPart) (fault : OutputFault) :
    Prop where
  /-- What is written before is taken. -/
  taken : (performAll (earlier.flatMap (·.steps generator)) sink).fault = none
  /-- A call of the part is refused with this fault. -/
  refused : (performAll (part.steps generator)
    (performAll (earlier.flatMap (·.steps generator)) sink).sink).fault = some fault

/-- A part after others that are taken. -/
theorem StopsIn.cons {sink : σ} {first part : PassPart} {earlier : List PassPart}
    {fault : OutputFault} (taken : (performAll (first.steps generator) sink).fault = none)
    (stops : StopsIn generator (performAll (first.steps generator) sink).sink earlier part fault) :
    StopsIn generator sink (first :: earlier) part fault := by
  have led := performAll_append_of_done taken (earlier.flatMap (·.steps generator))
  rw [← List.flatMap_cons] at led
  constructor
  · rw [led]
    exact stops.taken
  · rw [led]
    exact stops.refused

/-- No sink refuses an entity that is only reported. -/
theorem StopsIn.ne_unnamed {sink : σ} {earlier : List PassPart} {part : PassPart}
    {fault : OutputFault} (stops : StopsIn generator sink earlier part fault) :
    part ≠ unnamed := by
  rintro rfl
  cases stops.refused

/-- Parts are announced one after the other: all of them, or those up to the one in which the pass
stops. -/
theorem performAll_parts (parts : List PassPart) (sink : σ) :
    let run := performAll (parts.flatMap (·.steps generator)) sink
    run.fault = none ∧ run.events = parts.filterMap event? ∨
      ∃ earlier part later fault, parts = earlier ++ part :: later ∧
        StopsIn generator sink earlier part fault ∧ run.fault = some fault ∧
        run.events = (earlier ++ [part]).filterMap event? := by
  induction parts generalizing sink with
  | nil => exact .inl ⟨rfl, rfl⟩
  | cons first rest ih =>
    have announced := first.performAll_events generator sink
    have events_cons (others : List PassPart) :
        (first :: others).filterMap event? = first.event?.toList ++ others.filterMap event? := by
      rw [List.filterMap_eq_flatMap_toList, List.filterMap_eq_flatMap_toList, List.flatMap_cons]
    dsimp only
    rw [List.flatMap_cons]
    cases stopped : (performAll (first.steps generator) sink).fault with
    | some fault =>
      rw [performAll_append_of_fault stopped]
      refine .inr ⟨[], first, rest, fault, rfl, ⟨rfl, stopped⟩, stopped, ?_⟩
      rw [announced, List.nil_append, events_cons]
      exact (List.append_nil _).symm
    | none =>
      -- The rest is performed on the sink that the first part leads to.
      rw [performAll_append_of_done stopped]
      obtain ⟨done, events⟩ | ⟨earlier, part, later, fault, rfl, stops, failed, events⟩ :=
        ih (performAll (first.steps generator) sink).sink
      · refine .inl ⟨done, ?_⟩
        rw [announced, events, events_cons]
      · refine .inr ⟨first :: earlier, part, later, fault, rfl, stops.cons generator stopped,
          failed, ?_⟩
        rw [announced, events, List.cons_append, events_cons]

/-- The last part of a row is the last that is announced, unless it is one of the wrappers. -/
theorem wrapper_or_getLast? (earlier : List PassPart) (part : PassPart) :
    part = opening ∨ part = closing ∨ ∃ event, part.event? = some event ∧
      ((earlier ++ [part]).filterMap event?).getLast? = some event := by
  have last {event : Event} (announces : part.event? = some event) :
      ((earlier ++ [part]).filterMap event?).getLast? = some event := by
    rw [List.filterMap_append, List.filterMap_cons_some announces]
    exact List.getLast?_concat
  cases part with
  | opening => exact .inl rfl
  | contract message => exact .inr (.inr ⟨_, rfl, last rfl⟩)
  | unnamed => exact .inr (.inr ⟨_, rfl, last rfl⟩)
  | interface name entity rule matched => exact .inr (.inr ⟨_, rfl, last rfl⟩)
  | closing => exact .inr (.inl rfl)

/-- No part is announced as the end of the pass. -/
theorem message_event?_ne (part : PassPart) {event : Event} (announces : part.event? = some event) :
    event.record.message ≠ "generation finished" := by
  cases part <;> cases announces <;> simp [Event.record]

/-- An interface is announced with some message. -/
theorem count_notMem_fields (part : PassPart) {event : Event}
    (announces : part.event? = some event) :
    ("messages", FieldValue.count 0) ∉ event.record.fields := by
  cases part with
  | opening => cases announces
  | contract message => cases announces; simp [Event.record]
  | unnamed => cases announces; simp [Event.record]
  | interface name entity rule matched =>
    cases announces
    have filled : 0 ≠ (rule.matching entity).length :=
      Nat.ne_of_lt (List.length_pos_iff.mpr matched)
    simp [Event.record, filled]
  | closing => cases announces

end PassPart

namespace Generator

variable {σ : Type} [LineSink σ]

/-- A pass that succeeds has announced all its parts and its counts; one that fails has announced
its parts up to the one in which the sink failed. -/
theorem generate_parts (generator : Generator) (model : Model) (sink : σ) :
    let pass := generator.generate model sink
    pass.result = .ok (generator.counts model) ∧
        pass.events = (generator.parts model).filterMap PassPart.event?
          ++ [.finished (generator.counts model)] ∨
      ∃ earlier part later fault, generator.parts model = earlier ++ part :: later ∧
        PassPart.StopsIn generator sink earlier part fault ∧
        pass.result = .error (.output fault) ∧
        pass.events = (earlier ++ [part]).filterMap PassPart.event? := by
  dsimp only
  rw [generate, steps_eq_parts, summary_eq_counts]
  obtain ⟨done, events⟩ | ⟨earlier, part, later, fault, split, stops, failed, events⟩ :=
    PassPart.performAll_parts generator (generator.parts model) sink
  · rw [Step.performAll_append_of_done done, events]
    exact .inl ⟨rfl, rfl⟩
  · rw [Step.performAll_append_of_fault failed, failed]
    exact .inr ⟨earlier, part, later, fault, split, stops, rfl, events⟩

/-- A pass without a limit announces all the parts and the counts. -/
theorem generate_parts_recorded (generator : Generator) (model : Model) (level : Level)
    (refusal : Refusal) :
    let free := generator.generate model (CallLog.create level none refusal)
    free.result = .ok (generator.counts model) ∧
      free.events = (generator.parts model).filterMap PassPart.event?
        ++ [.finished (generator.counts model)] := by
  obtain whole | ⟨earlier, part, later, fault, -, -, failed, -⟩ :=
    generate_parts generator model (CallLog.create level none refusal)
  · exact whole
  · have done := (generate_recorded generator model level refusal).1
    rw [failed] at done
    cases done

/-- A pass counts what it emits and announces it. On every sink, a pass that succeeds returns the
number of contracts, of pairs of an entity with a name and a rule that a message of it matches, and
of entities without a name, and it announces each contract, each such entity and pair, in order and
with their sizes, and at last the counts. A pass that fails announces only a beginning of this, of
which the end of the pass is no part; it has stopped in one of its parts, and this part is the last
that it has announced, unless it is one of the wrappers. -/
theorem generate_announces {σ : Type} [LineSink σ] (generator : Generator) (model : Model)
    (sink : σ) (level : Level) (refusal : Refusal) :
    let counts := generator.counts model
    let parts := generator.parts model
    let free := generator.generate model (CallLog.create level none refusal)
    let pass := generator.generate model sink
    (free.result = .ok counts ∧ free.events.map Event.record = generator.announcements model) ∧
    (∀ event ∈ free.events, ("messages", .count 0) ∉ event.record.fields) ∧
    generator.steps model =
      parts.flatMap (·.steps generator) ++ [.report (.finished counts)] ∧
    match pass.result with
    | .ok summary =>
      summary = counts ∧ pass.events.map Event.record = generator.announcements model
    | .error error =>
      pass.events <+: free.events ∧ pass.events.length < free.events.length ∧
      (∀ event ∈ pass.events, event.record.message ≠ "generation finished") ∧
      ∃ earlier part later fault, parts = earlier ++ part :: later ∧
        PassPart.StopsIn generator sink earlier part fault ∧ error = .output fault ∧
        pass.events = (earlier ++ [part]).filterMap PassPart.event? ∧ part ≠ .unnamed ∧
        (part = .opening ∨ part = .closing ∨
          ∃ event, part.event? = some event ∧ pass.events.getLast? = some event) := by
  intro counts parts free pass
  obtain ⟨freed, announced⟩ := generate_parts_recorded generator model level refusal
  have records : free.events.map Event.record = generator.announcements model := by
    rw [announced, announcements_eq]
  refine ⟨⟨freed, records⟩, ?_, steps_eq_parts generator model, ?_⟩
  · intro event reported
    rw [announced, List.mem_append, List.mem_singleton] at reported
    obtain listed | rfl := reported
    · obtain ⟨part, -, announces⟩ := List.mem_filterMap.mp listed
      exact part.count_notMem_fields announces
    · simp [Event.record]
  · obtain ⟨done, events⟩ |
        ⟨earlier, part, later, fault, (split : parts = _), stops, failed, events⟩ :=
      generate_parts generator model sink
    · rw [done]
      refine ⟨rfl, ?_⟩
      rw [events, announcements_eq]
    · rw [failed]
      have beginning : pass.events <+: parts.filterMap PassPart.event? := by
        rw [events, split]
        exact .filterMap _ ⟨later, by simp⟩
      refine ⟨?_, ?_, ?_, earlier, part, later, fault, split, stops, rfl, events,
        stops.ne_unnamed generator, ?_⟩
      · rw [announced]
        exact beginning.trans (List.prefix_append _ _)
      · rw [announced, List.length_append, List.length_singleton]
        exact Nat.lt_succ_of_le beginning.length_le
      · intro event reported
        obtain ⟨part, -, announces⟩ := List.mem_filterMap.mp (beginning.subset reported)
        exact part.message_event?_ne announces
      · rw [events]
        exact PassPart.wrapper_or_getLast? earlier part

end Generator

end MessageContracts
