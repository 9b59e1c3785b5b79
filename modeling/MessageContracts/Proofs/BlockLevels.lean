import MessageContracts.Proofs.Blocks

/-!
# Levels that follow from blocks

Where the braces before a call fix its level, the level counts the blocks that the call stands in: a
block closes at the level at which it was opened, and every call in between is deeper. This is said
here of rows of marked calls, and it holds of the first calls of a row when it holds of all of them.
-/

namespace MessageContracts

namespace MarkedCall

/-- Calls that rise out of so many blocks: they close as many more than they open, and never any
further one. -/
structure Rises (depth : Nat) (calls : List MarkedCall) : Prop where
  /-- All of the calls together rise that far. -/
  reached : closed calls = opened calls + depth
  /-- No first part of the calls rises any further. -/
  below : ∀ head, head <+: calls → closed head ≤ opened head + depth

/-- Blocks opened by one call more. -/
theorem opened_cons (marked : MarkedCall) (rest : List MarkedCall) :
    opened (marked :: rest) = opened rest + if marked.mark = .opening then 1 else 0 := by
  simp only [opened, List.map_cons, List.count_cons, beq_iff_eq]

/-- Blocks closed by one call more. -/
theorem closed_cons (marked : MarkedCall) (rest : List MarkedCall) :
    closed (marked :: rest) = closed rest + if marked.mark = .closing then 1 else 0 := by
  simp only [closed, List.map_cons, List.count_cons, beq_iff_eq]

/-- The braces among calls that lead from a level are those of blocks. -/
theorem Leads.braces {start last : Nat} {calls : List MarkedCall}
    (leads : Leads start calls last) : ∀ marked ∈ calls,
    (marked.mark = .opening → marked.call.endsLine = true ∧ marked.call.text = "\x7b") ∧
    (marked.mark = .closing → marked.call.endsLine = true ∧ marked.call.text = "\x7d") := by
  induction leads with
  | nil level => simp
  | plain _ ih | opening _ ih | closing _ ih =>
    rw [List.forall_mem_cons]
    exact ⟨by simp, ih⟩

/-- One call more in front, which may open a block to rise out of or close one. -/
theorem Rises.cons {inner depth : Nat} {marked : MarkedCall} {rest : List MarkedCall}
    (rises : Rises inner rest)
    (step : inner + (if marked.mark = .closing then 1 else 0) =
      depth + if marked.mark = .opening then 1 else 0) : Rises depth (marked :: rest) where
  reached := by
    have reached := rises.reached
    rw [closed_cons, opened_cons]
    omega
  below head beginning := by
    rcases List.prefix_cons_iff.mp beginning with rfl | ⟨tail, rfl, inner_part⟩
    · exact Nat.zero_le _
    · have below := rises.below tail inner_part
      rw [closed_cons, opened_cons]
      omega

end MarkedCall

end MessageContracts
