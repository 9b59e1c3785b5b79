/-!
# Indent levels

A level is a machine word of 64 bits that counts units of indent. Raising a level adds one as words
do, so that the highest level is raised to zero; lowering stops at zero. Below the highest level
both are what they are for numbers.
-/

namespace MessageContracts

/-- An indent level. -/
structure Level where
  /-- The level as a word. -/
  word : UInt64
deriving DecidableEq, Repr

namespace Level

/-- How many units make up the indent of a level. -/
def count (level : Level) : Nat := level.word.toNat

/-- The level that a number writes as a word; of a longer number only the last 64 bits are kept. -/
def ofNat (number : Nat) : Level := ⟨.ofNat number⟩

instance (number : Nat) : OfNat Level number := ⟨ofNat number⟩

instance : CoeOut Level Nat := ⟨count⟩

/-- A number that stands for a level is written as a word. -/
instance : Coe Nat Level := ⟨ofNat⟩

/-- The highest level. -/
def top : Level := 18446744073709551615

/-- The level one deeper. After the highest one comes zero. -/
def deeper (level : Level) : Level := ⟨level.word + 1⟩

/-- The level one higher up, but not below zero. -/
def higher (level : Level) : Level := if level.word = 0 then level else ⟨level.word - 1⟩

variable {level other : Level}

/-- A level is known by its count. -/
theorem eq_of_count_eq (same : level.count = other.count) : level = other := by
  obtain ⟨word⟩ := level
  obtain ⟨otherWord⟩ := other
  exact congrArg Level.mk (UInt64.toNat_inj.mp same)

/-- The highest level has all the units that a word can count. -/
theorem count_top : top.count = 18446744073709551615 := rfl

/-- No level is above the highest one. -/
theorem count_le_top (level : Level) : level.count ≤ top.count := by
  have bound := level.word.toNat_lt
  rw [count_top, count]
  omega

/-- A level other than the highest one is below it. -/
theorem count_lt_top (below : level ≠ top) : level.count < top.count :=
  Nat.lt_of_le_of_ne (count_le_top level) fun same => below (eq_of_count_eq same)

/-- A level below the highest one is raised by one unit. -/
theorem count_deeper (below : level ≠ top) : level.deeper.count = level.count + 1 := by
  have bound := count_lt_top below
  rw [count_top, count] at bound
  rw [deeper, count, UInt64.toNat_add, count]
  exact Nat.mod_eq_of_lt (Nat.succ_lt_succ bound)

/-- The highest level is raised to zero. -/
theorem deeper_top : top.deeper = 0 := rfl

/-- A level is lowered by one unit, if it has any. -/
theorem count_higher (level : Level) : level.higher.count = level.count - 1 := by
  rw [higher]
  split
  next zero =>
    rw [count, zero]
    rfl
  next filled =>
    have one_le : (1 : UInt64) ≤ level.word := by
      rw [UInt64.le_iff_toNat_le]
      exact Nat.one_le_iff_ne_zero.mpr fun empty => filled (UInt64.toNat_inj.mp empty)
    exact UInt64.toNat_sub_of_le _ _ one_le

/-- A level below the highest one is the same again when it is raised and lowered. -/
theorem higher_deeper (below : level ≠ top) : level.deeper.higher = level := by
  apply eq_of_count_eq
  rw [count_higher, count_deeper below, Nat.add_sub_cancel]

end Level

end MessageContracts
