import MessageContracts.Store

/-!
# What a store takes of the bytes offered to it

A store takes the longest beginning of the bytes that fits. Two rows of bytes offered one after
the other come to the same as both offered as one row, wherever the room runs out. An output can
therefore be followed write by write and cut as a whole. Flushing is not considered here.
-/

namespace MessageContracts.Store

variable {store : Store} {first second bytes : ByteArray}

/-- Whether all of the bytes fit into the room that is left. -/
def Fits (store : Store) (bytes : ByteArray) : Prop :=
  ∀ room, store.room = some room → bytes.size ≤ room

/-- The beginning of the bytes that the store takes. -/
def taken (store : Store) (bytes : ByteArray) : ByteArray :=
  match store.room with
  | none => bytes
  | some room => bytes.extract 0 room

/-- The store after the bytes were offered, whether or not all of them fit. -/
def offered (store : Store) (bytes : ByteArray) : Store :=
  { store with
    content := store.content ++ store.taken bytes
    room := store.room.map (· - bytes.size) }

/-- Bytes that do not fit meet a limit below their number. -/
theorem room_of_not_fits (refused : ¬store.Fits bytes) :
    ∃ room, store.room = some room ∧ room < bytes.size := by
  simp only [Fits, Classical.not_forall, Nat.not_le] at refused
  obtain ⟨room, limit, short⟩ := refused
  exact ⟨room, limit, short⟩

/-- Of bytes that fit, a store takes all. -/
theorem taken_of_fits (fits : store.Fits bytes) : store.taken bytes = bytes := by
  cases limit : store.room with
  | none => simp only [taken, limit]
  | some room =>
    have enough : bytes.size ≤ room := fits room limit
    simp only [taken, limit]
    rw [← Nat.max_eq_left enough, ByteArray.extract_zero_max_size]

/-- Bytes that fit are appended in full. -/
theorem append_of_fits (fits : store.Fits bytes) :
    append bytes store = .ok () (store.offered bytes) := by
  have whole := taken_of_fits fits
  cases limit : store.room with
  | none => simp only [append, offered, whole, limit, Option.map_none]
  | some room =>
    have enough : bytes.size ≤ room := fits room limit
    simp only [append, offered, whole, limit, if_pos enough, Option.map_some]

/-- Bytes that do not fit are appended up to the last one that fits, with the fault of a write. -/
theorem append_of_not_fits (refused : ¬store.Fits bytes) :
    append bytes store = .error store.refusal.writeFault (store.offered bytes) := by
  obtain ⟨room, limit, short⟩ := room_of_not_fits refused
  have too_long : ¬bytes.size ≤ room := by omega
  have none_left : room - bytes.size = 0 := by omega
  simp only [append, offered, taken, limit, if_neg too_long, Option.map_some, none_left]

/-- No bytes always fit. -/
theorem fits_empty : store.Fits .empty := by
  intro room _
  rw [ByteArray.size_empty]
  exact Nat.zero_le room

/-- Offering no bytes leaves the store as it is. -/
theorem offered_empty : store.offered .empty = store := by
  obtain ⟨content, room, refusal, flushes⟩ := store
  cases room with
  | none => simp only [offered, taken, ByteArray.append_empty, Option.map_none]
  | some n =>
    have nothing : ByteArray.empty.extract 0 n = ByteArray.empty := by
      rw [ByteArray.extract_eq_empty_iff, ByteArray.size_empty]
      omega
    simp only [offered, taken, nothing, ByteArray.append_empty, Option.map_some,
      ByteArray.size_empty, Nat.sub_zero]

/-- Two rows fit together when the first fits and the second fits into what it leaves. -/
theorem fits_append : store.Fits (first ++ second) ↔
    store.Fits first ∧ (store.offered first).Fits second := by
  cases room : store.room with
  | none => simp [Fits, offered, room]
  | some n =>
    simp only [Fits, offered, room, Option.some.injEq, forall_eq', Option.map_some,
      ByteArray.size_append]
    omega

/-- Offering two rows as one is offering one after the other. -/
theorem offered_append :
    store.offered (first ++ second) = (store.offered first).offered second := by
  cases room : store.room with
  | none => simp only [offered, taken, room, Option.map_none, ByteArray.append_assoc]
  | some n =>
    simp only [offered, taken, room, Option.map_some, ByteArray.append_assoc,
      ByteArray.extract_append, Nat.zero_sub, ByteArray.size_append, Nat.sub_add_eq]

/-- After bytes that did not fit, a store takes nothing more. -/
theorem offered_of_not_fits (refused : ¬store.Fits first) :
    (store.offered first).offered second = store.offered first := by
  obtain ⟨room, limit, short⟩ := room_of_not_fits refused
  have none_left : room - first.size = 0 := by omega
  simp only [offered, taken, limit, Option.map_some, none_left, ByteArray.extract_same,
    ByteArray.append_empty, Nat.zero_sub]

/-- A store of unlimited room takes everything. -/
theorem fits_of_room_eq_none (unlimited : store.room = none) : store.Fits bytes := by
  intro room limited
  rw [unlimited] at limited
  cases limited

/-- A store with room for `n` more bytes has room for exactly the rows of at most `n` bytes. -/
theorem fits_of_room_eq_some {n : Nat} (limited : store.room = some n) :
    store.Fits bytes ↔ bytes.size ≤ n := by
  simp only [Fits, limited, Option.some.injEq, forall_eq']

/-- Bytes that fit all end up in the store. -/
theorem content_offered_of_fits (fits : store.Fits bytes) :
    (store.offered bytes).content = store.content ++ bytes := by
  simp only [offered, taken_of_fits fits]

/-- A new store with room for `n` bytes holds the first `n` of those offered to it. -/
theorem content_offered_create (n : Nat) (refusal : Refusal) :
    ((create (some n) refusal).offered bytes).content = bytes.extract 0 (min n bytes.size) := by
  have cut : bytes.extract 0 n = bytes.extract 0 (min n bytes.size) := by
    rcases Nat.le_total n bytes.size with short | long
    · rw [Nat.min_eq_left short]
    · rw [Nat.min_eq_right long, ByteArray.extract_zero_size, ← Nat.max_eq_left long,
        ByteArray.extract_zero_max_size]
  simp only [offered, taken, create, ByteArray.empty_append, cut]

end MessageContracts.Store
