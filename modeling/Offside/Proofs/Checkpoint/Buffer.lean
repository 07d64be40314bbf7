import Offside.Proofs.Session.Course

/-!
# States in buffers

A host saves a state in a buffer of its own. Where the header has no room nothing is written; where
some levels have none, the outermost ones are left out, and what is written is read back as the state
with the others. Main definitions and statements:

* `Checkpoint.overwrite_zero`, `Checkpoint.overwrite_behind` — writing in front, and behind what was written before.
* `Checkpoint.length_of_encode` — how many bytes a state takes.
* `Checkpoint.store_of_encode` — what is written does not depend on what the buffer held before.
* `Checkpoint.decode_store` — a buffer as a save leaves it, and what is read from it.
-/

namespace Offside
namespace Checkpoint

/-! ## Overwriting -/

theorem overwrite_zero (buffer bytes : Bytes) :
    overwrite buffer 0 bytes = bytes ++ buffer.drop bytes.length := by
  rw [overwrite, List.take_zero, List.nil_append, Nat.zero_add]

/-- Writing goes on behind what was written in front. -/
theorem overwrite_behind (front rest bytes : Bytes) :
    overwrite (front ++ rest) front.length bytes = front ++ bytes ++ rest.drop bytes.length := by
  have behind : (front ++ rest).drop (front.length + bytes.length) = rest.drop bytes.length := by
    rw [← List.drop_drop, List.drop_left]
  rw [overwrite, List.take_left, behind]

/-! ## The bytes of a state -/

theorem length_encodeHeader (state : State) : (encodeHeader state).length = headerSize :=
  rfl

section

variable {capacity : Nat} {state : State} {bytes : Bytes}

theorem eq_of_encode (saved : encode capacity state = .ok bytes) :
    headerSize ≤ capacity ∧
      bytes = encodeHeader state ++ (state.levels.take (depthWithin capacity)).flatMap encodeWord := by
  rw [encode] at saved
  split at saved
  · cases saved
  next room =>
    cases saved
    exact ⟨Nat.not_lt.1 room, rfl⟩

theorem length_of_encode (saved : encode capacity state = .ok bytes) :
    bytes.length = headerSize + levelSize * min state.depth (depthWithin capacity) := by
  rcases eq_of_encode saved with ⟨_, rfl⟩
  rw [List.length_append, length_encodeHeader, length_flatMap_encodeWord, List.length_take,
    Nat.min_comm, State.depth]

/-- The levels that are kept have room behind the header. -/
theorem length_le_of_encode (saved : encode capacity state = .ok bytes) :
    bytes.length ≤ capacity := by
  have room := (eq_of_encode saved).1
  have kept : min state.depth (depthWithin capacity) ≤ depthWithin capacity := Nat.min_le_right _ _
  rw [length_of_encode saved]
  simp only [depthWithin, headerSize, levelSize] at *
  omega

/-- Levels without room are left out once and for all. -/
theorem encode_truncate (capacity : Nat) (state : State) :
    encode capacity (state.truncate (depthWithin capacity)) = encode capacity state := by
  simp only [encode, State.truncate, List.take_take, Nat.min_self]
  rfl

/-- A state is written over the front of the buffer, whatever stood there. -/
theorem store_of_encode {buffer : Bytes} (saved : encode buffer.length state = .ok bytes) :
    store state buffer = (.ok bytes.length, bytes ++ buffer.drop bytes.length) := by
  rcases eq_of_encode saved with ⟨room, rfl⟩
  have behind := overwrite_behind (encodeHeader state) (buffer.drop headerSize)
    ((state.levels.take (depthWithin buffer.length)).flatMap encodeWord)
  rw [length_encodeHeader, List.drop_drop] at behind
  simp only [store, Nat.not_lt.2 room, if_false, overwrite_zero, length_encodeHeader, behind,
    List.length_append, length_flatMap_encodeWord]

theorem store_of_tight {buffer : Bytes} (tight : buffer.length < headerSize) :
    store state buffer = (.error (.noRoom buffer.length headerSize), buffer) := by
  rw [store, if_pos tight]

/-- A state is unchanged by leaving levels out only if there are none to leave out. -/
theorem truncate_eq_self_iff {depth : Nat} : state.truncate depth = state ↔ state.depth ≤ depth := by
  constructor
  · intro same
    have kept : (state.levels.take depth).length = state.levels.length :=
      congrArg (fun state => state.levels.length) same
    rw [List.length_take] at kept
    rw [State.depth, ← kept]
    exact Nat.min_le_left _ _
  · intro enough
    rw [State.truncate, List.take_of_length_le enough]

end

/-! ## Saving and reading back -/

/-- What a save does to a buffer. One without room for the header is left as it was. In any other, the
front is overwritten with bytes that depend on the state and on the size of the buffer alone, and the rest
is left as it was. What is read from those bytes is the state with its innermost levels, as many as have
room; and saved once more, it gives the same bytes. -/
theorem decode_store (state : State) (buffer : Bytes) :
    (buffer.length < headerSize →
      store state buffer = (.error (.noRoom buffer.length headerSize), buffer)) ∧
    (headerSize ≤ buffer.length →
      ∃ used written, store state buffer = (.ok used, written) ∧
        used = headerSize + levelSize * min state.depth (depthWithin buffer.length) ∧
        used ≤ buffer.length ∧
        written.length = buffer.length ∧
        written.drop used = buffer.drop used ∧
        (∀ other : Bytes, other.length = buffer.length →
          store state other = (.ok used, written.take used ++ other.drop used)) ∧
        ∃ restored, decode (written.take used) = .ok restored ∧
          restored =
            { state with levels := state.levels.take (min state.depth (depthWithin buffer.length)) } ∧
          (restored = state ↔ state.depth ≤ depthWithin buffer.length) ∧
          ∀ other : Bytes, other.length = buffer.length →
            store restored other = (.ok used, written.take used ++ other.drop used)) := by
  refine ⟨store_of_tight, ?_⟩
  intro room
  rcases exists_encode_eq_ok room state with ⟨bytes, saved⟩
  have within := length_le_of_encode saved
  have rewritten {source : State} (same : encode buffer.length source = .ok bytes) (other : Bytes)
      (size : other.length = buffer.length) :
      store source other = (.ok bytes.length, bytes ++ other.drop bytes.length) := by
    rw [← size] at same
    exact store_of_encode same
  have front : (bytes ++ buffer.drop bytes.length).take bytes.length = bytes := List.take_left
  refine ⟨_, _, store_of_encode saved, length_of_encode saved, within, ?_, List.drop_left, ?_, ?_⟩
  · rw [List.length_append, List.length_drop]
    omega
  · rw [front]
    exact rewritten saved
  · rw [front]
    refine ⟨_, decode_encode saved, ?_, truncate_eq_self_iff, ?_⟩
    · rw [State.truncate, State.depth, Nat.min_comm, ← List.take_take, List.take_length]
    · exact rewritten ((encode_truncate _ _).trans saved)

/-- Two levels of five have room in a buffer of 22 bytes, and its last three bytes stay. -/
theorem decode_store_truncated :
    headerSize ≤ (List.replicate 22 0xAA : Bytes).length ∧
      ∃ used written,
        store ⟨[5, 4, 3, 2, 0xFFFFFFFF], ⟨2, 3, true⟩, false, true⟩ (List.replicate 22 0xAA) =
          (.ok used, written) ∧
        used = 19 ∧ written.drop used = [0xAA, 0xAA, 0xAA] ∧
        decode (written.take used) = .ok ⟨[5, 4], ⟨2, 3, true⟩, false, true⟩ := by
  have room : headerSize ≤ (List.replicate 22 0xAA : Bytes).length := by decide
  rcases (decode_store ⟨[5, 4, 3, 2, 0xFFFFFFFF], ⟨2, 3, true⟩, false, true⟩
    (List.replicate 22 0xAA)).2 room with
    ⟨used, written, stored, size, _, _, rest, _, restored, read, kept, _⟩
  have nineteen : used = 19 := size
  subst nineteen
  refine ⟨room, 19, written, stored, rfl, rest, ?_⟩
  rw [read, kept]
  rfl

end Checkpoint
end Offside
