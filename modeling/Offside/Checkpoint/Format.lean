import Offside.Checkpoint.Fault
import Offside.Notice
import Offside.State

/-!
# Saved states

A state is saved as a header of eleven bytes and four bytes for each layout level. Numbers are
written with the least significant byte first.

| offset | size | content |
|-------:|-----:|---------|
| 0      | 4    | owed closing braces |
| 4      | 4    | owed separators |
| 8      | 1    | the last separator is dropped |
| 9      | 1    | the terminator was given out |
| 10     | 1    | an opening brace awaits its level |
| 11     | 4·k  | levels, innermost first |

Where the room does not do, the outermost levels are left out. No bytes at all stand for the fresh
state. Main statements:

* `decodeWord_encodeWord` — a number reads back.
* `decode_encode` — a saved state reads back as the state with its innermost levels that had room.
-/

namespace Offside
namespace Checkpoint

/-- The bytes in front of the levels. -/
def headerSize : Nat := 11

/-- The bytes of one level. -/
def levelSize : Nat := 4

/-- The bytes that a host sets aside for a checkpoint unless told otherwise. -/
def defaultCapacity : Nat := 1024

/-- The number of levels that have room in `capacity` bytes. -/
def depthWithin (capacity : Nat) : Nat :=
  (capacity - headerSize) / levelSize

abbrev Bytes := List UInt8

/-! ## Numbers and flags -/

def encodeWord (n : UInt32) : Bytes :=
  [.ofNat n.toNat, .ofNat (n.toNat / 0x100), .ofNat (n.toNat / 0x10000),
   .ofNat (n.toNat / 0x1000000)]

def decodeWord (b₀ b₁ b₂ b₃ : UInt8) : UInt32 :=
  .ofNat (b₀.toNat + 0x100 * b₁.toNat + 0x10000 * b₂.toNat + 0x1000000 * b₃.toNat)

def encodeFlag (flag : Bool) : UInt8 :=
  if flag then 1 else 0

/-- Reads a flag; `offset` is its place among the bytes. -/
def decodeFlag (offset : Nat) (b : UInt8) : Except Fault Bool :=
  if b = 0 then
    .ok false
  else if b = 1 then
    .ok true
  else
    .error (.badFlag offset b.toNat)

/-- Reads as many whole numbers as there are. -/
def decodeWords : Bytes → List UInt32
  | b₀ :: b₁ :: b₂ :: b₃ :: rest => decodeWord b₀ b₁ b₂ b₃ :: decodeWords rest
  | _ => []

/-! ## States -/

def encodeHeader (state : State) : Bytes :=
  encodeWord state.owed.closes ++ encodeWord state.owed.separators ++
    [encodeFlag state.owed.dropsLast, encodeFlag state.terminated, encodeFlag state.awaitsLevel]

/-- Writes a state into at most `capacity` bytes. That no buffer of more than `2 ^ 63 - 1` bytes can be
allocated is left out of the model. -/
def encode (capacity : Nat) (state : State) : Except Fault Bytes :=
  if capacity < headerSize then
    .error (.noRoom capacity headerSize)
  else
    .ok (encodeHeader state ++ (state.levels.take (depthWithin capacity)).flatMap encodeWord)

/-- Overwrites the bytes of `buffer` from `offset` on. -/
def overwrite (buffer : Bytes) (offset : Nat) (bytes : Bytes) : Bytes :=
  buffer.take offset ++ bytes ++ buffer.drop (offset + bytes.length)

/-- Writes a state into `buffer` in place: the header, and behind it the levels that have room. Gives
the number of bytes used beside the buffer as it is then. -/
def store (state : State) (buffer : Bytes) : Except Fault Nat × Bytes :=
  if buffer.length < headerSize then
    (.error (.noRoom buffer.length headerSize), buffer)
  else
    let levels := state.levels.take (depthWithin buffer.length)
    let headed := overwrite buffer 0 (encodeHeader state)
    (.ok (headerSize + levelSize * levels.length),
      overwrite headed headerSize (levels.flatMap encodeWord))

/-- Overwrites the front of `buffer` with a state. Gives the number of bytes written. -/
def writeInto (buffer : Bytes) (state : State) : Except Fault (Nat × Bytes) :=
  let (outcome, written) := store state buffer
  outcome.map fun used => (used, written)

/-- Reads a state. -/
def decode : Bytes → Except Fault State
  | [] => .ok .fresh
  | c₀ :: c₁ :: c₂ :: c₃ :: s₀ :: s₁ :: s₂ :: s₃ :: drops :: terminated :: awaits :: levels =>
      if levels.length % levelSize = 0 then do
        let drops ← decodeFlag 8 drops
        let terminated ← decodeFlag 9 terminated
        let awaits ← decodeFlag 10 awaits
        return {
          levels := decodeWords levels
          owed := {
            closes := decodeWord c₀ c₁ c₂ c₃
            separators := decodeWord s₀ s₁ s₂ s₃
            dropsLast := drops }
          terminated := terminated
          awaitsLevel := awaits }
      else
        .error (.strayBytes (levels.length % levelSize))
  | bytes => .error (.shortHeader bytes.length headerSize)

/-! ## Leaving a trace -/

/-- The notice of levels that have no room. -/
def truncation (capacity : Nat) (state : State) : List Notice :=
  if headerSize ≤ capacity ∧ depthWithin capacity < state.depth then
    [.truncates state.depth (state.depth - depthWithin capacity) capacity]
  else
    []

/-- Writes a state into at most `capacity` bytes. -/
def save (capacity : Nat) (state : State) : Logged (Except Fault Bytes) where
  value := encode capacity state
  notices := truncation capacity state

/-! ## Reading back -/

@[simp]
theorem length_encodeWord (n : UInt32) : (encodeWord n).length = levelSize :=
  rfl

theorem decodeWord_encodeWord (n : UInt32) :
    decodeWord (.ofNat n.toNat) (.ofNat (n.toNat / 0x100)) (.ofNat (n.toNat / 0x10000))
      (.ofNat (n.toNat / 0x1000000)) = n := by
  -- The four bytes are the digits of `n` to the base 256.
  have bound := n.toNat_lt
  apply UInt32.toNat_inj.1
  simp only [decodeWord, UInt8.toNat_ofNat', UInt32.toNat_ofNat']
  omega

theorem decodeFlag_encodeFlag (offset : Nat) (flag : Bool) :
    decodeFlag offset (encodeFlag flag) = .ok flag := by
  cases flag <;> rfl

theorem decodeWords_flatMap_encodeWord (levels : List UInt32) :
    decodeWords (levels.flatMap encodeWord) = levels := by
  induction levels with
  | nil => rfl
  | cons level rest ih =>
      simp only [List.flatMap_cons, encodeWord, List.cons_append, List.nil_append, decodeWords,
        decodeWord_encodeWord, ih]

theorem length_flatMap_encodeWord (levels : List UInt32) :
    (levels.flatMap encodeWord).length = levelSize * levels.length := by
  induction levels with
  | nil => rfl
  | cons level rest ih =>
      simp [ih, Nat.mul_add, Nat.add_comm]

theorem decode_encodeHeader_append (state : State) (levels : List UInt32) :
    decode (encodeHeader state ++ levels.flatMap encodeWord) =
      .ok { state with levels := levels } := by
  have whole : (levels.flatMap encodeWord).length % levelSize = 0 := by
    rw [length_flatMap_encodeWord, Nat.mul_mod_right]
  simp only [encodeHeader, encodeWord, List.cons_append, List.nil_append, decode, whole, if_true,
    decodeFlag_encodeFlag, decodeWord_encodeWord, decodeWords_flatMap_encodeWord]
  rfl

theorem decode_encode {capacity : Nat} {state : State} {bytes : Bytes}
    (h : encode capacity state = .ok bytes) :
    decode bytes = .ok (state.truncate (depthWithin capacity)) := by
  unfold encode at h
  split at h
  · cases h
  · cases h
    exact decode_encodeHeader_append state _

end Checkpoint
end Offside
