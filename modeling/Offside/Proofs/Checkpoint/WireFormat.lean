import Offside.Proofs.Checkpoint.Buffer

/-!
# The format of saved states

Bytes are read as a state exactly if they are well formed: a header whose flags are 0 or 1, and whole
levels behind it. A state has one such form, so what is read can be written again. Main definitions and
statements:

* `Checkpoint.WellFormed` — the format.
* `Checkpoint.wellFormed_iff` — well-formed bytes are those of the header of a state and of its levels.
* `Checkpoint.decode_eq_ok_iff`, `Checkpoint.exists_decode_iff` — which state is read, and from which
  bytes one is.
* `Checkpoint.exists_encode_of_decode` — saved once more, a state gives the bytes that it was read from,
  if they have room.
-/

namespace Offside
namespace Checkpoint

/-- The places of the flags. -/
def flagOffsets : List Nat := [8, 9, 10]

/-- A header with flags of 0 or 1, and whole levels behind it. -/
structure WellFormed (bytes : Bytes) : Prop where
  headed : headerSize ≤ bytes.length
  whole : (bytes.length - headerSize) % levelSize = 0
  flagged : ∀ offset ∈ flagOffsets, bytes[offset]? = some 0 ∨ bytes[offset]? = some 1

/-! ## Numbers and flags -/

theorem encodeWord_decodeWord (b₀ b₁ b₂ b₃ : UInt8) :
    encodeWord (decodeWord b₀ b₁ b₂ b₃) = [b₀, b₁, b₂, b₃] := by
  -- Four bytes are four digits to the base 256 of a number below `2 ^ 32`.
  have h₀ := b₀.toNat_lt
  have h₁ := b₁.toNat_lt
  have h₂ := b₂.toNat_lt
  have h₃ := b₃.toNat_lt
  have word : (decodeWord b₀ b₁ b₂ b₃).toNat =
      b₀.toNat + 0x100 * b₁.toNat + 0x10000 * b₂.toNat + 0x1000000 * b₃.toNat :=
    UInt32.toNat_ofNat_of_lt' (by simp only [UInt32.size]; omega)
  have digit {n : Nat} {b : UInt8} (same : n % 0x100 = b.toNat) : UInt8.ofNat n = b :=
    UInt8.toNat_inj.1 (by rw [UInt8.toNat_ofNat', same])
  rw [encodeWord, word, digit (b := b₀) (by omega), digit (b := b₁) (by omega),
    digit (b := b₂) (by omega), digit (b := b₃) (by omega)]

theorem flatMap_encodeWord_decodeWords (bytes : Bytes) (whole : bytes.length % levelSize = 0) :
    (decodeWords bytes).flatMap encodeWord = bytes := by
  fun_induction decodeWords bytes with
  | case1 b₀ b₁ b₂ b₃ rest ih =>
      have rest_whole : rest.length % levelSize = 0 := by
        simp only [List.length_cons, levelSize] at whole ⊢
        omega
      rw [List.flatMap_cons, encodeWord_decodeWord, ih rest_whole]
      rfl
  | case2 bytes none_left =>
      -- Fewer than four bytes are left, and a multiple of four.
      rcases bytes with _ | ⟨b₀, _ | ⟨b₁, _ | ⟨b₂, _ | ⟨b₃, rest⟩⟩⟩⟩
      · rfl
      · simp [levelSize] at whole
      · simp [levelSize] at whole
      · simp [levelSize] at whole
      · exact (none_left b₀ b₁ b₂ b₃ rest rfl).elim

theorem exists_encodeFlag_iff {b : UInt8} : (∃ flag, encodeFlag flag = b) ↔ b = 0 ∨ b = 1 := by
  constructor
  · rintro ⟨flag, rfl⟩
    cases flag with
    | false => exact .inl rfl
    | true => exact .inr rfl
  · rintro (rfl | rfl)
    · exact ⟨false, rfl⟩
    · exact ⟨true, rfl⟩

theorem eq_of_decodeFlag {offset : Nat} {b : UInt8} {flag : Bool}
    (read : decodeFlag offset b = .ok flag) : b = 0 ∨ b = 1 := by
  unfold decodeFlag at read
  split at read
  next zero => exact .inl zero
  next =>
    split at read
    next one => exact .inr one
    next => cases read

/-! ## States -/

section

variable {bytes : Bytes} {state : State}

theorem exists_of_headed (headed : headerSize ≤ bytes.length) :
    ∃ c₀ c₁ c₂ c₃ s₀ s₁ s₂ s₃ drops terminated awaits levels,
      bytes =
        c₀ :: c₁ :: c₂ :: c₃ :: s₀ :: s₁ :: s₂ :: s₃ :: drops :: terminated :: awaits :: levels := by
  rcases bytes with _ | ⟨c₀, _ | ⟨c₁, _ | ⟨c₂, _ | ⟨c₃, _ | ⟨s₀, _ | ⟨s₁, _ | ⟨s₂, _ | ⟨s₃,
    _ | ⟨drops, _ | ⟨terminated, _ | ⟨awaits, levels⟩⟩⟩⟩⟩⟩⟩⟩⟩⟩⟩
  case cons.cons.cons.cons.cons.cons.cons.cons.cons.cons.cons =>
    exact ⟨c₀, c₁, c₂, c₃, s₀, s₁, s₂, s₃, drops, terminated, awaits, levels, rfl⟩
  all_goals simp [headerSize] at headed

/-- Well-formed bytes are the header of a state and its levels. -/
theorem wellFormed_iff :
    WellFormed bytes ↔ ∃ state : State, bytes = encodeHeader state ++ state.levels.flatMap encodeWord := by
  constructor
  · rintro ⟨headed, whole, flagged⟩
    rcases exists_of_headed headed with ⟨c₀, c₁, c₂, c₃, s₀, s₁, s₂, s₃, drops, terminated, awaits,
      levels, rfl⟩
    rcases exists_encodeFlag_iff.2 (by simpa using flagged 8 (by decide)) with ⟨drops, rfl⟩
    rcases exists_encodeFlag_iff.2 (by simpa using flagged 9 (by decide)) with ⟨terminated, rfl⟩
    rcases exists_encodeFlag_iff.2 (by simpa using flagged 10 (by decide)) with ⟨awaits, rfl⟩
    have levels_whole : levels.length % levelSize = 0 := by
      simpa [headerSize] using whole
    refine ⟨⟨decodeWords levels, ⟨decodeWord c₀ c₁ c₂ c₃, decodeWord s₀ s₁ s₂ s₃, drops⟩, terminated,
      awaits⟩, ?_⟩
    simp only [encodeHeader, encodeWord_decodeWord, flatMap_encodeWord_decodeWords levels levels_whole,
      List.cons_append, List.nil_append]
  · rintro ⟨state, rfl⟩
    have flag (offset : Nat) (flag : Bool) (found : (encodeHeader state)[offset]? = some (encodeFlag flag))
        (inside : offset < headerSize) :
        (encodeHeader state ++ state.levels.flatMap encodeWord)[offset]? = some 0 ∨
          (encodeHeader state ++ state.levels.flatMap encodeWord)[offset]? = some 1 := by
      rw [List.getElem?_append_left (by rwa [length_encodeHeader]), found]
      cases flag with
      | false => exact .inl rfl
      | true => exact .inr rfl
    refine ⟨?_, ?_, ?_⟩
    · rw [List.length_append, length_encodeHeader]
      exact Nat.le_add_right _ _
    · rw [List.length_append, length_encodeHeader, Nat.add_sub_cancel_left, length_flatMap_encodeWord,
        Nat.mul_mod_right]
    · simp only [flagOffsets, List.forall_mem_cons, List.not_mem_nil, false_implies, implies_true,
        and_true]
      exact ⟨flag 8 state.owed.dropsLast rfl (by decide), flag 9 state.terminated rfl (by decide),
        flag 10 state.awaitsLevel rfl (by decide)⟩

theorem wellFormed_of_decode (some_bytes : bytes ≠ []) (read : decode bytes = .ok state) :
    WellFormed bytes := by
  unfold decode at read
  split at read
  · exact absurd rfl some_bytes
  next c₀ c₁ c₂ c₃ s₀ s₁ s₂ s₃ drops terminated awaits levels =>
    split at read
    next whole =>
      cases drops_read : decodeFlag 8 drops with
      | error fault =>
          rw [drops_read] at read
          cases read
      | ok drops_flag =>
          cases terminated_read : decodeFlag 9 terminated with
          | error fault =>
              rw [drops_read, terminated_read] at read
              cases read
          | ok terminated_flag =>
              cases awaits_read : decodeFlag 10 awaits with
              | error fault =>
                  rw [drops_read, terminated_read, awaits_read] at read
                  cases read
              | ok awaits_flag =>
                  refine ⟨by simp [headerSize], by simpa [headerSize] using whole, ?_⟩
                  simpa [flagOffsets] using ⟨eq_of_decodeFlag drops_read,
                    eq_of_decodeFlag terminated_read, eq_of_decodeFlag awaits_read⟩
    next => cases read
  next => cases read

/-- A state is read from its header and its levels, and from no other bytes. -/
theorem decode_eq_ok_iff (some_bytes : bytes ≠ []) :
    decode bytes = .ok state ↔ bytes = encodeHeader state ++ state.levels.flatMap encodeWord := by
  constructor
  · intro read
    rcases wellFormed_iff.1 (wellFormed_of_decode some_bytes read) with ⟨written, rfl⟩
    rw [decode_encodeHeader_append] at read
    cases read
    rfl
  · rintro rfl
    exact decode_encodeHeader_append state state.levels

/-- A state is read from no bytes at all, and from well-formed ones. -/
theorem exists_decode_iff : (∃ state, decode bytes = .ok state) ↔ bytes = [] ∨ WellFormed bytes := by
  by_cases none_at_all : bytes = []
  · subst none_at_all
    exact ⟨fun _ => .inl rfl, fun _ => ⟨.fresh, rfl⟩⟩
  · simp only [decode_eq_ok_iff none_at_all, wellFormed_iff, none_at_all, false_or]

/-- A state that was read is saved with room for the header, and if there is room for all its levels, in
the bytes that it was read from. -/
theorem exists_encode_of_decode {capacity : Nat} (some_bytes : bytes ≠ [])
    (read : decode bytes = .ok state) (room : headerSize ≤ capacity) :
    ∃ saved, encode capacity state = .ok saved ∧ (saved = bytes ↔ bytes.length ≤ capacity) := by
  rcases exists_encode_eq_ok room state with ⟨saved, encoded⟩
  refine ⟨saved, encoded, ?_⟩
  rw [decode_eq_ok_iff some_bytes] at read
  constructor
  · rintro rfl
    exact length_le_of_encode encoded
  · intro enough
    have all_levels : state.levels.length ≤ depthWithin capacity := by
      rw [read, List.length_append, length_encodeHeader, length_flatMap_encodeWord] at enough
      simp only [depthWithin, headerSize, levelSize] at enough ⊢
      omega
    rw [(eq_of_encode encoded).2, List.take_of_length_le all_levels, read]

end

end Checkpoint
end Offside
