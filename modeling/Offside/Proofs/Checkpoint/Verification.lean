import Offside.Proofs.Checkpoint.WireFormat

/-!
# Verifying checkpoints

A host can check the checkpoints of a stream: each is read, and saved again in a buffer of some size. The
check passes a checkpoint exactly if its bytes are well formed and have room in such a buffer; and so it
passes all that a run has saved, even where levels found no room. Main definitions and statements:

* `Checkpoint.Fits`, `Checkpoint.Offends` — when a checkpoint passes, and what is found wrong with it.
* `Stream.verify_eq_none_iff`, `Stream.verify_eq_some_iff` — the first checkpoint that does not pass is
  reported.
* `Session.fits_of_mem_checkpointsFrom` — what a session saves passes.
* `verify_decides` — the format, and the check that decides it.
-/

namespace Offside
namespace Checkpoint

/-- The bytes of the checkpoint are well formed and have room, or there are none. -/
def Fits (capacity : Nat) (checkpoint : Checkpoint) : Prop :=
  checkpoint.state = [] ∨ WellFormed checkpoint.state ∧ checkpoint.state.length ≤ capacity

/-- What is wrong with a checkpoint. -/
inductive Offends (capacity : Nat) (checkpoint : Checkpoint) : Offside.Fault → Prop
  | unreadable {fault : Fault} :
      decode checkpoint.state = .error fault →
      Offends capacity checkpoint (.state fault)
  /-- No state can be saved in so little room. -/
  | tight {state : State} :
      checkpoint.state ≠ [] →
      decode checkpoint.state = .ok state →
      capacity < headerSize →
      Offends capacity checkpoint (.state (.noRoom capacity headerSize))
  /-- The levels of the checkpoint do not have room. -/
  | long {state : State} :
      checkpoint.state ≠ [] →
      decode checkpoint.state = .ok state →
      headerSize ≤ capacity →
      capacity < checkpoint.state.length →
      Offends capacity checkpoint (.unstable checkpoint.offset)

/-! ## One checkpoint -/

section

variable {capacity : Nat} {checkpoint : Checkpoint} {state : State}

theorem check_of_nil (nothing : checkpoint.state = []) :
    (checkpoint.check capacity).value = none := by
  simp [check, nothing]

theorem check_of_unreadable {fault : Fault} (unread : decode checkpoint.state = .error fault) :
    (checkpoint.check capacity).value = some (.state fault) := by
  have some_bytes : checkpoint.state ≠ [] := by
    intro nothing
    rw [nothing] at unread
    cases unread
  simp [check, some_bytes, unread]

theorem check_of_tight (some_bytes : checkpoint.state ≠ [])
    (read : decode checkpoint.state = .ok state) (tight : capacity < headerSize) :
    (checkpoint.check capacity).value = some (.state (.noRoom capacity headerSize)) := by
  simp [check, some_bytes, read, save, encode_eq_error tight]

theorem check_of_room (some_bytes : checkpoint.state ≠ [])
    (read : decode checkpoint.state = .ok state) (room : headerSize ≤ capacity) :
    (checkpoint.check capacity).value =
      if checkpoint.state.length ≤ capacity then none else some (.unstable checkpoint.offset) := by
  rcases exists_encode_of_decode some_bytes read room with ⟨saved, encoded, same_iff⟩
  simp only [check, List.isEmpty_iff, some_bytes, if_false, read, save, encoded, same_iff]
  split <;> rfl

/-- A checkpoint that does not pass has the fault that is reported of it. -/
theorem offends_of_check {fault : Offside.Fault}
    (found : (checkpoint.check capacity).value = some fault) : Offends capacity checkpoint fault := by
  by_cases nothing : checkpoint.state = []
  · rw [check_of_nil nothing] at found
    cases found
  cases read : decode checkpoint.state with
  | error unread =>
      rw [check_of_unreadable read] at found
      cases found
      exact .unreadable read
  | ok state =>
      rcases Nat.lt_or_ge capacity headerSize with tight | room
      · rw [check_of_tight nothing read tight] at found
        cases found
        exact .tight nothing read tight
      · rw [check_of_room nothing read room] at found
        split at found
        · cases found
        next long =>
          cases found
          exact .long nothing read room (Nat.not_le.1 long)

theorem check_eq_some_iff {fault : Offside.Fault} :
    (checkpoint.check capacity).value = some fault ↔ Offends capacity checkpoint fault := by
  constructor
  · exact offends_of_check
  · intro offends
    cases offends with
    | unreadable unread => exact check_of_unreadable unread
    | tight some_bytes read tight => exact check_of_tight some_bytes read tight
    | long some_bytes read room long =>
        rw [check_of_room some_bytes read room, if_neg (Nat.not_le.2 long)]

theorem check_eq_none_iff : (checkpoint.check capacity).value = none ↔ checkpoint.Fits capacity := by
  by_cases nothing : checkpoint.state = []
  · exact iff_of_true (check_of_nil nothing) (.inl nothing)
  rw [Fits, or_iff_right nothing]
  constructor
  · intro passes
    cases read : decode checkpoint.state with
    | error fault =>
        rw [check_of_unreadable read] at passes
        cases passes
    | ok state =>
        rcases Nat.lt_or_ge capacity headerSize with tight | room
        · rw [check_of_tight nothing read tight] at passes
          cases passes
        · rw [check_of_room nothing read room] at passes
          split at passes
          next enough => exact ⟨wellFormed_of_decode nothing read, enough⟩
          next => cases passes
  · rintro ⟨well_formed, enough⟩
    rcases exists_decode_iff.2 (.inr well_formed) with ⟨state, read⟩
    have room : headerSize ≤ capacity := Nat.le_trans well_formed.headed enough
    rw [check_of_room nothing read room, if_pos enough]

/-- What was saved in a buffer has room in another one of that size. -/
theorem fits_of_encode (saved : encode capacity state = .ok checkpoint.state) :
    checkpoint.Fits capacity := by
  refine .inr ⟨wellFormed_iff.2 ⟨state.truncate (depthWithin capacity), ?_⟩, length_le_of_encode saved⟩
  exact (eq_of_encode saved).2

end

end Checkpoint

/-! ## Streams -/

namespace Stream

variable {stream : Stream} {capacity : Nat}

/-- The check of a stream comes to the first checkpoint with a fault. -/
theorem verify_value (stream : Stream) (capacity : Nat) :
    (stream.verify capacity).value =
      stream.checkpoints.findSome? fun checkpoint => (checkpoint.check capacity).value := by
  simp only [verify]
  induction stream.checkpoints with
  | nil => rfl
  | cons checkpoint rest ih =>
      cases found : (checkpoint.check capacity).value with
      | none => simpa [found] using ih
      | some fault => simp [found]

theorem verify_eq_none_iff :
    (stream.verify capacity).value = none ↔
      ∀ checkpoint ∈ stream.checkpoints, checkpoint.Fits capacity := by
  simp only [verify_value, List.findSome?_eq_none_iff, Checkpoint.check_eq_none_iff]

theorem verify_eq_some_iff {fault : Fault} :
    (stream.verify capacity).value = some fault ↔
      ∃ sound checkpoint rest, stream.checkpoints = sound ++ checkpoint :: rest ∧
        checkpoint.Offends capacity fault ∧ ∀ other ∈ sound, other.Fits capacity := by
  simp only [verify_value, List.findSome?_eq_some_iff, Checkpoint.check_eq_some_iff,
    Checkpoint.check_eq_none_iff]

end Stream

/-! ## What a run saves -/

/-- A session saves nothing but states, and what it saves has room. -/
theorem Session.fits_of_mem_checkpointsFrom (config : Config) (p : Place) (state : State) :
    ∀ checkpoint ∈ checkpointsFrom config p state, checkpoint.Fits config.capacity := by
  induction p, state using course_induction config with
  | ends p state refusal outcome at_end =>
      rw [checkpointsFrom_of_end outcome at_end]
      intro checkpoint member
      cases member
  | text p state refusal outcome more ih =>
      rw [checkpointsFrom_of_text outcome more]
      exact ih
  | token p state token after outcome ih =>
      cases saved : Checkpoint.encode config.capacity after with
      | ok bytes =>
          rw [checkpointsFrom_of_token outcome saved]
          intro checkpoint member
          rcases List.mem_cons.1 member with rfl | member
          · exact Checkpoint.fits_of_encode saved
          · exact ih checkpoint member
      | error fault =>
          -- The session fails at its first token, and has saved nothing.
          have tight : config.capacity < Checkpoint.headerSize := by
            rcases Nat.lt_or_ge config.capacity Checkpoint.headerSize with tight | room
            · exact tight
            · rcases Checkpoint.exists_encode_eq_ok room after with ⟨bytes, ok⟩
              cases saved.symm.trans ok
          have given : ((takingUp p state).reading config).outcome = .ok (token, after) := outcome
          have turn := turn_of_unsaved given tight
          have nothing : checkpointsFrom config p state = [] := by
            simp only [checkpointsFrom, turns_of_last (congrArg Turn.next? turn), List.filterMap_cons,
              turn, Turn.checkpoint?, List.filterMap_nil]
          rw [nothing]
          intro checkpoint member
          cases member

/-- The checkpoints of a run over a whole text pass the check with the room that they were saved in. -/
theorem verify_tokenize {config : Config} {source : String} {stream : Stream}
    (run : (tokenize config source).value = .ok stream) :
    (stream.verify config.capacity).value = none := by
  have whole : (tokenize config source).value =
      ((Session.takingUp (.start source.toList) .fresh).run config .initial).value := rfl
  rw [whole, Session.run_value] at run
  split at run
  · cases run
  · cases run
    rw [Stream.verify_eq_none_iff]
    intro checkpoint member
    rcases List.mem_cons.1 member with rfl | member
    · exact .inl rfl
    · exact Session.fits_of_mem_checkpointsFrom config _ _ checkpoint member

/-- Bytes are read as a state exactly if there are none, or they are well formed; and well-formed bytes are
what the state gives if it is saved again where they have room. The check of a stream passes exactly if all
of its checkpoints are in this format and have room; else it reports the first that is not. It passes every
run over a whole text, with the room that the run had. -/
theorem verify_decides :
    (∀ bytes, (∃ state, Checkpoint.decode bytes = .ok state) ↔
      bytes = [] ∨ Checkpoint.WellFormed bytes) ∧
    Checkpoint.decode [] = .ok .fresh ∧
    (∀ bytes state, bytes ≠ [] → Checkpoint.decode bytes = .ok state →
      ∀ capacity, bytes.length ≤ capacity → Checkpoint.encode capacity state = .ok bytes) ∧
    (∀ (stream : Stream) (capacity : Nat),
      ((stream.verify capacity).value = none ↔
        ∀ checkpoint ∈ stream.checkpoints, checkpoint.state ≠ [] →
          Checkpoint.WellFormed checkpoint.state ∧
            Checkpoint.headerSize ≤ checkpoint.state.length ∧ checkpoint.state.length ≤ capacity) ∧
      ∀ fault, (stream.verify capacity).value = some fault ↔
        ∃ sound checkpoint rest, stream.checkpoints = sound ++ checkpoint :: rest ∧
          checkpoint.Offends capacity fault ∧ ∀ other ∈ sound, other.Fits capacity) ∧
    ∀ config source stream, (tokenize config source).value = .ok stream →
      (stream.verify config.capacity).value = none := by
  refine ⟨fun bytes => Checkpoint.exists_decode_iff, rfl, ?_, ?_, ?_⟩
  · intro bytes state some_bytes read capacity enough
    have room : Checkpoint.headerSize ≤ capacity :=
      Nat.le_trans (Checkpoint.wellFormed_of_decode some_bytes read).headed enough
    rcases Checkpoint.exists_encode_of_decode some_bytes read room with ⟨saved, encoded, same_iff⟩
    rw [encoded, same_iff.2 enough]
  · intro stream capacity
    refine ⟨?_, fun fault => Stream.verify_eq_some_iff⟩
    rw [Stream.verify_eq_none_iff]
    refine forall_congr' fun checkpoint => forall_congr' fun _ => ?_
    rw [Checkpoint.Fits, Decidable.or_iff_not_imp_left]
    refine forall_congr' fun _ => and_congr_right fun well_formed => ?_
    rw [and_iff_right well_formed.headed]
  · intro config source stream run
    exact verify_tokenize run

/-- Two blocks are open in this run, and its checkpoints have room for one level. In less room the first
that has a level does not pass. -/
theorem verify_decides_nested :
    (∃ stream, (tokenize ⟨.permissive, 15⟩ "a\n b\n  c").value = .ok stream ∧
      (stream.verify 15).value = none) ∧
    [0, 0, 0, 0, 0, 0, 0, 0, 0, 0, 0, 2, 0, 0, 0] ≠ ([] : Checkpoint.Bytes) ∧
    Checkpoint.decode [0, 0, 0, 0, 0, 0, 0, 0, 0, 0, 0, 2, 0, 0, 0] = .ok { levels := [2] } ∧
    Checkpoint.encode 17 { levels := [2] } = .ok [0, 0, 0, 0, 0, 0, 0, 0, 0, 0, 0, 2, 0, 0, 0] ∧
    ((⟨[], [.initial, ⟨3, [0, 0, 0, 0, 0, 0, 0, 0, 0, 0, 0, 2, 0, 0, 0]⟩]⟩ : Stream).verify 14).value =
      some (.unstable 3) := by
  rcases verify_decides with ⟨_, _, again, check, passes⟩
  have some_bytes : [0, 0, 0, 0, 0, 0, 0, 0, 0, 0, 0, 2, 0, 0, 0] ≠ ([] : Checkpoint.Bytes) := by decide
  have read : Checkpoint.decode [0, 0, 0, 0, 0, 0, 0, 0, 0, 0, 0, 2, 0, 0, 0] =
      .ok { levels := [2] } := rfl
  refine ⟨?_, some_bytes, read, again _ _ some_bytes read 17 (by decide), ?_⟩
  · have run := @tokenize_eq_ok ⟨.permissive, 15⟩ (by decide) "a\n b\n  c"
    exact ⟨_, run, passes ⟨.permissive, 15⟩ _ _ run⟩
  · refine ((check _ 14).2 _).2 ⟨[.initial], _, [], rfl, ?_, ?_⟩
    · exact .long some_bytes read (by decide) (by decide)
    · intro other member
      rcases List.mem_singleton.1 member with rfl
      exact .inl rfl

end Offside
