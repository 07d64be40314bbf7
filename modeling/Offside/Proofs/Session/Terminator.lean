import Mathlib.Data.List.TakeWhile
import Offside.Proofs.Lines.Fragment
import Offside.Proofs.Session.Visible

/-!
# The terminator

At the end of a text the scanner gives out one separator more, the terminator, and marks it in its
state. It takes spaces, tabs and line breaks for a margin and sees the end of the text behind them. In
front of any other blank it does not, and the host, which skips all blanks, does not ask again at the
end. So it depends on the blanks at the end of the text whether a run has a terminator. Main
definitions and statements:

* `Stream.terminators` — the tokens behind which the end is marked for the first time.
* `Stream.Terminated` — there is exactly one such token, it is the last lexeme, and nothing is owed.
* `Text.endsInMargin_append_of_margin`, `Text.endsInMargin_append_of_visible` — what stands in front of
  the last visible character does not count.
* `Session.over_of_terminated`, `Session.terminated_of_terminator` — with the terminator a session ends.
* `Session.terminated_streamFrom_or` — the two ways in which a session can end.
* `terminated_tokenize_iff` — a run is terminated if the blanks at the end of its text are a margin;
  otherwise it has no terminator at all.
-/

namespace Offside

namespace Text

/-- The blanks at the end of a text are spaces, tabs and line breaks. -/
def EndsInMargin (chars : List Char) : Prop :=
  ∀ c ∈ chars.reverse.takeWhile isBlank, Margin.isMarginChar c = true

instance (chars : List Char) : Decidable (EndsInMargin chars) :=
  decidable_of_iff ((chars.reverse.takeWhile isBlank).all Margin.isMarginChar = true)
    List.all_eq_true

theorem endsInMargin_nil : EndsInMargin [] := by
  intro c member
  cases member

theorem endsInMargin_append_of_margin {margin : List Char} (rest : List Char)
    (all : ∀ c ∈ margin, Margin.isMarginChar c = true) :
    EndsInMargin (margin ++ rest) ↔ EndsInMargin rest := by
  simp only [EndsInMargin, List.reverse_append, List.takeWhile_append]
  split
  next blank =>
    -- The margin counts only if all that follows is blank, and then it does no harm.
    have whole : rest.reverse.takeWhile isBlank = rest.reverse :=
      (List.takeWhile_prefix _).eq_of_length blank
    rw [whole]
    constructor
    · intro margins c member
      exact margins c (List.mem_append_left _ member)
    · intro margins c member
      rcases List.mem_append.1 member with behind | front
      · exact margins c behind
      · exact all c (List.mem_reverse.1 ((List.takeWhile_sublist _).subset front))
  · rfl

theorem endsInMargin_append_of_visible (front rest : List Char) {c : Char}
    (visible : isBlank c = false) : EndsInMargin (front ++ [c] ++ rest) ↔ EndsInMargin rest := by
  have ends : ((front ++ [c] ++ rest).reverse).takeWhile isBlank =
      rest.reverse.takeWhile isBlank := by
    simp only [List.reverse_append, List.reverse_singleton, List.takeWhile_append,
      List.singleton_append, List.takeWhile_cons_of_neg (Bool.not_eq_true _ ▸ visible),
      List.append_nil]
    split
    next blank => exact ((List.takeWhile_prefix _).eq_of_length blank).symm
    · rfl
  rw [EndsInMargin, ends, EndsInMargin]

end Text

namespace Place

/-- A token that is spelled out ends with a visible character. -/
theorem exists_reads_of_spelled? {p stop : Place} {token : External}
    (h : p.spelled? = some (token, stop)) :
    ∃ front c, p.Reads (front ++ [c]) stop ∧ Text.isBlank c = false := by
  simp only [spelled?] at h
  split at h
  next brace =>
    cases h
    exact ⟨[], _, reads_advance brace, rfl⟩
  next brace =>
    cases h
    exact ⟨[], _, reads_advance brace, rfl⟩
  next separator =>
    cases h
    exact ⟨[], _, reads_advance separator, rfl⟩
  next letter =>
    split at h
    next closed =>
      cases h
      rcases RawLiteral.exists_reads_of_read_eq_closed letter closed with
        ⟨_, reads, signs, content, rfl⟩
      -- A literal ends with its quote or with the last of the signs behind it.
      generalize signs % UInt32.size = pounds at reads
      cases pounds with
      | zero => exact ⟨_, '"', reads, rfl⟩
      | succ fewer =>
          rw [RawLiteral.closing_succ, ← List.append_assoc] at reads
          exact ⟨_, '#', reads, rfl⟩
    · cases h
  · cases h

/-- A lexeme that stands in the text ends with a visible character. -/
theorem exists_reads_of_nextVisible? {p head stop : Place} {kind : Lexeme.Kind}
    (h : p.nextVisible? = some (kind, head, stop)) :
    ∃ front c, p.Reads (front ++ [c]) stop ∧ Text.isBlank c = false := by
  simp only [nextVisible?] at h
  split at h
  next spelled =>
    cases h
    rcases exists_reads_of_spelled? spelled with ⟨front, c, reads, visible⟩
    have to_head := reads_advanceWhile p Margin.isMarginChar
    exact ⟨_ ++ front, c, by simpa using to_head.append reads, visible⟩
  · split at h
    · cases h
    next more =>
      cases h
      rcases lookahead_of_atEnd_eq_false (Bool.not_eq_true _ ▸ more) with ⟨c, next⟩
      have visible := isBlank_eq_false_of_lookahead_advanceWhile next
      rcases exists_reads_chunkEnd_of_not_isBlank next visible with ⟨rest, reads, all_visible⟩
      have to_chunk := reads_advanceWhile p Text.isBlank
      rw [← List.dropLast_concat_getLast (List.cons_ne_nil c rest)] at reads
      exact ⟨_ ++ _, _, by simpa using to_chunk.append reads,
        all_visible _ (List.getLast_mem (List.cons_ne_nil c rest))⟩

theorem endsInMargin_of_nextVisible? {p head stop : Place} {kind : Lexeme.Kind}
    (h : p.nextVisible? = some (kind, head, stop)) :
    Text.EndsInMargin p.after ↔ Text.EndsInMargin stop.after := by
  rcases exists_reads_of_nextVisible? h with ⟨front, c, reads, visible⟩
  rw [reads.after_eq]
  exact Text.endsInMargin_append_of_visible front _ visible

theorem endsInMargin_lineHead (p : Place) :
    Text.EndsInMargin p.after ↔ Text.EndsInMargin p.lineHead.after := by
  rw [(reads_advanceWhile p Margin.isMarginChar).after_eq]
  exact Text.endsInMargin_append_of_margin _
    (forall_mem_takeWhile Margin.isMarginChar p.after)

end Place

/-! ## Terminators -/

/-- The state was saved behind the terminator: byte 9 is set. -/
def Checkpoint.marksEnd (checkpoint : Checkpoint) : Bool :=
  checkpoint.state[9]? == some 1

namespace Stream

/-- The external tokens behind which the end is marked as it was not in front of them, each with the
checkpoint behind it. -/
def terminators (stream : Stream) : List (Lexeme × Checkpoint) :=
  ((stream.lexemes.filter Lexeme.isExternal).zip
      (stream.checkpoints.zip stream.checkpoints.tail)).filterMap fun (lexeme, before, behind) =>
    if !before.marksEnd && behind.marksEnd then some (lexeme, behind) else none

/-- Exactly one token of the stream is a terminator. It is a separator without width, the last lexeme,
at the end of a text of `size` bytes; and in the state saved with it the end is marked and nothing is
owed. -/
structure Terminated (stream : Stream) (size : Nat) : Prop where
  exists_terminators_eq : ∃ saved state,
    stream.terminators = [(⟨.external .semicolon, size, size⟩, saved)] ∧
      stream.checkpoints.getLast? = some saved ∧
      Checkpoint.decode saved.state = .ok state ∧
      state.terminated = true ∧ state.owed.isSettled = true
  getLast?_lexemes : stream.lexemes.getLast? = some ⟨.external .semicolon, size, size⟩

section

variable {before behind : Checkpoint} {lexemes : List Lexeme} {checkpoints : List Checkpoint}

theorem terminators_text (span : Span) :
    terminators ⟨⟨.text, span⟩ :: lexemes, before :: checkpoints⟩ =
      terminators ⟨lexemes, before :: checkpoints⟩ :=
  rfl

theorem terminators_external_of_unmarked (token : External) (span : Span)
    (unmarked : behind.marksEnd = false) :
    terminators ⟨⟨.external token, span⟩ :: lexemes, before :: behind :: checkpoints⟩ =
      terminators ⟨lexemes, behind :: checkpoints⟩ := by
  have counted : (⟨.external token, span⟩ :: lexemes).filter Lexeme.isExternal =
      ⟨.external token, span⟩ :: lexemes.filter Lexeme.isExternal :=
    List.filter_cons_of_pos rfl
  simp [terminators, counted, unmarked]

theorem Terminated.text {size : Nat} (span : Span)
    (terminated : Terminated ⟨lexemes, before :: checkpoints⟩ size) :
    Terminated ⟨⟨.text, span⟩ :: lexemes, before :: checkpoints⟩ size := by
  refine ⟨?_, ?_⟩
  · rw [terminators_text]
    exact terminated.exists_terminators_eq
  · rw [List.getLast?_cons, terminated.getLast?_lexemes]
    rfl

theorem Terminated.external {size : Nat} (token : External) (span : Span)
    (unmarked : behind.marksEnd = false)
    (terminated : Terminated ⟨lexemes, behind :: checkpoints⟩ size) :
    Terminated ⟨⟨.external token, span⟩ :: lexemes, before :: behind :: checkpoints⟩ size := by
  refine ⟨?_, ?_⟩
  · rcases terminated.exists_terminators_eq with ⟨saved, state, only, last, rest⟩
    refine ⟨saved, state, ?_, ?_, rest⟩
    · rw [terminators_external_of_unmarked token span unmarked, only]
    · rw [List.getLast?_cons, last]
      rfl
  · rw [List.getLast?_cons, terminated.getLast?_lexemes]
    rfl

end

end Stream

namespace Checkpoint

theorem marksEnd_of_encode_eq {capacity offset : Nat} {state : State} {bytes : Bytes}
    (saved : encode capacity state = .ok bytes) :
    marksEnd ⟨offset, bytes⟩ = state.terminated := by
  simp only [encode] at saved
  split at saved
  · cases saved
  · cases saved
    cases ended : state.terminated <;>
      simp [marksEnd, encodeHeader, encodeWord, encodeFlag, ended]

end Checkpoint

namespace State

variable {state after : State} {accepts : Acceptance} {p head stop : Place} {token : External}

/-- Only the terminator marks the end. -/
theorem terminated_of_yields (h : state.Yields accepts p token after head stop) :
    after.terminated = state.terminated ∨
      (after.terminated = true ∧ token = .semicolon ∧ head = p.lineHead ∧ stop = p.lineHead ∧
        p.lineHead.atEnd = true ∧ after.owed.next? = none) := by
  cases h with
  | terminator settled _ at_end _ =>
      exact .inr ⟨rfl, rfl, rfl, rfl, at_end, by simpa using settled⟩
  | _ => exact .inl (by simp)

/-- In front of a margin at the end of the text a scan gives out a token, the terminator at the
latest. -/
theorem not_refused_of_lineHead_atEnd {refusal : Refusal} (open_end : state.terminated = false)
    (at_end : p.lineHead.atEnd = true) : (state.scan accepts p).outcome ≠ .error refusal := by
  intro refused
  have settled := next?_eq_none_of_scan_eq_error refused
  have defers := rulingAt_of_refused refused (isAmbiguous_ofPlace_of_atEnd at_end)
  rw [(scan_of_yields (.terminator settled defers at_end open_end)).1] at refused
  cases refused

end State

namespace Place

theorem lineHead_atEnd_of_endsInMargin {p : Place}
    (at_end : (p.advanceWhile Text.isBlank).atEnd = true) (margin : Text.EndsInMargin p.after) :
    p.lineHead.atEnd = true := by
  have nothing : p.after.dropWhile Text.isBlank = [] := by
    simpa using atEnd_iff.1 at_end
  have blank : ∀ c ∈ p.after.reverse, Text.isBlank c = true := by
    simpa using List.dropWhile_eq_nil_iff.1 nothing
  rw [Text.EndsInMargin, List.takeWhile_eq_self_iff.2 blank] at margin
  have head_after : p.lineHead.after = [] := by
    rw [lineHead, after_advanceWhile]
    exact List.dropWhile_eq_nil_iff.2 fun c member => margin c (List.mem_reverse.2 member)
  exact atEnd_iff.2 head_after

/-- How the text ends is seen from behind a token as from in front of it. -/
theorem endsInMargin_of_yields {state after : State} {accepts : Acceptance} {p head stop : Place}
    {token : External} (h : state.Yields accepts p token after head stop) :
    Text.EndsInMargin p.after ↔ Text.EndsInMargin stop.after := by
  rcases State.nextVisible?_of_yields h with ⟨rfl, rfl | rfl⟩ | next
  · rfl
  · exact endsInMargin_lineHead p
  · exact endsInMargin_of_nextVisible? next

end Place

namespace Session

/-- What a session that takes up `state` at `p` gives, behind the checkpoint `before`. -/
def streamFrom (config : Config) (before : Checkpoint) (p : Place) (state : State) : Stream :=
  ⟨lexemesFrom config p state, before :: checkpointsFrom config p state⟩

/-- A session that has its end behind it and owes nothing is over at the end of the text. -/
theorem over_of_terminated (config : Config) {p : Place} {state : State}
    (settled : state.owed.next? = none) (ended : state.terminated = true) (at_end : p.atEnd = true) :
    lexemesFrom config p state = [] ∧ checkpointsFrom config p state = [] := by
  have nothing : p.after = [] := Place.atEnd_iff.1 at_end
  rcases State.exists_refusal_of_terminated (config.policy.acceptance p) settled ended nothing with
    ⟨refusal, refused⟩
  have stays : (p.advanceWhile Text.isBlank).atEnd = true := by
    simp [Place.atEnd, nothing]
  exact ⟨lexemesFrom_of_end refused stays, checkpointsFrom_of_end refused stays⟩

/-- Behind the terminator the session is at its end. -/
theorem terminated_of_terminator {config : Config} (room : Checkpoint.headerSize ≤ config.capacity)
    {before : Checkpoint} {p head : Place} {state after : State}
    (yields : state.Yields (config.policy.acceptance p) p .semicolon after head head)
    (unmarked : before.marksEnd = false) (ended : after.terminated = true)
    (settled : after.owed.next? = none) (at_end : head.atEnd = true) :
    (streamFrom config before p state).Terminated head.offset := by
  rcases Checkpoint.exists_encode_eq_ok room after with ⟨bytes, saved⟩
  rcases over_of_terminated config settled ended at_end with ⟨no_lexeme, no_checkpoint⟩
  have lexemes := lexemesFrom_of_yields room yields
  have checkpoints := checkpointsFrom_of_yields yields saved
  rw [no_lexeme] at lexemes
  rw [no_checkpoint] at checkpoints
  have marked : Checkpoint.marksEnd ⟨head.offset, bytes⟩ = true :=
    (Checkpoint.marksEnd_of_encode_eq saved).trans ended
  have owes_nothing : after.owed.isSettled = true :=
    (Owed.isSettled_iff_count _).2 ((Owed.next?_eq_none_iff _).1 settled)
  rw [streamFrom, lexemes, checkpoints]
  refine ⟨⟨_, _, ?_, rfl, Checkpoint.decode_encode saved, ended, owes_nothing⟩, rfl⟩
  have counted : [Lexeme.mk (.external .semicolon) ⟨head.offset, head.offset⟩].filter
      Lexeme.isExternal = [⟨.external .semicolon, ⟨head.offset, head.offset⟩⟩] :=
    List.filter_cons_of_pos rfl
  simp [Stream.terminators, counted, unmarked, marked]

/-- A session that has its end before it is terminated if the text ends in a margin; if not, it has no
terminator. -/
theorem terminated_streamFrom_or {config : Config}
    (room : Checkpoint.headerSize ≤ config.capacity) (p : Place) (state : State) :
    state.terminated = false → ∀ before : Checkpoint, before.marksEnd = false →
      (Text.EndsInMargin p.after ∧
        (streamFrom config before p state).Terminated (Text.byteLength p.source)) ∨
      (¬ Text.EndsInMargin p.after ∧ (streamFrom config before p state).terminators = []) := by
  induction p, state using course_induction config with
  | ends p state refusal outcome at_end =>
      intro open_end before unmarked
      refine .inr ⟨?_, ?_⟩
      · -- Only blanks are left. Were they a margin, the scan would have seen the end.
        intro margin
        exact State.not_refused_of_lineHead_atEnd open_end
          (Place.lineHead_atEnd_of_endsInMargin at_end margin) outcome
      · rw [streamFrom, lexemesFrom_of_end outcome at_end, checkpointsFrom_of_end outcome at_end]
        rfl
  | text p state refusal outcome more ih =>
      intro open_end before unmarked
      have chunk := State.nextVisible?_of_refused config.policy outcome
      rw [if_neg (Bool.eq_false_iff.1 more)] at chunk
      have same_text := Place.source_eq_of_le (Place.le_trans (Place.le_advanceWhile p Text.isBlank)
        (Place.le_chunkEnd (p.advanceWhile Text.isBlank)))
      rw [streamFrom, lexemesFrom_of_text outcome more, checkpointsFrom_of_text outcome more,
        Place.endsInMargin_of_nextVisible? chunk, ← same_text]
      rcases ih open_end before unmarked with ⟨margin, terminated⟩ | ⟨no_margin, unterminated⟩
      · exact .inl ⟨margin, terminated.text _⟩
      · exact .inr ⟨no_margin, unterminated⟩
  | token p state token after outcome ih =>
      intro open_end before unmarked
      have yields := State.yields_of_scan outcome
      have onward := State.le_stop_read state (config.policy.acceptance p) p
      have same_text : (state.scan (config.policy.acceptance p) p).stop.source = p.source :=
        Place.source_eq_of_le onward
      have margin_iff := Place.endsInMargin_of_yields yields
      rcases State.terminated_of_yields yields with same | ⟨ended, rfl, at_head, stays, at_end, settled⟩
      · rcases Checkpoint.exists_encode_eq_ok room after with ⟨bytes, saved⟩
        have still_open : after.terminated = false := same.trans open_end
        have behind : Checkpoint.marksEnd
            ⟨(state.scan (config.policy.acceptance p) p).stop.offset, bytes⟩ = false :=
          (Checkpoint.marksEnd_of_encode_eq saved).trans still_open
        rw [streamFrom, lexemesFrom_of_token room outcome, checkpointsFrom_of_token outcome saved,
          margin_iff, ← same_text]
        rcases ih still_open _ behind with ⟨margin, terminated⟩ | ⟨no_margin, unterminated⟩
        · exact .inl ⟨margin, terminated.external _ _ behind⟩
        · refine .inr ⟨no_margin, ?_⟩
          rw [Stream.terminators_external_of_unmarked _ _ behind]
          exact unterminated
      · rw [at_head, stays] at yields
        rw [stays] at margin_iff same_text
        have terminated := terminated_of_terminator room yields unmarked ended settled at_end
        rw [Place.atEnd_iff_offset_eq.1 at_end, same_text] at terminated
        refine .inl ⟨margin_iff.2 ?_, terminated⟩
        rw [Place.atEnd_iff.1 at_end]
        exact Text.endsInMargin_nil

end Session

/-- A run over a whole text is terminated exactly if the blanks at the end of the text are spaces, tabs
and line breaks. If there is another blank among them, the run has no terminator. -/
theorem terminated_tokenize_iff {config : Config} (room : Checkpoint.headerSize ≤ config.capacity)
    (source : String) :
    ∃ stream, (tokenize config source).value = .ok stream ∧
      (stream.Terminated source.utf8ByteSize ↔ Text.EndsInMargin source.toList) ∧
      (stream.terminators = [] ↔ ¬ Text.EndsInMargin source.toList) := by
  have size : Text.byteLength (Place.start source.toList).source = source.utf8ByteSize := by
    rw [← Text.byteLength_toList]
    rfl
  have cases := Session.terminated_streamFrom_or room (.start source.toList) .fresh rfl .initial rfl
  rw [size] at cases
  refine ⟨_, tokenize_eq_ok room source, ?_⟩
  rcases cases with ⟨margin, terminated⟩ | ⟨no_margin, unterminated⟩
  · refine ⟨⟨fun _ => margin, fun _ => terminated⟩, ⟨?_, fun no_margin => absurd margin no_margin⟩⟩
    intro unterminated
    rcases terminated.exists_terminators_eq with ⟨_, _, only, _⟩
    exact absurd (only.symm.trans unterminated) (List.cons_ne_nil _ _)
  · refine ⟨⟨?_, fun margin => absurd margin no_margin⟩, ⟨fun _ => no_margin, fun _ => unterminated⟩⟩
    intro terminated
    rcases terminated.exists_terminators_eq with ⟨_, _, only, _⟩
    exact absurd (only.symm.trans unterminated) (List.cons_ne_nil _ _)

/-- Behind a block that the end of the text leaves open, a margin with all four blanks. -/
theorem terminated_tokenize_iff_open_block :
    Checkpoint.headerSize ≤ 1024 ∧
      ∃ stream, (tokenize ⟨.permissive, 1024⟩ "a\n b \t\r\n").value = .ok stream ∧
        stream.Terminated 8 := by
  rcases @terminated_tokenize_iff ⟨.permissive, 1024⟩ (by decide) "a\n b \t\r\n" with
    ⟨stream, run, terminated, _⟩
  have margin : Text.EndsInMargin "a\n b \t\r\n".toList := by decide
  exact ⟨by decide, stream, run, terminated.2 margin⟩

/-- A text of one no-break space has no terminator. The scan that the run asks for stops in front of
the space. -/
theorem not_terminated_noBreakSpace :
    ∃ stream, (tokenize ⟨.permissive, 1024⟩ "\u00a0").value = .ok stream ∧
      stream.terminators = [] ∧ ¬ stream.Terminated 2 := by
  have run : (tokenize ⟨.permissive, 1024⟩ "\u00a0").value = .ok ⟨[], [.initial]⟩ := by
    rw [tokenize, Session.run, Session.turns_eq_turnsWithin (n := 20) (by decide)]
    decide
  refine ⟨_, run, rfl, fun terminated => ?_⟩
  rcases terminated.exists_terminators_eq with ⟨_, _, only, _⟩
  cases only

end Offside
