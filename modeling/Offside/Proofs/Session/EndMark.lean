import Offside.Proofs.Session.Terminator

/-!
# The end is marked once

A run saves its state behind each external token. The states so saved tell which token marks the end:
the state in front of it does not have the mark, the state behind it has. Whatever state a run was taken
up with, and wherever, no token takes the mark back, and the one that sets it comes when nothing is owed
any more and is the last lexeme of the run. Main definitions and statements:

* `MarksEndAt` — the token that marks the end, by its number.
* `Stream.EndMark` — what is so of the mark in a stream and the states that it saved.
* `Marking` — the same turn by turn: no token changes the mark but one, and with that one all ends.
* `Marking.endsAt_of_marksEndAt`, `Marking.endMark` — the mark in a stream with such turns.
* `Session.exists_marking` — every session has such turns.
* `end_marked_once` — the mark in every run.
-/

namespace Offside

/-- The token of number `i` marks the end: the state in front of it does not have the mark, the state
behind it has. -/
def MarksEndAt (states : List State) (i : Nat) : Prop :=
  ∃ before behind, states[i]? = some before ∧ states[i + 1]? = some behind ∧
    before.terminated = false ∧ behind.terminated = true

/-- The mark of the end in a stream over a text of `size` bytes, whose checkpoints read as `states`. -/
structure Stream.EndMark (stream : Stream) (states : List State) (size : Nat) : Prop where
  saved : stream.checkpoints.map (fun checkpoint => Checkpoint.decode checkpoint.state) =
    states.map .ok
  /-- The external token of number `i` stands between the states of numbers `i` and `i + 1`. -/
  length_states : states.length = stream.externals.length + 1
  /-- At most one token sets the mark. -/
  unique : ∀ i j, MarksEndAt states i → MarksEndAt states j → i = j
  /-- No token takes it back. -/
  stays : ∀ i before behind, states[i]? = some before → states[i + 1]? = some behind →
    before.terminated = true → behind.terminated = true
  /-- The token that sets it is a separator without width at the end of the text. -/
  token_eq : ∀ i, MarksEndAt states i → stream.externals[i]? = some (.semicolon, ⟨size, size⟩)
  /-- It comes when nothing is owed. -/
  settled : ∀ i before, MarksEndAt states i → states[i]? = some before → before.owed.isSettled = true
  /-- Neither a token nor a chunk comes behind it. -/
  comes_last : ∀ i, MarksEndAt states i → i + 1 = stream.externals.length ∧
    stream.lexemes.getLast? = some ⟨.external .semicolon, ⟨size, size⟩⟩

/-- The lexemes of a session and the states that it saves, the one that it begins with included: each
external token keeps the mark of the end as it is, or it sets the mark and is the last lexeme. -/
inductive Marking (size : Nat) : List Lexeme → List State → Prop
  | ends (state : State) : Marking size [] [state]
  | text {lexemes : List Lexeme} {states : List State} (span : Span)
      (behind : Marking size lexemes states) : Marking size (⟨.text, span⟩ :: lexemes) states
  | keeps {lexemes : List Lexeme} {state after : State} {states : List State} (token : External)
      (span : Span) (same : after.terminated = state.terminated)
      (behind : Marking size lexemes (after :: states)) :
      Marking size (⟨.external token, span⟩ :: lexemes) (state :: after :: states)
  | marks {state after : State} (unmarked : state.terminated = false)
      (marked : after.terminated = true) (settled : state.owed.isSettled = true) :
      Marking size [⟨.external .semicolon, ⟨size, size⟩⟩] [state, after]

/-! ## Tokens that mark the end -/

theorem not_marksEndAt_singleton (state : State) (i : Nat) : ¬ MarksEndAt [state] i := by
  rintro ⟨_, _, _, second, _⟩
  cases second

theorem marksEndAt_cons_iff (state after : State) (states : List State) (i : Nat) :
    MarksEndAt (state :: after :: states) i ↔
      (i = 0 ∧ state.terminated = false ∧ after.terminated = true) ∨
        ∃ j, i = j + 1 ∧ MarksEndAt (after :: states) j := by
  cases i with
  | zero => simp [MarksEndAt]
  | succ j => simp [MarksEndAt]

namespace Marking

variable {size : Nat} {lexemes : List Lexeme} {states : List State}

theorem length_states (h : Marking size lexemes states) (checkpoints : List Checkpoint) :
    states.length = (Stream.externals ⟨lexemes, checkpoints⟩).length + 1 := by
  induction h with
  | ends state => rfl
  | text span behind ih => exact ih
  | keeps token span same behind ih => exact congrArg (· + 1) ih
  | marks unmarked marked settled => rfl

theorem stays (h : Marking size lexemes states) {i : Nat} {before behind : State}
    (front : states[i]? = some before) (back : states[i + 1]? = some behind)
    (marked : before.terminated = true) : behind.terminated = true := by
  induction h generalizing i with
  | ends state => cases back
  | text span behind ih => exact ih front back
  | keeps token span same behind ih =>
      cases i with
      | zero =>
          cases front
          cases back
          exact same.trans marked
      | succ j => exact ih front back
  | marks unmarked now_marked settled =>
      cases i with
      | zero =>
          -- The mark is set here, so it was not there before.
          cases front
          rw [unmarked] at marked
          cases marked
      | succ j => cases back

/-- The token of number `i` is the last lexeme, and nothing is owed in front of it. -/
structure EndsAt (size : Nat) (lexemes : List Lexeme) (states : List State) (i : Nat) : Prop where
  length_states : states.length = i + 2
  token_eq : ∀ checkpoints,
    (Stream.externals ⟨lexemes, checkpoints⟩)[i]? = some (.semicolon, ⟨size, size⟩)
  getLast?_lexemes : lexemes.getLast? = some ⟨.external .semicolon, ⟨size, size⟩⟩
  settled : ∀ before, states[i]? = some before → before.owed.isSettled = true

theorem EndsAt.text {i : Nat} (span : Span) (ends : EndsAt size lexemes states i) :
    EndsAt size (⟨.text, span⟩ :: lexemes) states i where
  length_states := ends.length_states
  token_eq := ends.token_eq
  getLast?_lexemes := by
    rw [List.getLast?_cons, ends.getLast?_lexemes]
    rfl
  settled := ends.settled

theorem EndsAt.external {i : Nat} (token : External) (span : Span) (state : State)
    (ends : EndsAt size lexemes states i) :
    EndsAt size (⟨.external token, span⟩ :: lexemes) (state :: states) (i + 1) where
  length_states := congrArg (· + 1) ends.length_states
  token_eq := ends.token_eq
  getLast?_lexemes := by
    rw [List.getLast?_cons, ends.getLast?_lexemes]
    rfl
  settled := ends.settled

/-- With the token that marks the end the session is over: the turns behind it are none. -/
theorem endsAt_of_marksEndAt (h : Marking size lexemes states) {i : Nat}
    (ends : MarksEndAt states i) : EndsAt size lexemes states i := by
  induction h generalizing i with
  | ends state => exact absurd ends (not_marksEndAt_singleton state i)
  | text span behind ih => exact (ih ends).text span
  | @keeps lexemes state after states token span same behind ih =>
      rcases (marksEndAt_cons_iff state after states i).1 ends with ⟨_, unmarked, marked⟩ | ⟨j, rfl, later⟩
      · rw [same, unmarked] at marked
        cases marked
      · exact (ih later).external token span state
  | @marks state after unmarked marked settled =>
      rcases (marksEndAt_cons_iff state after [] i).1 ends with ⟨rfl, _⟩ | ⟨j, _, later⟩
      · refine ⟨rfl, fun _ => rfl, rfl, ?_⟩
        intro before front
        cases front
        exact settled
      · exact absurd later (not_marksEndAt_singleton after j)

theorem endMark {stream : Stream} (h : Marking size stream.lexemes states)
    (saved : stream.checkpoints.map (fun checkpoint => Checkpoint.decode checkpoint.state) =
      states.map .ok) :
    stream.EndMark states size where
  saved := saved
  length_states := h.length_states stream.checkpoints
  unique i j first second := by
    -- Behind either there is one state more, the last of all.
    have first_length := (h.endsAt_of_marksEndAt first).length_states
    have second_length := (h.endsAt_of_marksEndAt second).length_states
    omega
  stays _ _ _ front back marked := h.stays front back marked
  token_eq _ ends := (h.endsAt_of_marksEndAt ends).token_eq stream.checkpoints
  settled _ before ends front := (h.endsAt_of_marksEndAt ends).settled before front
  comes_last _ ends := by
    have all := h.length_states stream.checkpoints
    have last := h.endsAt_of_marksEndAt ends
    exact ⟨Nat.succ.inj (last.length_states.symm.trans all), last.getLast?_lexemes⟩

end Marking

/-! ## Sessions -/

namespace State

variable {state after : State} {accepts : Acceptance} {p head stop : Place} {token : External}

/-- The end is marked when nothing is owed. -/
theorem settled_of_yields (h : state.Yields accepts p token after head stop)
    (unmarked : state.terminated = false) (marked : after.terminated = true) :
    state.owed.next? = none := by
  cases h with
  | terminator settled _ _ _ => exact settled
  | _ => simp [unmarked] at marked

end State

namespace Session

/-- From any place on, whatever the state: no token of a session changes the mark of the end but one,
which is its last. The checkpoint that the session begins with need not hold the whole state. -/
theorem exists_marking {config : Config} (room : Checkpoint.headerSize ≤ config.capacity) (p : Place)
    (state : State) :
    ∀ before read, Checkpoint.decode before.state = .ok read → read.owed = state.owed →
      read.terminated = state.terminated →
      ∃ states, (streamFrom config before p state).checkpoints.map
          (fun checkpoint => Checkpoint.decode checkpoint.state) = (read :: states).map .ok ∧
        Marking (Text.byteLength p.source) (streamFrom config before p state).lexemes
          (read :: states) := by
  induction p, state using course_induction config with
  | ends p state refusal outcome at_end =>
      intro before read decoded _ _
      rw [streamFrom, lexemesFrom_of_end outcome at_end, checkpointsFrom_of_end outcome at_end]
      exact ⟨[], by simp [decoded], .ends read⟩
  | text p state refusal outcome more ih =>
      intro before read decoded same_owed same_mark
      have same_text := Place.source_eq_of_le (Place.le_trans (Place.le_advanceWhile p Text.isBlank)
        (Place.le_chunkEnd (p.advanceWhile Text.isBlank)))
      rw [streamFrom, lexemesFrom_of_text outcome more, checkpointsFrom_of_text outcome more,
        ← same_text]
      rcases ih before read decoded same_owed same_mark with ⟨states, saved, marking⟩
      exact ⟨states, saved, .text _ marking⟩
  | token p state token after outcome ih =>
      intro before read decoded same_owed same_mark
      have yields := State.yields_of_scan outcome
      have same_text : (state.scan (config.policy.acceptance p) p).stop.source = p.source :=
        Place.source_eq_of_le (State.le_stop_read state (config.policy.acceptance p) p)
      rcases Checkpoint.exists_encode_eq_ok room after with ⟨bytes, saved⟩
      have read_back := Checkpoint.decode_encode saved
      rw [streamFrom, lexemesFrom_of_token room outcome, checkpointsFrom_of_token outcome saved]
      by_cases same : after.terminated = state.terminated
      · -- What is saved may lack levels of `after`, but neither what it owes nor its mark.
        rcases ih ⟨(state.scan (config.policy.acceptance p) p).stop.offset, bytes⟩ _ read_back rfl rfl with
          ⟨states, all_saved, marking⟩
        rw [same_text] at marking
        refine ⟨_, ?_, .keeps _ _ ?_ marking⟩
        · simpa [streamFrom, decoded] using all_saved
        · exact same.trans same_mark.symm
      · rcases State.terminated_of_yields yields with kept | ⟨marked, rfl, at_head, stays, at_end, settled⟩
        · exact absurd kept same
        · -- Nothing comes behind the terminator, so its states are the last two.
          have unmarked : state.terminated = false := by
            cases mark : state.terminated with
            | false => rfl
            | true => exact absurd (marked.trans mark.symm) same
          have owes_nothing := State.settled_of_yields yields unmarked marked
          have size : p.lineHead.offset = Text.byteLength p.source := by
            rw [Place.atEnd_iff_offset_eq.1 at_end, ← stays, same_text]
          rcases over_of_terminated config settled marked at_end with ⟨no_lexeme, no_checkpoint⟩
          rw [Reading.span, at_head, stays, no_lexeme, no_checkpoint, size]
          refine ⟨[after.truncate (Checkpoint.depthWithin config.capacity)], ?_,
            .marks (same_mark.trans unmarked) marked ?_⟩
          · simp [decoded, read_back]
          · rw [same_owed]
            exact (Owed.isSettled_iff_count _).2 ((Owed.next?_eq_none_iff _).1 owes_nothing)

/-- The mark of the end in the stream of a session that begins with the state it was saved with. -/
theorem exists_endMark {config : Config} (room : Checkpoint.headerSize ≤ config.capacity) (p : Place)
    {state : State} {before : Checkpoint} (decoded : Checkpoint.decode before.state = .ok state) :
    ∃ states, (streamFrom config before p state).EndMark (state :: states)
      (Text.byteLength p.source) := by
  rcases exists_marking room p state before state decoded rfl rfl with ⟨states, saved, marking⟩
  exact ⟨states, marking.endMark saved⟩

end Session

/-- In a run over a whole text, and in a run that begins anywhere with any state that reads back, at
most one token marks the end, and no token takes the mark back. The one that sets it is a separator
without width at the end of the text; it comes when nothing is owed, and it is the last lexeme. -/
theorem end_marked_once {config : Config} (room : Checkpoint.headerSize ≤ config.capacity)
    (source : String) :
    (∃ stream states, (tokenize config source).value = .ok stream ∧
      stream.EndMark (.fresh :: states) source.utf8ByteSize) ∧
    ∀ (checkpoint : Checkpoint) (place : Place) (state : State),
      Place.at? source.toList checkpoint.offset = some place →
      Checkpoint.decode checkpoint.state = .ok state →
      ∃ stream states, (resume config source checkpoint).value = .ok stream ∧
        stream.EndMark (state :: states) source.utf8ByteSize := by
  constructor
  · have decoded : Checkpoint.decode Checkpoint.initial.state = .ok .fresh := rfl
    rcases Session.exists_endMark room (.start source.toList) decoded with ⟨states, mark⟩
    have size : Text.byteLength (Place.start source.toList).source = source.utf8ByteSize := by
      rw [← Text.byteLength_toList]
      rfl
    rw [size] at mark
    exact ⟨_, states, tokenize_eq_ok room source, mark⟩
  · intro checkpoint place state found decoded
    rcases Session.exists_endMark room place decoded with ⟨states, mark⟩
    have size : Text.byteLength place.source = source.utf8ByteSize := by
      rw [(Place.at?_eq_some_iff.1 found).1, Text.byteLength_toList]
    rw [size] at mark
    exact ⟨_, states, resume_eq_ok room found decoded, mark⟩

/-- A run taken up behind a block that is to be left: a brace is owed and a separator to be dropped, and
the next line awaits its level. At the end of the text there are two separators, and only the second
marks the end. -/
theorem end_marked_once_behind_separator :
    Checkpoint.headerSize ≤ 11 ∧
      Place.at? "a\n b\n \t".toList 4 = some ⟨['b', ' ', '\n', 'a'], ['\n', ' ', '\t'], 4, rfl⟩ ∧
      Checkpoint.decode [1, 0, 0, 0, 1, 0, 0, 0, 1, 0, 1, 1, 0, 0, 0] =
        .ok ⟨[1], ⟨1, 1, true⟩, false, true⟩ ∧
      ∃ stream states, (resume ⟨.permissive, 11⟩ "a\n b\n \t"
          ⟨4, [1, 0, 0, 0, 1, 0, 0, 0, 1, 0, 1, 1, 0, 0, 0]⟩).value = .ok stream ∧
        stream.EndMark (⟨[1], ⟨1, 1, true⟩, false, true⟩ :: states) 7 ∧
        stream.externals = [(.closeBrace, ⟨4, 4⟩), (.semicolon, ⟨7, 7⟩), (.semicolon, ⟨7, 7⟩)] ∧
        MarksEndAt (⟨[1], ⟨1, 1, true⟩, false, true⟩ :: states) 2 := by
  have room : Checkpoint.headerSize ≤ 11 := by decide
  have found : Place.at? "a\n b\n \t".toList 4 =
      some ⟨['b', ' ', '\n', 'a'], ['\n', ' ', '\t'], 4, rfl⟩ :=
    Place.at?_eq_some_iff.2 ⟨by decide, rfl⟩
  have decoded : Checkpoint.decode [1, 0, 0, 0, 1, 0, 0, 0, 1, 0, 1, 1, 0, 0, 0] =
      .ok ⟨[1], ⟨1, 1, true⟩, false, true⟩ := rfl
  rcases (@end_marked_once ⟨.permissive, 11⟩ room "a\n b\n \t").2
    ⟨4, [1, 0, 0, 0, 1, 0, 0, 0, 1, 0, 1, 1, 0, 0, 0]⟩ _ _ found decoded with ⟨stream, states, run, mark⟩
  refine ⟨room, found, decoded, stream, states, run, mark, ?_⟩
  cases Except.ok.inj (run.symm.trans (@resume_eq_ok ⟨.permissive, 11⟩ _ _ _ _ room found decoded))
  constructor
  · rw [Stream.externals, Session.lexemesFrom, Session.turns_eq_turnsWithin (n := 5) (by decide)]
    decide
  · have checkpoints : Session.checkpointsFrom ⟨.permissive, 11⟩
        ⟨['b', ' ', '\n', 'a'], ['\n', ' ', '\t'], 4, rfl⟩ ⟨[1], ⟨1, 1, true⟩, false, true⟩ =
        [⟨4, [0, 0, 0, 0, 0, 0, 0, 0, 0, 0, 1]⟩, ⟨7, [0, 0, 0, 0, 0, 0, 0, 0, 0, 0, 0]⟩,
          ⟨7, [0, 0, 0, 0, 0, 0, 0, 0, 0, 1, 0]⟩] := by
      rw [Session.checkpointsFrom, Session.turns_eq_turnsWithin (n := 5) (by decide)]
      decide
    have saved := mark.saved
    rw [checkpoints] at saved
    have read_back : [⟨[], ⟨0, 0, false⟩, false, true⟩, ⟨[], ⟨0, 0, false⟩, false, false⟩,
        ⟨[], ⟨0, 0, false⟩, true, false⟩].map .ok =
          states.map (.ok : State → Except Checkpoint.Fault State) :=
      (List.cons.inj saved).2
    cases (List.map_inj_right fun _ _ => Except.ok.inj).1 read_back
    exact ⟨_, _, rfl, rfl, rfl, rfl⟩

end Offside
