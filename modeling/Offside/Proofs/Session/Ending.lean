import Offside.Proofs.Session.Course

/-!
# How runs end

Not every turn reads on: owed tokens and inserted tokens have no width, and some of them add to what
is owed or to the levels. Yet each turn pays for itself out of an allowance. A character left to read
is worth three lexemes: an opening brace may cost the brace and, later, the brace and separator of a
dedent. A level, or one that is still to be recorded, is worth the two tokens that close it. Main
statements:

* `State.allowance_of_yields`, `State.allowance_of_refused` — each lexeme lowers the allowance.
* `Session.length_lexemesFrom_le` — a session gives no more lexemes than its allowance.
* `resume_ends` — a run ends, and the only way for it to fail is that its checkpoints have no room.
-/

namespace Offside

namespace Owed

theorem isSettled_iff_count (owed : Owed) : owed.isSettled = true ↔ owed.count = 0 := by
  rcases owed with ⟨closes, separators, dropsLast⟩
  simp only [isSettled, count, Bool.and_eq_true, beq_iff_eq, Nat.add_eq_zero_iff,
    ← UInt32.toNat_inj, UInt32.toNat_zero]

theorem isLoneClose_eq_false_of_count {owed : Owed} (settled : owed.count = 0) :
    owed.isLoneClose = false := by
  rcases owed with ⟨closes, separators, dropsLast⟩
  cases lone : isLoneClose ⟨closes, separators, dropsLast⟩ with
  | false => rfl
  | true =>
      simp only [isLoneClose, Bool.and_eq_true, beq_iff_eq] at lone
      rcases lone with ⟨rfl, rfl⟩
      simp [count] at settled

theorem eq_zero_of_count {owed : Owed} (settled : owed.count = 0) :
    owed.closes = 0 ∧ owed.separators = 0 := by
  simp only [count] at settled
  exact ⟨UInt32.toNat_inj.1 (by simp; omega), UInt32.toNat_inj.1 (by simp; omega)⟩

theorem count_addBlocks_le {owed : Owed} (settled : owed.count = 0) (blocks : Nat) :
    (owed.addBlocks (UInt32.ofNat blocks)).count ≤ 2 * blocks := by
  rcases eq_zero_of_count settled with ⟨closes, separators⟩
  have bound : (UInt32.ofNat blocks).toNat ≤ blocks := by
    rw [UInt32.toNat_ofNat']
    exact Nat.mod_le _ _
  simp only [addBlocks, count, closes, separators, UInt32.zero_add]
  omega

end Owed

namespace State

/-! ## The allowance -/

/-- The characters still to be paid for. A closing brace is paid for as soon as the separator in front
of it is given out. -/
def unpaid (state : State) (p : Place) : Nat :=
  if p.lookahead = some '}' ∧ state.owed.isLoneClose = true then
    p.after.length - 1
  else
    p.after.length

/-- What the state will cost, apart from the characters to be read. -/
def dues (state : State) : Nat :=
  2 * state.depth + 2 * state.awaitsLevel.toNat + (!state.terminated).toNat + state.owed.count

/-- A bound on the lexemes of a session that takes up `state` at `p`. -/
def allowance (state : State) (p : Place) : Nat :=
  3 * state.unpaid p + state.dues

theorem unpaid_le (state : State) (p : Place) : state.unpaid p ≤ p.after.length := by
  simp only [unpaid]
  split
  · exact Nat.sub_le _ _
  · exact Nat.le_refl _

theorem unpaid_of_settled {state : State} (settled : state.owed.count = 0) (p : Place) :
    state.unpaid p = p.after.length := by
  simp [unpaid, Owed.isLoneClose_eq_false_of_count settled]

/-- Recording a level moves what it costs from the brace to the level. -/
theorem dues_recordedAt (state : State) (p : Place) : (state.recordedAt p).dues = state.dues := by
  simp only [dues, owed_recordedAt, terminated_recordedAt, awaitsLevel_recordedAt]
  cases awaits : state.awaitsLevel with
  | true =>
      simp [recordedAt, recordLevel, awaits, depth]
      omega
  | false => simp [recordedAt, recordLevel, awaits, depth]

/-- What the closed levels were worth pays for the tokens that are owed for them. -/
theorem dues_dedent_le {state : State} (settled : state.owed.count = 0) (indent : Level)
    (continues : Bool) : (state.dedent indent continues).dues ≤ state.dues := by
  have blocks := Levels.countAbove_add_length_closeAbove state.levels indent
  have owes := Owed.count_addBlocks_le settled (state.levels.countAbove indent)
  have owed_eq : (state.dedent indent continues).owed.count =
      (state.owed.addBlocks (UInt32.ofNat (state.levels.countAbove indent))).count := by
    cases continues <;> rfl
  simp only [dues, depth, terminated_dedent, awaitsLevel_dedent, levels_dedent, owed_eq]
  omega

theorem owed_closeExplicitly {state : State} (settled : state.owed.count = 0) :
    state.closeExplicitly.owed.closes = 1 ∧ state.closeExplicitly.owed.separators = 0 := by
  rcases Owed.eq_zero_of_count settled with ⟨closes, separators⟩
  simp [closeExplicitly, Owed.addClose, closes, separators]

theorem dues_closeExplicitly_le {state : State} (settled : state.owed.count = 0) :
    state.closeExplicitly.dues ≤ state.dues + 1 := by
  rcases owed_closeExplicitly settled with ⟨closes, separators⟩
  have popped : state.closeExplicitly.levels.length ≤ state.levels.length := by
    simp [closeExplicitly]
  simp only [dues, depth, terminated_closeExplicitly, awaitsLevel_closeExplicitly, Owed.count,
    closes, separators, UInt32.toNat_one, UInt32.toNat_zero]
  omega

/-- The brace behind the separator is paid for. -/
theorem unpaid_closeExplicitly {state : State} {p : Place} (settled : state.owed.count = 0)
    (brace : p.lookahead = some '}') :
    state.closeExplicitly.unpaid p = p.after.length - 1 := by
  rcases owed_closeExplicitly settled with ⟨closes, separators⟩
  simp [unpaid, brace, Owed.isLoneClose, closes, separators]

theorem length_after_lineHead_le (p : Place) : p.lineHead.after.length ≤ p.after.length :=
  Place.length_after_le (le_lineHead p)

/-- A margin that crosses a line break is not empty. -/
theorem length_after_lineHead_lt {p : Place} (crosses : p.margin.crossesLine = true) :
    p.lineHead.after.length < p.after.length := by
  rcases Nat.lt_or_ge p.lineHead.after.length p.after.length with shorter | same
  · exact shorter
  · have stays : p.lineHead = p :=
      Place.eq_of_le_of_length_eq (le_lineHead p)
        (Nat.le_antisymm (length_after_lineHead_le p) same)
    rw [crossesLine_margin_of_lineHead_eq stays] at crosses
    cases crosses

theorem length_after_advance_lt {p : Place} {c : Char} (h : p.lookahead = some c) :
    p.advance.after.length < p.after.length :=
  Place.length_after_advance_lt (Place.atEnd_eq_false_of_lookahead h)

/-- One character pays for a token of a scanner that owed nothing, and for a level to be recorded or given
up behind it. -/
theorem allowance_lt_of_read {state after : State} {p stop : Place} (settled : state.owed.next? = none)
    (read : stop.after.length < p.after.length) (dues_le : after.dues ≤ state.dues + 2) :
    after.allowance stop < state.allowance p := by
  have before := unpaid_of_settled ((Owed.next?_eq_none_iff _).1 settled) p
  have unpaid_after := unpaid_le after stop
  rw [allowance, allowance, before]
  omega

/-- A token lowers the allowance. -/
theorem allowance_of_yields {state after : State} {accepts : Acceptance} {p head stop : Place}
    {token : External} (h : state.Yields accepts p token after head stop) :
    after.allowance stop < state.allowance p := by
  have shorter := length_after_lineHead_le p
  have same_dues := dues_recordedAt state p
  have same_dues_le : (state.recordedAt p).dues ≤ state.dues + 2 := by
    rw [same_dues]
    exact Nat.le_add_right _ 2
  have nothing (settled : state.owed.next? = none) : (state.recordedAt p).owed.count = 0 := by
    rw [owed_recordedAt]
    exact (Owed.next?_eq_none_iff _).1 settled
  have unread (settled : state.owed.next? = none) : state.unpaid p = p.after.length :=
    unpaid_of_settled ((Owed.next?_eq_none_iff _).1 settled) p
  -- Tokens without width pay out of the dues. A token behind a margin that crosses a line, or with a
  -- spelling, has at least one character to pay with.
  cases h with
  | @owed _ owed next bare =>
      have less := Owed.count_lt_of_next? next
      have not_lone : ¬ (p.lookahead = some '}' ∧ state.owed.isLoneClose = true) := by
        rintro ⟨brace, lone⟩
        rcases Owed.next?_of_isLoneClose lone next with ⟨closes, settled⟩
        exact bare ⟨closes, settled, brace⟩
      have before : state.unpaid p = p.after.length := by
        simp only [unpaid, not_lone, if_false]
      have unpaid_after := unpaid_le { state with owed := owed } p
      simp only [allowance, dues, depth] at *
      omega
  | @owedBrace owed next settled brace =>
      have none_left : owed.count = 0 := (Owed.isSettled_iff_count owed).1 settled
      have less := Owed.count_lt_of_next? next
      have read_brace := length_after_advance_lt brace
      -- If the brace was owed alone, its character was paid for already.
      have before : p.after.length - 1 ≤ state.unpaid p := by
        simp only [unpaid]
        split <;> omega
      have unpaid_after : unpaid { state with owed := owed } p.advance = p.advance.after.length :=
        unpaid_of_settled none_left _
      simp only [allowance, dues, depth] at *
      omega
  | indent settled crosses deeper accepted outside more starts =>
      refine allowance_lt_of_read settled (length_after_lineHead_lt crosses) ?_
      rw [← same_dues]
      simp only [dues, depth, List.length_cons]
      omega
  | aligned settled crosses same accepted outside starts =>
      exact allowance_lt_of_read settled (length_after_lineHead_lt crosses) same_dues_le
  | dedent settled crosses left accepted open_brace =>
      refine allowance_lt_of_read settled (length_after_lineHead_lt crosses) ?_
      exact Nat.le_trans (dues_dedent_le (nothing settled) _ _) same_dues_le
  | terminator settled defers ends open_end =>
      have before := unread settled
      have unpaid_after := unpaid_le { state.recordedAt p with terminated := true } p.lineHead
      have still_open : (state.recordedAt p).terminated = false := by
        rw [terminated_recordedAt]
        exact open_end
      simp only [allowance, dues, depth, still_open, Bool.not_true, Bool.not_false, Bool.toNat_true,
        Bool.toNat_false] at *
      omega
  | openBrace settled defers brace accepted =>
      refine allowance_lt_of_read settled (Nat.lt_of_lt_of_le (length_after_advance_lt brace) shorter) ?_
      have not_awaiting : (state.recordedAt p).awaitsLevel = false := awaitsLevel_recordedAt state p
      rw [← same_dues]
      simp only [dues, depth, not_awaiting, Bool.toNat_true, Bool.toNat_false]
      omega
  | closeBrace settled defers brace accepted =>
      -- Nothing is read, but the brace that is owed now counts as read.
      have before := unread settled
      have read_brace := length_after_advance_lt brace
      have unpaid_after := unpaid_closeExplicitly (nothing settled) brace
      have dues_after := dues_closeExplicitly_le (nothing settled)
      simp only [allowance] at *
      omega
  | semicolon settled defers separator accepted =>
      have read := Nat.lt_of_lt_of_le (length_after_advance_lt separator) shorter
      exact allowance_lt_of_read settled read same_dues_le
  | rawString settled defers letter accepted closed =>
      have read_on := Place.length_after_le (RawLiteral.advance_le_of_read_eq_closed closed)
      have read := Nat.lt_of_lt_of_le (length_after_advance_lt letter) shorter
      exact allowance_lt_of_read settled (Nat.lt_of_le_of_lt read_on read) same_dues_le

/-- A scanner that refuses owes nothing. -/
theorem next?_eq_none_of_scan_eq_error {state : State} {accepts : Acceptance} {p : Place}
    {refusal : Refusal} (h : (state.scan accepts p).outcome = .error refusal) :
    state.owed.next? = none := by
  change (state.read accepts p).outcome = _ at h
  cases next : state.owed.next? with
  | none => rfl
  | some paid =>
      simp only [read, next, readOwed, Reading.spelled] at h
      cases h

/-- A chunk lowers the allowance. -/
theorem allowance_of_refused {state : State} {accepts : Acceptance} {p : Place} {refusal : Refusal}
    (h : (state.scan accepts p).outcome = .error refusal)
    (more : (p.advanceWhile Text.isBlank).atEnd = false) :
    state.allowance (p.advanceWhile Text.isBlank).chunkEnd < state.allowance p := by
  have settled := (Owed.next?_eq_none_iff _).1 (next?_eq_none_of_scan_eq_error h)
  have before := unpaid_of_settled settled p
  have unpaid_after := unpaid_of_settled settled (p.advanceWhile Text.isBlank).chunkEnd
  have read_on := Place.length_after_chunkEnd_lt more
  have skipped := Place.length_after_le (Place.le_advanceWhile p Text.isBlank)
  simp only [allowance]
  omega

end State

namespace Session

/-! ## Counting turns -/

/-- The session after `n` turns; `none` once it has ended. -/
def afterTurns (config : Config) : Nat → Session → Option Session
  | 0, session => some session
  | n + 1, session => (session.turn config).value.next?.bind (afterTurns config n)

/-- The scan of the next turn gives out a token. -/
def GivesToken (config : Config) (session : Session) : Prop :=
  ∃ token after, (session.reading config).outcome = .ok (token, after)

/-- The scan of some turn, this one or a later one, gives out a token. -/
def ComesToToken (config : Config) (session : Session) : Prop :=
  ∃ n later, afterTurns config n session = some later ∧ later.GivesToken config

theorem allowance_of_next? {config : Config} {session next : Session}
    (h : (session.turn config).value.next? = some next) :
    next.state.allowance next.place < session.state.allowance session.place := by
  rcases cases_of_next? h with ⟨token, after, bytes, outcome, _, rfl⟩ | ⟨_, outcome, more, rfl⟩
  · exact State.allowance_of_yields (State.yields_of_scan outcome)
  · exact State.allowance_of_refused outcome more

/-- A session ends before it has taken more turns than its allowance. -/
theorem afterTurns_eq_none (config : Config) :
    ∀ n session, session.state.allowance session.place < n →
      afterTurns config n session = none := by
  intro n
  induction n with
  | zero =>
      intro session enough
      exact absurd enough (Nat.not_lt_zero _)
  | succ n ih =>
      intro session enough
      simp only [afterTurns]
      cases following : (session.turn config).value.next? with
      | none => rfl
      | some next =>
          have less := allowance_of_next? following
          exact ih next (Nat.lt_of_lt_of_le less (Nat.le_of_lt_succ enough))

theorem lexeme?_eq_none_of_next? {turn : Turn} (h : turn.next? = none) : turn.lexeme? = none := by
  cases turn with
  | token => cases h
  | text => cases h
  | finished => rfl
  | failed => rfl

theorem length_lexemes_lt (config : Config) :
    ∀ n (session : Session), session.state.allowance session.place < n →
      ((session.turns config).filterMap (·.value.lexeme?)).length < n := by
  -- The induction is on a bound above the allowance, which each turn but the last lowers.
  intro n
  induction n with
  | zero =>
      intro session enough
      exact absurd enough (Nat.not_lt_zero _)
  | succ n ih =>
      intro session enough
      cases following : (session.turn config).value.next? with
      | none =>
          rw [turns_of_last following]
          simp [lexeme?_eq_none_of_next? following]
      | some next =>
          have less := allowance_of_next? following
          have later := ih next (Nat.lt_of_lt_of_le less (Nat.le_of_lt_succ enough))
          have one_more : ((session.turns config).filterMap (·.value.lexeme?)).length ≤
              ((next.turns config).filterMap (·.value.lexeme?)).length + 1 := by
            rw [turns_of_next following, List.filterMap_cons]
            split
            · exact Nat.le_succ _
            · exact Nat.le_refl _
          exact Nat.lt_of_le_of_lt one_more (Nat.succ_lt_succ later)

/-- A session gives no more lexemes than its allowance. -/
theorem length_lexemesFrom_le (config : Config) (p : Place) (state : State) :
    (lexemesFrom config p state).length ≤ state.allowance p :=
  Nat.le_of_lt_succ (length_lexemes_lt config _ (takingUp p state) (Nat.lt_succ_self _))

/-! ## Runs without room -/

theorem not_givesToken_of_refused {config : Config} {p : Place} {state : State} {refusal : Refusal}
    (outcome : (state.scan (config.policy.acceptance p) p).outcome = .error refusal) :
    ¬ (takingUp p state).GivesToken config := by
  rintro ⟨token, after, given⟩
  have refused : ((takingUp p state).reading config).outcome = .error refusal := outcome
  rw [refused] at given
  cases given

theorem comesToToken_of_next? {config : Config} {session next : Session}
    (following : (session.turn config).value.next? = some next) (gives : next.ComesToToken config) :
    session.ComesToToken config := by
  rcases gives with ⟨n, later, reached, gives⟩
  refine ⟨n + 1, later, ?_, gives⟩
  simpa only [afterTurns, following, Option.bind_some] using reached

theorem comesToToken_cases {config : Config} {session : Session}
    (gives : session.ComesToToken config) :
    session.GivesToken config ∨
      ∃ next, (session.turn config).value.next? = some next ∧ next.ComesToToken config := by
  rcases gives with ⟨n, later, reached, gives⟩
  cases n with
  | zero =>
      cases reached
      exact .inl gives
  | succ n =>
      rcases Option.bind_eq_some_iff.1 reached with ⟨next, following, reached⟩
      exact .inr ⟨next, following, n, later, reached, gives⟩

/-- Without room for the header the first token is the end of a run. -/
theorem fault_of_tight {config : Config} (tight : config.capacity < Checkpoint.headerSize)
    (p : Place) (state : State) :
    ((takingUp p state).ComesToToken config ∧
      ((takingUp p state).turns config).findSome? (·.value.fault?) =
        some (.state (.noRoom config.capacity Checkpoint.headerSize))) ∨
    (¬ (takingUp p state).ComesToToken config ∧
      ((takingUp p state).turns config).findSome? (·.value.fault?) = none) := by
  -- Chunks save nothing, so all is well up to the first token.
  induction p, state using course_induction config with
  | ends p state refusal outcome at_end =>
      have turn := turn_takingUp_of_end outcome at_end
      refine .inr ⟨?_, ?_⟩
      · intro gives
        rcases comesToToken_cases gives with gives | ⟨next, following, _⟩
        · exact not_givesToken_of_refused outcome gives
        · rw [turn] at following
          cases following
      · rw [turns_of_last (congrArg Turn.next? turn)]
        simp [turn, Turn.fault?]
  | text p state refusal outcome more ih =>
      have turn := turn_takingUp_of_text outcome more
      have faults : ((takingUp p state).turns config).findSome? (·.value.fault?) =
          ((takingUp (p.advanceWhile Text.isBlank).chunkEnd state).turns config).findSome?
            (·.value.fault?) := by
        rw [turns_of_next (congrArg Turn.next? turn), List.findSome?_cons]
        simp only [turn, Turn.fault?]
      rcases ih with ⟨gives, fault⟩ | ⟨never, sound⟩
      · exact .inl ⟨comesToToken_of_next? (congrArg Turn.next? turn) gives, faults.trans fault⟩
      · refine .inr ⟨?_, faults.trans sound⟩
        intro gives
        rcases comesToToken_cases gives with gives | ⟨next, following, gives⟩
        · exact not_givesToken_of_refused outcome gives
        · rw [turn] at following
          cases following
          exact never gives
  | token p state token after outcome ih =>
      have given : ((takingUp p state).reading config).outcome = .ok (token, after) := outcome
      have turn := turn_of_unsaved given tight
      refine .inl ⟨⟨0, takingUp p state, rfl, token, after, given⟩, ?_⟩
      rw [turns_of_last (congrArg Turn.next? turn)]
      simp [turn, Turn.fault?]

/-- A run without room for its header fails exactly if it comes to a token; any other run succeeds. -/
theorem run_value_cases (config : Config) (origin : Checkpoint) (p : Place) (state : State) :
    ((config.capacity < Checkpoint.headerSize ∧ (takingUp p state).ComesToToken config) ∧
      ((takingUp p state).run config origin).value =
        .error (.state (.noRoom config.capacity Checkpoint.headerSize))) ∨
    (¬ (config.capacity < Checkpoint.headerSize ∧ (takingUp p state).ComesToToken config) ∧
      ∃ stream, ((takingUp p state).run config origin).value = .ok stream) := by
  rcases Nat.lt_or_ge config.capacity Checkpoint.headerSize with tight | room
  · rw [run_value]
    rcases fault_of_tight tight p state with ⟨gives, fault⟩ | ⟨never, sound⟩
    · rw [fault]
      exact .inl ⟨⟨tight, gives⟩, rfl⟩
    · rw [sound]
      exact .inr ⟨fun fails => never fails.2, _, rfl⟩
  · rw [run_takingUp room]
    exact .inr ⟨fun fails => absurd fails.1 (Nat.not_lt.2 room), _, rfl⟩

end Session

namespace State

theorem length_le_byteLength (chars : List Char) : chars.length ≤ Text.byteLength chars := by
  induction chars with
  | nil => exact Nat.le_refl _
  | cons c rest ih =>
      have wide := c.utf8Size_pos
      simp only [List.length_cons, Text.byteLength_cons]
      omega

theorem allowance_fresh (text : List Char) :
    State.fresh.allowance (.start text) = 3 * text.length + 1 := by
  have nothing : State.fresh.owed.count = 0 := rfl
  rw [allowance, unpaid_of_settled nothing]
  rfl

end State

/-- Wherever a run begins, and whatever its state, it ends, and it is never refused or at a
standstill. It fails only if a token is given out and the state behind it has no room. A run over a
whole text gives at most three lexemes for each byte, and the terminator. -/
theorem resume_ends (config : Config) (source : String) (checkpoint : Checkpoint) (place : Place)
    (state : State) (found : Place.at? source.toList checkpoint.offset = some place)
    (decoded : Checkpoint.decode checkpoint.state = .ok state) :
    (∃ n, Session.afterTurns config n (.takingUp place state) = none) ∧
      ((resume config source checkpoint).value =
          .error (.state (.noRoom config.capacity Checkpoint.headerSize)) ↔
        config.capacity < Checkpoint.headerSize ∧
          (Session.takingUp place state).ComesToToken config) ∧
      ((∃ stream, (resume config source checkpoint).value = .ok stream) ↔
        ¬ (config.capacity < Checkpoint.headerSize ∧
          (Session.takingUp place state).ComesToToken config)) ∧
      (∀ token offset,
        (resume config source checkpoint).value ≠ .error (.standstill token offset)) ∧
      (∀ offset refusal,
        (resume config source checkpoint).value ≠ .error (.refused offset refusal)) ∧
      (tokenize config source).value = (resume config source .initial).value ∧
      ∀ stream, (tokenize config source).value = .ok stream →
        stream.lexemes.length ≤ 3 * source.utf8ByteSize + 1 := by
  have at_start : Place.at? source.toList Checkpoint.initial.offset =
      some (.start source.toList) :=
    Place.at?_eq_some_iff.2 ⟨by simp [Place.source, Place.start], rfl⟩
  have whole_text : (tokenize config source).value = (resume config source .initial).value := by
    rw [resume_eq_run at_start rfl]
    rfl
  have ends := Session.afterTurns_eq_none config _ (.takingUp place state) (Nat.lt_succ_self _)
  have few : ∀ stream, (tokenize config source).value = .ok stream →
      stream.lexemes.length ≤ 3 * source.utf8ByteSize + 1 := by
    intro stream run
    have lexemes : stream.lexemes = Session.lexemesFrom config (.start source.toList) .fresh := by
      rw [whole_text, resume_eq_run at_start rfl, Session.run_value] at run
      split at run
      · cases run
      · cases run
        rfl
    have bound := Session.length_lexemesFrom_le config (.start source.toList) .fresh
    have size := State.length_le_byteLength source.toList
    rw [State.allowance_fresh] at bound
    rw [Text.byteLength_toList] at size
    rw [lexemes]
    omega
  rw [resume_eq_run found decoded]
  rcases Session.run_value_cases config checkpoint place state with ⟨fails, fault⟩ | ⟨sound, stream, run⟩
  · rw [fault]
    refine ⟨⟨_, ends⟩, ⟨fun _ => fails, fun _ => rfl⟩, ⟨?_, fun sound => absurd fails sound⟩,
      ?_, ?_, whole_text, few⟩
    · rintro ⟨stream, run⟩
      cases run
    · intro token offset other
      cases other
    · intro offset refusal other
      cases other
  · rw [run]
    refine ⟨⟨_, ends⟩, ⟨?_, fun fails => absurd fails sound⟩, ⟨fun _ => sound, fun _ => ⟨_, rfl⟩⟩,
      ?_, ?_, whole_text, few⟩
    · intro fault
      cases fault
    · intro token offset other
      cases other
    · intro offset refusal other
      cases other

/-- A run that takes up a state which no run leaves behind: between two characters, with a level to
record, two closing braces and a separator owed, and no room for the state behind the first. -/
theorem resume_ends_unreached :
    Place.at? "λ\x7d".toList 2 = some ⟨['λ'], ['}'], 2, rfl⟩ ∧
      Checkpoint.decode [2, 0, 0, 0, 1, 0, 0, 0, 1, 1, 1, 5, 0, 0, 0] =
        .ok ⟨[5], ⟨2, 1, true⟩, true, true⟩ ∧
      (resume ⟨.permissive, 10⟩ "λ\x7d" ⟨2, [2, 0, 0, 0, 1, 0, 0, 0, 1, 1, 1, 5, 0, 0, 0]⟩).value =
        .error (.state (.noRoom 10 11)) := by
  have found : Place.at? "λ\x7d".toList 2 = some ⟨['λ'], ['}'], 2, rfl⟩ := rfl
  have decoded : Checkpoint.decode [2, 0, 0, 0, 1, 0, 0, 0, 1, 1, 1, 5, 0, 0, 0] =
      .ok ⟨[5], ⟨2, 1, true⟩, true, true⟩ := rfl
  have ends := resume_ends ⟨.permissive, 10⟩ "λ\x7d"
    ⟨2, [2, 0, 0, 0, 1, 0, 0, 0, 1, 1, 1, 5, 0, 0, 0]⟩ _ _ found decoded
  exact ⟨found, decoded, ends.2.1.2 ⟨by decide, 0, _, rfl, .closeBrace, _, rfl⟩⟩

end Offside
