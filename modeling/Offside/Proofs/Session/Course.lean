import Offside.Proofs.Place.Reads
import Offside.Proofs.Reading.Yields
import Offside.Session.Run

/-!
# The course of a session

What a session does from some turn on depends on its place and its state alone. It also remembers
the token of the turn before, to notice that it makes no headway; but it always does, so the memory
decides nothing. Main statements:

* `Session.not_standstill` — a session that remembers truly is never at a standstill.
* `Session.turns_takingUp` — forgetting the turn before changes no turn.
* `Session.course_induction` — what holds at the end, and of a session if it holds of the session
  after its turn, holds of every session.
* `Session.lexemesFrom_of_token`, `Session.lexemesFrom_of_text`, `Session.lexemesFrom_of_end` — the
  lexemes of a session, turn by turn.
* `Session.checkpointsFrom_of_token`, `Session.checkpointsFrom_of_text`,
  `Session.checkpointsFrom_of_end` — and its checkpoints.
* `tokenize_eq_ok`, `resume_eq_ok` — with room for the header a run succeeds.
-/

namespace Offside

namespace Place

theorem eq_of_le_of_offset_le {p q : Place} (h : p ≤ q) (same : q.offset ≤ p.offset) : q = p := by
  have stays : q.offset = p.offset := Nat.le_antisymm same (offset_le_of_le h)
  rcases h with ⟨n, rfl⟩
  have reads := p.reads_advanceBy n
  -- Nothing was read: there was nothing to read, or no character was asked for.
  rw [reads.offset_eq_iff.1 stays] at reads
  exact reads.unique (reads_nil p)

theorem le_chunkEnd (p : Place) : p ≤ p.chunkEnd := by
  simp only [chunkEnd]
  split
  · split
    · exact le_advanceWhile p _
    · split
      · exact le_advanceWhile p _
      · exact le_advance p
  · exact le_refl p

end Place

namespace Checkpoint

/-- States that are saved in the same bytes differ at most in levels that found no room. -/
theorem truncate_eq_of_encode_eq {capacity : Nat} {first second : State} {bytes : Bytes}
    (hfirst : encode capacity first = .ok bytes) (hsecond : encode capacity second = .ok bytes) :
    first.truncate (depthWithin capacity) = second.truncate (depthWithin capacity) := by
  have read := decode_encode hfirst
  rw [decode_encode hsecond] at read
  injection read with same
  exact same.symm

theorem exists_encode_eq_ok {capacity : Nat} (room : headerSize ≤ capacity) (state : State) :
    ∃ bytes, encode capacity state = .ok bytes := by
  have enough : ¬ capacity < headerSize := Nat.not_lt.2 room
  exact ⟨_, by simp only [encode, enough, if_false]; rfl⟩

theorem encode_eq_error {capacity : Nat} (tight : capacity < headerSize) (state : State) :
    encode capacity state = .error (.noRoom capacity headerSize) := by
  simp [encode, tight]

end Checkpoint

namespace Session

/-! ## A session never stands still -/

/-- What the scan of the next turn makes of the place. -/
def reading (config : Config) (session : Session) : Reading :=
  session.state.scan (config.policy.acceptance session.place) session.place

/-- What a session remembers of the token before is true: it did not start behind the place, and the
bytes saved behind it are those of the state. -/
def Coherent (config : Config) (session : Session) : Prop :=
  ∀ start bytes, session.previous = some (start, bytes) →
    start ≤ session.place.offset ∧ Checkpoint.encode config.capacity session.state = .ok bytes

theorem not_standstill {config : Config} {session : Session} {token : External} {after : State}
    {bytes : Checkpoint.Bytes} (coherent : session.Coherent config)
    (outcome : (session.reading config).outcome = .ok (token, after))
    (saved : Checkpoint.encode config.capacity after = .ok bytes) :
    ¬ ((session.reading config).span.isEmpty = true ∧
        session.previous = some ((session.reading config).span.start, bytes)) := by
  rintro ⟨empty, same⟩
  rcases coherent _ _ same with ⟨start_le, was_saved⟩
  have yields := State.yields_of_scan outcome
  -- A token without width where the one before started leaves the session where it is.
  have head_eq : (session.reading config).head = session.place :=
    Place.eq_of_le_of_offset_le (State.le_head_of_yields yields) start_le
  have stop_eq : (session.reading config).stop = session.place := by
    have stays := Place.eq_of_le_of_offset_le (State.head_le_stop_of_yields yields)
      ((Span.isEmpty_iff _).1 empty)
    exact stays.trans head_eq
  have saved_alike := Checkpoint.truncate_eq_of_encode_eq was_saved saved
  have same_end : session.state.terminated = after.terminated := by
    simpa [State.truncate] using congrArg State.terminated saved_alike
  have same_owed : session.state.owed = after.owed := by
    simpa [State.truncate] using congrArg State.owed saved_alike
  -- Each kind of headway shows in the place or in what is saved even of a truncated state.
  cases State.headway_scan outcome with
  | reads shorter =>
      change (session.reading config).stop.after.length < session.place.after.length at shorter
      rw [stop_eq] at shorter
      exact Nat.lt_irrefl _ shorter
  | terminates _ was becomes =>
      rw [was, becomes] at same_end
      cases same_end
  | pays _ _ less =>
      rw [same_owed] at less
      exact Nat.lt_irrefl _ less

/-! ## The four kinds of turns -/

theorem turn_of_token {config : Config} {session : Session} {token : External} {after : State}
    {bytes : Checkpoint.Bytes} (coherent : session.Coherent config)
    (outcome : (session.reading config).outcome = .ok (token, after))
    (saved : Checkpoint.encode config.capacity after = .ok bytes) :
    (session.turn config).value =
      .token ⟨.external token, (session.reading config).span⟩
        ⟨(session.reading config).span.stop, bytes⟩
        ⟨(session.reading config).stop, after,
          some ((session.reading config).span.start, bytes)⟩ := by
  have headway := not_standstill coherent outcome saved
  simp only [reading] at outcome headway ⊢
  simp only [turn, outcome, takeToken, Checkpoint.save, saved, headway, if_false]

theorem turn_of_unsaved {config : Config} {session : Session} {token : External} {after : State}
    (outcome : (session.reading config).outcome = .ok (token, after))
    (tight : config.capacity < Checkpoint.headerSize) :
    (session.turn config).value =
      .failed (.state (.noRoom config.capacity Checkpoint.headerSize)) := by
  simp only [reading] at outcome
  simp only [turn, outcome, takeToken, Checkpoint.save, Checkpoint.encode_eq_error tight]

theorem turn_of_text {config : Config} {session : Session} {refusal : Refusal}
    (outcome : (session.reading config).outcome = .error refusal)
    (more : (session.place.advanceWhile Text.isBlank).atEnd = false) :
    (session.turn config).value =
      .text
        ⟨.text, ⟨(session.place.advanceWhile Text.isBlank).offset,
          (session.place.advanceWhile Text.isBlank).chunkEnd.offset⟩⟩
        ⟨(session.place.advanceWhile Text.isBlank).chunkEnd, session.state, none⟩ := by
  have recoverable := State.isRecoverable_of_scan_eq_error outcome
  simp only [reading] at outcome
  simp [turn, outcome, takeText, recoverable, more]

theorem turn_of_end {config : Config} {session : Session} {refusal : Refusal}
    (outcome : (session.reading config).outcome = .error refusal)
    (ends : (session.place.advanceWhile Text.isBlank).atEnd = true) :
    (session.turn config).value = .finished := by
  have recoverable := State.isRecoverable_of_scan_eq_error outcome
  simp only [reading] at outcome
  simp [turn, outcome, takeText, recoverable, ends]

/-- A turn that is not the last gave out a token whose state was saved, or read a chunk. -/
theorem cases_of_next? {config : Config} {session next : Session}
    (h : (session.turn config).value.next? = some next) :
    (∃ token after bytes,
      (session.reading config).outcome = .ok (token, after) ∧
        Checkpoint.encode config.capacity after = .ok bytes ∧
        next = ⟨(session.reading config).stop, after,
          some ((session.reading config).span.start, bytes)⟩) ∨
    (∃ refusal,
      (session.reading config).outcome = .error refusal ∧
        (session.place.advanceWhile Text.isBlank).atEnd = false ∧
        next = ⟨(session.place.advanceWhile Text.isBlank).chunkEnd, session.state, none⟩) := by
  cases outcome : (session.reading config).outcome with
  | ok given =>
      rcases given with ⟨token, after⟩
      refine .inl ⟨token, after, ?_⟩
      simp only [reading] at outcome
      simp only [turn, outcome, takeToken, Checkpoint.save] at h
      split at h
      · cases h
      next bytes saved =>
        split at h
        · cases h
        · cases h
          exact ⟨bytes, rfl, saved, rfl⟩
  | error refusal =>
      cases ends : (session.place.advanceWhile Text.isBlank).atEnd with
      | true =>
          rw [turn_of_end outcome ends] at h
          cases h
      | false =>
          rw [turn_of_text outcome ends] at h
          cases h
          exact .inr ⟨refusal, rfl, rfl, rfl⟩

/-- A session that remembers truly does so after its turn as well. -/
theorem coherent_of_next? {config : Config} {session next : Session}
    (h : (session.turn config).value.next? = some next) : next.Coherent config := by
  intro start bytes remembered
  rcases cases_of_next? h with ⟨token, after, saved, outcome, encoded, rfl⟩ | ⟨_, _, _, rfl⟩
  · cases remembered
    have onward := State.head_le_stop_of_yields (State.yields_of_scan outcome)
    exact ⟨Place.offset_le_of_le onward, encoded⟩
  · cases remembered

/-! ## Forgetting the turn before -/

/-- The session that takes up `state` at `p`. -/
def takingUp (p : Place) (state : State) : Session :=
  ⟨p, state, none⟩

theorem coherent_takingUp (config : Config) (p : Place) (state : State) :
    (takingUp p state).Coherent config := by
  intro start bytes remembered
  cases remembered

theorem turn_takingUp {config : Config} {session : Session} (coherent : session.Coherent config) :
    (takingUp session.place session.state).turn config = session.turn config := by
  cases outcome : (session.reading config).outcome with
  | error refusal =>
      simp only [reading] at outcome
      simp only [turn, takingUp, outcome, takeText]
      rfl
  | ok given =>
      rcases given with ⟨token, after⟩
      cases saved : Checkpoint.encode config.capacity after with
      | error fault =>
          simp only [reading] at outcome
          simp only [turn, takingUp, outcome, takeToken, Checkpoint.save, saved]
      | ok bytes =>
          have headway := not_standstill coherent outcome saved
          simp only [reading] at outcome headway
          simp only [turn, takingUp, outcome, takeToken, Checkpoint.save, saved, headway]
          simp

theorem turns_takingUp {config : Config} {session : Session} (coherent : session.Coherent config) :
    (takingUp session.place session.state).turns config = session.turns config := by
  have same := turn_takingUp coherent
  cases following : (session.turn config).value.next? with
  | none =>
      rw [turns_of_last following, turns_of_last (by rw [same, following]), same]
  | some next =>
      rw [turns_of_next following, turns_of_next (by rw [same, following]), same]

/-! ## Turn by turn -/

/-- What holds at the end of a text, and of a place and state if it holds of those that the next
turn leaves, holds of every place and state. -/
theorem course_induction (config : Config) {motive : Place → State → Prop}
    (ends : ∀ p state refusal,
      (state.scan (config.policy.acceptance p) p).outcome = .error refusal →
      (p.advanceWhile Text.isBlank).atEnd = true → motive p state)
    (text : ∀ p state refusal,
      (state.scan (config.policy.acceptance p) p).outcome = .error refusal →
      (p.advanceWhile Text.isBlank).atEnd = false →
      motive (p.advanceWhile Text.isBlank).chunkEnd state → motive p state)
    (token : ∀ p state given after,
      (state.scan (config.policy.acceptance p) p).outcome = .ok (given, after) →
      motive (state.scan (config.policy.acceptance p) p).stop after → motive p state)
    (p : Place) (state : State) : motive p state := by
  cases outcome : (state.scan (config.policy.acceptance p) p).outcome with
  | error refusal =>
      cases at_end : (p.advanceWhile Text.isBlank).atEnd with
      | true => exact ends p state refusal outcome at_end
      | false =>
          exact text p state refusal outcome at_end
            (course_induction config ends text token _ state)
  | ok given =>
      rcases given with ⟨given, after⟩
      exact token p state given after outcome
        (course_induction config ends text token _ after)
termination_by (takingUp p state).size
decreasing_by
  · refine .left _ _ (Nat.lt_of_lt_of_le (Place.length_after_chunkEnd_lt at_end) ?_)
    exact Place.length_after_le (Place.le_advanceWhile _ _)
  · exact size_smaller_of_headway (State.le_stop_read _ _ _) (State.headway_scan outcome)

/-- The lexemes of the session that takes up `state` at `p`. -/
def lexemesFrom (config : Config) (p : Place) (state : State) : List Lexeme :=
  ((takingUp p state).turns config).filterMap (·.value.lexeme?)

/-- The checkpoints that the session that takes up `state` at `p` saves. -/
def checkpointsFrom (config : Config) (p : Place) (state : State) : List Checkpoint :=
  ((takingUp p state).turns config).filterMap (·.value.checkpoint?)

/-- The turns of a session are its first turn and those of the session that takes up what the turn
leaves. -/
theorem turns_of_next_takingUp {config : Config} {session next : Session}
    (h : (session.turn config).value.next? = some next) :
    session.turns config =
      session.turn config :: (takingUp next.place next.state).turns config := by
  rw [turns_of_next h, turns_takingUp (coherent_of_next? h)]

section

variable {config : Config} {p : Place} {state after : State} {token : External} {refusal : Refusal}

theorem turn_takingUp_of_text
    (outcome : (state.scan (config.policy.acceptance p) p).outcome = .error refusal)
    (more : (p.advanceWhile Text.isBlank).atEnd = false) :
    ((takingUp p state).turn config).value =
      .text
        ⟨.text, ⟨(p.advanceWhile Text.isBlank).offset,
          (p.advanceWhile Text.isBlank).chunkEnd.offset⟩⟩
        (takingUp (p.advanceWhile Text.isBlank).chunkEnd state) := by
  have refused : ((takingUp p state).reading config).outcome = .error refusal := outcome
  exact turn_of_text refused more

theorem turn_takingUp_of_end
    (outcome : (state.scan (config.policy.acceptance p) p).outcome = .error refusal)
    (ends : (p.advanceWhile Text.isBlank).atEnd = true) :
    ((takingUp p state).turn config).value = .finished := by
  have refused : ((takingUp p state).reading config).outcome = .error refusal := outcome
  exact turn_of_end refused ends

theorem turn_takingUp_of_token {bytes : Checkpoint.Bytes}
    (outcome : (state.scan (config.policy.acceptance p) p).outcome = .ok (token, after))
    (saved : Checkpoint.encode config.capacity after = .ok bytes) :
    ((takingUp p state).turn config).value =
      .token ⟨.external token, (state.scan (config.policy.acceptance p) p).span⟩
        ⟨(state.scan (config.policy.acceptance p) p).stop.offset, bytes⟩
        ⟨(state.scan (config.policy.acceptance p) p).stop, after,
          some ((state.scan (config.policy.acceptance p) p).head.offset, bytes)⟩ := by
  have given : ((takingUp p state).reading config).outcome = .ok (token, after) := outcome
  exact turn_of_token (coherent_takingUp config p state) given saved

theorem lexemesFrom_of_token (room : Checkpoint.headerSize ≤ config.capacity)
    (outcome : (state.scan (config.policy.acceptance p) p).outcome = .ok (token, after)) :
    lexemesFrom config p state =
      ⟨.external token, (state.scan (config.policy.acceptance p) p).span⟩ ::
        lexemesFrom config (state.scan (config.policy.acceptance p) p).stop after := by
  rcases Checkpoint.exists_encode_eq_ok room after with ⟨bytes, saved⟩
  have turn := turn_takingUp_of_token outcome saved
  have turns := turns_of_next_takingUp (congrArg Turn.next? turn)
  simp only [lexemesFrom, turns, List.filterMap_cons, turn, Turn.lexeme?]

theorem lexemesFrom_of_yields {head stop : Place} (room : Checkpoint.headerSize ≤ config.capacity)
    (yields : state.Yields (config.policy.acceptance p) p token after head stop) :
    lexemesFrom config p state =
      ⟨.external token, ⟨head.offset, stop.offset⟩⟩ :: lexemesFrom config stop after := by
  rcases State.scan_of_yields yields with ⟨outcome, head_eq, stop_eq⟩
  have lexemes := lexemesFrom_of_token room outcome
  simpa only [Reading.span, head_eq, stop_eq] using lexemes

theorem lexemesFrom_of_text
    (outcome : (state.scan (config.policy.acceptance p) p).outcome = .error refusal)
    (more : (p.advanceWhile Text.isBlank).atEnd = false) :
    lexemesFrom config p state =
      ⟨.text, ⟨(p.advanceWhile Text.isBlank).offset,
        (p.advanceWhile Text.isBlank).chunkEnd.offset⟩⟩ ::
        lexemesFrom config (p.advanceWhile Text.isBlank).chunkEnd state := by
  have turn := turn_takingUp_of_text outcome more
  have turns := turns_of_next_takingUp (congrArg Turn.next? turn)
  simp only [lexemesFrom, turns, List.filterMap_cons, turn, Turn.lexeme?]
  rfl

theorem lexemesFrom_of_end
    (outcome : (state.scan (config.policy.acceptance p) p).outcome = .error refusal)
    (ends : (p.advanceWhile Text.isBlank).atEnd = true) : lexemesFrom config p state = [] := by
  have turn := turn_takingUp_of_end outcome ends
  have turns := turns_of_last (congrArg Turn.next? turn)
  simp only [lexemesFrom, turns, List.filterMap_cons, turn, Turn.lexeme?, List.filterMap_nil]

theorem checkpointsFrom_of_token {bytes : Checkpoint.Bytes}
    (outcome : (state.scan (config.policy.acceptance p) p).outcome = .ok (token, after))
    (saved : Checkpoint.encode config.capacity after = .ok bytes) :
    checkpointsFrom config p state =
      ⟨(state.scan (config.policy.acceptance p) p).stop.offset, bytes⟩ ::
        checkpointsFrom config (state.scan (config.policy.acceptance p) p).stop after := by
  have turn := turn_takingUp_of_token outcome saved
  have turns := turns_of_next_takingUp (congrArg Turn.next? turn)
  simp only [checkpointsFrom, turns, List.filterMap_cons, turn, Turn.checkpoint?]

theorem checkpointsFrom_of_yields {head stop : Place} {bytes : Checkpoint.Bytes}
    (yields : state.Yields (config.policy.acceptance p) p token after head stop)
    (saved : Checkpoint.encode config.capacity after = .ok bytes) :
    checkpointsFrom config p state = ⟨stop.offset, bytes⟩ :: checkpointsFrom config stop after := by
  rcases State.scan_of_yields yields with ⟨outcome, _, rfl⟩
  exact checkpointsFrom_of_token outcome saved

theorem checkpointsFrom_of_text
    (outcome : (state.scan (config.policy.acceptance p) p).outcome = .error refusal)
    (more : (p.advanceWhile Text.isBlank).atEnd = false) :
    checkpointsFrom config p state =
      checkpointsFrom config (p.advanceWhile Text.isBlank).chunkEnd state := by
  have turn := turn_takingUp_of_text outcome more
  have turns := turns_of_next_takingUp (congrArg Turn.next? turn)
  simp only [checkpointsFrom, turns, List.filterMap_cons, turn, Turn.checkpoint?]
  rfl

theorem checkpointsFrom_of_end
    (outcome : (state.scan (config.policy.acceptance p) p).outcome = .error refusal)
    (ends : (p.advanceWhile Text.isBlank).atEnd = true) : checkpointsFrom config p state = [] := by
  have turn := turn_takingUp_of_end outcome ends
  have turns := turns_of_last (congrArg Turn.next? turn)
  simp only [checkpointsFrom, turns, List.filterMap_cons, turn, Turn.checkpoint?,
    List.filterMap_nil]

end

/-! ## Evaluating a run -/

/-- The first `n` turns of a session, or all if there are fewer. -/
def turnsWithin (config : Config) : Nat → Session → List (Logged Turn)
  | 0, _ => []
  | n + 1, session =>
      let turn := session.turn config
      match turn.value.next? with
      | some next => turn :: turnsWithin config n next
      | none => [turn]

theorem turns_eq_turnsWithin {config : Config} :
    ∀ {n : Nat} {session : Session}, (session.turnsWithin config n).length < n →
      session.turns config = session.turnsWithin config n := by
  intro n
  induction n with
  | zero =>
      intro session fewer
      simp at fewer
  | succ n ih =>
      intro session fewer
      simp only [turnsWithin] at fewer ⊢
      cases following : (session.turn config).value.next? with
      | none => exact turns_of_last following
      | some next =>
          simp only [following, List.length_cons, Nat.add_lt_add_iff_right] at fewer
          rw [turns_of_next following, ih fewer]

/-! ## Whole runs -/

theorem fault?_eq_none_of_mem_turns {config : Config}
    (room : Checkpoint.headerSize ≤ config.capacity) (p : Place) (state : State) :
    ∀ turn ∈ (takingUp p state).turns config, turn.value.fault? = none := by
  induction p, state using course_induction config with
  | ends p state refusal outcome at_end =>
      have turn := turn_takingUp_of_end outcome at_end
      rw [turns_of_last (congrArg Turn.next? turn)]
      simp [turn, Turn.fault?]
  | text p state refusal outcome more ih =>
      have turn := turn_takingUp_of_text outcome more
      rw [turns_of_next_takingUp (congrArg Turn.next? turn)]
      intro other member
      rcases List.mem_cons.1 member with rfl | later
      · rw [turn]
        rfl
      · exact ih other later
  | token p state token after outcome ih =>
      rcases Checkpoint.exists_encode_eq_ok room after with ⟨bytes, saved⟩
      have turn := turn_takingUp_of_token outcome saved
      rw [turns_of_next_takingUp (congrArg Turn.next? turn)]
      intro other member
      rcases List.mem_cons.1 member with rfl | later
      · rw [turn]
        rfl
      · exact ih other later

/-- The result of a run depends on the first fault of its turns alone. -/
theorem run_value (config : Config) (origin : Checkpoint) (p : Place) (state : State) :
    ((takingUp p state).run config origin).value =
      match ((takingUp p state).turns config).findSome? (·.value.fault?) with
      | some fault => .error fault
      | none => .ok ⟨lexemesFrom config p state, origin :: checkpointsFrom config p state⟩ := by
  simp only [run, collect]
  cases ((takingUp p state).turns config).findSome? (·.value.fault?) <;> rfl

/-- With room for the header a session runs to the end of its text. -/
theorem run_takingUp {config : Config} (room : Checkpoint.headerSize ≤ config.capacity)
    (origin : Checkpoint) (p : Place) (state : State) :
    ((takingUp p state).run config origin).value =
      .ok ⟨lexemesFrom config p state, origin :: checkpointsFrom config p state⟩ := by
  have sound : ((takingUp p state).turns config).findSome? (·.value.fault?) = none :=
    List.findSome?_eq_none_iff.2 (fault?_eq_none_of_mem_turns room p state)
  rw [run_value, sound]

end Session

theorem tokenize_eq_ok {config : Config} (room : Checkpoint.headerSize ≤ config.capacity)
    (source : String) :
    (tokenize config source).value =
      .ok ⟨Session.lexemesFrom config (.start source.toList) .fresh,
        .initial :: Session.checkpointsFrom config (.start source.toList) .fresh⟩ :=
  Session.run_takingUp room _ _ _

theorem resume_eq_run {config : Config} {source : String} {checkpoint : Checkpoint} {place : Place}
    {state : State} (found : Place.at? source.toList checkpoint.offset = some place)
    (decoded : Checkpoint.decode checkpoint.state = .ok state) :
    (resume config source checkpoint).value =
      ((Session.takingUp place state).run config checkpoint).value := by
  simp only [resume, found, decoded]
  rfl

theorem resume_eq_ok {config : Config} {source : String} {checkpoint : Checkpoint} {place : Place}
    {state : State} (room : Checkpoint.headerSize ≤ config.capacity)
    (found : Place.at? source.toList checkpoint.offset = some place)
    (decoded : Checkpoint.decode checkpoint.state = .ok state) :
    (resume config source checkpoint).value =
      .ok ⟨Session.lexemesFrom config place state,
        checkpoint :: Session.checkpointsFrom config place state⟩ := by
  rw [resume_eq_run found decoded, Session.run_takingUp room]

end Offside
