import Offside.Proofs.Session.Course

/-!
# Resuming a run

A checkpoint holds all that the rest of a run depends on, unless levels found no room in it. So a run
that is resumed from a checkpoint gives what the uninterrupted run gave behind it. Main statement:

* `resume_reproduces_suffix` — the lexemes behind the checkpoint and the checkpoints from it on come
  out as they were.
-/

namespace Offside

namespace Lexeme

/-- The lexemes behind the first `n` external tokens. -/
def behindExternals : Nat → List Lexeme → List Lexeme
  | 0, lexemes => lexemes
  | _ + 1, [] => []
  | n + 1, lexeme :: rest =>
      if lexeme.isExternal then behindExternals n rest else behindExternals (n + 1) rest

@[simp]
theorem behindExternals_zero (lexemes : List Lexeme) : behindExternals 0 lexemes = lexemes := by
  cases lexemes <;> rfl

@[simp]
theorem behindExternals_external (n : Nat) (token : External) (span : Span) (rest : List Lexeme) :
    behindExternals (n + 1) (⟨.external token, span⟩ :: rest) = behindExternals n rest :=
  rfl

@[simp]
theorem behindExternals_text (n : Nat) (span : Span) (rest : List Lexeme) :
    behindExternals (n + 1) (⟨.text, span⟩ :: rest) = behindExternals (n + 1) rest :=
  rfl

end Lexeme

/-- A state whose levels all have room is read back from its checkpoint as it was. -/
theorem Checkpoint.decode_of_whole {capacity : Nat} {saved : State} {bytes : Bytes}
    (encoded : encode capacity saved = .ok bytes) (whole : saved.depth ≤ depthWithin capacity) :
    decode bytes = .ok saved := by
  have all_levels : saved.truncate (depthWithin capacity) = saved := by
    simp only [State.truncate, List.take_of_length_le whole]
  rw [decode_encode encoded, all_levels]

/-- The checkpoint that a turn saves and the state that it was saved from. -/
def Turn.saved? : Turn → Option (Checkpoint × State)
  | token _ saved next => some (saved, next.state)
  | _ => none

theorem Turn.map_fst_saved? (turn : Turn) : turn.saved?.map Prod.fst = turn.checkpoint? := by
  cases turn <;> rfl

namespace Session

/-- The checkpoints that the session that takes up `state` at `p` saves, with the states that they
are saved from. -/
def savesFrom (config : Config) (p : Place) (state : State) : List (Checkpoint × State) :=
  ((takingUp p state).turns config).filterMap (·.value.saved?)

theorem map_fst_savesFrom (config : Config) (p : Place) (state : State) :
    (savesFrom config p state).map Prod.fst = checkpointsFrom config p state := by
  simp only [savesFrom, checkpointsFrom, List.map_filterMap, Turn.map_fst_saved?]

theorem getElem?_checkpointsFrom {config : Config} {p : Place} {state saved : State} {i : Nat}
    {checkpoint : Checkpoint} (found : (savesFrom config p state)[i]? = some (checkpoint, saved)) :
    (checkpointsFrom config p state)[i]? = some checkpoint := by
  rw [← map_fst_savesFrom, List.getElem?_map, found]
  rfl

section

variable {config : Config} {p : Place} {state after : State} {token : External} {refusal : Refusal}

theorem savesFrom_of_token {bytes : Checkpoint.Bytes}
    (outcome : (state.scan (config.policy.acceptance p) p).outcome = .ok (token, after))
    (saved : Checkpoint.encode config.capacity after = .ok bytes) :
    savesFrom config p state =
      (⟨(state.scan (config.policy.acceptance p) p).stop.offset, bytes⟩, after) ::
        savesFrom config (state.scan (config.policy.acceptance p) p).stop after := by
  have turn := turn_takingUp_of_token outcome saved
  have turns := turns_of_next_takingUp (congrArg Turn.next? turn)
  simp only [savesFrom, turns, List.filterMap_cons, turn, Turn.saved?]

theorem savesFrom_of_text
    (outcome : (state.scan (config.policy.acceptance p) p).outcome = .error refusal)
    (more : (p.advanceWhile Text.isBlank).atEnd = false) :
    savesFrom config p state =
      savesFrom config (p.advanceWhile Text.isBlank).chunkEnd state := by
  have turn := turn_takingUp_of_text outcome more
  have turns := turns_of_next_takingUp (congrArg Turn.next? turn)
  simp only [savesFrom, turns, List.filterMap_cons, turn, Turn.saved?]
  rfl

theorem savesFrom_of_end
    (outcome : (state.scan (config.policy.acceptance p) p).outcome = .error refusal)
    (ends : (p.advanceWhile Text.isBlank).atEnd = true) : savesFrom config p state = [] := by
  have turn := turn_takingUp_of_end outcome ends
  have turns := turns_of_last (congrArg Turn.next? turn)
  simp only [savesFrom, turns, List.filterMap_cons, turn, Turn.saved?, List.filterMap_nil]

end

/-! ## The rest of a run behind a checkpoint -/

/-- `checkpoint` was saved from `saved` at `place`, behind the first `n` tokens of the session that
takes up `state` at `p`. -/
structure SavedBehind (config : Config) (p : Place) (state : State) (n : Nat)
    (checkpoint : Checkpoint) (saved : State) (place : Place) : Prop where
  source_eq : place.source = p.source
  offset_eq : place.offset = checkpoint.offset
  encode_eq : Checkpoint.encode config.capacity saved = .ok checkpoint.state
  lexemes_eq : lexemesFrom config place saved = Lexeme.behindExternals n (lexemesFrom config p state)
  checkpoints_eq : checkpointsFrom config place saved = (checkpointsFrom config p state).drop n

/-- Every checkpoint of a session was saved at a place of the text, and what follows in the session
is what a session that takes up its state there gives. -/
theorem exists_savedBehind {config : Config} (room : Checkpoint.headerSize ≤ config.capacity)
    (p : Place) (state : State) :
    ∀ i checkpoint saved, (savesFrom config p state)[i]? = some (checkpoint, saved) →
      ∃ place, SavedBehind config p state (i + 1) checkpoint saved place := by
  induction p, state using course_induction config with
  | ends p state refusal outcome at_end =>
      intro i checkpoint saved found
      rw [savesFrom_of_end outcome at_end] at found
      simp at found
  | text p state refusal outcome more ih =>
      -- A chunk saves nothing and is no token, so the count stays as it is.
      intro i checkpoint saved found
      rw [savesFrom_of_text outcome more] at found
      rcases ih i checkpoint saved found with ⟨place, behind⟩
      have onward : p ≤ (p.advanceWhile Text.isBlank).chunkEnd :=
        Place.le_trans (Place.le_advanceWhile p _) (Place.le_chunkEnd _)
      refine ⟨place, ?_, behind.offset_eq, behind.encode_eq, ?_, ?_⟩
      · rw [behind.source_eq, Place.source_eq_of_le onward]
      · rw [lexemesFrom_of_text outcome more, Lexeme.behindExternals_text, behind.lexemes_eq]
      · rw [checkpointsFrom_of_text outcome more, behind.checkpoints_eq]
  | token p state token after outcome ih =>
      intro i checkpoint saved found
      rcases Checkpoint.exists_encode_eq_ok room after with ⟨bytes, saved_eq⟩
      have onward : p ≤ (state.scan (config.policy.acceptance p) p).stop :=
        State.le_stop_read state _ p
      have saves := savesFrom_of_token outcome saved_eq
      have checkpoints := checkpointsFrom_of_token outcome saved_eq
      have lexemes := lexemesFrom_of_token room outcome
      rw [saves] at found
      cases i with
      | zero =>
          -- The checkpoint of this very turn.
          have same : (⟨(state.scan (config.policy.acceptance p) p).stop.offset, bytes⟩, after) =
              (checkpoint, saved) := by
            simpa using found
          cases same
          refine ⟨_, Place.source_eq_of_le onward, rfl, saved_eq, ?_, ?_⟩
          · rw [lexemes, Lexeme.behindExternals_external, Lexeme.behindExternals_zero]
          · rw [checkpoints]
            rfl
      -- A later one: the token of this turn is one of those in front of it.
      | succ i =>
          have later : (savesFrom config (state.scan (config.policy.acceptance p) p).stop after)[i]? =
              some (checkpoint, saved) := by
            simpa using found
          rcases ih i checkpoint saved later with ⟨place, behind⟩
          refine ⟨place, ?_, behind.offset_eq, behind.encode_eq, ?_, ?_⟩
          · rw [behind.source_eq, Place.source_eq_of_le onward]
          · rw [lexemes, Lexeme.behindExternals_external, behind.lexemes_eq]
          · rw [checkpoints, List.drop_succ_cons, behind.checkpoints_eq]

end Session

/-- The checkpoints of the run over a whole text, with the states that they were saved from. -/
def savepoints (config : Config) (source : String) : List (Checkpoint × State) :=
  (.initial, .fresh) :: Session.savesFrom config (.start source.toList) .fresh

/-- A run that is resumed from a checkpoint in which all levels had room reproduces the run over the
whole text from there on: the lexemes behind as many tokens as there are checkpoints in front of it,
and the checkpoints from it on. -/
theorem resume_reproduces_suffix (config : Config) (source : String)
    (room : Checkpoint.headerSize ≤ config.capacity) :
    ∃ full, (tokenize config source).value = .ok full ∧
      full.checkpoints = (savepoints config source).map Prod.fst ∧
      ∀ i checkpoint saved, (savepoints config source)[i]? = some (checkpoint, saved) →
        saved.depth ≤ Checkpoint.depthWithin config.capacity →
        (resume config source checkpoint).value =
          .ok ⟨Lexeme.behindExternals i full.lexemes, full.checkpoints.drop i⟩ := by
  refine ⟨_, tokenize_eq_ok room source, ?_, ?_⟩
  · simp only [savepoints, List.map_cons, Session.map_fst_savesFrom]
  · intro i checkpoint saved found whole
    cases i with
    | zero =>
        have same : (Checkpoint.initial, State.fresh) = (checkpoint, saved) := by
          simpa [savepoints] using found
        cases same
        have at_start : Place.at? source.toList Checkpoint.initial.offset =
            some (.start source.toList) :=
          Place.at?_eq_some_iff.2 ⟨by simp [Place.source, Place.start], rfl⟩
        rw [Lexeme.behindExternals_zero]
        exact resume_eq_ok room at_start rfl
    | succ i =>
        have later : (Session.savesFrom config (.start source.toList) .fresh)[i]? =
            some (checkpoint, saved) := by
          simpa [savepoints] using found
        rcases Session.exists_savedBehind room _ _ i checkpoint saved later with ⟨place, behind⟩
        have text : place.source = source.toList := by
          simpa [Place.source, Place.start] using behind.source_eq
        have at_place := Place.at?_eq_some_iff.2 ⟨text, behind.offset_eq⟩
        have decoded := Checkpoint.decode_of_whole behind.encode_eq whole
        -- The checkpoint itself heads what is left of the list of checkpoints.
        have heads : checkpoint :: (Session.checkpointsFrom config (.start source.toList) .fresh).drop
            (i + 1) = (Session.checkpointsFrom config (.start source.toList) .fresh).drop i := by
          rcases List.getElem?_eq_some_iff.1 (Session.getElem?_checkpointsFrom later) with
            ⟨inside, rfl⟩
          exact (List.drop_eq_getElem_cons inside).symm
        rw [resume_eq_ok room at_place decoded, behind.lexemes_eq, behind.checkpoints_eq, heads]
        rfl

/-- Only one level has room in each checkpoint here, so the checkpoint of the second block loses one;
from that of the first the run is resumed all the same. -/
theorem resume_reproduces_suffix_nested :
    Checkpoint.headerSize ≤ 15 ∧
      (savepoints ⟨.permissive, 15⟩ "a\n b\n  c\nd")[1]? =
        some (⟨3, [0, 0, 0, 0, 0, 0, 0, 0, 0, 0, 0, 1, 0, 0, 0]⟩, { levels := [1] }) ∧
      Checkpoint.depthWithin 15 = 1 ∧
      ∃ full, (tokenize ⟨.permissive, 15⟩ "a\n b\n  c\nd").value = .ok full ∧
        (resume ⟨.permissive, 15⟩ "a\n b\n  c\nd"
            ⟨3, [0, 0, 0, 0, 0, 0, 0, 0, 0, 0, 0, 1, 0, 0, 0]⟩).value =
          .ok ⟨Lexeme.behindExternals 1 full.lexemes, full.checkpoints.drop 1⟩ := by
  have first_block : (savepoints ⟨.permissive, 15⟩ "a\n b\n  c\nd")[1]? =
      some (⟨3, [0, 0, 0, 0, 0, 0, 0, 0, 0, 0, 0, 1, 0, 0, 0]⟩, { levels := [1] }) := by
    rw [savepoints, Session.savesFrom, Session.turns_eq_turnsWithin (n := 20) (by decide)]
    decide
  rcases resume_reproduces_suffix ⟨.permissive, 15⟩ "a\n b\n  c\nd" (by decide) with
    ⟨full, run, _, resumes⟩
  exact ⟨by decide, first_block, rfl, full, run, resumes 1 _ _ first_block (by decide)⟩

end Offside
