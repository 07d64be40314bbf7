import Offside.Proofs.Reading.Outer
import Offside.Proofs.Session.Resumption

/-!
# Resuming with levels left out

Where a checkpoint has no room for all levels, the outermost ones are left out. The run that is resumed
from it goes on with fewer levels, and does what the uninterrupted run does until a decision reaches the
levels that are missing. Main definitions and statements:

* `Turn.behindTokens` — the turns of a run behind some of its tokens.
* `Turn.lexemesAbove` — what turns give while they stay above a number of levels.
* `Session.FollowsAbove`, `Session.followsAbove_of_atop` — a session with levels left out gives as much.
* `resume_truncated` — so does a resumed run, and if the uninterrupted run never comes down to the
  missing levels, the resumed one gives all that it gives.
-/

namespace Offside

namespace Turn

/-- The turns behind the first `n` of those that give out a token. -/
def behindTokens : Nat → List Turn → List Turn
  | 0, turns => turns
  | _ + 1, [] => []
  | n + 1, .token _ _ _ :: rest => behindTokens n rest
  | n + 1, _ :: rest => behindTokens (n + 1) rest

@[simp]
theorem behindTokens_zero (turns : List Turn) : behindTokens 0 turns = turns := by
  cases turns <;> rfl

@[simp]
theorem behindTokens_token (n : Nat) (lexeme : Lexeme) (saved : Checkpoint) (next : Session)
    (rest : List Turn) :
    behindTokens (n + 1) (.token lexeme saved next :: rest) = behindTokens n rest :=
  rfl

@[simp]
theorem behindTokens_text (n : Nat) (lexeme : Lexeme) (next : Session) (rest : List Turn) :
    behindTokens (n + 1) (.text lexeme next :: rest) = behindTokens (n + 1) rest :=
  rfl

/-- The turn is followed by another, and there are more than `depth` levels behind it. -/
def endsAbove (depth : Nat) (turn : Turn) : Bool :=
  turn.next?.any fun next => depth < next.state.depth

/-- The lexemes of some turns, the first of which finds `state`, before a turn begins or ends with
`depth` levels or fewer. -/
def lexemesAbove (depth : Nat) (state : State) (turns : List Turn) : List Lexeme :=
  if depth < state.depth then (turns.takeWhile (endsAbove depth)).filterMap lexeme? else []

/-- There are more than `depth` levels in `state`, and behind each of the turns. -/
def StaysAbove (depth : Nat) (state : State) (turns : List Turn) : Prop :=
  depth < state.depth ∧ ∀ turn ∈ turns, ∀ next ∈ turn.next?, depth < next.state.depth

instance (depth : Nat) (state : State) (turns : List Turn) :
    Decidable (StaysAbove depth state turns) :=
  inferInstanceAs (Decidable (_ ∧ _))

section

variable {depth : Nat} {state : State} {turn : Turn} {rest : List Turn} {next : Session}
  {lexeme : Lexeme}

theorem lexemesAbove_cons (starts : depth < state.depth) (following : turn.next? = some next)
    (gives : turn.lexeme? = some lexeme) (stops : depth < next.state.depth) :
    lexemesAbove depth state (turn :: rest) = lexeme :: lexemesAbove depth next.state rest := by
  have ends_above : turn.endsAbove depth = true := by simpa [endsAbove, following] using stops
  rw [lexemesAbove, lexemesAbove, if_pos starts, if_pos stops, List.takeWhile_cons_of_pos ends_above,
    List.filterMap_cons, gives]

/-- Nothing is given above a depth that is not there. -/
theorem lexemesAbove_of_low (turns : List Turn) (low : state.depth ≤ depth) :
    lexemesAbove depth state turns = [] := by
  rw [lexemesAbove, if_neg (Nat.not_lt.2 low)]

theorem lexemesAbove_cons_of_low (following : turn.next? = some next)
    (low : next.state.depth ≤ depth) : lexemesAbove depth state (turn :: rest) = [] := by
  have comes_down : ¬ turn.endsAbove depth = true := by simpa [endsAbove, following] using low
  rw [lexemesAbove]
  split
  · rw [List.takeWhile_cons_of_neg comes_down, List.filterMap_nil]
  · rfl

theorem StaysAbove.tail (stays : StaysAbove depth state (turn :: rest))
    (following : turn.next? = some next) : StaysAbove depth next.state rest := by
  refine ⟨stays.2 turn List.mem_cons_self next following, ?_⟩
  intro other member
  exact stays.2 other (List.mem_cons_of_mem _ member)

theorem lexemesAbove_prefix (depth : Nat) (state : State) (turns : List Turn) :
    lexemesAbove depth state turns <+: turns.filterMap lexeme? := by
  rw [lexemesAbove]
  split
  · exact (List.takeWhile_prefix _).filterMap _
  · exact List.nil_prefix

end

end Turn

namespace Session

/-- The turns of the session that takes up `state` at `p`. -/
def turnsFrom (config : Config) (p : Place) (state : State) : List Turn :=
  ((takingUp p state).turns config).map (·.value)

theorem filterMap_turnsFrom (config : Config) (p : Place) (state : State) :
    (turnsFrom config p state).filterMap Turn.lexeme? = lexemesFrom config p state := by
  rw [turnsFrom, List.filterMap_map]
  rfl

section

variable {config : Config} {p : Place} {state after : State} {token : External} {refusal : Refusal}

theorem turnsFrom_of_token {bytes : Checkpoint.Bytes}
    (outcome : (state.scan (config.policy.acceptance p) p).outcome = .ok (token, after))
    (saved : Checkpoint.encode config.capacity after = .ok bytes) :
    turnsFrom config p state =
      .token ⟨.external token, (state.scan (config.policy.acceptance p) p).span⟩
        ⟨(state.scan (config.policy.acceptance p) p).stop.offset, bytes⟩
        ⟨(state.scan (config.policy.acceptance p) p).stop, after,
          some ((state.scan (config.policy.acceptance p) p).head.offset, bytes)⟩ ::
        turnsFrom config (state.scan (config.policy.acceptance p) p).stop after := by
  have turn := turn_takingUp_of_token outcome saved
  have turns := turns_of_next_takingUp (congrArg Turn.next? turn)
  rw [turnsFrom, turns, List.map_cons, turn, turnsFrom]

theorem turnsFrom_of_text
    (outcome : (state.scan (config.policy.acceptance p) p).outcome = .error refusal)
    (more : (p.advanceWhile Text.isBlank).atEnd = false) :
    turnsFrom config p state =
      .text
        ⟨.text, ⟨(p.advanceWhile Text.isBlank).offset,
          (p.advanceWhile Text.isBlank).chunkEnd.offset⟩⟩
        (takingUp (p.advanceWhile Text.isBlank).chunkEnd state) ::
        turnsFrom config (p.advanceWhile Text.isBlank).chunkEnd state := by
  have turn := turn_takingUp_of_text outcome more
  have turns := turns_of_next_takingUp (congrArg Turn.next? turn)
  rw [turnsFrom, turns, List.map_cons, turn, turnsFrom]
  rfl

end

/-- What follows a checkpoint in a session is what a session does that takes up its state there. -/
theorem behindTokens_turnsFrom {config : Config} (room : Checkpoint.headerSize ≤ config.capacity)
    (p : Place) (state : State) :
    ∀ i checkpoint saved place, (savesFrom config p state)[i]? = some (checkpoint, saved) →
      place.source = p.source → place.offset = checkpoint.offset →
      Turn.behindTokens (i + 1) (turnsFrom config p state) = turnsFrom config place saved := by
  induction p, state using course_induction config with
  | ends p state refusal outcome at_end =>
      intro i checkpoint saved place found
      rw [savesFrom_of_end outcome at_end] at found
      simp at found
  | text p state refusal outcome more ih =>
      intro i checkpoint saved place found same_source same_offset
      have onward : p ≤ (p.advanceWhile Text.isBlank).chunkEnd :=
        Place.le_trans (Place.le_advanceWhile p _) (Place.le_chunkEnd _)
      rw [savesFrom_of_text outcome more] at found
      rw [turnsFrom_of_text outcome more, Turn.behindTokens_text]
      exact ih i checkpoint saved place found
        (same_source.trans (Place.source_eq_of_le onward).symm) same_offset
  | token p state token after outcome ih =>
      intro i checkpoint saved place found same_source same_offset
      rcases Checkpoint.exists_encode_eq_ok room after with ⟨bytes, saved_eq⟩
      have onward : p ≤ (state.scan (config.policy.acceptance p) p).stop :=
        State.le_stop_read state _ p
      have source_eq := same_source.trans (Place.source_eq_of_le onward).symm
      rw [savesFrom_of_token outcome saved_eq] at found
      rw [turnsFrom_of_token outcome saved_eq, Turn.behindTokens_token]
      cases i with
      | zero =>
          -- The checkpoint of this very turn, so the place is where the token ends.
          have same : (⟨(state.scan (config.policy.acceptance p) p).stop.offset, bytes⟩, after) =
              (checkpoint, saved) := by
            simpa using found
          cases same
          rw [Place.eq_of_source_of_offset source_eq same_offset, Turn.behindTokens_zero]
      | succ i =>
          have later : (savesFrom config (state.scan (config.policy.acceptance p) p).stop after)[i]? =
              some (checkpoint, saved) := by
            simpa using found
          exact ih i checkpoint saved place later source_eq same_offset

/-! ## Sessions with levels left out -/

/-- The session that takes up `inner` gives what the session that takes up `state` gives while that one
stays above a depth, and if it stays there to its end, the same altogether. -/
structure FollowsAbove (config : Config) (depth : Nat) (p : Place) (state inner : State) : Prop where
  lexemes_prefix : Turn.lexemesAbove depth state (turnsFrom config p state) <+:
    lexemesFrom config p inner
  lexemes_eq : Turn.StaysAbove depth state (turnsFrom config p state) →
    lexemesFrom config p inner = lexemesFrom config p state

section

variable {config : Config} {depth : Nat} {p : Place} {state after inner left : State}
  {token : External} {refusal : Refusal}

/-- A session that is down from the start has nothing to be followed in. -/
theorem followsAbove_of_low (low : state.depth ≤ depth) :
    FollowsAbove config depth p state inner := by
  constructor
  · rw [Turn.lexemesAbove_of_low _ low]
    exact List.nil_prefix
  · intro stays
    exact absurd stays.1 (Nat.not_lt.2 low)

theorem followsAbove_of_end
    (outcome : (state.scan (config.policy.acceptance p) p).outcome = .error refusal)
    (refused : (inner.scan (config.policy.acceptance p) p).outcome = .error refusal)
    (at_end : (p.advanceWhile Text.isBlank).atEnd = true) :
    FollowsAbove config depth p state inner := by
  have none_left := lexemesFrom_of_end outcome at_end
  have same : lexemesFrom config p inner = lexemesFrom config p state := by
    rw [lexemesFrom_of_end refused at_end, none_left]
  refine ⟨?_, fun _ => same⟩
  rw [same, ← filterMap_turnsFrom]
  exact Turn.lexemesAbove_prefix depth state _

theorem followsAbove_of_text
    (outcome : (state.scan (config.policy.acceptance p) p).outcome = .error refusal)
    (refused : (inner.scan (config.policy.acceptance p) p).outcome = .error refusal)
    (more : (p.advanceWhile Text.isBlank).atEnd = false) (starts : depth < state.depth)
    (later : FollowsAbove config depth (p.advanceWhile Text.isBlank).chunkEnd state inner) :
    FollowsAbove config depth p state inner := by
  have turns := turnsFrom_of_text outcome more
  constructor
  · rw [turns, Turn.lexemesAbove_cons starts rfl rfl starts, lexemesFrom_of_text refused more]
    exact (List.prefix_cons_inj _).2 later.lexemes_prefix
  · intro stays
    rw [turns] at stays
    rw [lexemesFrom_of_text refused more, lexemesFrom_of_text outcome more,
      later.lexemes_eq (stays.tail rfl)]

theorem followsAbove_of_token (room : Checkpoint.headerSize ≤ config.capacity)
    (outcome : (state.scan (config.policy.acceptance p) p).outcome = .ok (token, after))
    (starts : depth < state.depth) (stops : depth < after.depth)
    (lexemes : lexemesFrom config p inner =
      ⟨.external token, (state.scan (config.policy.acceptance p) p).span⟩ ::
        lexemesFrom config (state.scan (config.policy.acceptance p) p).stop left)
    (later : FollowsAbove config depth (state.scan (config.policy.acceptance p) p).stop after left) :
    FollowsAbove config depth p state inner := by
  rcases Checkpoint.exists_encode_eq_ok room after with ⟨bytes, saved⟩
  have turns := turnsFrom_of_token outcome saved
  constructor
  · rw [turns, Turn.lexemesAbove_cons starts rfl rfl stops, lexemes]
    exact (List.prefix_cons_inj _).2 later.lexemes_prefix
  · intro stays
    rw [turns] at stays
    rw [lexemes, lexemesFrom_of_token room outcome, later.lexemes_eq (stays.tail rfl)]

/-- Nothing is said of a token that comes down. -/
theorem followsAbove_of_descent (room : Checkpoint.headerSize ≤ config.capacity)
    (outcome : (state.scan (config.policy.acceptance p) p).outcome = .ok (token, after))
    (low : after.depth ≤ depth) : FollowsAbove config depth p state inner := by
  rcases Checkpoint.exists_encode_eq_ok room after with ⟨bytes, saved⟩
  have turns := turnsFrom_of_token outcome saved
  constructor
  · rw [turns, Turn.lexemesAbove_cons_of_low rfl low]
    exact List.nil_prefix
  · intro stays
    rw [turns] at stays
    exact absurd (stays.tail rfl).1 (Nat.not_lt.2 low)

end

/-- The induction is on the course of the session with all its levels; the other one keeps step with it
for as long as it has a level in front of the outer ones. -/
theorem followsAbove_of_atop {config : Config} (room : Checkpoint.headerSize ≤ config.capacity)
    (outer : Levels) (p : Place) (state : State) :
    ∀ inner : State, state = inner.atop outer →
      FollowsAbove config outer.length p state inner := by
  induction p, state using course_induction config with
  | ends p state refusal outcome at_end =>
      rintro inner rfl
      by_cases bottom : inner.levels = []
      · exact followsAbove_of_low (State.depth_atop_le_of_nil outer bottom)
      · have refused := State.scan_eq_error_of_atop outer bottom outcome
        exact followsAbove_of_end outcome refused at_end
  | text p state refusal outcome more ih =>
      rintro inner rfl
      by_cases bottom : inner.levels = []
      · exact followsAbove_of_low (State.depth_atop_le_of_nil outer bottom)
      · have refused := State.scan_eq_error_of_atop outer bottom outcome
        have starts := State.length_lt_depth_atop outer bottom
        exact followsAbove_of_text outcome refused more starts (ih inner rfl)
  | token p state token after outcome ih =>
      rintro inner rfl
      by_cases bottom : inner.levels = []
      · exact followsAbove_of_low (State.depth_atop_le_of_nil outer bottom)
      · have starts := State.length_lt_depth_atop outer bottom
        by_cases stops : outer.length < after.depth
        · rcases State.exists_scan_of_atop outer bottom outcome stops with
            ⟨left, outcome_left, atop_left, same_span, same_stop⟩
          have lexemes := lexemesFrom_of_token room outcome_left
          rw [same_span, same_stop] at lexemes
          exact followsAbove_of_token room outcome starts stops lexemes (ih left atop_left)
        · exact followsAbove_of_descent room outcome (Nat.not_lt.1 stops)

end Session

/-! ## Whole runs -/

/-- The turns of the run over a whole text behind its checkpoint number `i`. -/
def turnsBehind (config : Config) (source : String) (i : Nat) : List Turn :=
  Turn.behindTokens i (Session.turnsFrom config (.start source.toList) .fresh)

/-- What a checkpoint does not hold of a state are its outermost levels. -/
theorem Checkpoint.exists_atop_of_decode {capacity : Nat} {saved restored : State} {bytes : Bytes}
    (encoded : encode capacity saved = .ok bytes) (decoded : decode bytes = .ok restored) :
    ∃ outer : Levels, outer.length = saved.depth - restored.depth ∧ saved = restored.atop outer := by
  have kept : restored = saved.truncate (depthWithin capacity) := by
    rw [decode_encode encoded] at decoded
    injection decoded with same
    exact same.symm
  have atop : saved = restored.atop (saved.levels.drop (depthWithin capacity)) := by
    rw [kept, State.atop, State.truncate, List.take_append_drop]
  refine ⟨saved.levels.drop (depthWithin capacity), ?_, atop⟩
  have parts := congrArg State.depth atop
  rw [State.depth_atop] at parts
  exact Nat.eq_sub_of_add_eq' parts.symm

/-- A checkpoint reads back with fewer levels than it was saved with. The run that is resumed from it
gives the lexemes that the uninterrupted run gives behind it, up to the first turn that begins or ends
with as many levels as are missing, or fewer. If there is no such turn, it gives them all. -/
theorem resume_truncated (config : Config) (source : String)
    (room : Checkpoint.headerSize ≤ config.capacity) :
    ∃ full, (tokenize config source).value = .ok full ∧
      ∀ i checkpoint saved restored, (savepoints config source)[i]? = some (checkpoint, saved) →
        Checkpoint.decode checkpoint.state = .ok restored → restored.depth < saved.depth →
        (turnsBehind config source i).filterMap Turn.lexeme? =
          Lexeme.behindExternals i full.lexemes ∧
        ∃ resumed, (resume config source checkpoint).value = .ok resumed ∧
          Turn.lexemesAbove (saved.depth - restored.depth) saved (turnsBehind config source i) <+:
            Lexeme.behindExternals i full.lexemes ∧
          Turn.lexemesAbove (saved.depth - restored.depth) saved (turnsBehind config source i) <+:
            resumed.lexemes ∧
          (Turn.StaysAbove (saved.depth - restored.depth) saved (turnsBehind config source i) →
            resumed.lexemes = Lexeme.behindExternals i full.lexemes) := by
  refine ⟨_, tokenize_eq_ok room source, ?_⟩
  intro i checkpoint saved restored found decoded fewer
  cases i with
  | zero =>
      have same : (Checkpoint.initial, State.fresh) = (checkpoint, saved) := by
        simpa [savepoints] using found
      cases same
      exact absurd fewer (Nat.not_lt_zero _)
  | succ i =>
      have later : (Session.savesFrom config (.start source.toList) .fresh)[i]? =
          some (checkpoint, saved) := by
        simpa [savepoints] using found
      rcases Session.exists_savedBehind room _ _ i checkpoint saved later with ⟨place, behind⟩
      have text : place.source = source.toList := by
        simpa [Place.source, Place.start] using behind.source_eq
      have at_place := Place.at?_eq_some_iff.2 ⟨text, behind.offset_eq⟩
      have turns : turnsBehind config source (i + 1) = Session.turnsFrom config place saved :=
        Session.behindTokens_turnsFrom room _ _ i checkpoint saved place later behind.source_eq
          behind.offset_eq
      rcases Checkpoint.exists_atop_of_decode behind.encode_eq decoded with ⟨outer, missing, atop⟩
      have follows := Session.followsAbove_of_atop room outer place saved restored atop
      have front := Turn.lexemesAbove_prefix outer.length saved (Session.turnsFrom config place saved)
      rw [Session.filterMap_turnsFrom] at front
      rw [turns, Session.filterMap_turnsFrom, ← behind.lexemes_eq, ← missing]
      exact ⟨rfl, _, resume_eq_ok room at_place decoded, front, follows.lexemes_prefix,
        follows.lexemes_eq⟩

/-- Only one of the two levels has room in the checkpoint of the second block, which the text does not
leave. -/
theorem resume_truncated_nested :
    Checkpoint.headerSize ≤ 15 ∧
      (savepoints ⟨.permissive, 15⟩ "a\n b\n  c\n  d")[2]? =
        some (⟨7, [0, 0, 0, 0, 0, 0, 0, 0, 0, 0, 0, 2, 0, 0, 0]⟩, { levels := [2, 1] }) ∧
      Checkpoint.decode [0, 0, 0, 0, 0, 0, 0, 0, 0, 0, 0, 2, 0, 0, 0] = .ok { levels := [2] } ∧
      Turn.StaysAbove 1 { levels := [2, 1] } (turnsBehind ⟨.permissive, 15⟩ "a\n b\n  c\n  d" 2) ∧
      ∃ full resumed, (tokenize ⟨.permissive, 15⟩ "a\n b\n  c\n  d").value = .ok full ∧
        (resume ⟨.permissive, 15⟩ "a\n b\n  c\n  d"
            ⟨7, [0, 0, 0, 0, 0, 0, 0, 0, 0, 0, 0, 2, 0, 0, 0]⟩).value = .ok resumed ∧
        resumed.lexemes = Lexeme.behindExternals 2 full.lexemes := by
  have block : (savepoints ⟨.permissive, 15⟩ "a\n b\n  c\n  d")[2]? =
      some (⟨7, [0, 0, 0, 0, 0, 0, 0, 0, 0, 0, 0, 2, 0, 0, 0]⟩, { levels := [2, 1] }) := by
    rw [savepoints, Session.savesFrom, Session.turns_eq_turnsWithin (n := 20) (by decide)]
    decide
  have stays : Turn.StaysAbove 1 { levels := [2, 1] }
      (turnsBehind ⟨.permissive, 15⟩ "a\n b\n  c\n  d" 2) := by
    rw [turnsBehind, Session.turnsFrom, Session.turns_eq_turnsWithin (n := 20) (by decide)]
    decide
  have decoded : Checkpoint.decode [0, 0, 0, 0, 0, 0, 0, 0, 0, 0, 0, 2, 0, 0, 0] =
      .ok { levels := [2] } := rfl
  rcases resume_truncated ⟨.permissive, 15⟩ "a\n b\n  c\n  d" (by decide) with ⟨full, run, resumes⟩
  rcases (resumes 2 _ _ _ block decoded (by decide)).2 with ⟨resumed, resumed_run, _, _, all⟩
  exact ⟨by decide, block, decoded, stays, full, resumed, run, resumed_run, all stays⟩

end Offside
