import Offside.Proofs.Reading.Respacing
import Offside.Proofs.Reading.Scans

/-!
# Runs over respaced texts

The runs over a text and over the respaced text keep step: each turn gives the same lexeme with the same
text, moved to where it has come to lie, and saves the same state. Two things must be left alone for that:
the raw string literals of the run, and the columns that the run takes levels from. Main definitions and
statements:

* `Lexeme.moved`, `Checkpoint.moved`, `Stream.moved` — what a run gave out, moved.
* `Session.scansFrom` — the scans of a session, each with the state that it finds.
* `Session.Tolerates` — what must be left alone is.
* `Session.Respaced`, `Session.respaced_from` — what a session gives over the respaced text, turn by turn.
-/

namespace Offside

/-! ## Moved streams -/

namespace Lexeme

def moved (move : Nat → Nat) (lexeme : Lexeme) : Lexeme :=
  ⟨lexeme.kind, ⟨move lexeme.span.start, move lexeme.span.stop⟩⟩

end Lexeme

namespace Checkpoint

def moved (move : Nat → Nat) (checkpoint : Checkpoint) : Checkpoint :=
  ⟨move checkpoint.offset, checkpoint.state⟩

end Checkpoint

namespace Stream

/-- The stream with its offsets moved. -/
def moved (move : Nat → Nat) (stream : Stream) : Stream :=
  ⟨stream.lexemes.map (Lexeme.moved move), stream.checkpoints.map (Checkpoint.moved move)⟩

/-- Where the raw string literals of the stream lie. -/
def literals (stream : Stream) : List Span :=
  (stream.lexemes.filter fun lexeme => lexeme.kind == .external .rawString).map Lexeme.span

theorem mem_literals {stream : Stream} {lexeme : Lexeme} (member : lexeme ∈ stream.lexemes)
    (raw : lexeme.kind = .external .rawString) : lexeme.span ∈ stream.literals :=
  List.mem_map_of_mem (List.mem_filter.2 ⟨member, beq_iff_eq.2 raw⟩)

end Stream

namespace Respacing

/-- The respaced source. -/
def string (respacing : Respacing) (source : String) : String :=
  .ofList (respacing.respaced 0 source.toList)

theorem respace_start (respacing : Respacing) (source : String) :
    (Place.start source.toList).respace respacing = .start (respacing.string source).toList := by
  rw [string, String.toList_ofList]
  rfl

end Respacing

namespace Session

/-! ## The scans of a session -/

/-- The scan of the next turn. -/
def nextScan (config : Config) (session : Session) : Scan :=
  ⟨session.state, session.place, config.policy.acceptance session.place⟩

/-- The scans of the session that takes up `state` at `p`, one for each turn. -/
def scansFrom (config : Config) (p : Place) (state : State) : List Scan :=
  (takingUp p state :: ((takingUp p state).turns config).filterMap (·.value.next?)).map
    (nextScan config)

/-- What respacing must leave alone, for the session that takes up `state` at `p`. -/
structure Tolerates (config : Config) (respacing : Respacing) (p : Place) (state : State) : Prop where
  literals : ∀ lexeme ∈ lexemesFrom config p state, lexeme.kind = .external .rawString →
    ∀ byte, lexeme.span.start ≤ byte → byte < lexeme.span.stop → respacing.Keeps byte
  columns : ∀ scan ∈ scansFrom config p state, scan.state.takesColumn scan.accepts scan.place = true →
    (scan.place.lineHead.respace respacing).column = scan.place.lineHead.column

/-- What the session gives that takes up `state` at `p` in the respaced text. -/
structure Respaced (config : Config) (respacing : Respacing) (move : Nat → Nat) (source : String)
    (p : Place) (state : State) : Prop where
  lexemes_eq : lexemesFrom config (p.respace respacing) state =
    (lexemesFrom config p state).map (Lexeme.moved move)
  checkpoints_eq : checkpointsFrom config (p.respace respacing) state =
    (checkpointsFrom config p state).map (Checkpoint.moved move)
  text_eq : ∀ lexeme ∈ lexemesFrom config p state,
    (lexeme.moved move).text (respacing.string source) = lexeme.text source

section

variable {config : Config} {respacing : Respacing} {source : String} {p : Place} {state after : State}
  {token : External} {refusal : Refusal}

theorem scansFrom_of_next {next : Session}
    (following : ((takingUp p state).turn config).value.next? = some next) :
    scansFrom config p state =
      ⟨state, p, config.policy.acceptance p⟩ :: scansFrom config next.place next.state := by
  rw [scansFrom, turns_of_next_takingUp following]
  simp only [List.filterMap_cons, following, List.map_cons]
  rfl

theorem scansFrom_of_text
    (outcome : (state.scan (config.policy.acceptance p) p).outcome = .error refusal)
    (more : (p.advanceWhile Text.isBlank).atEnd = false) :
    scansFrom config p state = ⟨state, p, config.policy.acceptance p⟩ ::
      scansFrom config (p.advanceWhile Text.isBlank).chunkEnd state :=
  scansFrom_of_next (congrArg Turn.next? (turn_takingUp_of_text outcome more))

theorem scansFrom_of_token (room : Checkpoint.headerSize ≤ config.capacity)
    (outcome : (state.scan (config.policy.acceptance p) p).outcome = .ok (token, after)) :
    scansFrom config p state = ⟨state, p, config.policy.acceptance p⟩ ::
      scansFrom config (state.scan (config.policy.acceptance p) p).stop after := by
  rcases Checkpoint.exists_encode_eq_ok room after with ⟨bytes, saved⟩
  exact scansFrom_of_next (congrArg Turn.next? (turn_takingUp_of_token outcome saved))

theorem scansFrom_of_end
    (outcome : (state.scan (config.policy.acceptance p) p).outcome = .error refusal)
    (ends : (p.advanceWhile Text.isBlank).atEnd = true) :
    scansFrom config p state = [⟨state, p, config.policy.acceptance p⟩] := by
  have turn := turn_takingUp_of_end outcome ends
  have last : ((takingUp p state).turn config).value.next? = none := congrArg Turn.next? turn
  rw [scansFrom, turns_of_last last]
  simp only [List.filterMap_cons, last, List.filterMap_nil, List.map_cons, List.map_nil]
  rfl

theorem scan_mem_scansFrom (config : Config) (p : Place) (state : State) :
    ⟨state, p, config.policy.acceptance p⟩ ∈ scansFrom config p state :=
  List.mem_cons_self ..

theorem Tolerates.behind_text (tolerates : Tolerates config respacing p state)
    (outcome : (state.scan (config.policy.acceptance p) p).outcome = .error refusal)
    (more : (p.advanceWhile Text.isBlank).atEnd = false) :
    Tolerates config respacing (p.advanceWhile Text.isBlank).chunkEnd state := by
  refine ⟨fun lexeme member => ?_, fun scan member => ?_⟩
  · refine tolerates.literals lexeme ?_
    rw [lexemesFrom_of_text outcome more]
    exact List.mem_cons_of_mem _ member
  · refine tolerates.columns scan ?_
    rw [scansFrom_of_text outcome more]
    exact List.mem_cons_of_mem _ member

theorem Tolerates.behind_token (tolerates : Tolerates config respacing p state)
    (room : Checkpoint.headerSize ≤ config.capacity)
    (outcome : (state.scan (config.policy.acceptance p) p).outcome = .ok (token, after)) :
    Tolerates config respacing (state.scan (config.policy.acceptance p) p).stop after := by
  refine ⟨fun lexeme member => ?_, fun scan member => ?_⟩
  · refine tolerates.literals lexeme ?_
    rw [lexemesFrom_of_token room outcome]
    exact List.mem_cons_of_mem _ member
  · refine tolerates.columns scan ?_
    rw [scansFrom_of_token room outcome]
    exact List.mem_cons_of_mem _ member

/-! ## Turn by turn -/

/-- The scan of the first turn comes out the same. -/
theorem given_scan_respace (room : Checkpoint.headerSize ≤ config.capacity)
    (tolerates : Tolerates config respacing p state) :
    (state.scan (config.policy.acceptance (p.respace respacing)) (p.respace respacing)).given =
      (state.scan (config.policy.acceptance p) p).given.map fun (token, after, head, stop) =>
        (token, after, head.respace respacing, stop.respace respacing) := by
  rw [Place.acceptance_respace]
  have column : state.takesColumn (config.policy.acceptance p) p = true →
      (p.lineHead.respace respacing).column = p.lineHead.column :=
    tolerates.columns ⟨state, p, config.policy.acceptance p⟩ (scan_mem_scansFrom config p state)
  refine State.given_scan_respace ?_ column
  intro after head stop given byte from_head within
  rcases Reading.given_eq_ok_iff.1 given with ⟨outcome, rfl, rfl⟩
  have literals := tolerates.literals
  rw [lexemesFrom_of_token room outcome] at literals
  exact literals _ List.mem_cons_self rfl byte from_head within

theorem scan_respace_of_refused (room : Checkpoint.headerSize ≤ config.capacity)
    (tolerates : Tolerates config respacing p state)
    (outcome : (state.scan (config.policy.acceptance p) p).outcome = .error refusal) :
    (state.scan (config.policy.acceptance (p.respace respacing)) (p.respace respacing)).outcome =
      .error refusal := by
  rw [← Reading.given_eq_error_iff] at outcome ⊢
  rw [given_scan_respace room tolerates, outcome]
  rfl

theorem scan_respace_of_token (room : Checkpoint.headerSize ≤ config.capacity)
    (tolerates : Tolerates config respacing p state)
    (outcome : (state.scan (config.policy.acceptance p) p).outcome = .ok (token, after)) :
    (state.scan (config.policy.acceptance (p.respace respacing)) (p.respace respacing)).given =
      .ok (token, after, (state.scan (config.policy.acceptance p) p).head.respace respacing,
        (state.scan (config.policy.acceptance p) p).stop.respace respacing) := by
  have given := Reading.given_eq_ok_iff.2 ⟨outcome, rfl, rfl⟩
  rw [given_scan_respace room tolerates, given]
  rfl

variable {move : Nat → Nat}
  (moves : ∀ q : Place, q.source = source.toList → (q.respace respacing).offset = move q.offset)

include moves

/-- A text in which nothing is replaced is found where it was moved to. -/
theorem text_moved (kind : Lexeme.Kind) {head stop : Place} {chars : List Char}
    (text : head.source = source.toList) (reads : head.Reads chars stop)
    (spares : respacing.Spares head.offset chars) :
    (Lexeme.moved move ⟨kind, head.offset, stop.offset⟩).text (respacing.string source) =
      Lexeme.text ⟨kind, head.offset, stop.offset⟩ source := by
  have respaced_text : (head.respace respacing).source = (respacing.string source).toList := by
    rw [Place.source_respace, text, Respacing.string, String.toList_ofList]
  have respaced_reads := reads.respace respacing
  rw [Respacing.respaced_of_spares spares] at respaced_reads
  have found := Place.slice?_of_reads respaced_text respaced_reads
  rw [moves head text, moves stop (reads.source_eq.trans text)] at found
  simp only [Lexeme.text, Lexeme.moved, found, Place.slice?_of_reads text reads]

omit moves in
theorem respaced_of_end (room : Checkpoint.headerSize ≤ config.capacity)
    (tolerates : Tolerates config respacing p state)
    (outcome : (state.scan (config.policy.acceptance p) p).outcome = .error refusal)
    (at_end : (p.advanceWhile Text.isBlank).atEnd = true) :
    Respaced config respacing move source p state := by
  have refused := scan_respace_of_refused room tolerates outcome
  have still_at_end : ((p.respace respacing).advanceWhile Text.isBlank).atEnd = true := by
    rw [Place.skipBlanks_respace, Place.atEnd_respace]
    exact at_end
  refine ⟨?_, ?_, ?_⟩
  · rw [lexemesFrom_of_end refused still_at_end, lexemesFrom_of_end outcome at_end]
    rfl
  · rw [checkpointsFrom_of_end refused still_at_end, checkpointsFrom_of_end outcome at_end]
    rfl
  · intro lexeme member
    rw [lexemesFrom_of_end outcome at_end] at member
    cases member

theorem respaced_of_text (room : Checkpoint.headerSize ≤ config.capacity)
    (text : p.source = source.toList) (tolerates : Tolerates config respacing p state)
    (outcome : (state.scan (config.policy.acceptance p) p).outcome = .error refusal)
    (more : (p.advanceWhile Text.isBlank).atEnd = false)
    (later : Respaced config respacing move source (p.advanceWhile Text.isBlank).chunkEnd state) :
    Respaced config respacing move source p state := by
  have refused := scan_respace_of_refused room tolerates outcome
  -- The host skips its blanks, respaced or not, and takes the same chunk.
  have blanks := Place.skipBlanks_respace respacing p
  have still_more : ((p.respace respacing).advanceWhile Text.isBlank).atEnd = false := by
    rw [blanks, Place.atEnd_respace]
    exact more
  have chunk : ((p.advanceWhile Text.isBlank).respace respacing).chunkEnd =
      (p.advanceWhile Text.isBlank).chunkEnd.respace respacing :=
    Place.chunkEnd_respace fun c next => Place.isBlank_eq_false_of_lookahead_advanceWhile next
  have text_start : (p.advanceWhile Text.isBlank).source = source.toList :=
    (Place.source_eq_of_le (Place.le_advanceWhile p _)).trans text
  have text_stop : (p.advanceWhile Text.isBlank).chunkEnd.source = source.toList :=
    (Place.source_eq_of_le (Place.le_chunkEnd _)).trans text_start
  refine ⟨?_, ?_, ?_⟩
  · rw [lexemesFrom_of_text refused still_more, lexemesFrom_of_text outcome more, blanks, chunk,
      later.lexemes_eq, moves _ text_start, moves _ text_stop]
    rfl
  · rw [checkpointsFrom_of_text refused still_more, checkpointsFrom_of_text outcome more, blanks,
      chunk, later.checkpoints_eq]
  · intro lexeme member
    rw [lexemesFrom_of_text outcome more] at member
    rcases List.mem_cons.1 member with rfl | member
    · rcases Place.lookahead_of_atEnd_eq_false more with ⟨c, next⟩
      have visible := Place.isBlank_eq_false_of_lookahead_advanceWhile next
      rcases Place.exists_reads_chunkEnd_of_not_isBlank next visible with ⟨rest, reads, word⟩
      refine text_moved moves .text text_start reads (Respacing.spares_of_visible ?_)
      intro d inside
      cases margin : Margin.isMarginChar d with
      | false => rfl
      | true => cases (word d inside).symm.trans (Place.isBlank_of_isMarginChar margin)
    · exact later.text_eq lexeme member

theorem respaced_of_token (room : Checkpoint.headerSize ≤ config.capacity)
    (text : p.source = source.toList) (tolerates : Tolerates config respacing p state)
    (outcome : (state.scan (config.policy.acceptance p) p).outcome = .ok (token, after))
    (later : Respaced config respacing move source
      (state.scan (config.policy.acceptance p) p).stop after) :
    Respaced config respacing move source p state := by
  have yields := State.yields_of_scan outcome
  have lexemes := lexemesFrom_of_token room outcome
  rcases Reading.given_eq_ok_iff.1 (scan_respace_of_token room tolerates outcome) with
    ⟨outcome_respaced, head, stop⟩
  rcases Checkpoint.exists_encode_eq_ok room after with ⟨bytes, saved⟩
  have text_head := (Place.source_eq_of_le (State.le_head_of_yields yields)).trans text
  have text_stop := (Place.source_eq_of_le (State.head_le_stop_of_yields yields)).trans text_head
  refine ⟨?_, ?_, ?_⟩
  · rw [lexemesFrom_of_token room outcome_respaced, lexemes, Reading.span, head, stop,
      later.lexemes_eq, moves _ text_head, moves _ text_stop]
    rfl
  · -- The state behind the token is the same, and so are the bytes that are saved of it.
    rw [checkpointsFrom_of_token outcome_respaced saved, checkpointsFrom_of_token outcome saved, stop,
      later.checkpoints_eq, moves _ text_stop]
    rfl
  · intro lexeme member
    have literals := tolerates.literals
    rw [lexemes] at literals member
    rcases List.mem_cons.1 member with rfl | member
    · have literal : token = .rawString → ∀ byte,
          (state.scan (config.policy.acceptance p) p).head.offset ≤ byte →
          byte < (state.scan (config.policy.acceptance p) p).stop.offset → respacing.Keeps byte := by
        rintro rfl
        exact literals _ List.mem_cons_self rfl
      rcases State.exists_spares_of_yields yields literal with ⟨chars, reads, spares⟩
      exact text_moved moves (.external token) text_head reads spares
    · exact later.text_eq lexeme member

/-- The sessions over both texts keep step, turn by turn. -/
theorem respaced_from (room : Checkpoint.headerSize ≤ config.capacity) (p : Place) (state : State) :
    p.source = source.toList → Tolerates config respacing p state →
      Respaced config respacing move source p state := by
  induction p, state using course_induction config with
  | ends p state refusal outcome at_end =>
      intro _ tolerates
      exact respaced_of_end room tolerates outcome at_end
  | text p state refusal outcome more ih =>
      intro text tolerates
      have onward : p ≤ (p.advanceWhile Text.isBlank).chunkEnd :=
        Place.le_trans (Place.le_advanceWhile p _) (Place.le_chunkEnd _)
      exact respaced_of_text moves room text tolerates outcome more
        (ih ((Place.source_eq_of_le onward).trans text) (tolerates.behind_text outcome more))
  | token p state token after outcome ih =>
      intro text tolerates
      have onward := State.le_stop_read state (config.policy.acceptance p) p
      exact respaced_of_token moves room text tolerates outcome
        (ih ((Place.source_eq_of_le onward).trans text) (tolerates.behind_token room outcome))

end

end Session

end Offside
