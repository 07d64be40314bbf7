import Offside.Proofs.Session.Ending
import Offside.Proofs.Session.Visible

/-!
# Braces and blocks

In what a run gives out, each closing brace belongs to the opening brace that it is matched with. In
what the run remembers, each block has a level, which is removed when the block is closed; but the
state does not say by which brace a block was opened. Here the blocks of a run are followed with their
opening braces beside the levels. Main definitions:

* `Lexeme.pairs` — the closing braces of a list of lexemes, each with the brace that it is matched with.
* `Session.closings` — the blocks that are closed in the turns of a session, each with its opening
  brace and with the way in which it is closed.
* `Closing.Agrees` — a block that a brace opened is closed by a brace, and one that the margin opened
  by the margin.
* `Blocks.Above` — the levels of the blocks; those of inserted braces lie above the level outside.
-/

namespace Offside

/-! ## Matching braces -/

/-- The closing braces among the lexemes, each with the opening brace that it is matched with; the
braces `opened` in front of the lexemes, innermost first, are still to be matched. -/
def Lexeme.pairs : List Lexeme → List Lexeme → List (Option Lexeme × Lexeme)
  | _, [] => []
  | opened, lexeme :: rest =>
      match lexeme.kind with
      | .external .openBrace => pairs (lexeme :: opened) rest
      | .external .closeBrace => (opened.head?, lexeme) :: pairs opened.tail rest
      | _ => pairs opened rest

/-- A block that is closed. -/
structure Closing where
  /-- The brace that opened the block; `none` if there was no block to close. -/
  opener : Option Lexeme
  /-- Whether a brace in the text closes it. -/
  spelled : Bool
  deriving DecidableEq, Repr

namespace Closing

/-- What a closing brace and the brace that it is matched with say about the block between them. -/
def ofPair (pair : Option Lexeme × Lexeme) : Closing :=
  ⟨pair.1, pair.2.isVisible⟩

/-- There is a block to close, and it is closed as it was opened: by a brace in the text, or by the
margin. -/
def Agrees (closing : Closing) : Prop :=
  closing.opener.map Lexeme.isVisible = some closing.spelled

instance (closing : Closing) : Decidable closing.Agrees :=
  inferInstanceAs (Decidable (_ = _))

end Closing

/-! ## Following the blocks of a run -/

/-- The opening braces of the blocks behind a token, innermost first, if `blocks` are those in front of
it and `depth` levels are left. -/
def Lexeme.blocksBehind (lexeme : Lexeme) (depth : Nat) (blocks : List Lexeme) : List Lexeme :=
  if lexeme.kind = .external .openBrace then
    lexeme :: blocks
  else
    blocks.drop (blocks.length - depth)

/-- The token is the separator in front of an explicit closing brace at the place behind it. -/
def Lexeme.announcesBrace (lexeme : Lexeme) (behind : Place) : Prop :=
  lexeme.kind = .external .semicolon ∧ lexeme.isVisible = false ∧ behind.lookahead = some '}'

instance (lexeme : Lexeme) (behind : Place) : Decidable (lexeme.announcesBrace behind) :=
  inferInstanceAs (Decidable (_ ∧ _))

/-- The blocks that a token closes: the innermost one, if it announces an explicit closing brace, else
those whose levels are gone behind it. -/
def Lexeme.closings (lexeme : Lexeme) (behind : Place) (depth : Nat) (blocks : List Lexeme) :
    List Closing :=
  if lexeme.kind = .external .openBrace then
    []
  else if lexeme.announcesBrace behind then
    [⟨blocks.head?, true⟩]
  else
    (blocks.take (blocks.length - depth)).map fun opener => ⟨some opener, false⟩

theorem Lexeme.kind_ne_openBrace {token : External} {span : Span} (other : token ≠ .openBrace) :
    (Lexeme.mk (.external token) span).kind ≠ .external .openBrace :=
  fun same => other (Kind.external.inj same)

theorem Lexeme.not_announcesBrace {token : External} {span : Span} {behind : Place}
    (other : token ≠ .semicolon) : ¬ (Lexeme.mk (.external token) span).announcesBrace behind :=
  fun announces => other (Kind.external.inj announces.1)

section

variable {lexeme : Lexeme} {blocks : List Lexeme} {depth : Nat}

theorem Lexeme.blocksBehind_of_length_eq (no_brace : lexeme.kind ≠ .external .openBrace)
    (same : blocks.length = depth) : lexeme.blocksBehind depth blocks = blocks := by
  rw [blocksBehind, if_neg no_brace, same, Nat.sub_self, List.drop_zero]

theorem Lexeme.closings_of_length_eq {behind : Place} (unannounced : ¬ lexeme.announcesBrace behind)
    (same : blocks.length = depth) : lexeme.closings behind depth blocks = [] := by
  rw [closings, if_neg unannounced, same, Nat.sub_self, List.take_zero, List.map_nil, ite_self]

end

namespace Session

/-- The blocks that are closed in some turns, in order; `blocks` are the opening braces of the blocks
in front of them. -/
def closings : List Lexeme → List Turn → List Closing
  | _, [] => []
  | blocks, .token lexeme _ next :: rest =>
      lexeme.closings next.place next.state.depth blocks ++
        closings (lexeme.blocksBehind next.state.depth blocks) rest
  | blocks, _ :: rest => closings blocks rest

/-- The blocks that are closed in the session that takes up `state` at `p`. -/
def closingsFrom (config : Config) (blocks : List Lexeme) (p : Place) (state : State) :
    List Closing :=
  closings blocks (((takingUp p state).turns config).map (·.value))

section

variable {config : Config} {p : Place} {state after : State} {token : External} {refusal : Refusal}

theorem closingsFrom_of_yields {head stop : Place} (blocks : List Lexeme)
    (room : Checkpoint.headerSize ≤ config.capacity)
    (yields : state.Yields (config.policy.acceptance p) p token after head stop) :
    closingsFrom config blocks p state =
      Lexeme.closings ⟨.external token, head.offset, stop.offset⟩ stop after.depth blocks ++
        closingsFrom config
          (Lexeme.blocksBehind ⟨.external token, head.offset, stop.offset⟩ after.depth blocks)
          stop after := by
  rcases State.scan_of_yields yields with ⟨outcome, rfl, rfl⟩
  rcases Checkpoint.exists_encode_eq_ok room after with ⟨bytes, saved⟩
  have turn := turn_takingUp_of_token outcome saved
  have turns := turns_of_next_takingUp (congrArg Turn.next? turn)
  simp only [closingsFrom, turns, List.map_cons, turn, closings]
  rfl

theorem closingsFrom_of_text (blocks : List Lexeme)
    (outcome : (state.scan (config.policy.acceptance p) p).outcome = .error refusal)
    (more : (p.advanceWhile Text.isBlank).atEnd = false) :
    closingsFrom config blocks p state =
      closingsFrom config blocks (p.advanceWhile Text.isBlank).chunkEnd state := by
  have turn := turn_takingUp_of_text outcome more
  have turns := turns_of_next_takingUp (congrArg Turn.next? turn)
  simp only [closingsFrom, turns, List.map_cons, turn, closings]
  rfl

theorem closingsFrom_of_end (blocks : List Lexeme)
    (outcome : (state.scan (config.policy.acceptance p) p).outcome = .error refusal)
    (ends : (p.advanceWhile Text.isBlank).atEnd = true) : closingsFrom config blocks p state = [] := by
  have turn := turn_takingUp_of_end outcome ends
  have turns := turns_of_last (congrArg Turn.next? turn)
  simp only [closingsFrom, turns, List.map_cons, List.map_nil, turn, closings]

end

end Session

/-! ## Blocks and levels -/

theorem Levels.closeAbove_eq_drop (levels : Levels) (indent : Level) :
    levels.closeAbove indent = levels.drop (levels.countAbove indent) := by
  have parts := List.takeWhile_append_dropWhile (p := (indent < ·)) (l := levels)
  conv => rhs; rw [← parts]
  rw [countAbove, List.drop_left' (by rw [parts]), closeAbove]

/-- `Blocks.Above blocks levels`: the blocks that `blocks` opened have the levels `levels`. The level of
a block that the margin opened is greater than that of the block around it. -/
inductive Blocks.Above : List Lexeme → Levels → Prop
  | nil : Above [] []
  | spelled {opener : Lexeme} {blocks : List Lexeme} {level : Level} {levels : Levels} :
      opener.isVisible = true → Above blocks levels → Above (opener :: blocks) (level :: levels)
  | inserted {opener : Lexeme} {blocks : List Lexeme} {level : Level} {levels : Levels} :
      levels.innermost < level → Above blocks levels → Above (opener :: blocks) (level :: levels)

namespace Blocks

theorem Above.length_eq {blocks : List Lexeme} {levels : Levels} (above : Above blocks levels) :
    blocks.length = levels.length := by
  induction above with
  | nil => rfl
  | spelled _ _ ih => rw [List.length_cons, ih, List.length_cons]
  | inserted _ _ ih => rw [List.length_cons, ih, List.length_cons]

theorem Above.tail {blocks : List Lexeme} {levels : Levels} (above : Above blocks levels) :
    Above blocks.tail levels.tail := by
  cases above with
  | nil => exact .nil
  | spelled _ rest => exact rest
  | inserted _ rest => exact rest

theorem Above.drop {blocks : List Lexeme} {levels : Levels} (above : Above blocks levels) (n : Nat) :
    Above (blocks.drop n) (levels.drop n) := by
  induction n generalizing blocks levels with
  | zero => exact above
  | succ n ih =>
      rw [← List.drop_tail, ← List.drop_tail]
      exact ih above.tail

/-- As long as the innermost blocks are all opened by the margin, there are no more of them than
levels up to the innermost. -/
theorem Above.le_innermost {blocks : List Lexeme} {levels : Levels} (above : Above blocks levels)
    {n : Nat} (within : n ≤ blocks.length)
    (inserted : ∀ opener ∈ blocks.take n, opener.isVisible = false) :
    n ≤ levels.innermost.toNat := by
  induction above generalizing n with
  | nil => exact Nat.le_trans within (Nat.zero_le _)
  | spelled stands _ _ =>
      cases n with
      | zero => exact Nat.zero_le _
      | succ n =>
          have none_stands := inserted _ List.mem_cons_self
          rw [stands] at none_stands
          cases none_stands
  | inserted deeper _ ih =>
      cases n with
      | zero => exact Nat.zero_le _
      | succ n =>
          have outside := ih (Nat.le_of_succ_le_succ within)
            fun opener member => inserted opener (List.mem_cons_of_mem _ member)
          exact Nat.lt_of_le_of_lt outside (UInt32.lt_iff_toNat_lt.1 deeper)

end Blocks

/-- The blocks that `blocks` opened are those of the state. The innermost one has no level yet if its
level is still to be recorded; then a brace in the text has opened it. -/
def State.Holds (state : State) (blocks : List Lexeme) : Prop :=
  if state.awaitsLevel then
    ∃ opener outside, blocks = opener :: outside ∧ opener.isVisible = true ∧
      Blocks.Above outside state.levels
  else
    Blocks.Above blocks state.levels

namespace State

theorem holds_fresh : fresh.Holds [] :=
  .nil

theorem holds_of_above {state : State} {blocks : List Lexeme} (recorded : state.awaitsLevel = false)
    (above : Blocks.Above blocks state.levels) : state.Holds blocks := by
  simpa [Holds, recorded] using above

theorem Holds.above {state : State} {blocks : List Lexeme} (holds : state.Holds blocks)
    (recorded : state.awaitsLevel = false) : Blocks.Above blocks state.levels := by
  simpa [Holds, recorded] using holds

/-- Behind the margin all blocks have their levels. -/
theorem Holds.above_recordedAt {state : State} {blocks : List Lexeme} (holds : state.Holds blocks)
    (p : Place) : Blocks.Above blocks (state.recordedAt p).levels := by
  cases awaits : state.awaitsLevel with
  | false => simpa [Holds, recordedAt, recordLevel, awaits] using holds
  | true =>
      simp only [Holds, awaits, if_true] at holds
      rcases holds with ⟨opener, outside, rfl, stands, above⟩
      simpa [recordedAt, recordLevel, awaits] using Blocks.Above.spelled stands above

end State

end Offside
