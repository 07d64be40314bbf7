import Offside.Proofs.Braces.Debts
import Offside.Proofs.Reading.Attempt

/-!
# The run of a dedent

A line to the left of several blocks closes all of them, but an attempt takes one token. The first attempt
removes their levels and takes a separator; what comes behind it is owed and comes at the same place, attempt
by attempt, and none of these attempts can be kept from it by what it accepts. Main definitions and statement:

* `Cursor.attempts` — attempts in a row.
* `Cursor.inserts_of_dedents` — the run that a dedent begins is complete: it ends with nothing owed.

The scanner counts what it owes in words of 32 bits. Blocks beyond what a word counts lose their levels like
the others, but nothing is owed for them: `Cursor.not_inserts_in_full_round`.
-/

namespace Offside

namespace Cursor

/-- Attempts in a row, with the acceptance set of each. The next attempt begins where the one before it left
the cursor, and in the state in which it left the scanner. -/
def attempts : Cursor → State → List Acceptance → List Attempted
  | _, _, [] => []
  | cursor, state, accepts :: others =>
      let first := cursor.attempted state accepts
      first :: first.behind.attempts first.state others

/-- The state behind some attempts, the first of which began in `state`. -/
def stateBehind : State → List Attempted → State
  | state, [] => state
  | _, first :: others => stateBehind first.state others

/-- The attempts take `tokens` without width at `head`, and do not get off that place. The blocks of `levels`
are open behind each of them. -/
structure Inserts (run : List Attempted) (tokens : List External) (head : Place) (levels : Levels) :
    Prop where
  outcomes_eq : run.map Attempted.outcome = tokens.map .ok
  span_eq : ∀ attempt ∈ run, attempt.span = some ⟨head.offset, head.offset⟩
  behind_eq : ∀ attempt ∈ run, attempt.behind = .ofPlace head
  levels_eq : ∀ attempt ∈ run, attempt.state.levels = levels

theorem inserts_nil (head : Place) (levels : Levels) : Inserts [] [] head levels :=
  ⟨rfl, by simp, by simp, by simp⟩

theorem Inserts.cons {run : List Attempted} {tokens : List External} {head : Place} {levels : Levels}
    (inserts : Inserts run tokens head levels) (token : External) {after : State}
    (same : after.levels = levels) :
    Inserts (⟨.ok token, after, some ⟨head.offset, head.offset⟩, .ofPlace head⟩ :: run)
      (token :: tokens) head levels := by
  refine ⟨?_, ?_, ?_, ?_⟩
  · rw [List.map_cons, List.map_cons, inserts.outcomes_eq]
  · exact List.forall_mem_cons.2 ⟨rfl, inserts.span_eq⟩
  · exact List.forall_mem_cons.2 ⟨rfl, inserts.behind_eq⟩
  · exact List.forall_mem_cons.2 ⟨same, inserts.levels_eq⟩

/-! ## Paying the debt -/

/-- An attempt takes the token that is due, whatever it accepts. -/
theorem attempted_of_due {state : State} {p : Place} {token : External} {rest : Owed}
    (due : state.owed.next? = some (token, rest)) (bare : p.lookahead ≠ some '}')
    (accepts : Acceptance) :
    (ofPlace p).attempted state accepts =
      ⟨.ok token, { state with owed := rest }, some ⟨p.offset, p.offset⟩, .ofPlace p⟩ :=
  attempted_of_takes (takes_of_yields (.owed due fun covers => bare covers.2.2))

/-- As many attempts as there are tokens owed take all of them. -/
theorem inserts_of_givesOut {p : Place} (bare : p.lookahead ≠ some '}') {owed left : Owed}
    {tokens : List External} (gives : owed.GivesOut tokens left) :
    ∀ (state : State) (others : List Acceptance), state.owed = owed → others.length = tokens.length →
      Inserts ((ofPlace p).attempts state others) tokens p state.levels ∧
        stateBehind state ((ofPlace p).attempts state others) = { state with owed := left } := by
  induction gives with
  | nothing owed =>
      intro state others owes as_many
      rw [List.eq_nil_of_length_eq_zero as_many, ← owes]
      exact ⟨inserts_nil p state.levels, rfl⟩
  | @next owed rest left token tokens due _ ih =>
      intro state others owes as_many
      rcases others with _ | ⟨accepts, others⟩
      · cases as_many
      · rw [← owes] at due
        have later := ih { state with owed := rest } others rfl (Nat.succ.inj as_many)
        simp only [attempts, attempted_of_due due bare]
        exact ⟨later.1.cons token rfl, later.2⟩

/-! ## The dedent -/

section

variable {cursor : Cursor} {state : State} {accepts : Acceptance}

/-- The first attempt removes the levels. -/
theorem attempted_of_dedents (settled : state.owed = {}) (dedents : state.Dedents accepts cursor.here) :
    cursor.attempted state accepts =
      ⟨.ok .semicolon,
        { state with
          levels := state.levels.drop (state.levels.countAbove cursor.here.margin.indent)
          owed := .paired (state.levels.countAbove cursor.here.margin.indent % UInt32.size)
            (Lead.startsContinuation cursor.here.lineHead.after) },
        some ⟨cursor.here.lineHead.offset, cursor.here.lineHead.offset⟩,
        .ofPlace cursor.here.lineHead⟩ := by
  rw [attempted_of_takes (takes_of_yields dedents.yields), State.continuesAt_eq]
  simp only [State.dedent, Levels.closeAbove_eq_drop, settled, Owed.addBlocks_eq_paired,
    Owed.paired_mod]
  cases Lead.startsContinuation cursor.here.lineHead.after <;> simp [Owed.paired]

end

/-- A line that continues a statement, to the left of blocks in column 1. -/
theorem dedents_replicate (blocks : Nat) :
    State.Dedents { levels := List.replicate (blocks + 1) 1 } { semicolon := true }
      (.start ['\n', '|']) :=
  ⟨rfl, rfl, (by decide : (0 : Level) < 1), rfl, by decide⟩

theorem attempted_of_replicate (blocks : Nat) :
    (ofPlace (.start ['\n', '|'])).attempted { levels := List.replicate (blocks + 1) 1 }
        { semicolon := true } =
      ⟨.ok .semicolon, { owed := .paired ((blocks + 1) % UInt32.size) true }, some ⟨1, 1⟩,
        .ofPlace (Place.start ['\n', '|']).lineHead⟩ := by
  have count : Levels.countAbove (List.replicate (blocks + 1) 1)
      (ofPlace (.start ['\n', '|'])).here.margin.indent = blocks + 1 :=
    Levels.countAbove_replicate (by decide) _
  rw [attempted_of_dedents rfl (dedents_replicate blocks), count]
  have removed : (List.replicate (blocks + 1) (1 : Level)).drop (blocks + 1) = [] := by simp
  rw [removed]
  rfl

/-- A dedent closes at least one block, removes the levels of all blocks to the right of the line at once, and
begins a run of attempts that, whatever the later ones accept, take a separator and then a brace and a
separator for each block, the last separator left out if the line continues a statement. All of them are
without width at the head of the line, none changes the levels that the first has left, and nothing is owed
behind the last. Of blocks that are more than a word counts, the run has the pairs for the remainder; if that
is none, the separator that is not there stays to be dropped. -/
theorem inserts_of_dedents (cursor : Cursor) (state : State) (accepts : Acceptance)
    (settled : state.owed = {}) (dedents : state.Dedents accepts cursor.here) :
    let head := cursor.here.lineHead
    let blocks := state.levels.countAbove cursor.here.margin.indent
    let continues := Lead.startsContinuation head.after
    let pairs := blocks % UInt32.size
    let left : Owed := { dropsLast := continues && pairs == 0 }
    0 < blocks ∧ (blocks < UInt32.size → pairs = blocks ∧ left = {}) ∧
      ∀ others : List Acceptance, others.length = (Line.closings pairs continues).length →
        Inserts (cursor.attempts state (accepts :: others))
            (.semicolon :: Line.closings pairs continues) head (state.levels.drop blocks) ∧
          stateBehind state (cursor.attempts state (accepts :: others)) =
            { state with levels := state.levels.drop blocks, owed := left } := by
  intro head blocks continues pairs left
  have some_block : 0 < blocks := dedents.countAbove_pos
  refine ⟨some_block, ?_, ?_⟩
  · intro countable
    have exact_count : pairs = blocks := Nat.mod_eq_of_lt countable
    refine ⟨exact_count, ?_⟩
    simp only [left, exact_count, Owed.dropsLast_and_eq fun _ => some_block]
  · intro others as_many
    let after : State :=
      { state with levels := state.levels.drop blocks, owed := .paired pairs continues }
    have first : cursor.attempted state accepts =
        ⟨.ok .semicolon, after, some ⟨head.offset, head.offset⟩, .ofPlace head⟩ :=
      attempted_of_dedents settled dedents
    have gives := Owed.givesOut_of_paired continues pairs (Nat.mod_lt _ (by decide))
    have later := inserts_of_givesOut dedents.no_brace gives after others rfl as_many
    simp only [attempts, first, stateBehind]
    exact ⟨later.1.cons .semicolon rfl, later.2⟩

/-- A continuing line to the left of two blocks, in front of a host that accepts separators only at first and
something else each time behind that. -/
theorem inserts_of_dedents_continued :
    State.owed { levels := [6, 4, 2] } = {} ∧
      State.Dedents { levels := [6, 4, 2] } { semicolon := true } (.start "\n  | x".toList) ∧
      Inserts
        ((ofPlace (.start "\n  | x".toList)).attempts { levels := [6, 4, 2] }
          [{ semicolon := true }, .empty, .producible, .empty])
        [.semicolon, .closeBrace, .semicolon, .closeBrace] (.advanceBy (.start "\n  | x".toList) 3) [2] := by
  have settled : State.owed { levels := [6, 4, 2] } = {} := rfl
  have dedents : State.Dedents { levels := [6, 4, 2] } { semicolon := true }
      (.start "\n  | x".toList) := ⟨rfl, rfl, by decide, rfl, by decide⟩
  exact ⟨settled, dedents,
    ((inserts_of_dedents (ofPlace (.start "\n  | x".toList)) _ _ settled dedents).2.2
      [.empty, .producible, .empty] rfl).1⟩

/-- A line to the left of as many blocks as a word has values, which continues a statement. Nothing is owed
behind the first separator, so that the next attempt takes no brace, and a separator that does not come stays
to be dropped. -/
theorem not_inserts_in_full_round :
    let state : State := { levels := List.replicate UInt32.size 1 }
    let cursor := ofPlace (.start ['\n', '|'])
    state.owed = {} ∧ state.Dedents { semicolon := true } cursor.here ∧
      state.levels.countAbove cursor.here.margin.indent = UInt32.size ∧
      (cursor.attempted state { semicolon := true }).state.owed = { dropsLast := true } ∧
      ∀ others : List Acceptance, others.length = (Line.closings UInt32.size true).length →
        ¬ Inserts (cursor.attempts state ({ semicolon := true } :: others))
          (.semicolon :: Line.closings UInt32.size true) cursor.here.lineHead
          (state.levels.drop UInt32.size) := by
  intro state cursor
  have first : cursor.attempted state { semicolon := true } =
      ⟨.ok .semicolon, { owed := { dropsLast := true } }, some ⟨1, 1⟩,
        .ofPlace cursor.here.lineHead⟩ :=
    attempted_of_replicate (UInt32.size - 1)
  have dedents : state.Dedents { semicolon := true } cursor.here := dedents_replicate (UInt32.size - 1)
  have count : state.levels.countAbove cursor.here.margin.indent = UInt32.size :=
    Levels.countAbove_replicate (by decide) UInt32.size
  refine ⟨rfl, dedents, count, by rw [first], ?_⟩
  intro others as_many inserts
  obtain ⟨later, tokens⟩ : ∃ later, Line.closings UInt32.size true = .closeBrace :: later :=
    ⟨_, Line.closings_succ (by decide)⟩
  rw [tokens] at as_many inserts
  rcases others with _ | ⟨accepts, others⟩
  · cases as_many
  · have second : ((ofPlace cursor.here.lineHead).attempted { owed := { dropsLast := true } }
        accepts).outcome = .error .nothingApplies := rfl
    have outcomes := inserts.outcomes_eq
    simp only [attempts, first, List.map_cons, second, List.cons.injEq] at outcomes
    cases outcomes.2.1

end Cursor
end Offside
