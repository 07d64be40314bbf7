import Offside.Proofs.Braces.Debts

/-!
# How the levels are ordered

A level comes onto the stack in one of two ways. A line further to the right opens a block at its column,
or the level of an explicit opening brace is recorded, wherever the first text behind the brace stands.
The stack does not say which it was, and both go the same way, by a dedent or a closing brace. The levels
that braces have brought are in no order; still each level that a line has brought stays above the level
outside of it. Main definitions and statements:

* `Block`, `Scan.blocksBehind` — the levels with the way in which each came onto the stack.
* `Scan.Moves`, `Scan.moves` — what a call does to the levels.
* `Block.Ordered` — the levels that lines have brought lie above the level outside.
* `levels_ordered` — so they do behind every sequence of calls.
-/

namespace Offside

/-- How a level came onto the stack. -/
inductive Opener
  /-- A line further to the right than the block around it. -/
  | line
  /-- An explicit opening brace, by the text behind it. -/
  | brace
  deriving DecidableEq, Repr

/-- A level with the way in which it came onto the stack. -/
structure Block where
  level : Level
  opener : Opener
  deriving DecidableEq, Repr

namespace Scan

/-! ## Following the levels -/

/-- The call gives out a token that was not owed. -/
def givesNew (scan : Scan) : Bool :=
  scan.token?.isSome && scan.state.owed.isSettled

/-- The call gives out an opening brace that does not stand in the text. -/
def insertsBrace (scan : Scan) : Bool :=
  scan.gives .openBrace && scan.reading.span.isEmpty

/-- The call gives out an opening brace of the text. -/
def readsBrace (scan : Scan) : Bool :=
  scan.gives .openBrace && !scan.reading.span.isEmpty

/-- The blocks at the head of the line, innermost first, if `blocks` are those in front of the call: the
level of a brace that waited for it is recorded. -/
def blocksAtHead (scan : Scan) (blocks : List Block) : List Block :=
  if scan.state.awaitsLevel then
    ⟨State.levelAt scan.place.margin scan.place.lineHead, .brace⟩ :: blocks
  else
    blocks

/-- The blocks behind a call, innermost first, if `blocks` are those in front of it. With an inserted
brace the line opens a block; other new tokens can take away the innermost ones, and a token that was
owed and a refusal leave all as they are. -/
def blocksBehind (scan : Scan) (blocks : List Block) : List Block :=
  if scan.givesNew then
    if scan.insertsBrace then
      ⟨scan.place.margin.indent, .line⟩ :: scan.blocksAtHead blocks
    else
      (scan.blocksAtHead blocks).drop ((scan.blocksAtHead blocks).length - scan.after.depth)
  else
    blocks

/-- What a call does to the levels. -/
inductive Moves (scan : Scan) : Prop
  /-- A refusal and a token that was owed do nothing. -/
  | rests :
      scan.givesNew = false → scan.after.levels = scan.state.levels →
      scan.after.awaitsLevel = scan.state.awaitsLevel → Moves scan
  /-- A line to the right of the innermost block opens a block. -/
  | opens :
      scan.givesNew = true → scan.insertsBrace = true →
      (scan.state.recordedAt scan.place).levels.innermost < scan.place.margin.indent →
      scan.after.levels = scan.place.margin.indent :: (scan.state.recordedAt scan.place).levels →
      scan.after.awaitsLevel = false → Moves scan
  /-- Some of the innermost blocks are closed, or none; a brace of the text waits for its level. -/
  | closes (closed : Nat) :
      scan.givesNew = true → scan.insertsBrace = false →
      scan.after.levels = (scan.state.recordedAt scan.place).levels.drop closed →
      scan.after.awaitsLevel = scan.readsBrace → Moves scan

/-! ## One call -/

section

variable {scan : Scan} {token : External} {after : State} {head stop : Place}

theorem givesNew_of_settled (given : scan.token? = some token)
    (settled : scan.state.owed.next? = none) : scan.givesNew = true := by
  rw [givesNew, given, State.isSettled_of_next?_eq_none settled]
  rfl

theorem givesNew_of_due {paid : External × Owed} (due : scan.state.owed.next? = some paid) :
    scan.givesNew = false := by
  simp [givesNew, Owed.not_isSettled_of_next? due]

theorem insertsBrace_of_other (given : scan.token? = some token) (other : token ≠ .openBrace) :
    scan.insertsBrace = false ∧ scan.readsBrace = false := by
  simp [insertsBrace, readsBrace, gives, given, other]

/-- Whether an opening brace stands in the text shows in its width. -/
theorem insertsBrace_of_yields (given : scan.token? = some .openBrace)
    (yields : scan.state.Yields scan.accepts scan.place .openBrace after head stop) :
    scan.insertsBrace = decide (stop.offset ≤ head.offset) ∧
      scan.readsBrace = decide (head.offset < stop.offset) := by
  have empty : scan.reading.span.isEmpty = decide (stop.offset ≤ head.offset) := by
    rcases State.scan_of_yields yields with ⟨_, rfl, rfl⟩
    rw [Bool.eq_iff_iff, Span.isEmpty_iff, decide_eq_true_iff]
    rfl
  have gives_brace : scan.gives .openBrace = true := by simp [gives, given]
  rw [insertsBrace, readsBrace, gives_brace, empty, Bool.true_and, Bool.true_and, ← decide_not]
  simp

/-- A token that is no inserted brace leaves no more than the blocks at the head of the line. -/
theorem moves_of_other (given : scan.token? = some token) (other : token ≠ .openBrace)
    (settled : scan.state.owed.next? = none) (closed : Nat)
    (levels : scan.after.levels = (scan.state.recordedAt scan.place).levels.drop closed)
    (recorded : scan.after.awaitsLevel = false) : scan.Moves := by
  rcases insertsBrace_of_other given other with ⟨no_insert, no_read⟩
  exact .closes closed (givesNew_of_settled given settled) no_insert levels
    (recorded.trans no_read.symm)

end

/-- Every call does one of the known things to the levels. -/
theorem moves (scan : Scan) : scan.Moves := by
  rcases scan.cases with ⟨token, after, head, stop, given, left, yields⟩ | ⟨refused, same⟩
  · cases yields with
    | owed due => exact .rests (givesNew_of_due due) (by rw [left]) (by rw [left])
    | owedBrace due => exact .rests (givesNew_of_due due) (by rw [left]) (by rw [left])
    | indent settled crosses deeper accepted finished more starts =>
        have inserted := insertsBrace_of_yields given
          (.indent settled crosses deeper accepted finished more starts)
        exact .opens (givesNew_of_settled given settled) (by simpa using inserted.1) deeper
          (by rw [left]) (by simp [left])
    | aligned settled =>
        exact moves_of_other given (by decide) settled 0 (by simp [left]) (by simp [left])
    | dedent settled =>
        -- The levels that a dedent removes are the innermost ones up to one that is not greater.
        refine moves_of_other given (by decide) settled
          ((scan.state.recordedAt scan.place).levels.countAbove scan.place.margin.indent) ?_
          (by simp [left])
        rw [left, State.levels_dedent, Levels.closeAbove_eq_drop]
    | terminator settled =>
        exact moves_of_other given (by decide) settled 0 (by simp [left]) (by simp [left])
    | openBrace settled defers brace accepted =>
        -- This brace has a width and brings no level yet: it waits for the text behind it.
        have wide := Place.offset_lt_advance brace
        rcases insertsBrace_of_yields given (.openBrace settled defers brace accepted) with
          ⟨no_insert, reads⟩
        exact .closes 0 (givesNew_of_settled given settled) (by simpa [Nat.not_le.2 wide] using no_insert)
          (by simp [left]) (by simp [left, reads, wide])
    | closeBrace settled =>
        refine moves_of_other given (by decide) settled 1 ?_ (by simp [left])
        simp [left, State.closeExplicitly]
    | semicolon settled =>
        exact moves_of_other given (by decide) settled 0 (by simp [left]) (by simp [left])
    | rawString settled =>
        exact moves_of_other given (by decide) settled 0 (by simp [left]) (by simp [left])
  · exact .rests (by simp [givesNew, refused]) (by rw [same]) (by rw [same])

/-- What the blocks say about the levels is right behind the margin too. -/
theorem map_level_blocksAtHead (scan : Scan) {blocks : List Block}
    (same : blocks.map Block.level = scan.state.levels) :
    (scan.blocksAtHead blocks).map Block.level = (scan.state.recordedAt scan.place).levels := by
  cases awaits : scan.state.awaitsLevel <;>
    simp [blocksAtHead, State.recordedAt, State.recordLevel, awaits, same]

theorem blocksBehind_of_rests {scan : Scan} (owed : scan.givesNew = false) (blocks : List Block) :
    scan.blocksBehind blocks = blocks := by
  simp [blocksBehind, owed]

theorem blocksBehind_of_opens {scan : Scan} (new : scan.givesNew = true)
    (inserts : scan.insertsBrace = true) (blocks : List Block) :
    scan.blocksBehind blocks = ⟨scan.place.margin.indent, .line⟩ :: scan.blocksAtHead blocks := by
  simp [blocksBehind, new, inserts]

theorem blocksBehind_of_closes {scan : Scan} {closed : Nat} (new : scan.givesNew = true)
    (no_insert : scan.insertsBrace = false)
    (levels : scan.after.levels = (scan.state.recordedAt scan.place).levels.drop closed)
    {blocks : List Block} (same : blocks.map Block.level = scan.state.levels) :
    scan.blocksBehind blocks = (scan.blocksAtHead blocks).drop closed := by
  have as_many := congrArg List.length (scan.map_level_blocksAtHead same)
  rw [List.length_map] at as_many
  have left : scan.after.depth = (scan.blocksAtHead blocks).length - closed := by
    rw [State.depth, levels, List.length_drop, as_many]
  simp only [blocksBehind, new, no_insert, if_true, left, Bool.false_eq_true, if_false]
  rcases Nat.le_total closed (scan.blocksAtHead blocks).length with within | beyond
  · rw [Nat.sub_sub_self within]
  · rw [Nat.sub_eq_zero_of_le beyond, Nat.sub_zero, List.drop_length, List.drop_eq_nil_of_le beyond]

/-- The blocks that are followed are those of the state. -/
theorem map_level_blocksBehind (scan : Scan) {blocks : List Block}
    (same : blocks.map Block.level = scan.state.levels) :
    (scan.blocksBehind blocks).map Block.level = scan.after.levels := by
  have at_head := scan.map_level_blocksAtHead same
  cases scan.moves with
  | rests owed levels => rw [blocksBehind_of_rests owed, same, levels]
  | opens new inserts _ levels =>
      rw [blocksBehind_of_opens new inserts, List.map_cons, at_head, levels]
  | closes closed new no_insert levels =>
      rw [blocksBehind_of_closes new no_insert levels same, List.map_drop, at_head, levels]

end Scan

/-! ## The order -/

namespace Block

/-- The levels that lines have brought are greater than the level outside, which is that of the block
around, and column 0 outside all blocks. -/
inductive Ordered : List Block → Prop
  | nil : Ordered []
  | brace {outside : List Block} (level : Level) : Ordered outside → Ordered (⟨level, .brace⟩ :: outside)
  | line {outside : List Block} {level : Level} :
      Levels.innermost (outside.map Block.level) < level → Ordered outside →
      Ordered (⟨level, .line⟩ :: outside)

theorem Ordered.tail {blocks : List Block} (ordered : Ordered blocks) : Ordered blocks.tail := by
  cases ordered with
  | nil => exact .nil
  | brace _ outside => exact outside
  | line _ outside => exact outside

theorem Ordered.drop {blocks : List Block} (ordered : Ordered blocks) (n : Nat) :
    Ordered (blocks.drop n) := by
  induction n generalizing blocks with
  | zero => exact ordered
  | succ n ih =>
      rw [← List.drop_tail]
      exact ih ordered.tail

/-- Whatever stands inside of it, a level that a line has brought is greater than the level outside. -/
theorem Ordered.innermost_lt {inside outside : List Block} {block : Block}
    (ordered : Ordered (inside ++ block :: outside)) (by_line : block.opener = .line) :
    Levels.innermost (outside.map Block.level) < block.level := by
  have from_block := ordered.drop inside.length
  rw [List.drop_left] at from_block
  cases from_block with
  | brace => cases by_line
  | line above => exact above

/-- Where lines have brought all levels, the levels rise from the outermost to the innermost, from above
column 0. -/
theorem Ordered.ascends {blocks : List Block} (ordered : Ordered blocks)
    (by_lines : ∀ block ∈ blocks, block.opener = .line) :
    (blocks.map Block.level).Pairwise (· > ·) ∧ ∀ level ∈ blocks.map Block.level, 0 < level := by
  induction ordered with
  | nil => simp
  | brace level _ _ => cases by_lines _ List.mem_cons_self
  | @line outside level above _ ih =>
      rcases ih fun block member => by_lines block (List.mem_cons_of_mem _ member) with
        ⟨rising, positive⟩
      have all_below : ∀ outer ∈ outside.map Block.level, outer < level := by
        intro outer member
        rcases outside with _ | ⟨block, rest⟩
        · cases member
        · rcases List.mem_cons.1 member with rfl | further
          · exact above
          · exact UInt32.lt_trans ((List.pairwise_cons.1 rising).1 outer further) above
      have above_zero : 0 < level := UInt32.lt_of_le_of_lt UInt32.zero_le above
      exact ⟨List.pairwise_cons.2 ⟨all_below, rising⟩, List.forall_mem_cons.2 ⟨above_zero, positive⟩⟩

end Block

namespace Scan

theorem ordered_blocksAtHead (scan : Scan) {blocks : List Block} (ordered : Block.Ordered blocks) :
    Block.Ordered (scan.blocksAtHead blocks) := by
  unfold blocksAtHead
  split
  · exact .brace _ ordered
  · exact ordered

/-- A call keeps the order. -/
theorem ordered_blocksBehind (scan : Scan) {blocks : List Block} (ordered : Block.Ordered blocks)
    (same : blocks.map Block.level = scan.state.levels) : Block.Ordered (scan.blocksBehind blocks) := by
  have at_head := scan.ordered_blocksAtHead ordered
  cases scan.moves with
  | rests owed =>
      rw [blocksBehind_of_rests owed]
      exact ordered
  | opens new inserts deeper =>
      -- The line stands to the right of the innermost block, the one just recorded included.
      rw [blocksBehind_of_opens new inserts]
      exact .line (by rwa [scan.map_level_blocksAtHead same]) at_head
  | closes closed new no_insert levels =>
      rw [blocksBehind_of_closes new no_insert levels same]
      exact at_head.drop closed

/-- As long as no brace of the text is read, lines open all blocks. -/
theorem byLines_blocksBehind (scan : Scan) {blocks : List Block}
    (same : blocks.map Block.level = scan.state.levels) (no_brace : scan.readsBrace = false)
    (recorded : scan.state.awaitsLevel = false) (by_lines : ∀ block ∈ blocks, block.opener = .line) :
    scan.after.awaitsLevel = false ∧ ∀ block ∈ scan.blocksBehind blocks, block.opener = .line := by
  have at_head : scan.blocksAtHead blocks = blocks := by simp [blocksAtHead, recorded]
  cases scan.moves with
  | rests owed _ awaits =>
      rw [blocksBehind_of_rests owed]
      exact ⟨awaits.trans recorded, by_lines⟩
  | opens new inserts _ _ awaits =>
      rw [blocksBehind_of_opens new inserts, at_head]
      exact ⟨awaits, List.forall_mem_cons.2 ⟨rfl, by_lines⟩⟩
  | closes closed new no_insert levels awaits =>
      rw [blocksBehind_of_closes new no_insert levels same, at_head]
      exact ⟨awaits.trans no_brace, fun block left => by_lines block (List.mem_of_mem_drop left)⟩

/-- The call closes blocks because of where a line starts. -/
abbrev Dedents (scan : Scan) : Prop :=
  scan.state.Dedents scan.accepts scan.place

/-- A dedent gives out a separator and removes the innermost levels as long as they are greater than the
column of the line. -/
theorem Dedents.outcome {scan : Scan} (dedents : scan.Dedents) :
    scan.token? = some .semicolon ∧
      scan.after.levels = scan.state.levels.closeAbove scan.place.margin.indent := by
  have outcome : scan.reading.outcome = _ := (State.scan_of_yields dedents.yields).1
  refine ⟨token?_of_outcome outcome, ?_⟩
  rw [after_of_outcome outcome, State.levels_dedent]

end Scan

/-- From levels that rise, a dedent takes exactly the greater ones. -/
theorem Levels.closeAbove_eq_filter {levels : Levels} (rising : levels.Pairwise (· > ·))
    (indent : Level) : levels.closeAbove indent = levels.filter (· ≤ indent) := by
  induction levels with
  | nil => rfl
  | cons level outside ih =>
      rcases List.pairwise_cons.1 rising with ⟨below, rising⟩
      by_cases above : indent < level
      · have removed : ¬ level ≤ indent := UInt32.not_le.2 above
        have later := ih rising
        simp only [closeAbove, List.dropWhile_cons, List.filter_cons, above, removed, decide_true,
          decide_false, if_true, Bool.false_eq_true, if_false] at later ⊢
        exact later
      · -- The first level that stays is the greatest of those that are left.
        have stays : level ≤ indent := UInt32.not_lt.1 above
        have all_stay : ∀ outer ∈ level :: outside, outer ≤ indent :=
          List.forall_mem_cons.2 ⟨stays, fun outer member =>
            UInt32.le_trans (UInt32.le_of_lt (below outer member)) stays⟩
        rw [List.filter_eq_self.2 (by simpa using all_stay)]
        simp [closeAbove, above]

/-! ## Many calls -/

namespace State

/-- The blocks behind the calls of a host that finds the scanner in `state` with `blocks`. -/
def blocksBehind : State → List Block → List (Place × Acceptance) → List Block
  | _, blocks, [] => blocks
  | state, blocks, (place, accepts) :: rest =>
      blocksBehind (Scan.mk state place accepts).after
        ((Scan.mk state place accepts).blocksBehind blocks) rest

/-- The induction is on the calls; each of them keeps the order, and the blocks those of the state. -/
theorem ordered_afterScans (plan : List (Place × Acceptance)) :
    ∀ (state : State) (blocks : List Block), blocks.map Block.level = state.levels →
      Block.Ordered blocks →
      (state.blocksBehind blocks plan).map Block.level = (state.afterScans plan).levels ∧
        Block.Ordered (state.blocksBehind blocks plan) := by
  induction plan with
  | nil =>
      intro state blocks same ordered
      exact ⟨same, ordered⟩
  | cons call rest ih =>
      intro state blocks same ordered
      rcases call with ⟨place, accepts⟩
      exact ih _ _ ((Scan.mk state place accepts).map_level_blocksBehind same)
        ((Scan.mk state place accepts).ordered_blocksBehind ordered same)

theorem byLines_afterScans (plan : List (Place × Acceptance)) :
    ∀ (state : State) (blocks : List Block), blocks.map Block.level = state.levels →
      (∀ scan ∈ state.scans plan, scan.readsBrace = false) →
      state.awaitsLevel = false → (∀ block ∈ blocks, block.opener = .line) →
      ∀ block ∈ state.blocksBehind blocks plan, block.opener = .line := by
  induction plan with
  | nil =>
      intro state blocks _ _ _ by_lines
      exact by_lines
  | cons call rest ih =>
      intro state blocks same no_brace recorded by_lines
      rcases call with ⟨place, accepts⟩
      rcases List.forall_mem_cons.1 no_brace with ⟨first, others⟩
      rcases (Scan.mk state place accepts).byLines_blocksBehind same first recorded by_lines with
        ⟨still_recorded, still_by_lines⟩
      exact ih _ _ ((Scan.mk state place accepts).map_level_blocksBehind same) others still_recorded
        still_by_lines

end State

/-- A host starts with a fresh scanner and calls it in any way. Behind the calls, each level that a line
has brought is greater than the level directly outside of it, and than column 0 if there is none. As long
as no opening brace of the text was given out, the levels rise from the outermost to the innermost and
are positive; and a line to the left of the innermost block takes away exactly the levels greater than
its column. -/
theorem levels_ordered (plan : List (Place × Acceptance)) :
    let state := State.fresh.afterScans plan
    let blocks := State.fresh.blocksBehind [] plan
    blocks.map Block.level = state.levels ∧
      (∀ inside block outside, blocks = inside ++ block :: outside → block.opener = .line →
        Levels.innermost (outside.map Block.level) < block.level) ∧
      ((∀ scan ∈ State.fresh.scans plan, scan.readsBrace = false) →
        state.levels.Pairwise (· > ·) ∧ (∀ level ∈ state.levels, 0 < level) ∧
          ∀ place accepts, (Scan.mk state place accepts).Dedents →
            (Scan.mk state place accepts).token? = some .semicolon ∧
              (Scan.mk state place accepts).after.levels =
                state.levels.filter (· ≤ place.margin.indent)) := by
  intro state blocks
  have followed := State.ordered_afterScans plan .fresh [] rfl .nil
  refine ⟨followed.1, ?_, ?_⟩
  · intro inside block outside split by_line
    have ordered : Block.Ordered (inside ++ block :: outside) := split ▸ followed.2
    exact ordered.innermost_lt by_line
  · intro no_brace
    have by_lines := State.byLines_afterScans plan .fresh [] rfl no_brace rfl (by simp)
    have ascends := followed.2.ascends by_lines
    rw [followed.1] at ascends
    refine ⟨ascends.1, ascends.2, ?_⟩
    intro place accepts dedents
    rcases dedents.outcome with ⟨separator, levels⟩
    exact ⟨separator, levels.trans (Levels.closeAbove_eq_filter ascends.1 _)⟩

/-- The text behind a brace stands to the left of the block around the brace, and the next line to the
right of it. -/
def overhang : List (Place × Acceptance) :=
  [(.start "\n    a".toList, .producible), (.start ['{'], .producible),
    (.start "\n  b".toList, .producible), (.start "\n   c".toList, .producible)]

/-- Two blocks that lines have opened. -/
def stairs : List (Place × Acceptance) :=
  [(.start "\n  a".toList, .producible), (.start "\n    b".toList, .producible)]

/-- Behind the first calls the innermost level is greater than that of the brace and smaller than the
outermost one. Behind the others a line to a column that no block has takes one level away. -/
theorem levels_ordered_overhang :
    (State.fresh.blocksBehind [] overhang = [⟨3, .line⟩, ⟨2, .brace⟩, ⟨4, .line⟩] ∧
        Levels.innermost [2, 4] < 3) ∧
      (∀ scan ∈ State.fresh.scans stairs, scan.readsBrace = false) ∧
      (Scan.mk (State.fresh.afterScans stairs) (.start "\n   c".toList) .producible).Dedents ∧
      (Scan.mk (State.fresh.afterScans stairs) (.start "\n   c".toList) .producible).after.levels =
        [2] := by
  have blocks : State.fresh.blocksBehind [] overhang = [⟨3, .line⟩, ⟨2, .brace⟩, ⟨4, .line⟩] := by
    decide
  have no_brace : ∀ scan ∈ State.fresh.scans stairs, scan.readsBrace = false := by decide
  have dedents :
      (Scan.mk (State.fresh.afterScans stairs) (.start "\n   c".toList) .producible).Dedents :=
    ⟨by decide, by decide, by decide, by decide, by decide⟩
  have above := (levels_ordered overhang).2.1 [] ⟨3, .line⟩ [⟨2, .brace⟩, ⟨4, .line⟩] blocks rfl
  have left := ((levels_ordered stairs).2.2 no_brace).2.2 _ _ dedents
  have taken : (State.fresh.afterScans stairs).levels.filter (· ≤ 3) = [2] := by decide
  exact ⟨⟨blocks, above⟩, no_brace, dedents, left.2.trans taken⟩

end Offside
