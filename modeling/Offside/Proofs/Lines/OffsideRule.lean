import Offside.Proofs.Lines.Owing

/-!
# Scanning line by line

A session comes to each line at the line break in front of it, with the widths of the open blocks as
its levels and nothing owed. There the scanner gives out what the off-side rule inserts, and the rest
of the line gives no token. Main statements:

* `Session.externalsFrom_line` — what a session gives out at the head of a line.
* `Session.externalsFrom_following` — a session inserts what the rule inserts into its lines.
* `externals_tokenize_join` — so does a run over a whole text.
-/

namespace Offside

namespace State

/-- The state between two lines, inside blocks of these widths. -/
def inBlocks (stack : List Nat) : State :=
  { levels := stack.map Level.ofColumn }

theorem settled_inBlocks (stack : List Nat) : (inBlocks stack).owed.next? = none :=
  rfl

theorem recordedAt_inBlocks (stack : List Nat) (p : Place) :
    (inBlocks stack).recordedAt p = inBlocks stack :=
  rfl

theorem innermost_inBlocks (stack : List Nat) :
    (inBlocks stack).levels.innermost = Level.ofColumn (stack.headD 0) := by
  cases stack with
  | nil => rfl
  | cons innermost outer => rfl

theorem toNat_ofColumn_of_narrow {width : Nat} (narrow : width ≤ Level.widest) :
    (Level.ofColumn width).toNat = width := by
  rw [Level.toNat_ofColumn, Nat.min_eq_left narrow]

theorem ofColumn_lt_iff {left right : Nat} (left_narrow : left ≤ Level.widest)
    (right_narrow : right ≤ Level.widest) :
    Level.ofColumn left < Level.ofColumn right ↔ left < right := by
  rw [UInt32.lt_iff_toNat_lt, toNat_ofColumn_of_narrow left_narrow,
    toNat_ofColumn_of_narrow right_narrow]

section

variable {stack : List Nat} (narrow : ∀ level ∈ stack, level ≤ Level.widest) {width : Nat}
  (width_narrow : width ≤ Level.widest)

include narrow width_narrow

theorem closeAbove_map : Levels.closeAbove (stack.map Level.ofColumn) (Level.ofColumn width) =
    (stack.dropWhile (width < ·)).map Level.ofColumn := by
  induction stack with
  | nil => rfl
  | cons level outer ih =>
      have order := ofColumn_lt_iff width_narrow (narrow level (.head _))
      have outer_narrow : ∀ level ∈ outer, level ≤ Level.widest := fun level member =>
        narrow level (.tail _ member)
      by_cases left : width < level
      · simpa [Levels.closeAbove, order, left] using ih outer_narrow
      · simp [Levels.closeAbove, order, left]

theorem countAbove_map : Levels.countAbove (stack.map Level.ofColumn) (Level.ofColumn width) =
    (stack.takeWhile (width < ·)).length := by
  induction stack with
  | nil => rfl
  | cons level outer ih =>
      have order := ofColumn_lt_iff width_narrow (narrow level (.head _))
      have outer_narrow : ∀ level ∈ outer, level ≤ Level.widest := fun level member =>
        narrow level (.tail _ member)
      by_cases left : width < level
      · simpa [Levels.countAbove, order, left] using ih outer_narrow
      · simp [Levels.countAbove, order, left]

theorem dedent_inBlocks (continues : Bool) :
    (inBlocks stack).dedent (Level.ofColumn width) continues =
      { levels := (stack.dropWhile (width < ·)).map Level.ofColumn
        owed := .paired (stack.takeWhile (width < ·)).length continues } := by
  have owes := Owed.addBlocks_eq_paired (stack.takeWhile (width < ·)).length
  simp only [dedent, inBlocks, closeAbove_map narrow width_narrow,
    countAbove_map narrow width_narrow, owes]
  cases continues <;> rfl

end

end State

namespace Line

/-! ## In front of a line -/

theorem width_le_widest (line : Line) : line.width ≤ Level.widest :=
  Nat.le_pred_of_lt line.narrow

theorem following_cons (line : Line) (later : List Line) :
    following (line :: later) =
      ('\n' :: line.indentation) ++ (line.body ++ following later) := by
  simp [following, text]

theorem isBlank_of_head?_following (lines : List Line) :
    ∀ d, (following lines).head? = some d → Text.isBlank d = true := by
  intro d first
  cases lines with
  | nil => cases first
  | cons line later =>
      cases first
      rfl

theorem ne_quote_of_mem_following {lines : List Line} : ∀ d ∈ following lines, d ≠ '"' := by
  intro d member
  rcases List.mem_flatMap.1 member with ⟨line, _, place⟩
  rcases List.mem_cons.1 place with rfl | place
  · decide
  · rcases List.mem_append.1 place with indented | said
    · rcases line.spaced d indented with rfl | rfl <;> decide
    · rintro rfl
      exact line.plain.unspelled '"' said (by decide)

theorem exists_head (line : Line) :
    ∃ c rest, line.body = c :: rest ∧ Text.isBlank c = false := by
  rcases line.starts with ⟨c, first, visible⟩
  rcases List.head?_eq_some_iff.1 first with ⟨rest, body⟩
  exact ⟨c, rest, body, visible⟩

section

variable {p : Place} {line : Line} {later : List Line} (text : p.after = following (line :: later))

include text

theorem reads_lineHead : p.Reads ('\n' :: line.indentation) p.lineHead := by
  rcases line.exists_head with ⟨c, rest, body, visible⟩
  rw [following_cons, body] at text
  refine Place.reads_advanceWhile_of_after_eq text ?_ (isMarginChar_eq_false visible)
  intro d member
  rcases List.mem_cons.1 member with rfl | indented
  · rfl
  · exact isMarginChar_of_spaced (line.spaced d indented)

theorem after_lineHead : p.lineHead.after = line.body ++ following later :=
  (reads_lineHead text).after_eq_of_append (text.trans (following_cons line later))

theorem advanceWhile_isBlank : p.advanceWhile Text.isBlank = p.lineHead := by
  have to_head := reads_lineHead text
  rcases line.exists_head with ⟨c, rest, body, visible⟩
  rw [following_cons, body] at text
  refine (Place.reads_advanceWhile_of_after_eq text ?_ visible).unique to_head
  intro d member
  rcases List.mem_cons.1 member with rfl | indented
  · rfl
  · exact Place.isBlank_of_isMarginChar (isMarginChar_of_spaced (line.spaced d indented))

/-- A scanner measures the width of the line behind the line break. -/
theorem margin_eq : p.margin = ⟨true, .ofColumn line.width⟩ := by
  have measured := foldl_extend line.spaced true 0
  rw [Nat.zero_add] at measured
  have margin : p.after.takeWhile Margin.isMarginChar = '\n' :: line.indentation := by
    have run := (Place.reads_advanceWhile p Margin.isMarginChar).after_eq
    have line_run := (reads_lineHead text).after_eq
    exact List.append_cancel_right (run.symm.trans line_run)
  rw [Place.margin, margin]
  exact measured

end

end Line

namespace Session

/-! ## At the head of a line -/

section

variable {capacity : Nat} (room : Checkpoint.headerSize ≤ capacity) {stack : List Nat}
  (ascends : Line.Ascends stack) {p : Place} {line : Line} {later : List Line}
  (text : p.after = Line.following (line :: later))

include text

theorem lookahead_lineHead : ∃ c, p.lineHead.lookahead = some c ∧ Text.isBlank c = false ∧
    c ∉ ['{', '}', ';', '"'] := by
  rcases line.exists_head with ⟨c, rest, body, visible⟩
  refine ⟨c, ?_, visible, line.plain.unspelled c (by simp [body])⟩
  rw [Place.lookahead, Line.after_lineHead text, body]
  rfl

theorem bare_lineHead : p.lineHead.lookahead ≠ some '}' := by
  rcases lookahead_lineHead text with ⟨c, head, _, unspelled⟩
  rw [head]
  rintro ⟨⟩
  exact unspelled (by decide)

theorem unquoted_lineHead : ∀ d ∈ p.lineHead.after, d ≠ '"' := by
  intro d member
  have margin := (Line.reads_lineHead text).after_eq
  exact Line.ne_quote_of_mem_following d
    (by rw [← text, margin]; exact List.mem_append_right _ member)

include room ascends

/-- A line to the right that starts a statement opens a block. -/
theorem externalsFrom_of_deeper (deeper : stack.headD 0 < line.width)
    (starts : State.continuesAt p.lineHead = false) :
    externalsFrom ⟨.permissive, capacity⟩ p (.inBlocks stack) =
      (.openBrace, ⟨p.lineHead.offset, p.lineHead.offset⟩) ::
        externalsFrom ⟨.permissive, capacity⟩ p.lineHead (.inBlocks (line.width :: stack)) := by
  have margin := Line.margin_eq text
  rcases lookahead_lineHead text with ⟨c, head, _, _⟩
  have right_of : ((State.inBlocks stack).recordedAt p).levels.innermost < p.margin.indent := by
    rw [State.recordedAt_inBlocks, State.innermost_inBlocks, margin]
    exact (State.ofColumn_lt_iff ascends.head_le_widest line.width_le_widest).2 deeper
  have yields := @State.Yields.indent (.inBlocks stack) (Policy.acceptance .permissive p) p
    (State.settled_inBlocks stack) (by rw [margin]) right_of rfl rfl
    (Place.atEnd_eq_false_of_lookahead head) starts
  rw [State.recordedAt_inBlocks, margin] at yields
  exact externalsFrom_of_yields room yields

omit ascends in
/-- A line at the column of the block that starts a statement is separated from the line before. -/
theorem externalsFrom_of_aligned (same : line.width = stack.headD 0)
    (starts : State.continuesAt p.lineHead = false) :
    externalsFrom ⟨.permissive, capacity⟩ p (.inBlocks stack) =
      (.semicolon, ⟨p.lineHead.offset, p.lineHead.offset⟩) ::
        externalsFrom ⟨.permissive, capacity⟩ p.lineHead (.inBlocks stack) := by
  have margin := Line.margin_eq text
  have at_column : p.margin.indent = ((State.inBlocks stack).recordedAt p).levels.innermost := by
    rw [State.recordedAt_inBlocks, State.innermost_inBlocks, margin, same]
  have yields := @State.Yields.aligned (.inBlocks stack) (Policy.acceptance .permissive p) p
    (State.settled_inBlocks stack) (by rw [margin]) at_column rfl rfl starts
  exact externalsFrom_of_yields room yields

/-- A line to the left is separated from the line before, and the blocks to its right are closed. -/
theorem externalsFrom_of_dedent (left : line.width < stack.headD 0) :
    externalsFrom ⟨.permissive, capacity⟩ p (.inBlocks stack) =
      Line.insertedAt p.lineHead.offset
          (.semicolon :: Line.closings (stack.takeWhile (line.width < ·)).length
            (State.continuesAt p.lineHead)) ++
        externalsFrom ⟨.permissive, capacity⟩ p.lineHead
          (.inBlocks (stack.dropWhile (line.width < ·))) := by
  have margin := Line.margin_eq text
  have left_of : p.margin.indent < ((State.inBlocks stack).recordedAt p).levels.innermost := by
    rw [State.recordedAt_inBlocks, State.innermost_inBlocks, margin]
    exact (State.ofColumn_lt_iff line.width_le_widest ascends.head_le_widest).2 left
  have yields := @State.Yields.dedent (.inBlocks stack) (Policy.acceptance .permissive p) p
    (State.settled_inBlocks stack) (by rw [margin]) left_of rfl (bare_lineHead text)
  rw [State.recordedAt_inBlocks, margin,
    State.dedent_inBlocks ascends.narrow line.width_le_widest] at yields
  -- A separator is dropped only if there is one, and the innermost block is always closed.
  have some_block : 0 < (stack.takeWhile (line.width < ·)).length := by
    cases stack with
    | nil => exact absurd left (Nat.not_lt_zero _)
    | cons innermost outer =>
        have right_of : line.width < innermost := left
        simp [right_of]
  have owing := @externalsFrom_of_owing ⟨.permissive, capacity⟩ room _ (bare_lineHead text)
    ((stack.dropWhile (line.width < ·)).map Level.ofColumn) (State.continuesAt p.lineHead) _
    (ascends.length_takeWhile_lt line.width) (fun _ => some_block)
  rw [externalsFrom_of_yields room yields, owing]
  rfl

omit room in
/-- A line that goes on with the statement before it, and closes no block, gets no token. -/
theorem externalsFrom_of_continues (within : stack.headD 0 ≤ line.width)
    (continues : State.continuesAt p.lineHead = true) :
    externalsFrom ⟨.permissive, capacity⟩ p (.inBlocks stack) =
      externalsFrom ⟨.permissive, capacity⟩ p.lineHead (.inBlocks stack) := by
  have margin := Line.margin_eq text
  have unquoted := unquoted_lineHead text
  rcases lookahead_lineHead text with ⟨c, head, visible, unspelled⟩
  have not_left : ((State.inBlocks stack).recordedAt p).levels.innermost ≤ p.margin.indent := by
    rw [State.recordedAt_inBlocks, State.innermost_inBlocks, margin, ← UInt32.not_lt,
      State.ofColumn_lt_iff line.width_le_widest ascends.head_le_widest]
    exact Nat.not_lt.2 within
  have here := State.exists_refusal_of_lookahead (Policy.acceptance .permissive p)
    (State.settled_inBlocks stack) head unspelled
    (by rw [text]; exact Line.ne_quote_of_mem_following) (fun _ => ⟨not_left, continues⟩)
  -- Blanks end where the margin does, and from there the scan is on the line.
  have skips : p.advanceWhile Text.isBlank = p.lineHead := Line.advanceWhile_isBlank text
  have on_line : p.lineHead.lineHead = p.lineHead :=
    Place.advanceWhile_advanceWhile p Margin.isMarginChar
  have flat : p.lineHead.margin.crossesLine = false :=
    crossesLine_margin_of_spaced [] (Place.lookahead_eq_some_iff.1 head) (by simp) visible
  have behind := State.exists_refusal_of_lookahead (Policy.acceptance .permissive p.lineHead)
    (State.settled_inBlocks stack) (by rw [on_line]; exact head) unspelled unquoted (by simp [flat])
  rw [← skips] at behind ⊢
  exact externalsFrom_advanceWhile here behind

end

/-! ## Line by line -/

/-- What a session gives out at the head of a line is what the rule inserts there. -/
theorem externalsFrom_line {capacity : Nat} (room : Checkpoint.headerSize ≤ capacity)
    {stack : List Nat} (ascends : Line.Ascends stack) {p : Place} {line : Line} {later : List Line}
    (text : p.after = Line.following (line :: later)) {continues : Bool}
    (answer : Lead.startsContinuation (line.body ++ Line.following later) = continues) :
    externalsFrom ⟨.permissive, capacity⟩ p (.inBlocks stack) =
      Line.insertedAt p.lineHead.offset (Line.tokensAt stack line.width continues) ++
        externalsFrom ⟨.permissive, capacity⟩ p.lineHead
          (.inBlocks (Line.stackAfter stack line.width continues)) := by
  have scanned : State.continuesAt p.lineHead = continues := by
    rw [State.continuesAt_eq, Line.after_lineHead text, answer]
  -- The cases of the rule: to the right of the innermost block, at its column, or to the left.
  rcases Nat.lt_trichotomy (stack.headD 0) line.width with deeper | same | left
  · cases continues with
    | true =>
        rw [externalsFrom_of_continues ascends text (Nat.le_of_lt deeper) scanned]
        simp only [Line.tokensAt, Line.stackAfter, deeper, if_true]
        rfl
    | false =>
        rw [externalsFrom_of_deeper room ascends text deeper scanned]
        simp only [Line.tokensAt, Line.stackAfter, deeper, if_true]
        rfl
  · have kept : stack.dropWhile (line.width < ·) = stack := Line.dropWhile_eq_self same
    cases continues with
    | true =>
        rw [externalsFrom_of_continues ascends text (Nat.le_of_eq same) scanned]
        simp only [Line.tokensAt, Line.stackAfter, same, kept, Nat.lt_irrefl, if_true, if_false]
        rfl
    | false =>
        rw [externalsFrom_of_aligned room text same.symm scanned]
        simp only [Line.tokensAt, Line.stackAfter, same, kept, Nat.lt_irrefl, if_true, if_false]
        rfl
  · rw [externalsFrom_of_dedent room ascends text left, scanned]
    simp only [Line.tokensAt, Line.stackAfter, Nat.lt_asymm left, Nat.ne_of_lt left, if_false]

/-- At the end of the text the terminator is given out, and nothing else. -/
theorem externalsFrom_of_nil {capacity : Nat} (room : Checkpoint.headerSize ≤ capacity)
    {stack : List Nat} {p : Place} (text : p.after = []) :
    externalsFrom ⟨.permissive, capacity⟩ p (.inBlocks stack) =
      Line.insertedAt p.offset [.semicolon] := by
  have stays (continues : Char → Bool) : p.advanceWhile continues = p := by
    have reads := Place.reads_advanceWhile p continues
    rw [text] at reads
    exact reads.unique (Place.reads_nil p)
  have head : p.lineHead = p := stays Margin.isMarginChar
  have flat : p.margin.crossesLine = false := by
    rw [Place.margin, text]
    rfl
  have at_end : p.lineHead.atEnd = true := by
    rw [head]
    exact Place.atEnd_iff.2 text
  have defers : (State.inBlocks stack).rulingAt (Policy.acceptance .permissive p) p =
      .defers p.lineHead := by
    simp [State.rulingAt, flat]
  -- The terminator first; behind it the scan refuses and nothing is left for the host.
  have yields := State.Yields.terminator (State.settled_inBlocks stack) defers at_end rfl
  rw [head, State.recordedAt_inBlocks] at yields
  have given : externalsFrom ⟨.permissive, capacity⟩ p (.inBlocks stack) =
      (.semicolon, ⟨p.offset, p.offset⟩) :: externalsFrom ⟨.permissive, capacity⟩ p
        { State.inBlocks stack with terminated := true } :=
    externalsFrom_of_yields room yields
  have refused : ∃ refusal, (State.scan { State.inBlocks stack with terminated := true }
      (Policy.acceptance .permissive p) p).outcome = .error refusal :=
    State.exists_refusal_of_terminated _ (State.settled_inBlocks stack) rfl text
  rcases refused with ⟨refusal, outcome⟩
  have ends : (p.advanceWhile Text.isBlank).atEnd = true := by
    rw [stays]
    exact Place.atEnd_iff.2 text
  have nothing_more : externalsFrom ⟨.permissive, capacity⟩ p
      { State.inBlocks stack with terminated := true } = [] :=
    externalsFrom_of_end outcome ends
  rw [given, nothing_more]
  rfl

/-- A session inserts into its lines what the rule inserts, and nothing else. -/
theorem externalsFrom_following {capacity : Nat} (room : Checkpoint.headerSize ≤ capacity)
    (later : List Line) :
    ∀ (stack : List Nat) (p : Place), Line.Ascends stack → p.after = Line.following later →
      externalsFrom ⟨.permissive, capacity⟩ p (.inBlocks stack) =
        Line.inserted stack p.offset later := by
  -- The stack and the place change from line to line; that the widths ascend is the invariant.
  induction later with
  | nil =>
      intro stack p _ text
      exact externalsFrom_of_nil room text
  | cons line later ih =>
      intro stack p ascends text
      generalize answer : Lead.startsContinuation (line.body ++ Line.following later) = continues
      have to_head := Line.reads_lineHead text
      have on_line := externalsFrom_line room ascends text answer
      have still_ascends := Line.ascends_stackAfter ascends line.width_le_widest continues
      have settled := State.settled_inBlocks (Line.stackAfter stack line.width continues)
      -- The tokens stand at the head of the line; the rest of it is read without any.
      rcases externalsFrom_of_plain ⟨.permissive, capacity⟩ settled
        (Line.isBlank_of_head?_following later) p.lineHead line.plain (Line.after_lineHead text)
        (unquoted_lineHead text) with ⟨q, to_end, same⟩
      have behind := ih _ q still_ascends (to_end.after_eq_of_append (Line.after_lineHead text))
      rw [on_line, same, behind, to_end.offset_eq, to_head.offset_eq]
      simp only [Line.inserted, answer]

end Session

/-- A text of lines without braces, separators and quotes is read to its end under the permissive
policy, and its external tokens are those that the off-side rule inserts into the lines behind the
first. -/
theorem externals_tokenize_join {capacity : Nat} (room : Checkpoint.headerSize ≤ capacity) (first : Line)
    (later : List Line) :
    ∃ stream, (tokenize ⟨.permissive, capacity⟩
        (String.ofList (Line.join (first :: later)))).value = .ok stream ∧
      stream.externals = Line.inserted [] (Text.byteLength first.text) later := by
  refine ⟨_, @tokenize_eq_ok ⟨.permissive, capacity⟩ room _, ?_⟩
  rw [String.toList_ofList, Line.join_cons]
  have plain : Plain first.text := by
    rcases first.exists_head with ⟨c, rest, body, _⟩
    exact first.plain.append_of_spaced first.spaced (by simp [body])
  have unquoted : ∀ d ∈ first.text ++ Line.following later, d ≠ '"' := by
    intro d member
    rcases List.mem_append.1 member with on_first | behind
    · rintro rfl
      exact plain.unspelled '"' on_first (by decide)
    · exact Line.ne_quote_of_mem_following d behind
  -- No line break stands in front of the first line, so it is read like the rest of a line.
  rcases Session.externalsFrom_of_plain ⟨.permissive, capacity⟩ (State.settled_inBlocks [])
    (Line.isBlank_of_head?_following later) (.start (first.text ++ Line.following later)) plain rfl
    unquoted with ⟨q, to_end, same⟩
  have behind := Session.externalsFrom_following room later [] q Line.ascends_nil
    (to_end.after_eq_of_append rfl)
  have offset : q.offset = Text.byteLength first.text := by
    rw [to_end.offset_eq]
    exact Nat.zero_add _
  rw [← offset]
  exact same.trans behind

/-- Two blocks are opened, and a line that continues a statement closes both at a column between
them, so that it gets no last separator. -/
theorem externals_tokenize_join_stray :
    Checkpoint.headerSize ≤ 11 ∧
      ∃ stream, (tokenize ⟨.permissive, 11⟩ "a\n  b\n\tc\n > d\ne").value = .ok stream ∧
        stream.externals =
          [(.openBrace, ⟨4, 4⟩), (.openBrace, ⟨7, 7⟩), (.semicolon, ⟨10, 10⟩),
            (.closeBrace, ⟨10, 10⟩), (.semicolon, ⟨10, 10⟩), (.closeBrace, ⟨10, 10⟩),
            (.semicolon, ⟨14, 14⟩), (.semicolon, ⟨15, 15⟩)] :=
  ⟨by decide, @externals_tokenize_join 11 (by decide)
    ⟨[], ['a'], by simp, by decide, ⟨'a', rfl, rfl⟩, by decide⟩
    [⟨[' ', ' '], ['b'], by simp, by decide, ⟨'b', rfl, rfl⟩, by decide⟩,
      ⟨['\t'], ['c'], by simp, by decide, ⟨'c', rfl, rfl⟩, by decide⟩,
      ⟨[' '], ['>', ' ', 'd'], by simp, by decide, ⟨'>', rfl, rfl⟩, by decide⟩,
      ⟨[], ['e'], by simp, by decide, ⟨'e', rfl, rfl⟩, by decide⟩]⟩

end Offside
