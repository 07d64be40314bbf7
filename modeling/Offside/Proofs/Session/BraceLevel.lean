import Offside.Proofs.Braces.Openers
import Offside.Proofs.Lines.Continuation
import Offside.Proofs.Lines.Measure
import Offside.Proofs.Session.Respacing
import Offside.Proofs.Session.Visible

/-!
# The level of an explicit block

An explicit opening brace waits for the level of its block, and the scan right behind it measures one: that
of the first text of the block. But a scan that gives out no token leaves no trace, so the level sticks only
if that text is spelled like a token or starts a statement on a line of its own. Otherwise the host reads
some text, and the brace goes on waiting. Its level is then that of the first place further on at which a
scan gives out a token, wherever that may be. Main definitions and statements:

* `Place.blockLevel` — the level of the text behind a margin.
* `Place.startsBlock` — the text behind a margin has a waiting scanner give out a token.
* `State.Waits.startsBlock_of_yields`, `State.Waits.startsBlock_of_refused` — and otherwise it does not.
* `State.Waits.levels_after` — the level that is recorded when it does.
* `Session.recorder_scansFrom` — the first scan of a session that gives out a token.
* `Session.levels_behind_brace` — which level is recorded for a brace.
* `Session.RecordsFirstText` — what one would expect of all braces.
-/

namespace Offside

/-! ## What a brace waits for -/

namespace Place

/-- The level of the text behind the margin at `p`: the indentation of its line if the margin crosses a line
break, and otherwise its column. -/
def blockLevel (p : Place) : Level :=
  let gap := p.after.takeWhile Margin.isMarginChar
  if '\n' ∈ gap then (Margin.measured gap).indent else .ofColumn p.lineHead.column

/-- The text behind the margin at `p` is a token of the scanner, or it starts a statement on a line of its
own. -/
def startsBlock (p : Place) : Bool :=
  p.lineHead.spelled?.isSome ||
    (decide ('\n' ∈ p.after.takeWhile Margin.isMarginChar) && !Lead.startsContinuation p.lineHead.after)

theorem levelAt_eq_blockLevel (p : Place) : State.levelAt p.margin p.lineHead = p.blockLevel := by
  simp only [State.levelAt, blockLevel, crossesLine_margin, decide_eq_true_eq]
  rw [margin_eq_measured]

end Place

namespace State

/-- A scanner that owes nothing and waits for the level of a brace. -/
structure Waits (state : State) : Prop where
  settled : state.owed.next? = none
  awaits : state.awaitsLevel = true

section

variable {state after : State} {accepts : Acceptance} {p head stop : Place} {token : External}
  {refusal : Refusal}

theorem Waits.levels_recordedAt (waits : state.Waits) (p : Place) :
    (state.recordedAt p).levels = p.blockLevel :: state.levels := by
  simp only [recordedAt, recordLevel, waits.awaits, if_true, Place.levelAt_eq_blockLevel]

/-- Across a line break the line is at the level that is recorded for it. -/
theorem Waits.indent_eq (waits : state.Waits) (crosses : p.margin.crossesLine = true) :
    p.margin.indent = (state.recordedAt p).levels.innermost := by
  rw [waits.levels_recordedAt, ← Place.levelAt_eq_blockLevel, levelAt, if_pos crosses]
  rfl

/-- A closing brace continues the line before it, as far as the off-side rule goes. -/
theorem lookahead_ne_of_continuesAt_eq_false (starts : continuesAt head = false) :
    head.lookahead ≠ some '}' := by
  intro brace
  rw [continuesAt_eq, Place.lookahead_eq_some_iff.1 brace] at starts
  cases starts

/-- What is recorded for the brace, unless the very token that the scan gives out closes its block. -/
theorem Waits.levels_after (waits : state.Waits) (yields : state.Yields accepts p token after head stop) :
    after.levels = if p.lineHead.lookahead = some '}' then state.levels
      else p.blockLevel :: state.levels := by
  have recorded := waits.levels_recordedAt p
  have open_block {c : Char} (next : p.lineHead.lookahead = some c) (other : c ≠ '}') :
      p.lineHead.lookahead ≠ some '}' := by
    rw [next]
    exact fun same => other (Option.some.inj same)
  cases yields with
  | owed due => cases waits.settled.symm.trans due
  | owedBrace due => cases waits.settled.symm.trans due
  | indent _ crosses deeper => exact absurd (waits.indent_eq crosses) (UInt32.ne_of_lt deeper).symm
  | dedent _ crosses left => exact absurd (waits.indent_eq crosses) (UInt32.ne_of_lt left)
  | aligned _ _ _ _ _ starts =>
      rw [if_neg (lookahead_ne_of_continuesAt_eq_false starts)]
      exact recorded
  | terminator _ _ ends =>
      have nothing : p.lineHead.lookahead ≠ some '}' := by
        intro brace
        cases (Place.atEnd_eq_false_of_lookahead brace).symm.trans ends
      rw [if_neg nothing]
      exact recorded
  | openBrace _ _ brace =>
      rw [if_neg (open_block brace (by decide))]
      exact recorded
  | closeBrace _ _ brace =>
      rw [if_pos brace]
      simp only [closeExplicitly, recorded, List.tail_cons]
  | semicolon _ _ separator =>
      rw [if_neg (open_block separator (by decide))]
      exact recorded
  | rawString _ _ letter =>
      rw [if_neg (open_block letter (by decide))]
      exact recorded

/-- A token that a waiting scanner gives out is spelled out behind the margin, or separates two
statements. -/
theorem Waits.startsBlock_of_yields (waits : state.Waits) (more : p.lineHead.atEnd = false)
    (yields : state.Yields accepts p token after head stop) : p.startsBlock = true := by
  have spelled (some_token : p.lineHead.spelled?.isSome = true) : p.startsBlock = true := by
    rw [Place.startsBlock, some_token, Bool.true_or]
  cases yields with
  | owed due => cases waits.settled.symm.trans due
  | owedBrace due => cases waits.settled.symm.trans due
  | indent _ crosses deeper => exact absurd (waits.indent_eq crosses) (UInt32.ne_of_lt deeper).symm
  | dedent _ crosses left => exact absurd (waits.indent_eq crosses) (UInt32.ne_of_lt left)
  | aligned _ crosses _ _ _ starts =>
      rw [continuesAt_eq] at starts
      rw [Place.startsBlock, ← Place.crossesLine_margin, crosses, starts]
      exact Bool.or_true _
  | terminator _ _ ends => cases more.symm.trans ends
  | openBrace _ _ brace => exact spelled (by simp [Place.spelled?, brace])
  | closeBrace _ _ brace => exact spelled (by simp [Place.spelled?, brace])
  | semicolon _ _ separator => exact spelled (by simp [Place.spelled?, separator])
  | rawString _ _ letter _ closed => exact spelled (by simp [Place.spelled?, letter, closed])

/-- Where a waiting scanner refuses, no token is spelled out, and no statement starts on a line of its
own. -/
theorem Waits.startsBlock_of_refused (waits : state.Waits)
    (open_to : ∀ token : External, token.isProduced = true → accepts.accepts token = true)
    (finished : accepts.endContinuation = false)
    (refused : (state.scan accepts p).outcome = .error refusal) : p.startsBlock = false := by
  have unspelled := spelled?_lineHead_of_refused open_to refused
  cases crosses : p.margin.crossesLine with
  | false => simp [Place.startsBlock, unspelled, ← Place.crossesLine_margin, crosses]
  | true =>
      cases starts : continuesAt p.lineHead with
      | true =>
          rw [continuesAt_eq] at starts
          simp [Place.startsBlock, unspelled, starts]
      | false =>
          -- The separator in front of the statement would have been given out.
          have given := scan_of_yields (.aligned waits.settled crosses (waits.indent_eq crosses)
            (open_to .semicolon rfl) finished starts)
          cases refused.symm.trans given.1

end

end State

/-! ## Behind a brace -/

namespace Policy

/-- A line is not unfinished behind an opening brace, by either policy. -/
theorem endContinuation_behind_brace (policy : Policy) {p : Place} {earlier : List Char}
    (behind : p.before = '{' :: earlier) : (policy.acceptance p).endContinuation = false := by
  have outside : isInsideContinuation p = false := by
    rw [isInsideContinuation, behind]
    rfl
  cases policy with
  | permissive => rfl
  | heuristic =>
      rw [acceptance, outside]
      rfl

end Policy

namespace Scan

theorem token?_of_readsBrace {scan : Scan} (reads : scan.readsBrace = true) :
    scan.token? = some .openBrace := by
  have gives_brace := (Bool.and_eq_true_iff.1 reads).1
  exact of_decide_eq_true gives_brace

/-- Behind an opening brace of the text the scanner waits for the level of its block. -/
theorem waits_of_readsBrace {scan : Scan} (reads : scan.readsBrace = true) :
    scan.after.Waits ∧ ∃ earlier, scan.reading.stop.before = '{' :: earlier := by
  have token := token?_of_readsBrace reads
  rcases scan.cases with ⟨given, after, head, stop, gives, left, yields⟩ | ⟨refused, -⟩
  · obtain rfl : given = .openBrace := Option.some.inj (gives.symm.trans token)
    have stop_eq : scan.reading.stop = stop := (State.scan_of_yields yields).2.2
    -- A brace that is owed or inserted has no width, so it was not read.
    have wide := (insertsBrace_of_yields token yields).2
    rw [reads] at wide
    cases yields with
    | owed => simp at wide
    | indent => simp at wide
    | openBrace settled _ brace =>
        refine ⟨⟨by simp [left, settled], by simp [left]⟩, ?_⟩
        rw [stop_eq, (Place.reads_advance brace).before_eq]
        exact ⟨_, rfl⟩
  · cases refused.symm.trans token

/-- `recorder` records the level of the block of `brace`: it finds the state behind the brace, and the level
is that of the text at its own place. If its token closes the block, the level is gone again behind it. -/
structure RecordsFor (recorder brace : Scan) : Prop where
  state_eq : recorder.state = brace.after
  recorded : (recorder.state.recordedAt recorder.place).levels =
    recorder.place.blockLevel :: brace.after.levels
  levels_after : recorder.after.levels =
    if recorder.place.lineHead.lookahead = some '}' then brace.after.levels
    else recorder.place.blockLevel :: brace.after.levels

theorem recordsFor_of_isSome {recorder brace : Scan} (waits : brace.after.Waits)
    (state_eq : recorder.state = brace.after) (gives : recorder.token?.isSome = true) :
    recorder.RecordsFor brace := by
  rw [← state_eq] at waits
  rcases recorder.cases with ⟨token, after, head, stop, -, left, yields⟩ | ⟨refused, -⟩
  · have levels := waits.levels_after yields
    have recorded := waits.levels_recordedAt recorder.place
    rw [← left] at levels
    rw [state_eq] at levels recorded
    exact ⟨state_eq, by rw [state_eq]; exact recorded, levels⟩
  · rw [refused] at gives
    cases gives

end Scan

namespace Place

/-- Behind a margin of layout characters alone, the host skips no other blanks. -/
theorem advanceWhile_isBlank_of_lineHead {p : Place} {c : Char} (next : p.lineHead.lookahead = some c)
    (visible : Text.isBlank c = false) : p.advanceWhile Text.isBlank = p.lineHead := by
  have text : p.lineHead.after = [] ++ c :: p.lineHead.advance.after := lookahead_eq_some_iff.1 next
  rw [← advanceWhile_isBlank_lineHead]
  exact (reads_advanceWhile_of_after_eq text (by simp) visible).unique (reads_nil _)

end Place

namespace Session

/-! ## Scans further on -/

section

variable {config : Config} {p : Place} {state after : State} {token : External} {refusal : Refusal}

/-- From each of its scans on, a session is that which takes up the state there. -/
theorem scansFrom_suffix (room : Checkpoint.headerSize ≤ config.capacity) {scan : Scan}
    {later : List Scan} (p : Place) (state : State) :
    ∀ front, scansFrom config p state = front ++ scan :: later →
      scansFrom config scan.place scan.state = scan :: later := by
  induction p, state using course_induction config with
  | ends p state refusal outcome at_end =>
      intro front parts
      have only := scansFrom_of_end outcome at_end
      rw [only] at parts
      rcases List.cons_eq_append_iff.1 parts with ⟨rfl, here⟩ | ⟨rest, rfl, none_left⟩
      · cases here
        exact only
      · simp at none_left
  | text p state refusal outcome more ih =>
      intro front parts
      have turns := scansFrom_of_text outcome more
      rw [turns] at parts
      -- The scan is that of the first turn, or one of the session behind the chunk.
      rcases List.cons_eq_append_iff.1 parts with ⟨rfl, here⟩ | ⟨rest, rfl, further⟩
      · cases here
        exact turns
      · exact ih rest further
  | token p state token after outcome ih =>
      intro front parts
      have turns := scansFrom_of_token room outcome
      rw [turns] at parts
      rcases List.cons_eq_append_iff.1 parts with ⟨rfl, here⟩ | ⟨rest, rfl, further⟩
      · cases here
        exact turns
      · exact ih rest further

/-- The first scan of a session that gives out a token finds the state as the session took it up. -/
theorem recorder_scansFrom (room : Checkpoint.headerSize ≤ config.capacity) (p : Place) (state : State) :
    match (scansFrom config p state).find? (·.token?.isSome) with
    | none => ∀ scan ∈ scansFrom config p state, scan.after = state
    | some recorder => recorder.state = state ∧ p ≤ recorder.place := by
  induction p, state using course_induction config with
  | ends p state refusal outcome at_end =>
      have refused : Scan.token? ⟨state, p, config.policy.acceptance p⟩ = none :=
        Scan.token?_of_refused outcome
      rw [scansFrom_of_end outcome at_end, List.find?_cons_of_neg (by simp [refused])]
      intro scan member
      rw [List.mem_singleton.1 member]
      exact Scan.after_of_refused outcome
  | text p state refusal outcome more ih =>
      have refused : Scan.token? ⟨state, p, config.policy.acceptance p⟩ = none :=
        Scan.token?_of_refused outcome
      rw [scansFrom_of_text outcome more, List.find?_cons_of_neg (by simp [refused])]
      cases found : (scansFrom config (p.advanceWhile Text.isBlank).chunkEnd state).find?
          (·.token?.isSome) with
      | none =>
          rw [found] at ih
          intro scan member
          rcases List.mem_cons.1 member with rfl | further
          · exact Scan.after_of_refused outcome
          · exact ih scan further
      | some recorder =>
          rw [found] at ih
          have onward : p ≤ (p.advanceWhile Text.isBlank).chunkEnd :=
            Place.le_trans (Place.le_advanceWhile p _) (Place.le_chunkEnd _)
          exact ⟨ih.1, Place.le_trans onward ih.2⟩
  | token p state token after outcome ih =>
      have given : Scan.token? ⟨state, p, config.policy.acceptance p⟩ = some token :=
        Scan.token?_of_outcome outcome
      rw [scansFrom_of_token room outcome, List.find?_cons_of_pos (by simp [given])]
      exact ⟨rfl, Place.le_refl p⟩

/-- Behind a token the session goes on with the state that the token left. -/
theorem eq_scansFrom_of_token {scan : Scan} {later : List Scan}
    (room : Checkpoint.headerSize ≤ config.capacity)
    (suffix : scansFrom config scan.place scan.state = scan :: later)
    (given : scan.token? = some token) : later = scansFrom config scan.reading.stop scan.after := by
  have first : scan.accepts = config.policy.acceptance scan.place := by
    have head := congrArg List.head? suffix
    rw [scansFrom, List.map_cons, List.head?_cons, List.head?_cons] at head
    exact congrArg Scan.accepts (Option.some.inj head).symm
  rcases scan with ⟨state, place, accepts⟩
  obtain rfl : accepts = config.policy.acceptance place := first
  cases outcome : (state.scan (config.policy.acceptance place) place).outcome with
  | error refusal =>
      have refused : Scan.token? ⟨state, place, config.policy.acceptance place⟩ = none :=
        Scan.token?_of_refused outcome
      cases refused.symm.trans given
  | ok decided =>
      rcases decided with ⟨decided, after⟩
      have left : Scan.after ⟨state, place, config.policy.acceptance place⟩ = after :=
        Scan.after_of_outcome outcome
      rw [scansFrom_of_token room outcome] at suffix
      rw [left]
      exact (List.cons.inj suffix).2.symm

end

/-- The level of a brace behind which, with nothing but a margin between, there is some text. If that text is
a token, or starts a statement on a line of its own, then the next scan records its level. If not, then the
first scan further on that gives out a token records the level of the text at its own place, and if there is
no such scan, then no level is recorded. -/
theorem levels_behind_brace {config : Config} (room : Checkpoint.headerSize ≤ config.capacity)
    (source : String) {front later : List Scan} {brace : Scan} {c : Char}
    (run : scansFrom config (.start source.toList) .fresh = front ++ brace :: later)
    (reads : brace.readsBrace = true) (next : brace.reading.stop.lineHead.lookahead = some c)
    (visible : Text.isBlank c = false) :
    if brace.reading.stop.startsBlock then
      ∃ recorder rest, later = recorder :: rest ∧ recorder.place = brace.reading.stop ∧
        recorder.token?.isSome = true ∧ recorder.RecordsFor brace
    else
      match later.find? (·.token?.isSome) with
      | none => ∀ scan ∈ later, scan.after = brace.after
      | some recorder => brace.reading.stop.lineHead.chunkEnd ≤ recorder.place ∧
          recorder.RecordsFor brace := by
  rcases Scan.waits_of_readsBrace reads with ⟨waits, earlier, behind_brace⟩
  have suffix := scansFrom_suffix room _ _ front run
  have turns := eq_scansFrom_of_token room suffix (Scan.token?_of_readsBrace reads)
  generalize brace.reading.stop = behind at next behind_brace turns ⊢
  have more : behind.lineHead.atEnd = false := Place.atEnd_eq_false_of_lookahead next
  cases outcome : (brace.after.scan (config.policy.acceptance behind) behind).outcome with
  | ok given =>
      rcases given with ⟨token, after⟩
      rw [if_pos (waits.startsBlock_of_yields more (State.yields_of_scan outcome))]
      have gives : Scan.token? ⟨brace.after, behind, config.policy.acceptance behind⟩ = some token :=
        Scan.token?_of_outcome outcome
      rw [scansFrom_of_token room outcome] at turns
      exact ⟨_, _, turns, rfl, by simp [gives], Scan.recordsFor_of_isSome waits rfl (by simp [gives])⟩
  | error refusal =>
      have finished := config.policy.endContinuation_behind_brace behind_brace
      have refused : Scan.token? ⟨brace.after, behind, config.policy.acceptance behind⟩ = none :=
        Scan.token?_of_refused outcome
      rw [waits.startsBlock_of_refused (fun _ => config.policy.accepts_acceptance behind) finished outcome,
        if_neg Bool.false_ne_true]
      -- The host reads a chunk at the head of the line, and the brace goes on waiting behind it.
      have skipped := Place.advanceWhile_isBlank_of_lineHead next visible
      rw [← skipped] at more
      rw [scansFrom_of_text outcome more, skipped] at turns
      have recorder := recorder_scansFrom room behind.lineHead.chunkEnd brace.after
      rw [turns, List.find?_cons_of_neg (by simp [refused])]
      cases found : (scansFrom config behind.lineHead.chunkEnd brace.after).find? (·.token?.isSome) with
      | none =>
          rw [found] at recorder
          intro scan member
          rcases List.mem_cons.1 member with rfl | further
          · exact Scan.after_of_refused outcome
          · exact recorder scan further
      | some recording =>
          rw [found] at recorder
          have gives := (List.find?_eq_some_iff_append.1 found).1
          exact ⟨recorder.2, Scan.recordsFor_of_isSome waits recorder.1 gives⟩

/-- Behind the brace stands some text, and then a separator. The scan at the text gives out nothing, so the
level is that of the separator: three, where the text is in column two. -/
theorem levels_behind_brace_chunk :
    let brace : Scan := ⟨.fresh, .start "\x7b x;".toList, .producible⟩
    ∃ later, scansFrom ⟨.permissive, 1024⟩ (.start "\x7b x;".toList) .fresh = [] ++ brace :: later ∧
      brace.readsBrace = true ∧ brace.reading.stop.lineHead.lookahead = some 'x' ∧
      Text.isBlank 'x' = false ∧ brace.reading.stop.blockLevel = 2 ∧
      ∃ recorder, later.find? (·.token?.isSome) = some recorder ∧ recorder.RecordsFor brace ∧
        recorder.place.blockLevel = 3 := by
  intro brace
  have room : Checkpoint.headerSize ≤ 1024 := by decide
  have run : scansFrom ⟨.permissive, 1024⟩ (.start "\x7b x;".toList) .fresh =
      [] ++ brace :: scansFrom ⟨.permissive, 1024⟩ brace.reading.stop brace.after :=
    @scansFrom_of_token ⟨.permissive, 1024⟩ _ _ brace.after .openBrace room rfl
  have level := levels_behind_brace (c := 'x') room "\x7b x;" run rfl rfl rfl
  rw [if_neg (by decide)] at level
  have found : ((scansFrom ⟨.permissive, 1024⟩ brace.reading.stop brace.after).find?
      (·.token?.isSome)).map (·.place.blockLevel) = some 3 := by
    rw [scansFrom, turns_eq_turnsWithin (n := 20) (by decide)]
    decide
  rcases Option.map_eq_some_iff.1 found with ⟨recorder, first, column⟩
  rw [first] at level
  exact ⟨_, run, rfl, rfl, rfl, rfl, recorder, first, level.2, column⟩

/-- What one would expect: for every brace of the run, the level that is recorded is that of the first text
behind it. -/
def RecordsFirstText (config : Config) (source : String) : Prop :=
  ∀ (front later : List Scan) (brace : Scan) (c : Char),
    scansFrom config (.start source.toList) .fresh = front ++ brace :: later → brace.readsBrace = true →
      brace.reading.stop.lineHead.lookahead = some c → Text.isBlank c = false →
        ∃ recorder, later.find? (·.token?.isSome) = some recorder ∧
          (recorder.state.recordedAt recorder.place).levels =
            brace.reading.stop.blockLevel :: brace.after.levels

/-- In the first line of a block, text that is no token does not give the block its level: it is that of the
next line, to the left of the text. -/
theorem not_recordsFirstText_sameLine : ¬ RecordsFirstText ⟨.permissive, 1024⟩ "\x7b x\n y" := by
  intro records
  let brace : Scan := ⟨.fresh, .start "\x7b x\n y".toList, .producible⟩
  have room : Checkpoint.headerSize ≤ 1024 := by decide
  have run : scansFrom ⟨.permissive, 1024⟩ (.start "\x7b x\n y".toList) .fresh =
      [] ++ brace :: scansFrom ⟨.permissive, 1024⟩ brace.reading.stop brace.after :=
    @scansFrom_of_token ⟨.permissive, 1024⟩ _ _ brace.after .openBrace room rfl
  rcases records [] _ brace 'x' run rfl rfl rfl with ⟨recorder, first, level⟩
  have found : ((scansFrom ⟨.permissive, 1024⟩ brace.reading.stop brace.after).find?
      (·.token?.isSome)).map (fun scan => (scan.state.recordedAt scan.place).levels) = some [1] := by
    rw [scansFrom, turns_eq_turnsWithin (n := 20) (by decide)]
    decide
  have column : brace.reading.stop.blockLevel :: brace.after.levels = [2] := rfl
  rw [first, Option.map_some, level, column] at found
  cases found

end Session
end Offside
