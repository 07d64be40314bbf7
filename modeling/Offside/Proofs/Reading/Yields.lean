import Offside.Session.Progress

/-!
# What a scan gives out

A scan looks at what is owed, at the margin, at the line and at the spelling, and each of these can
end it. `State.Yields` lists the ways in which a scan gives out a token, each with all that was
checked on the way and all that the token leaves behind. Main statements:

* `State.yields_iff` — the list is complete, and every way on it is taken.
* `State.isRecoverable_of_scan_eq_error` — a refusal never ends a session.
* `State.le_head_of_yields`, `State.head_le_stop_of_yields` — a token starts behind the place of the
  scan and ends behind its start.
-/

namespace Offside

namespace State

/-- The state behind the margin at `p`: the level of a block that waited for one is recorded. -/
def recordedAt (state : State) (p : Place) : State :=
  state.recordLevel (levelAt p.margin p.lineHead)

/-- What the off-side rule makes of the margin at `p`. It is asked only across a line break. -/
def rulingAt (state : State) (accepts : Acceptance) (p : Place) : LineRuling :=
  if p.margin.crossesLine then
    (state.recordedAt p).ruleLine accepts p.margin.indent p.lineHead
  else
    .defers p.lineHead

/-- Whether the line that starts at `head` goes on with the statement of the line before it. -/
def continuesAt (head : Place) : Bool :=
  ((Opening.ofPlace head).ask head).continues

/-- The state after a dedent to `indent`: the blocks to the right are closed and their tokens owed,
the last separator only if the line starts a statement. -/
def dedent (state : State) (indent : Level) (continues : Bool) : State :=
  let owed := state.owed.addBlocks (UInt32.ofNat (state.levels.countAbove indent))
  { state with
    levels := state.levels.closeAbove indent
    owed := if continues then { owed with dropsLast := true } else owed }

@[simp]
theorem levels_dedent (state : State) (indent : Level) (continues : Bool) :
    (state.dedent indent continues).levels = state.levels.closeAbove indent :=
  rfl

@[simp]
theorem terminated_dedent (state : State) (indent : Level) (continues : Bool) :
    (state.dedent indent continues).terminated = state.terminated :=
  rfl

@[simp]
theorem awaitsLevel_dedent (state : State) (indent : Level) (continues : Bool) :
    (state.dedent indent continues).awaitsLevel = state.awaitsLevel :=
  rfl

@[simp]
theorem terminated_closeExplicitly (state : State) :
    state.closeExplicitly.terminated = state.terminated :=
  rfl

@[simp]
theorem awaitsLevel_closeExplicitly (state : State) :
    state.closeExplicitly.awaitsLevel = state.awaitsLevel :=
  rfl

@[simp]
theorem owed_recordedAt (state : State) (p : Place) : (state.recordedAt p).owed = state.owed :=
  owed_recordLevel state _

@[simp]
theorem terminated_recordedAt (state : State) (p : Place) :
    (state.recordedAt p).terminated = state.terminated :=
  terminated_recordLevel state _

@[simp]
theorem awaitsLevel_recordedAt (state : State) (p : Place) :
    (state.recordedAt p).awaitsLevel = false :=
  awaitsLevel_recordLevel state _

/-! ## The ways to give out a token -/

/-- `state.Yields accepts p token after head stop`: the scan at `p` gives out `token`, which covers
the text from `head` to `stop`, and leaves `after`. -/
inductive Yields (state : State) (accepts : Acceptance) (p : Place) :
    External → State → Place → Place → Prop
  /-- A token that was owed, without width. -/
  | owed {token : External} {owed : Owed} :
      state.owed.next? = some (token, owed) →
      ¬ (token = .closeBrace ∧ owed.isSettled = true ∧ p.lookahead = some '}') →
      Yields state accepts p token { state with owed := owed } p p
  /-- The last token owed is the brace at the place. -/
  | owedBrace {owed : Owed} :
      state.owed.next? = some (.closeBrace, owed) →
      owed.isSettled = true →
      p.lookahead = some '}' →
      Yields state accepts p .closeBrace { state with owed := owed } p p.advance
  /-- A line further to the right than the innermost block. -/
  | indent :
      state.owed.next? = none →
      p.margin.crossesLine = true →
      (state.recordedAt p).levels.innermost < p.margin.indent →
      accepts.openBrace = true →
      accepts.endContinuation = false →
      p.lineHead.atEnd = false →
      continuesAt p.lineHead = false →
      Yields state accepts p .openBrace
        { state.recordedAt p with levels := p.margin.indent :: (state.recordedAt p).levels }
        p.lineHead p.lineHead
  /-- A line at the column of the innermost block. -/
  | aligned :
      state.owed.next? = none →
      p.margin.crossesLine = true →
      p.margin.indent = (state.recordedAt p).levels.innermost →
      accepts.semicolon = true →
      accepts.endContinuation = false →
      continuesAt p.lineHead = false →
      Yields state accepts p .semicolon (state.recordedAt p) p.lineHead p.lineHead
  /-- A line further to the left than the innermost block. -/
  | dedent :
      state.owed.next? = none →
      p.margin.crossesLine = true →
      p.margin.indent < (state.recordedAt p).levels.innermost →
      accepts.semicolon = true →
      p.lineHead.lookahead ≠ some '}' →
      Yields state accepts p .semicolon
        ((state.recordedAt p).dedent p.margin.indent (continuesAt p.lineHead))
        p.lineHead p.lineHead
  /-- The terminator at the end of the text. -/
  | terminator :
      state.owed.next? = none →
      state.rulingAt accepts p = .defers p.lineHead →
      p.lineHead.atEnd = true →
      state.terminated = false →
      Yields state accepts p .semicolon { state.recordedAt p with terminated := true }
        p.lineHead p.lineHead
  | openBrace :
      state.owed.next? = none →
      state.rulingAt accepts p = .defers p.lineHead →
      p.lineHead.lookahead = some '{' →
      accepts.openBrace = true →
      Yields state accepts p .openBrace { state.recordedAt p with awaitsLevel := true }
        p.lineHead p.lineHead.advance
  /-- The separator in front of an explicit closing brace, which is owed from here on. -/
  | closeBrace :
      state.owed.next? = none →
      state.rulingAt accepts p = .defers p.lineHead →
      p.lineHead.lookahead = some '}' →
      accepts.closeBrace = true →
      Yields state accepts p .semicolon (state.recordedAt p).closeExplicitly p.lineHead p.lineHead
  | semicolon :
      state.owed.next? = none →
      state.rulingAt accepts p = .defers p.lineHead →
      p.lineHead.lookahead = some ';' →
      accepts.semicolon = true →
      Yields state accepts p .semicolon (state.recordedAt p) p.lineHead p.lineHead.advance
  | rawString {stop : Place} :
      state.owed.next? = none →
      state.rulingAt accepts p = .defers p.lineHead →
      p.lineHead.lookahead = some 'r' →
      accepts.rawString = true →
      RawLiteral.read p.lineHead = .closed stop →
      Yields state accepts p .rawString (state.recordedAt p) p.lineHead stop

/-! ## Every token is given out in one of these ways -/

/-- A scan that owes nothing asks the off-side rule, and goes on where the rule defers. -/
theorem readText_eq (state : State) (accepts : Acceptance) (p : Place) :
    state.readText accepts p =
      match state.rulingAt accepts p with
      | .produces token after reached notices =>
          .inserted token after p.lineHead reached notices
      | .continues reached => .refused .lineContinues p.lineHead reached
      | .defers here => (state.recordedAt p).readHead accepts p.lineHead here :=
  rfl

theorem isAmbiguous_ofPlace_of_atEnd {head : Place} (h : head.atEnd = true) :
    (Opening.ofPlace head).isAmbiguous = false := by
  have nothing : head.after = [] := Place.atEnd_iff.1 h
  simp [Opening.ofPlace, Place.lookahead, nothing, Opening.ofCertainty, Opening.isAmbiguous]

/-- Where the rule defers to a line that opens unambiguously, nothing was read of the line. -/
theorem eq_lineHead_of_rulingAt_eq_defers {state : State} {accepts : Acceptance} {p here : Place}
    (h : state.rulingAt accepts p = .defers here)
    (decided : (Opening.ofPlace p.lineHead).isAmbiguous = false) : here = p.lineHead := by
  by_cases crosses : p.margin.crossesLine = true
  · have ruling : (state.recordedAt p).ruleLine accepts p.margin.indent p.lineHead = .defers here := by
      simpa [rulingAt, crosses] using h
    exact eq_of_ruleLine_eq_defers ruling decided
  · have same : p.lineHead = here := by
      simpa [rulingAt, crosses] using h
    exact same.symm

section

variable {state after : State} {accepts : Acceptance} {p reached : Place} {token : External}
  {notices : List Notice} (settled : state.owed.next? = none)

include settled

theorem yields_of_ruleIndent (crosses : p.margin.crossesLine = true)
    (deeper : (state.recordedAt p).levels.innermost < p.margin.indent)
    (h : (state.recordedAt p).ruleIndent accepts p.margin.indent p.lineHead =
      .produces token after reached notices) :
    state.Yields accepts p token after p.lineHead p.lineHead := by
  simp only [ruleIndent] at h
  split at h
  next checks =>
    simp only [Bool.and_eq_true, Bool.not_eq_true'] at checks
    split at h
    · cases h
    next starts =>
      cases h
      exact .indent settled crosses deeper checks.1.1 checks.1.2 checks.2
        (by simpa [continuesAt] using starts)
  · cases h

theorem yields_of_ruleAligned (crosses : p.margin.crossesLine = true)
    (same : p.margin.indent = (state.recordedAt p).levels.innermost)
    (h : (state.recordedAt p).ruleAligned accepts p.lineHead =
      .produces token after reached notices) :
    state.Yields accepts p token after p.lineHead p.lineHead := by
  simp only [ruleAligned] at h
  split at h
  next checks =>
    simp only [Bool.and_eq_true, Bool.not_eq_true'] at checks
    split at h
    · cases h
    next starts =>
      cases h
      exact .aligned settled crosses same checks.1.1 checks.1.2
        (by simpa [continuesAt] using starts)
  · cases h

theorem yields_of_ruleDedent (crosses : p.margin.crossesLine = true)
    (left : p.margin.indent < (state.recordedAt p).levels.innermost)
    (h : (state.recordedAt p).ruleDedent accepts p.margin.indent p.lineHead =
      .produces token after reached notices) :
    state.Yields accepts p token after p.lineHead p.lineHead := by
  simp only [ruleDedent] at h
  split at h
  next checks =>
    simp only [Bool.and_eq_true, bne_iff_ne] at checks
    cases h
    exact .dedent settled crosses left checks.1 checks.2
  · cases h

theorem yields_of_rulingAt_eq_produces
    (h : state.rulingAt accepts p = .produces token after reached notices) :
    state.Yields accepts p token after p.lineHead p.lineHead := by
  -- Within a line the rule is not asked, so it produces nothing there.
  have crosses : p.margin.crossesLine = true := by
    cases crosses : p.margin.crossesLine with
    | true => rfl
    | false => simp [rulingAt, crosses] at h
  have ruling : (state.recordedAt p).ruleLine accepts p.margin.indent p.lineHead =
      .produces token after reached notices := by
    simpa [rulingAt, crosses] using h
  simp only [ruleLine] at ruling
  split at ruling
  next deeper => exact yields_of_ruleIndent settled crosses deeper ruling
  next not_deeper =>
    split at ruling
    next same => exact yields_of_ruleAligned settled crosses same ruling
    next different =>
      have left : p.margin.indent < (state.recordedAt p).levels.innermost :=
        UInt32.lt_of_le_of_ne (UInt32.not_lt.1 not_deeper) different
      exact yields_of_ruleDedent settled crosses left ruling

end

theorem yields_of_readSpelled {state after : State} {accepts : Acceptance} {p : Place}
    {token : External} (settled : state.owed.next? = none)
    (defers : state.rulingAt accepts p = .defers p.lineHead)
    (h : ((state.recordedAt p).readSpelled accepts p.lineHead p.lineHead).outcome =
      .ok (token, after)) :
    state.Yields accepts p token after p.lineHead
      ((state.recordedAt p).readSpelled accepts p.lineHead p.lineHead).stop := by
  generalize reading_eq : (state.recordedAt p).readSpelled accepts p.lineHead p.lineHead = reading
    at h ⊢
  -- One case for each character that a token is spelled with, and one for all others.
  simp only [readSpelled] at reading_eq
  split at reading_eq
  next brace =>
    split at reading_eq
    next accepted =>
      simp only [awaitLevel, awaitsLevel_recordedAt] at reading_eq
      subst reading_eq
      cases h
      exact .openBrace settled defers brace accepted
    · subst reading_eq
      cases h
  next brace =>
    split at reading_eq
    next accepted =>
      subst reading_eq
      cases h
      exact .closeBrace settled defers brace accepted
    · subst reading_eq
      cases h
  next separator =>
    split at reading_eq
    next accepted =>
      subst reading_eq
      cases h
      exact .semicolon settled defers separator accepted
    · subst reading_eq
      cases h
  next letter =>
    split at reading_eq
    next accepted =>
      split at reading_eq
      next closed =>
        subst reading_eq
        cases h
        exact .rawString settled defers letter accepted closed
      · subst reading_eq
        cases h
      · subst reading_eq
        cases h
    · subst reading_eq
      cases h
  next =>
    subst reading_eq
    cases h

theorem yields_of_readHead {state after : State} {accepts : Acceptance} {p here : Place}
    {token : External} (settled : state.owed.next? = none)
    (defers : state.rulingAt accepts p = .defers here)
    (h : ((state.recordedAt p).readHead accepts p.lineHead here).outcome = .ok (token, after)) :
    state.Yields accepts p token after p.lineHead
      ((state.recordedAt p).readHead accepts p.lineHead here).stop := by
  simp only [readHead, terminated_recordedAt] at h ⊢
  split at h
  next ends =>
    simp only [Bool.and_eq_true, Bool.not_eq_true'] at ends
    have unread : here = p.lineHead :=
      eq_lineHead_of_rulingAt_eq_defers defers (isAmbiguous_ofPlace_of_atEnd ends.1)
    subst unread
    cases h
    simpa [ends, Reading.inserted] using Yields.terminator settled defers ends.1 ends.2
  next goes_on =>
    rw [if_neg goes_on]
    split at h
    · cases h
    -- No token is spelled with an ambiguous lead, so the rule has read nothing of the line.
    next decided =>
      have unread : here = p.lineHead :=
        eq_lineHead_of_rulingAt_eq_defers defers (by simpa using decided)
      subst unread
      simpa [decided] using yields_of_readSpelled settled defers h

/-- A scan that gives out a token does so in one of the listed ways. -/
theorem yields_of_scan {state after : State} {accepts : Acceptance} {p : Place} {token : External}
    (h : (state.scan accepts p).outcome = .ok (token, after)) :
    state.Yields accepts p token after (state.scan accepts p).head (state.scan accepts p).stop := by
  change (state.read accepts p).outcome = _ at h
  change state.Yields accepts p token after (state.read accepts p).head (state.read accepts p).stop
  cases next : state.owed.next? with
  | some paid =>
      rcases paid with ⟨given, rest⟩
      simp only [read, next, readOwed, Reading.spelled] at h ⊢
      cases h
      split
      next covers =>
        rcases covers with ⟨rfl, settled, brace⟩
        exact .owedBrace next settled brace
      next bare =>
        exact .owed next bare
  | none =>
      simp only [read, next, readText_eq] at h ⊢
      cases ruling : state.rulingAt accepts p with
      | produces given left reached notices =>
          simp only [ruling, Reading.inserted] at h ⊢
          cases h
          exact yields_of_rulingAt_eq_produces next ruling
      | «continues» reached =>
          simp only [ruling, Reading.refused] at h
          cases h
      | defers here =>
          simp only [ruling] at h ⊢
          have head_eq : ((state.recordedAt p).readHead accepts p.lineHead here).head =
              p.lineHead := by
            simp only [readHead, readSpelled]
            repeat' split
            all_goals rfl
          rw [head_eq]
          exact yields_of_readHead next ruling h

/-! ## Every one of these ways is taken -/

theorem rulingAt_of_crossesLine {state : State} {accepts : Acceptance} {p : Place}
    (crosses : p.margin.crossesLine = true) :
    state.rulingAt accepts p =
      (state.recordedAt p).ruleLine accepts p.margin.indent p.lineHead := by
  simp [rulingAt, crosses]

theorem scan_of_settled {state : State} (accepts : Acceptance) (p : Place)
    (settled : state.owed.next? = none) :
    (state.scan accepts p).outcome = (state.readText accepts p).outcome ∧
      (state.scan accepts p).head = (state.readText accepts p).head ∧
      (state.scan accepts p).stop = (state.readText accepts p).stop := by
  simp [scan, read, settled]

theorem scan_of_rulingAt_eq_produces {state after : State} {accepts : Acceptance}
    {p reached : Place} {token : External} {notices : List Notice}
    (settled : state.owed.next? = none)
    (h : state.rulingAt accepts p = .produces token after reached notices) :
    (state.scan accepts p).outcome = .ok (token, after) ∧
      (state.scan accepts p).head = p.lineHead ∧ (state.scan accepts p).stop = p.lineHead := by
  have same := scan_of_settled accepts p settled
  simp only [readText_eq, h, Reading.inserted] at same
  exact same

theorem scan_of_rulingAt_eq_defers {state : State} {accepts : Acceptance} {p here : Place}
    (settled : state.owed.next? = none) (h : state.rulingAt accepts p = .defers here) :
    (state.scan accepts p).outcome =
        ((state.recordedAt p).readHead accepts p.lineHead here).outcome ∧
      (state.scan accepts p).head =
        ((state.recordedAt p).readHead accepts p.lineHead here).head ∧
      (state.scan accepts p).stop =
        ((state.recordedAt p).readHead accepts p.lineHead here).stop := by
  have same := scan_of_settled accepts p settled
  simp only [readText_eq, h] at same
  exact same

/-- A spelled token is looked for as soon as the character at the head is not an ambiguous lead. -/
theorem readHead_of_lookahead {state : State} {accepts : Acceptance} {head : Place} {c : Char}
    (here : head.lookahead = some c) (decided : Certainty.ofChar? c ≠ some .ambiguous) :
    state.readHead accepts head head = state.readSpelled accepts head head := by
  have more : head.atEnd = false := Place.atEnd_eq_false_of_lookahead here
  have unambiguous : (Opening.ofPlace head).isAmbiguous = false := by
    simp only [Opening.ofPlace, here, Option.bind_some]
    cases certainty : Certainty.ofChar? c with
    | none => rfl
    | some answer =>
        cases answer with
        | immediate => rfl
        | ambiguous => exact absurd certainty decided
  simp [readHead, more, unambiguous]

/-- The scan gives out what `Yields` says. -/
theorem scan_of_yields {state after : State} {accepts : Acceptance} {p head stop : Place}
    {token : External} (h : state.Yields accepts p token after head stop) :
    (state.scan accepts p).outcome = .ok (token, after) ∧
      (state.scan accepts p).head = head ∧ (state.scan accepts p).stop = stop := by
  cases h with
  | owed next bare =>
      simp [scan, read, next, readOwed, Reading.spelled, bare]
  | owedBrace next settled brace =>
      simp [scan, read, next, readOwed, Reading.spelled, settled, brace]
  | indent settled crosses deeper accepted outside more starts =>
      apply scan_of_rulingAt_eq_produces settled
      rw [rulingAt_of_crossesLine crosses]
      have starts' : ((Opening.ofPlace p.lineHead).ask p.lineHead).continues = false := starts
      simp only [ruleLine, deeper, if_true, ruleIndent, accepted, outside, more, starts',
        Bool.not_false, Bool.and_self, Bool.false_eq_true, if_false]
      rfl
  | aligned settled crosses same accepted outside starts =>
      apply scan_of_rulingAt_eq_produces settled
      rw [rulingAt_of_crossesLine crosses]
      have starts' : ((Opening.ofPlace p.lineHead).ask p.lineHead).continues = false := starts
      -- An immediate lead would have answered that the line continues.
      have undecided : Opening.ofPlace p.lineHead ≠ .continuation := by
        intro continuation
        simp [continuation, Opening.ask] at starts'
      simp only [ruleLine, same, UInt32.lt_irrefl, if_false, if_true, ruleAligned, accepted,
        outside, bne_iff_ne.2 undecided, starts', Bool.not_false, Bool.and_self,
        Bool.false_eq_true]
      rfl
  | dedent settled crosses left accepted open_brace =>
      apply scan_of_rulingAt_eq_produces settled
      rw [rulingAt_of_crossesLine crosses]
      have not_deeper : ¬ (state.recordedAt p).levels.innermost < p.margin.indent :=
        UInt32.lt_asymm left
      have different : ¬ p.margin.indent = (state.recordedAt p).levels.innermost :=
        UInt32.ne_of_lt left
      simp only [ruleLine, not_deeper, if_false, different, ruleDedent, accepted,
        bne_iff_ne.2 open_brace, Bool.and_self, if_true]
      rfl
  | terminator settled defers ends open_end =>
      have same := scan_of_rulingAt_eq_defers settled defers
      simpa [readHead, ends, open_end, Reading.inserted] using same
  | openBrace settled defers brace accepted =>
      have same := scan_of_rulingAt_eq_defers settled defers
      rw [readHead_of_lookahead brace (by decide)] at same
      simpa [readSpelled, brace, accepted, awaitLevel, Reading.spelled] using same
  | closeBrace settled defers brace accepted =>
      have same := scan_of_rulingAt_eq_defers settled defers
      rw [readHead_of_lookahead brace (by decide)] at same
      simpa [readSpelled, brace, accepted, Reading.inserted] using same
  | semicolon settled defers separator accepted =>
      have same := scan_of_rulingAt_eq_defers settled defers
      rw [readHead_of_lookahead separator (by decide)] at same
      simpa [readSpelled, separator, accepted, Reading.spelled] using same
  | rawString settled defers letter accepted closed =>
      have same := scan_of_rulingAt_eq_defers settled defers
      rw [readHead_of_lookahead letter (by decide)] at same
      simpa [readSpelled, letter, accepted, closed, Reading.spelled] using same

/-- The scan at `p` gives out `token` and leaves `after` exactly if it does so in one of the listed
ways. -/
theorem yields_iff {state after : State} {accepts : Acceptance} {p head stop : Place}
    {token : External} :
    state.Yields accepts p token after head stop ↔
      (state.scan accepts p).outcome = .ok (token, after) ∧
        (state.scan accepts p).head = head ∧ (state.scan accepts p).stop = stop := by
  constructor
  · exact scan_of_yields
  · rintro ⟨outcome, rfl, rfl⟩
    exact yields_of_scan outcome

/-- A debt that is due is paid before anything else. -/
theorem eq_of_yields_of_due {state after : State} {accepts : Acceptance} {p head stop : Place}
    {token given : External} {rest : Owed} (due : state.owed.next? = some (given, rest))
    (yields : state.Yields accepts p token after head stop) :
    token = given ∧ after = { state with owed := rest } ∧ head = p ∧
      stop = if given = .closeBrace ∧ rest.isSettled ∧ p.lookahead = some '}' then p.advance
        else p := by
  rcases scan_of_yields yields with ⟨outcome, rfl, rfl⟩
  simp only [scan, read, due, readOwed, Reading.spelled] at outcome
  cases outcome
  simp [scan, read, due, readOwed, Reading.spelled]

/-! ## Where a token lies -/

theorem le_lineHead (p : Place) : p ≤ p.lineHead :=
  Place.le_advanceWhile p _

theorem le_head_of_yields {state after : State} {accepts : Acceptance} {p head stop : Place}
    {token : External} (h : state.Yields accepts p token after head stop) : p ≤ head := by
  cases h with
  | owed => exact Place.le_refl p
  | owedBrace => exact Place.le_refl p
  | _ => exact le_lineHead p

theorem head_le_stop_of_yields {state after : State} {accepts : Acceptance} {p head stop : Place}
    {token : External} (h : state.Yields accepts p token after head stop) : head ≤ stop := by
  cases h with
  | owedBrace => exact Place.le_advance p
  | openBrace => exact Place.le_advance _
  | semicolon => exact Place.le_advance _
  | rawString _ _ _ _ closed =>
      exact Place.le_trans (Place.le_advance _) (RawLiteral.advance_le_of_read_eq_closed closed)
  | _ => exact Place.le_refl _

/-! ## Refusals -/

/-- A scan refuses where it has no way to give out a token. -/
theorem exists_refusal_of_not_yields {state : State} {accepts : Acceptance} {p : Place}
    (none_given : ∀ token after head stop, ¬ state.Yields accepts p token after head stop) :
    ∃ refusal, (state.scan accepts p).outcome = .error refusal := by
  cases outcome : (state.scan accepts p).outcome with
  | error refusal => exact ⟨refusal, rfl⟩
  | ok given => exact absurd (yields_of_scan outcome) (none_given _ _ _ _)

/-- No refusal ends a session: the level of the block before is always recorded by the time the
next opening brace is read. -/
theorem isRecoverable_of_scan_eq_error {state : State} {accepts : Acceptance} {p : Place}
    {refusal : Refusal} (h : (state.scan accepts p).outcome = .error refusal) :
    refusal.isRecoverable = true := by
  change (state.read accepts p).outcome = _ at h
  cases next : state.owed.next? with
  | some paid =>
      simp only [read, next, readOwed, Reading.spelled] at h
      cases h
  | none =>
      simp only [read, next, readText_eq] at h
      cases ruling : state.rulingAt accepts p with
      | produces given left reached notices =>
          simp only [ruling, Reading.inserted] at h
          cases h
      | «continues» reached =>
          simp only [ruling, Reading.refused] at h
          cases h
          rfl
      | defers here =>
          simp only [ruling, readHead] at h
          -- Only a spelled brace could find an earlier brace without its level.
          have armed : (state.recordedAt p).awaitLevel =
              .ok { state.recordedAt p with awaitsLevel := true } := by
            simp [awaitLevel]
          simp only [readSpelled, armed] at h
          repeat' split at h
          all_goals cases h
          all_goals rfl

end State

end Offside
