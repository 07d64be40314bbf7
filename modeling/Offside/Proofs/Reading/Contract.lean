import Mathlib.Data.List.TakeWhile
import Offside.Cursor
import Offside.Proofs.Place.Reads
import Offside.Proofs.Session.Ending
import Offside.Proofs.Session.Tiling

/-!
# What a host can be handed

A host that lists the tokens it can take is not always handed one of them. Three kinds of tokens come
out whether they are listed or not: those that are owed, the terminator, and the separator in front of
an explicit closing brace, which comes for the sake of the brace. Main definitions and statements:

* `Cursor.Takes` — an attempt of the host that takes a token.
* `Cursor.EndsInput`, `Cursor.AnnouncesBrace` — the two exceptions for a scanner that owes nothing.
* `Cursor.token_of_takes` — there are no others, and what can still come without width where the host
  calls its line unfinished.
-/

namespace Offside

namespace Cursor

/-- The attempt at `cursor` takes `token`, which covers `span`; it leaves the scanner in `after`, and
the cursor `behind` the token, where the next attempt begins. -/
structure Takes (cursor : Cursor) (state : State) (accepts : Acceptance) (token : External)
    (after : State) (span : Span) (behind : Cursor) : Prop where
  outcome_eq : (cursor.attempt state accepts).1.outcome = .ok (token, after)
  taken_eq : (cursor.attempt state accepts).2 = (some span, behind)

/-- The attempt is the terminator: nothing but a margin is left, and it was not given out before. -/
structure EndsInput (cursor : Cursor) (state : State) (token : External) (after : State) : Prop where
  token_eq : token = .semicolon
  margin_left : ∀ c ∈ cursor.here.after, Margin.isMarginChar c = true
  was_open : state.terminated = false
  is_terminated : after.terminated = true

/-- The attempt is the separator in front of an explicit closing brace that the host can take: the next
attempt, whatever it accepts, takes that very brace. -/
structure AnnouncesBrace (cursor : Cursor) (accepts : Acceptance) (token : External) (after : State)
    (span : Span) (behind : Cursor) : Prop where
  token_eq : token = .semicolon
  span_isEmpty : span.isEmpty = true
  brace : cursor.here.lineHead.lookahead = some '}'
  accepted : accepts.closeBrace = true
  next_takes : ∀ other : Acceptance, ∃ last next,
    behind.Takes after other .closeBrace last
      ⟨cursor.here.lineHead.offset, cursor.here.lineHead.offset + 1⟩ next

/-- The place is at the head of a line to the left of the innermost block. -/
structure StandsLeft (cursor : Cursor) (state : State) : Prop where
  crosses : cursor.here.margin.crossesLine = true
  left : cursor.here.margin.indent < state.levels.innermost

/-! ## Attempts and scans -/

/-- An attempt takes what the scan gives out. -/
theorem takes_of_yields {cursor : Cursor} {state after : State} {accepts : Acceptance}
    {token : External} {head stop : Place}
    (yields : state.Yields accepts cursor.here token after head stop) :
    cursor.Takes state accepts token after ⟨head.offset, stop.offset⟩ (.ofPlace stop) := by
  rcases State.scan_of_yields yields with ⟨outcome, head_eq, stop_eq⟩
  have in_order : head.offset ≤ stop.offset :=
    Place.offset_le_of_le (State.head_le_stop_of_yields yields)
  -- The attempt has just begun, so its token starts where the scan says, skipped margin or not.
  have start : (if head.offset = cursor.here.offset then cursor.here else head).offset =
      head.offset := by
    split
    next same => exact same.symm
    next => rfl
  constructor
  · simp only [attempt, begin, scan, ofPlace, outcome]
  · simp only [attempt, begin, scan, ofPlace, outcome, commit, span, Cursor.stop, Option.getD_some,
      head_eq, stop_eq, start, Nat.min_eq_left in_order]

/-- What an attempt takes, the scan has given out. -/
theorem exists_yields_of_takes {cursor behind : Cursor} {state after : State} {accepts : Acceptance}
    {token : External} {span : Span} (takes : cursor.Takes state accepts token after span behind) :
    ∃ head stop, state.Yields accepts cursor.here token after head stop ∧
      span = ⟨head.offset, stop.offset⟩ ∧ behind = .ofPlace stop := by
  have outcome : (state.scan accepts cursor.here).outcome = .ok (token, after) := by
    have given := takes.outcome_eq
    simp only [attempt, begin, scan, ofPlace] at given
    split at given <;> exact given
  have yields := State.yields_of_scan outcome
  have taken := (takes_of_yields yields).taken_eq
  rw [takes.taken_eq] at taken
  cases taken
  exact ⟨_, _, yields, rfl, rfl⟩

/-! ## The exceptions -/

section

variable {cursor : Cursor} {state : State} {accepts : Acceptance}

/-- A brace that alone is owed is taken off the text in front of which it is owed. -/
theorem exists_takes_of_isLoneClose (lone : state.owed.isLoneClose = true)
    (brace : cursor.here.lookahead = some '}') :
    ∃ last next, cursor.Takes state accepts .closeBrace last
      ⟨cursor.here.offset, cursor.here.offset + 1⟩ next := by
  have due : state.owed.next? ≠ none := by
    rw [Ne, Owed.next?_eq_none_iff]
    intro settled
    rw [Owed.isLoneClose_eq_false_of_count settled] at lone
    cases lone
  rcases Option.ne_none_iff_exists'.1 due with ⟨⟨token, rest⟩, next⟩
  rcases Owed.next?_of_isLoneClose lone next with ⟨rfl, settled⟩
  have takes : cursor.Takes state accepts .closeBrace _ _ _ :=
    takes_of_yields (.owedBrace next settled brace)
  rw [(Place.reads_advance brace).offset_eq] at takes
  exact ⟨_, _, takes⟩

theorem endsInput_of_lineHead (ends : cursor.here.lineHead.atEnd = true)
    (was_open : state.terminated = false) :
    cursor.EndsInput state .semicolon { state.recordedAt cursor.here with terminated := true } := by
  have nothing : cursor.here.after.dropWhile Margin.isMarginChar = [] := by
    rw [← Place.after_advanceWhile]
    exact Place.atEnd_iff.1 ends
  exact ⟨rfl, List.dropWhile_eq_nil_iff.1 nothing, was_open, rfl⟩

theorem announcesBrace_of_lineHead (settled : state.owed.next? = none)
    (brace : cursor.here.lineHead.lookahead = some '}') (accepted : accepts.closeBrace = true) :
    cursor.AnnouncesBrace accepts .semicolon (state.recordedAt cursor.here).closeExplicitly
      ⟨cursor.here.lineHead.offset, cursor.here.lineHead.offset⟩ (.ofPlace cursor.here.lineHead) := by
  have nothing : (state.recordedAt cursor.here).owed.count = 0 := by
    rw [State.owed_recordedAt]
    exact (Owed.next?_eq_none_iff _).1 settled
  have lone : (state.recordedAt cursor.here).closeExplicitly.owed.isLoneClose = true := by
    rcases State.owed_closeExplicitly nothing with ⟨closes, separators⟩
    simp [Owed.isLoneClose, closes, separators]
  refine ⟨rfl, by simp, brace, accepted, ?_⟩
  intro other
  exact @exists_takes_of_isLoneClose (.ofPlace cursor.here.lineHead) _ other lone brace

/-- A line to the left of the innermost block has the scanner wait for no level: the block in front of
such a line would have had to start on it. -/
theorem standsLeft_of_recordedAt (crosses : cursor.here.margin.crossesLine = true)
    (left : cursor.here.margin.indent < (state.recordedAt cursor.here).levels.innermost) :
    cursor.StandsLeft state := by
  refine ⟨crosses, ?_⟩
  cases awaits : state.awaitsLevel with
  | false => simpa [State.recordedAt, State.recordLevel, awaits] using left
  | true =>
      -- The level recorded for the block is that of the line itself.
      simp [State.recordedAt, State.recordLevel, awaits, State.levelAt, crosses, Levels.innermost]
        at left

end

/-! ## The contract -/

/-- A scanner that owes nothing gives out what is accepted, or one of the two exceptions. -/
theorem accepts_or_of_yields {cursor : Cursor} {state after : State} {accepts : Acceptance}
    {token : External} {head stop : Place} (settled : state.owed.next? = none)
    (yields : state.Yields accepts cursor.here token after head stop) :
    accepts.accepts token = true ∨ cursor.EndsInput state token after ∨
      cursor.AnnouncesBrace accepts token after ⟨head.offset, stop.offset⟩ (.ofPlace stop) := by
  cases yields with
  | owed next => cases settled.symm.trans next
  | owedBrace next => cases settled.symm.trans next
  | indent _ _ _ accepted => exact .inl accepted
  | aligned _ _ _ accepted => exact .inl accepted
  | dedent _ _ _ accepted => exact .inl accepted
  | terminator _ _ ends was_open => exact .inr (.inl (endsInput_of_lineHead ends was_open))
  | openBrace _ _ _ accepted => exact .inl accepted
  | closeBrace _ _ brace accepted =>
      exact .inr (.inr (announcesBrace_of_lineHead settled brace accepted))
  | semicolon _ _ _ accepted => exact .inl accepted
  | rawString _ _ _ accepted => exact .inl accepted

/-- Where the host calls its line unfinished, a token without width is an exception or comes from a line
to the left of the innermost block. It is a separator in each case. -/
theorem semicolon_of_yields_of_endContinuation {cursor : Cursor} {state after : State}
    {accepts : Acceptance} {token : External} {head stop : Place}
    (settled : state.owed.next? = none) (unfinished : accepts.endContinuation = true)
    (yields : state.Yields accepts cursor.here token after head stop)
    (without_width : stop.offset ≤ head.offset) :
    token = .semicolon ∧ (cursor.EndsInput state token after ∨
      cursor.AnnouncesBrace accepts token after ⟨head.offset, stop.offset⟩ (.ofPlace stop) ∨
      cursor.StandsLeft state) := by
  have reads_on {c : Char} (next : cursor.here.lineHead.lookahead = some c) :
      ¬ cursor.here.lineHead.advance.offset ≤ cursor.here.lineHead.offset :=
    Nat.not_le.2 (Place.offset_lt_advance next)
  cases yields with
  | owed next => cases settled.symm.trans next
  | owedBrace next => cases settled.symm.trans next
  | indent _ _ _ _ finished => cases finished.symm.trans unfinished
  | aligned _ _ _ _ finished => cases finished.symm.trans unfinished
  | dedent _ crosses left => exact ⟨rfl, .inr (.inr (standsLeft_of_recordedAt crosses left))⟩
  | terminator _ _ ends was_open => exact ⟨rfl, .inl (endsInput_of_lineHead ends was_open)⟩
  | openBrace _ _ brace => exact absurd without_width (reads_on brace)
  | closeBrace _ _ brace accepted =>
      exact ⟨rfl, .inr (.inl (announcesBrace_of_lineHead settled brace accepted))⟩
  | semicolon _ _ separator => exact absurd without_width (reads_on separator)
  | rawString _ _ letter _ closed =>
      have onward := Place.offset_le_of_le (RawLiteral.advance_le_of_read_eq_closed closed)
      exact absurd (Nat.le_trans onward without_width) (reads_on letter)

/-- What an attempt takes is never the signal for unfinished lines. It is the next token that was owed,
or a token that the host accepts, or one of the two exceptions. Where the host calls its line unfinished
and nothing was owed, no brace is inserted, and a separator only as an exception or in front of a line
to the left of the innermost block. -/
theorem token_of_takes (cursor : Cursor) (state : State) (accepts : Acceptance) :
    ∀ token after span behind, cursor.Takes state accepts token after span behind →
      token ≠ .endContinuation ∧
      ((∃ owed, state.owed.next? = some (token, owed)) ∨ accepts.accepts token = true ∨
        cursor.EndsInput state token after ∨
        cursor.AnnouncesBrace accepts token after span behind) ∧
      (accepts.endContinuation = true → state.owed.isSettled = true →
        (token = .openBrace → span.isEmpty = false) ∧
        (token = .semicolon → span.isEmpty = true →
          cursor.EndsInput state token after ∨
          cursor.AnnouncesBrace accepts token after span behind ∨ cursor.StandsLeft state)) := by
  intro token after span behind takes
  rcases exists_yields_of_takes takes with ⟨head, stop, yields, rfl, rfl⟩
  refine ⟨?_, ?_, ?_⟩
  · rcases State.reads_stop_of_yields yields with ⟨chars, _, admitted⟩
    rintro rfl
    exact admitted
  · cases next : state.owed.next? with
    | none => exact .inr (accepts_or_of_yields next yields)
    | some paid =>
        rcases paid with ⟨due, owed⟩
        rcases State.eq_of_yields_of_due next yields with ⟨rfl, _⟩
        exact .inl ⟨owed, rfl⟩
  · intro unfinished settled
    have nothing : state.owed.next? = none :=
      (Owed.next?_eq_none_iff _).2 ((Owed.isSettled_iff_count _).1 settled)
    have exceptional := semicolon_of_yields_of_endContinuation nothing unfinished yields
    constructor
    · rintro rfl
      cases empty : (Span.mk head.offset stop.offset).isEmpty with
      | false => rfl
      | true => cases (exceptional ((Span.isEmpty_iff _).1 empty)).1
    · intro _ empty
      exact (exceptional ((Span.isEmpty_iff _).1 empty)).2

/-- A line with a stray closing brace in front of which a separator was not asked for. -/
theorem token_of_takes_stray :
    (Cursor.ofPlace (.start ['\n', '}'])).Takes .fresh { closeBrace := true, endContinuation := true }
        .semicolon { owed := { closes := 1 } } ⟨1, 1⟩ (.ofPlace (.advance (.start ['\n', '}']))) ∧
      (Cursor.ofPlace (.start ['\n', '}'])).AnnouncesBrace
        { closeBrace := true, endContinuation := true } .semicolon { owed := { closes := 1 } } ⟨1, 1⟩
        (.ofPlace (.advance (.start ['\n', '}']))) := by
  have takes : (Cursor.ofPlace (.start ['\n', '}'])).Takes .fresh
      { closeBrace := true, endContinuation := true } .semicolon { owed := { closes := 1 } } ⟨1, 1⟩
      (.ofPlace (.advance (.start ['\n', '}']))) := ⟨rfl, rfl⟩
  rcases token_of_takes _ _ _ _ _ _ _ takes with ⟨_, _, unasked⟩
  refine ⟨takes, ?_⟩
  rcases (unasked rfl rfl).2 rfl rfl with ends | announces | stands
  · exact absurd ends.is_terminated Bool.false_ne_true
  · exact announces
  · exact absurd stands.left (by decide)

end Cursor
end Offside
