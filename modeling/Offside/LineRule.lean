import Offside.Acceptance
import Offside.Lead.Opening
import Offside.Notice
import Offside.State

/-!
# The off-side rule

The first line of text after a line break is compared with the innermost block. A line further to
the right opens a block, a line at the block's column separates two statements, and a line further
to the left closes blocks. A line that continues a statement does none of the first two; the third
it does, but the separator behind the last brace is dropped.

Whether a line continues is asked only where the answer matters, since asking may read on. Main
statement:

* `eq_of_ruleLine_eq_defers` — the rule defers without having read anything, unless the line's
  opening is ambiguous.
-/

namespace Offside

inductive LineRuling
  /-- The rule gives out a token at the head of the line. -/
  | produces (token : External) (state : State) (reached : Place) (notices : List Notice)
  /-- The line continues the statement before it, so no separator is due. -/
  | continues (reached : Place)
  /-- The rule does not apply. -/
  | defers (reached : Place)

namespace State

/-- A line to the right of the innermost block. At the end of the text nothing is opened. -/
def ruleIndent (state : State) (accepts : Acceptance) (indent : Level) (head : Place) :
    LineRuling :=
  if accepts.openBrace && !accepts.endContinuation && !head.atEnd then
    let answer := (Opening.ofPlace head).ask head
    if answer.continues then
      .defers answer.reached
    else
      .produces .openBrace { state with levels := indent :: state.levels } answer.reached []
  else
    .defers head

/-- A line at the column of the innermost block. An immediate lead is left to the later rules, which
give an explicit brace its due. -/
def ruleAligned (state : State) (accepts : Acceptance) (head : Place) : LineRuling :=
  if accepts.semicolon && !accepts.endContinuation && Opening.ofPlace head != .continuation then
    let answer := (Opening.ofPlace head).ask head
    if answer.continues then
      .continues answer.reached
    else
      .produces .semicolon state answer.reached []
  else
    .defers head

/-- A line to the left of the innermost block. A line that starts with a closing brace is left to
the brace itself. -/
def ruleDedent (state : State) (accepts : Acceptance) (indent : Level) (head : Place) :
    LineRuling :=
  if accepts.semicolon && head.lookahead != some '}' then
    -- Blocks are closed whether the line continues or not; only the last separator depends on it.
    let levels := state.levels.closeAbove indent
    let owed := state.owed.addBlocks (UInt32.ofNat (state.levels.countAbove indent))
    let answer := (Opening.ofPlace head).ask head
    .produces .semicolon
      { state with
        levels := levels
        owed := if answer.continues then { owed with dropsLast := true } else owed }
      answer.reached
      (if levels.innermost = indent then [] else [.strayDedent indent levels.innermost])
  else
    .defers head

/-- The rule for a line that starts at `head` in column `indent`. -/
def ruleLine (state : State) (accepts : Acceptance) (indent : Level) (head : Place) : LineRuling :=
  if state.levels.innermost < indent then
    state.ruleIndent accepts indent head
  else if indent = state.levels.innermost then
    state.ruleAligned accepts head
  else
    state.ruleDedent accepts indent head

/-- Where the rule defers, the line was either left unread or asked whether it continues. -/
theorem eq_or_eq_of_ruleLine_eq_defers {state : State} {accepts : Acceptance} {indent : Level}
    {head here : Place} (h : state.ruleLine accepts indent head = .defers here) :
    here = head ∨ here = ((Opening.ofPlace head).ask head).reached := by
  unfold ruleLine at h
  split at h
  · unfold ruleIndent at h
    split at h
    · dsimp only at h
      split at h <;> cases h
      exact .inr rfl
    · cases h
      exact .inl rfl
  · split at h
    · unfold ruleAligned at h
      split at h
      · dsimp only at h
        split at h <;> cases h
      · cases h
        exact .inl rfl
    · unfold ruleDedent at h
      split at h <;> cases h
      exact .inl rfl

theorem le_of_ruleLine_eq_defers {state : State} {accepts : Acceptance} {indent : Level}
    {head here : Place} (h : state.ruleLine accepts indent head = .defers here) : head ≤ here := by
  rcases eq_or_eq_of_ruleLine_eq_defers h with rfl | rfl
  · exact Place.le_refl here
  · exact Opening.le_reached_ask _ head

theorem eq_of_ruleLine_eq_defers {state : State} {accepts : Acceptance} {indent : Level}
    {head here : Place} (h : state.ruleLine accepts indent head = .defers here)
    (decided : (Opening.ofPlace head).isAmbiguous = false) : here = head := by
  rcases eq_or_eq_of_ruleLine_eq_defers h with rfl | rfl
  · rfl
  · exact Opening.reached_ask_of_not_isAmbiguous head decided

end State

end Offside
