import Offside.Proofs.Lines.Measure
import Offside.Proofs.Reading.Contract
import Offside.Proofs.Reading.Verdict

/-!
# Attempts decided at once

In an attempt the cursor moves: over the margin, and over the head of the line where the scanner wants to
know whether the line continues, which it asks only in some cases and at most once. None of this shows in
what the attempt comes to. The same can be decided with the text at the head of the line in view and
nothing read: the margin is measured as a whole, and whether the line continues is a property of the text.
Main definitions and statement:

* `Cursor.Attempted`, `Cursor.attempted` — what an attempt comes to.
* `Cursor.atOnce` — the same, decided at once.
* `Cursor.attempted_eq_atOnce` — they agree wherever nothing is owed.
-/

namespace Offside
namespace Cursor

/-- What an attempt comes to. -/
structure Attempted where
  /-- The token that was taken, or why there is none. -/
  outcome : Except Refusal External
  /-- The state of the scanner behind the attempt. -/
  state : State
  /-- The bytes of the token, if one was taken. -/
  span : Option Span
  /-- The cursor with which the next attempt begins. -/
  behind : Cursor

/-- The attempt as cursor and scanner make it: begin, scan, and take the token or go back. -/
def attempted (cursor : Cursor) (state : State) (accepts : Acceptance) : Attempted :=
  let (reading, span, behind) := cursor.attempt state accepts
  ⟨reading.outcome.map Prod.fst, reading.next state, span, behind⟩

/-- The attempt decided at once. Nothing is read of the line that starts behind the margin: the verdict has
the text there in view, and the token, if there is one, starts at its first character. -/
def atOnce (cursor : Cursor) (state : State) (accepts : Acceptance) : Attempted :=
  let run := cursor.here.after.takeWhile Margin.isMarginChar
  let head := cursor.here.advanceBy run.length
  match state.verdict accepts ⟨.measured run, head.column, head.after⟩ with
  | .ok (token, after, length) =>
      let stop := head.advanceBy length
      ⟨.ok token, after, some ⟨head.offset, stop.offset⟩, .ofPlace stop⟩
  | .error refusal => ⟨.error refusal, state, none, .ofPlace cursor.here⟩

section

variable {cursor : Cursor} {state : State} {accepts : Acceptance}

theorem attempted_of_takes {token : External} {after : State} {span : Span} {behind : Cursor}
    (takes : cursor.Takes state accepts token after span behind) :
    cursor.attempted state accepts = ⟨.ok token, after, some span, behind⟩ := by
  simp only [attempted, takes.outcome_eq, takes.taken_eq, Reading.next, Except.map]

/-- An attempt that takes no token leaves the scanner and the place as they were. -/
theorem attempted_of_refused {refusal : Refusal}
    (refused : (state.scan accepts cursor.here).outcome = .error refusal) :
    cursor.attempted state accepts = ⟨.error refusal, state, none, .ofPlace cursor.here⟩ := by
  simp only [attempted, attempt, begin, scan, ofPlace, refused, rollback, Reading.next, Except.map]

/-- What is in view at once is what the scan sees. -/
theorem sight_eq (p : Place) :
    p.sight =
      ⟨.measured (p.after.takeWhile Margin.isMarginChar),
        (p.advanceBy (p.after.takeWhile Margin.isMarginChar).length).column,
        (p.advanceBy (p.after.takeWhile Margin.isMarginChar).length).after⟩ := by
  rw [Place.sight, Place.margin_eq_measured, Place.lineHead, Place.advanceWhile_eq_advanceBy]

end

/-- An attempt of a scanner that owes nothing comes to what is decided at once: the same token or the same
refusal, the same state behind it, the same span, and the same place for the next attempt. -/
theorem attempted_eq_atOnce (cursor : Cursor) {state : State} (accepts : Acceptance)
    (settled : state.owed.isSettled = true) :
    cursor.attempted state accepts = cursor.atOnce state accepts := by
  have nothing : state.owed.next? = none :=
    (Owed.next?_eq_none_iff _).2 ((Owed.isSettled_iff_count _).1 settled)
  have given := State.given_scan accepts cursor.here nothing
  have head_eq : cursor.here.lineHead =
      cursor.here.advanceBy (cursor.here.after.takeWhile Margin.isMarginChar).length :=
    Place.advanceWhile_eq_advanceBy _ _
  simp only [atOnce]
  rw [← sight_eq, ← head_eq]
  cases verdict : state.verdict accepts cursor.here.sight with
  | error refusal =>
      rw [verdict] at given
      exact attempted_of_refused (Reading.given_eq_error_iff.1 given)
  | ok decided =>
      rcases decided with ⟨token, after, length⟩
      rw [verdict] at given
      rcases Reading.given_eq_ok_iff.1 given with ⟨outcome, head, stop⟩
      have yields := State.yields_of_scan outcome
      rw [head, stop] at yields
      exact attempted_of_takes (takes_of_yields yields)

/-- A line at the column of its block that continues: the scanner reads on up to the end of the keyword, and
the attempt leaves no trace. -/
theorem attempted_eq_atOnce_keyword :
    (State.owed { levels := [2] }).isSettled = true ∧
      (ofPlace (.start "\n  then x".toList)).attempted { levels := [2] } .producible =
        (ofPlace (.start "\n  then x".toList)).atOnce { levels := [2] } .producible ∧
      (ofPlace (.start "\n  then x".toList)).atOnce { levels := [2] } .producible =
        ⟨.error .lineContinues, { levels := [2] }, none, .ofPlace (.start "\n  then x".toList)⟩ :=
  ⟨rfl, attempted_eq_atOnce _ _ rfl, rfl⟩

end Cursor
end Offside
