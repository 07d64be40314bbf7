import Mathlib.Data.List.Induction
import Offside.Margin
import Offside.Proofs.Lines.Line

/-!
# Measuring a margin

A margin is measured character by character, and each line break has the measure begin anew. What comes
out can be said of the margin as a whole. Only the part behind its last line break has columns; whether the
margin crosses a line is a question of line feeds alone, so that a carriage return takes the columns away
and crosses nothing. Main definition and statements:

* `Margin.measured` — the measure of a margin as a whole.
* `Margin.measured_append_return` — what a carriage return does to a measure.
* `Margin.ofChars_eq_measured` — measuring character by character comes to the same.
* `Place.margin_eq_measured` — the margin at a place.
-/

namespace Offside
namespace Margin

/-- The part of a margin behind its last line break. A carriage return breaks lines here as a line feed
does. -/
def lastLine (run : List Char) : List Char :=
  (run.reverse.takeWhile fun c => c != '\r' && c != '\n').reverse

/-- The measure of a margin as a whole: a column for each space of its last line, and as many as a tab
takes for each tab. -/
def measured (run : List Char) : Margin :=
  let last := lastLine run
  ⟨run.contains '\n', .ofColumn (last.count ' ' + Level.tabWidth * last.count '\t')⟩

theorem lastLine_concat_of_column (run : List Char) {c : Char} (column : c = ' ' ∨ c = '\t') :
    lastLine (run ++ [c]) = lastLine run ++ [c] := by
  rcases column with rfl | rfl <;> simp [lastLine]

/-- Nothing in front of a line break belongs to the last line. -/
theorem lastLine_append_of_break (front back : List Char) {c : Char} (breaks : c = '\r' ∨ c = '\n') :
    lastLine (front ++ c :: back) = lastLine back := by
  have ends : (c :: front.reverse).takeWhile (fun c => c != '\r' && c != '\n') = [] := by
    rcases breaks with rfl | rfl <;> rfl
  have backwards : (front ++ c :: back).reverse = back.reverse ++ c :: front.reverse := by simp
  -- Taken from its end, the last line comes to the break if nothing behind the break ended it before.
  rw [lastLine, lastLine, backwards, List.takeWhile_append, ends, List.append_nil]
  split
  next whole => rw [(List.takeWhile_prefix _).eq_of_length whole]
  next => rfl

/-- A carriage return takes away the columns in front of it and crosses no line. -/
theorem measured_append_return (front back : List Char) :
    measured (front ++ '\r' :: back) =
      ⟨(front ++ back).contains '\n', (measured back).indent⟩ := by
  simp only [measured, lastLine_append_of_break front back (.inl rfl)]
  simp

theorem toNat_indent_measured (run : List Char) :
    (measured run).indent.toNat =
      min (UInt32.size - 1) ((lastLine run).count ' ' + 8 * (lastLine run).count '\t') := by
  rw [measured, Level.toNat_ofColumn, Nat.min_comm]
  rfl

/-- One more character makes of the measure as a whole what it makes of the measure so far. -/
theorem extend_measured (run : List Char) {c : Char} (margin : isMarginChar c = true) :
    (measured run).extend c = measured (run ++ [c]) := by
  simp only [isMarginChar, Bool.or_eq_true, beq_iff_eq] at margin
  rcases margin with ((rfl | rfl) | rfl) | rfl
  · simp [extend, measured, lastLine_concat_of_column run (.inl rfl), Line.shift_ofColumn,
      Nat.add_right_comm]
  · simp [extend, measured, lastLine_concat_of_column run (.inr rfl), Line.shift_ofColumn,
      Nat.mul_succ, Nat.add_assoc]
  · simp [extend, measured, lastLine_append_of_break run [] (.inl rfl)]
    rfl
  · simp [extend, measured, lastLine_append_of_break run [] (.inr rfl)]
    rfl

/-- The induction is on the margin from its end, since each character extends what stands in front of
it. -/
theorem ofChars_eq_measured (run : List Char) (margin : ∀ c ∈ run, isMarginChar c = true) :
    ofChars run = measured run := by
  induction run using List.reverseRecOn with
  | nil => rfl
  | append_singleton run c ih =>
      have front : ofChars run = measured run :=
        ih fun d member => margin d (List.mem_append_left _ member)
      have last : isMarginChar c = true := margin c (by simp)
      rw [← extend_measured run last, ← front]
      simp [ofChars]

end Margin

namespace Place

theorem margin_eq_measured (p : Place) :
    p.margin = .measured (p.after.takeWhile Margin.isMarginChar) :=
  Margin.ofChars_eq_measured _ (forall_mem_takeWhile Margin.isMarginChar p.after)

theorem crossesLine_margin (p : Place) :
    p.margin.crossesLine = decide ('\n' ∈ p.after.takeWhile Margin.isMarginChar) := by
  rw [margin_eq_measured, Margin.measured, List.contains_eq_mem]

end Place
end Offside
