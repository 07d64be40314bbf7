import Offside.Proofs.Lines.Measure
import Offside.Proofs.Reading.Bookkeeping

/-!
# Skipping a margin

A scan takes the margin for one run of the text and measures it as such. A cursor only ever moves by one
character: it skips a character of the margin, lets it extend the measure so far, and looks at the next one.
Both come to the same, also in the marks that skipping moves. Main definitions and statements:

* `Cursor.skipMargin` — the margin skipped and measured character by character.
* `Cursor.Skips` — what has become of a cursor that skipped some characters.
* `Cursor.Skips.skip` — one more character.
* `Cursor.skipMargin_eq` — where skipping a margin ends, and with which measure.
* `Cursor.tokenStart_skipMargin_begin` — where the token of a new attempt starts.
* `Cursor.skipMargin_measures` — the measure of the margin in front of any place of a text.
-/

namespace Offside

/-! ## Character by character -/

namespace Cursor

/-- What is known of a line once its margin is skipped. -/
@[ext]
structure LineHead where
  margin : Margin
  /-- Whether the text ends with the margin. -/
  atEnd : Bool
  /-- The cursor at the head of the line. -/
  behind : Cursor

/-- Skips characters as long as they belong to a margin. What was skipped before measures `margin`. -/
def skipMarginFrom (margin : Margin) (cursor : Cursor) : LineHead :=
  match _next : cursor.here.lookahead with
  | some c =>
      if Margin.isMarginChar c then
        cursor.skip.skipMarginFrom (margin.extend c)
      else
        ⟨margin, cursor.here.atEnd, cursor⟩
  | none => ⟨margin, cursor.here.atEnd, cursor⟩
termination_by cursor.here.after.length
decreasing_by exact Place.length_after_advance_lt (Place.atEnd_eq_false_of_lookahead _next)

/-- Skips the margin at the cursor and measures it on the way. -/
def skipMargin (cursor : Cursor) : LineHead :=
  cursor.skipMarginFrom .empty

/-- `cursor.Skips run behind`: the characters `run` of a margin were skipped between `cursor` and `behind`.
The token starts behind them, if there were any, and the other marks have not moved. -/
structure Skips (cursor : Cursor) (run : List Char) (behind : Cursor) : Prop where
  reads : cursor.here.Reads run behind.here
  margin : ∀ c ∈ run, Margin.isMarginChar c = true
  marks_eq : behind = { cursor with
    here := behind.here
    tokenStart := if run = [] then cursor.tokenStart else behind.here }

section

variable {cursor behind : Cursor} {run : List Char}

theorem skips_nil (cursor : Cursor) : cursor.Skips [] cursor :=
  ⟨Place.reads_nil _, by simp, rfl⟩

theorem Skips.skip (skips : cursor.Skips run behind) {c : Char} (next : behind.here.lookahead = some c)
    (blank : Margin.isMarginChar c = true) : cursor.Skips (run ++ [c]) behind.skip := by
  refine ⟨skips.reads.append (Place.reads_advance next), ?_, ?_⟩
  · intro d member
    rcases List.mem_append.1 member with earlier | last
    · exact skips.margin d earlier
    · rw [List.mem_singleton.1 last]
      exact blank
  · rw [if_neg (by simp), Cursor.skip, skips.marks_eq]

/-- What was skipped up to a character of another kind, or up to the end, is all of the margin. -/
theorem Skips.run_eq (skips : cursor.Skips run behind)
    (stops : behind.here.lookahead.any Margin.isMarginChar = false) :
    run = cursor.here.after.takeWhile Margin.isMarginChar := by
  cases rest : behind.here.after with
  | nil =>
      rw [skips.reads.after_eq, rest, List.append_nil, List.takeWhile_eq_self_iff.2 skips.margin]
  | cons c back =>
      have text : cursor.here.after = run ++ c :: back := by rw [skips.reads.after_eq, rest]
      have visible : Margin.isMarginChar c = false := by
        simpa [Place.lookahead, rest] using stops
      exact (Place.takeWhile_of_after_eq text skips.margin visible).symm

/-- Skipping ends where the margin does. The induction follows the skipping, one case for each way in which it
goes on or stops; its invariant is that what was measured so far is the measure of what was skipped so far. -/
theorem exists_skips_skipMarginFrom {margin : Margin} (skips : cursor.Skips run behind)
    (measure : margin = .measured run) :
    ∃ whole, cursor.Skips whole (behind.skipMarginFrom margin).behind ∧
      (behind.skipMarginFrom margin).margin = .measured whole ∧
      (behind.skipMarginFrom margin).atEnd = (behind.skipMarginFrom margin).behind.here.atEnd ∧
      (behind.skipMarginFrom margin).behind.here.lookahead.any Margin.isMarginChar = false := by
  fun_induction skipMarginFrom margin behind generalizing run with
  | case1 margin behind c next blank ih =>
      refine ih (skips.skip next blank) ?_
      rw [measure, Margin.extend_measured run blank]
  | case2 margin behind c next visible =>
      exact ⟨run, skips, measure, rfl, by simpa [next] using visible⟩
  | case3 margin behind nothing => exact ⟨run, skips, measure, rfl, by simp [nothing]⟩

end

/-- A cursor that skips the margin character by character ends at the head of the line, with the measure of
the margin there. -/
theorem skipMargin_eq (cursor : Cursor) :
    cursor.skipMargin =
      { margin := cursor.here.margin
        atEnd := cursor.here.lineHead.atEnd
        behind := { cursor with
          here := cursor.here.lineHead
          tokenStart :=
            if cursor.here.after.takeWhile Margin.isMarginChar = [] then cursor.tokenStart
            else cursor.here.lineHead } } := by
  have start : Margin.empty = .measured [] := rfl
  rcases exists_skips_skipMarginFrom (skips_nil cursor) start with ⟨whole, skips, measure, at_end, stops⟩
  have run_eq := skips.run_eq stops
  have margin_eq : cursor.skipMargin.margin = cursor.here.margin := by
    rw [Place.margin_eq_measured, ← run_eq]
    exact measure
  have here_eq : cursor.skipMargin.behind.here = cursor.here.lineHead := by
    refine skips.reads.unique ?_
    rw [run_eq]
    exact Place.reads_advanceWhile _ _
  refine LineHead.ext margin_eq ?_ ?_
  · rw [← here_eq]
    exact at_end
  · rw [← here_eq, ← run_eq]
    exact skips.marks_eq

/-- The token of an attempt that begins in front of a margin starts behind it, also if there is none. -/
theorem tokenStart_skipMargin_begin (cursor : Cursor) :
    cursor.begin.skipMargin.behind.tokenStart = cursor.here.lineHead := by
  rw [skipMargin_eq]
  change (if cursor.here.after.takeWhile Margin.isMarginChar = [] then cursor.here
    else cursor.here.lineHead) = cursor.here.lineHead
  split
  next bare =>
    -- Nothing is skipped, and the attempt begins at the head itself.
    have reads := Place.reads_advanceWhile cursor.here Margin.isMarginChar
    rw [bare] at reads
    exact (Place.reads_nil _).unique reads
  next => rfl

/-- Wherever a cursor stands in a text, the margin in front of it is the whole run of spaces, tabs, carriage
returns and line feeds. It crosses a line if there is a line feed in it. Of its last line alone the columns
are counted, behind a carriage return as behind a line feed: one for each space and eight for each tab, as
far as levels go. A cursor that skips the run character by character comes to its end with the same measure,
and if it began an attempt in front of the run, the token starts there. A scan that owes nothing leaves the
start of its token at the same place. -/
theorem skipMargin_measures (source : String) (offset : Nat) {cursor : Cursor}
    (found : Place.at? source.toList offset = some cursor.here) :
    let run := cursor.here.after.takeWhile fun c => c == ' ' || c == '\t' || c == '\r' || c == '\n'
    let last := Margin.lastLine run
    let margin := cursor.here.margin
    let head := cursor.here.lineHead
    (cursor.here.Reads run head ∧ head.offset = offset + Text.byteLength run) ∧
    (margin.crossesLine = true ↔ '\n' ∈ run) ∧
    (head.atEnd = true ↔ offset + Text.byteLength run = source.utf8ByteSize) ∧
    margin.indent.toNat = min (UInt32.size - 1) (last.count ' ' + 8 * last.count '\t') ∧
    (∀ front back, run = front ++ '\r' :: back →
      margin = ⟨(front ++ back).contains '\n', (Margin.measured back).indent⟩) ∧
    cursor.skipMargin =
      { margin := margin
        atEnd := head.atEnd
        behind := { cursor with
          here := head
          tokenStart := if run = [] then cursor.tokenStart else head } } ∧
    cursor.begin.skipMargin.behind.tokenStart = head ∧
    ∀ state accepts, state.owed.next? = none →
      (cursor.scan state accepts).1.head = head ∧
        (cursor.scan state accepts).2.tokenStart = cursor.skipMargin.behind.tokenStart := by
  intro run last margin head
  rcases Place.at?_eq_some_iff.1 found with ⟨text, rfl⟩
  have reads : cursor.here.Reads run head := Place.reads_advanceWhile _ _
  have measure : margin = .measured run := Place.margin_eq_measured cursor.here
  have length : Text.byteLength head.source = source.utf8ByteSize := by
    rw [reads.source_eq, text, Text.byteLength_toList]
  refine ⟨⟨reads, reads.offset_eq⟩, ?crosses, ?ends, ?columns, ?returns, skipMargin_eq cursor, ?begun,
    fun state accepts settled => ⟨State.head_scan_of_settled accepts _ settled, ?scanned⟩⟩
  case crosses =>
    rw [Place.crossesLine_margin, decide_eq_true_iff]
    rfl
  case ends => rw [Place.atEnd_iff_offset_eq, length, reads.offset_eq]
  case columns =>
    rw [measure]
    exact Margin.toNat_indent_measured run
  case returns =>
    intro front back parts
    rw [measure, parts]
    exact Margin.measured_append_return front back
  case begun => exact tokenStart_skipMargin_begin cursor
  case scanned => rw [skipMargin_eq, tokenStart_scan_of_settled cursor accepts settled]

/-- In the middle of an attempt that has read a character of two bytes, the margin crosses a line, and a
carriage return takes the columns of a tab and a space away. -/
theorem skipMargin_measures_return :
    let cursor := (ofPlace (.start ['é', '\n', '\t', ' ', '\r', ' ', ' ', '\t', 'b'])).advance
    Place.at? "é\n\t \r  \tb".toList 2 = some cursor.here ∧
      cursor.skipMargin.margin = ⟨true, 10⟩ ∧ cursor.skipMargin.behind.tokenStart.offset = 9 := by
  intro cursor
  have found : Place.at? "é\n\t \r  \tb".toList 2 = some cursor.here := by
    have text : "é\n\t \r  \tb".toList = ['é', '\n', '\t', ' ', '\r', ' ', ' ', '\t', 'b'] := by decide
    rw [text]
    rfl
  rcases skipMargin_measures "é\n\t \r  \tb" 2 found with ⟨-, -, -, -, returns, skipped, -⟩
  have measure := returns ['\n', '\t', ' '] [' ', ' ', '\t'] rfl
  rw [skipped]
  exact ⟨found, measure, rfl⟩

end Cursor
end Offside
