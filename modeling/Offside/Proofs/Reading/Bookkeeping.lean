import Mathlib.Data.List.DropRight
import Offside.Cursor
import Offside.Proofs.Place.Reads
import Offside.Proofs.Reading.Lookahead
import Offside.Proofs.Reading.Probes

/-!
# The marks of a cursor

A host reads ahead, skips, marks, scans and goes back as it likes, and in any order; each of these moves
some of the four marks of the cursor and leaves the others where they are. Whatever it does, the marks keep
their order and stay between characters of the one text, so nothing that is sliced at them falls into the
middle of a character. Main definitions and statements:

* `Cursor.Op`, `Cursor.after` — what a host does with a cursor, and the cursor behind it.
* `Cursor.InOrder` — the order of the marks.
* `Place.Slices` — what is sliced off the text at a place.
* `Cursor.inOrder_apply` — each step keeps the order.
* `Cursor.origin_after` — an attempt begins where the last step that ended one left off.
* `Cursor.marks_after` — the bookkeeping of any steps, of a commit and of a rollback behind them.
-/

namespace Offside

/-! ## Slices at a place -/

namespace Place

/-- What is sliced off a text at a place is cut between characters: what is left, and the line up to the
place, whose characters are counted for the column. -/
structure Slices (source : String) (p : Place) : Prop where
  found : at? source.toList p.offset = some p
  offset_le : p.offset ≤ source.utf8ByteSize
  rest : Text.slice? source p.offset source.utf8ByteSize = some (String.ofList p.after)
  /-- The line starts with the text or behind a line break, and there is none in it. -/
  line : ∃ lineStart line, Text.slice? source lineStart p.offset = some (String.ofList line) ∧
    '\n' ∉ line ∧ line.length = p.column ∧
    (lineStart = 0 ∨ ∃ front, Text.slice? source 0 lineStart = some (String.ofList (front ++ ['\n'])))

theorem reads_start (p : Place) : (start p.source).Reads p.before.reverse p :=
  ⟨rfl, by simp [start]⟩

theorem reads_rest (p : Place) : p.Reads p.after (p.advanceBy p.after.length) := by
  have reads := p.reads_advanceBy p.after.length
  rwa [List.take_length] at reads

theorem offset_add_rest {source : String} {p : Place} (text : p.source = source.toList) :
    p.offset + Text.byteLength p.after = source.utf8ByteSize := by
  rw [← Text.byteLength_toList, ← text, Place.source, Text.byteLength_append, Text.byteLength_reverse,
    p.offset_eq]

/-- The place at which the line of `p` starts. -/
def lineStart (p : Place) : Place where
  before := p.before.dropWhile (· != '\n')
  after := (p.before.takeWhile (· != '\n')).reverse ++ p.after
  offset := Text.byteLength (p.before.dropWhile (· != '\n'))
  offset_eq := rfl

theorem reads_lineStart (p : Place) : p.lineStart.Reads (p.before.takeWhile (· != '\n')).reverse p :=
  ⟨rfl, by simp [lineStart]⟩

/-- A line starts with the text or behind a line break. -/
theorem before_lineStart (p : Place) :
    p.lineStart.before = [] ∨ ∃ earlier, p.lineStart.before = '\n' :: earlier := by
  have ends := List.head?_dropWhile_not (· != '\n') p.before
  change (p.before.dropWhile (· != '\n')) = [] ∨ ∃ earlier, (p.before.dropWhile (· != '\n')) = _
  cases rest : p.before.dropWhile (· != '\n') with
  | nil => exact .inl rfl
  | cons c earlier =>
      rw [rest] at ends
      obtain rfl : c = '\n' := by simpa using ends
      exact .inr ⟨earlier, rfl⟩

theorem slices_of_source_eq {source : String} {p : Place} (text : p.source = source.toList) :
    p.Slices source := by
  have length := offset_add_rest text
  have line_text : p.lineStart.source = source.toList :=
    (reads_lineStart p).source_eq.symm.trans text
  refine ⟨at?_eq_some_iff.2 ⟨text, rfl⟩, by omega, ?rest,
    p.lineStart.offset, _, slice?_of_reads line_text (reads_lineStart p), ?unbroken, by simp [column],
    ?starts⟩
  case rest =>
    have slice := slice?_of_reads text (reads_rest p)
    rwa [(reads_rest p).offset_eq, length] at slice
  case unbroken =>
    intro broken
    have in_line := forall_mem_takeWhile (· != '\n') p.before _ (List.mem_reverse.1 broken)
    simp at in_line
  case starts =>
    rcases before_lineStart p with first | ⟨earlier, behind⟩
    · exact .inl (by rw [p.lineStart.offset_eq, first]; rfl)
    · refine .inr ⟨earlier.reverse, ?_⟩
      have front := slice?_of_reads (p := start p.lineStart.source) line_text (reads_start p.lineStart)
      rwa [behind, List.reverse_cons] at front

end Place

/-! ## Where a scan leaves its marks -/

namespace State

/-- The place behind the margin is not in front of the place of the scan, and the token does not end in
front of it. -/
theorem le_head_le_stop_scan (state : State) (accepts : Acceptance) (p : Place) :
    p ≤ (state.scan accepts p).head ∧ (state.scan accepts p).head ≤ (state.scan accepts p).stop := by
  cases outcome : (state.scan accepts p).outcome with
  | ok given =>
      have yields := yields_of_scan outcome
      exact ⟨le_head_of_yields yields, head_le_stop_of_yields yields⟩
  | error refusal =>
      rcases state.marksAt_scan accepts p refusal outcome with ⟨head_eq, stop_eq⟩
      rw [head_eq, stop_eq]
      exact ⟨le_lineHead p, Place.le_refl _⟩

/-- A scan that owes nothing skips the margin. -/
theorem head_scan_of_settled {state : State} (accepts : Acceptance) (p : Place)
    (settled : state.owed.next? = none) : (state.scan accepts p).head = p.lineHead := by
  cases outcome : (state.scan accepts p).outcome with
  | error refusal => exact (state.marksAt_scan accepts p refusal outcome).1
  | ok given =>
      rcases given with ⟨token, after⟩
      have yields := yields_of_scan outcome
      generalize (state.scan accepts p).stop = stop at yields
      generalize (state.scan accepts p).head = head at yields ⊢
      cases yields with
      | owed due => cases settled.symm.trans due
      | owedBrace due => cases settled.symm.trans due
      | _ => rfl

end State

/-! ## What a host does with a cursor -/

namespace Cursor

/-- What a host does with a cursor. The state of a scan may be any, also one that no session reaches. -/
inductive Op
  | begin
  | advance
  | skip
  | markEnd
  | commit
  | rollback
  | skipBlanks
  | scan (state : State) (accepts : Acceptance)

def apply (cursor : Cursor) : Op → Cursor
  | .begin => cursor.begin
  | .advance => cursor.advance
  | .skip => cursor.skip
  | .markEnd => cursor.markEnd
  | .commit => cursor.commit.2
  | .rollback => cursor.rollback
  | .skipBlanks => cursor.skipBlanks
  | .scan state accepts => (cursor.scan state accepts).2

/-- The cursor behind some steps. -/
def after (cursor : Cursor) (ops : List Op) : Cursor :=
  ops.foldl apply cursor

/-- Whether a step ends the attempt under way and begins a new one. -/
def Op.endsAttempt : Op → Bool
  | .begin | .commit | .rollback | .skipBlanks => true
  | .advance | .skip | .markEnd | .scan _ _ => false

/-- The end of the last character that a step skips in front of the token, if it skips any. At the end of
the text there is none to skip, and a scan that owes a token does not look at the margin. -/
def Op.skippedTo? (cursor : Cursor) : Op → Option Place
  | .skip => if cursor.here.atEnd then none else some cursor.here.advance
  | .scan state _ =>
      if state.owed.next?.isNone && cursor.here.lookahead.any Margin.isMarginChar then
        some cursor.here.lineHead
      else
        none
  | _ => none

/-- The places that a cursor keeps. -/
def marks (cursor : Cursor) : List Place :=
  cursor.origin :: cursor.tokenStart :: cursor.here :: cursor.markedEnd.toList

/-- The marks of a cursor stand in order: the attempt began first, and nothing is ahead of what was read. -/
structure InOrder (cursor : Cursor) : Prop where
  origin_le : cursor.origin.offset ≤ cursor.tokenStart.offset
  tokenStart_le : cursor.tokenStart.offset ≤ cursor.here.offset
  markedEnd_within : ∀ mark, cursor.markedEnd = some mark →
    cursor.origin.offset ≤ mark.offset ∧ mark.offset ≤ cursor.here.offset

/-- All marks are places of the one text. -/
def Within (cursor : Cursor) (text : List Char) : Prop :=
  ∀ q ∈ cursor.marks, q.source = text

section

variable {cursor : Cursor} {text : List Char}

theorem within_iff :
    cursor.Within text ↔ cursor.origin.source = text ∧ cursor.tokenStart.source = text ∧
      cursor.here.source = text ∧ ∀ mark, cursor.markedEnd = some mark → mark.source = text := by
  simp [Within, marks]

theorem inOrder_ofPlace (p : Place) : (ofPlace p).InOrder :=
  ⟨Nat.le_refl _, Nat.le_refl _, by simp [ofPlace]⟩

theorem within_ofPlace {p : Place} (found : p.source = text) : (ofPlace p).Within text :=
  within_iff.2 ⟨found, found, found, by simp [ofPlace]⟩

/-! ## Ends of tokens -/

theorem stop_of_inOrder (ordered : cursor.InOrder) :
    cursor.origin.offset ≤ cursor.stop.offset ∧ cursor.stop.offset ≤ cursor.here.offset := by
  cases marked : cursor.markedEnd with
  | none =>
      simp only [stop, marked, Option.getD_none]
      exact ⟨Nat.le_trans ordered.origin_le ordered.tokenStart_le, Nat.le_refl _⟩
  | some mark =>
      simp only [stop, marked, Option.getD_some]
      exact ordered.markedEnd_within mark marked

theorem source_stop (within : cursor.Within text) : cursor.stop.source = text := by
  rcases within_iff.1 within with ⟨-, -, here, mark⟩
  cases marked : cursor.markedEnd with
  | none =>
      simp only [stop, marked, Option.getD_none]
      exact here
  | some q =>
      simp only [stop, marked, Option.getD_some]
      exact mark q marked

/-! ## Each step keeps the order -/

/-- Reading on within an attempt moves the place, and perhaps the start of the token, forward. -/
theorem here_le_scan (cursor : Cursor) (state : State) (accepts : Acceptance) :
    cursor.here ≤ (cursor.scan state accepts).2.here :=
  Place.le_trans (Place.le_trans (State.le_head_le_stop_scan state accepts cursor.here).1
    (State.le_head_le_stop_scan state accepts cursor.here).2)
    (State.stop_le_reached_scan state accepts cursor.here)

theorem inOrder_apply (ordered : cursor.InOrder) (op : Op) : (cursor.apply op).InOrder := by
  rcases ordered with ⟨origin_le, tokenStart_le, within⟩
  have onward := Place.offset_le_of_le (Place.le_advance cursor.here)
  cases op with
  | begin => exact inOrder_ofPlace _
  | commit => exact inOrder_ofPlace _
  | rollback => exact inOrder_ofPlace _
  | skipBlanks => exact inOrder_ofPlace _
  | advance =>
      refine ⟨origin_le, Nat.le_trans tokenStart_le onward, ?_⟩
      intro mark marked
      exact ⟨(within mark marked).1, Nat.le_trans (within mark marked).2 onward⟩
  | skip =>
      refine ⟨Nat.le_trans origin_le (Nat.le_trans tokenStart_le onward), Nat.le_refl _, ?_⟩
      intro mark marked
      exact ⟨(within mark marked).1, Nat.le_trans (within mark marked).2 onward⟩
  | markEnd =>
      refine ⟨origin_le, tokenStart_le, ?_⟩
      intro mark marked
      cases marked
      exact ⟨Nat.le_trans origin_le tokenStart_le, Nat.le_refl _⟩
  | scan state accepts =>
      -- The place, the head, the end of the token and how far was read stand in this order.
      have head_stop := State.le_head_le_stop_scan state accepts cursor.here
      have head := Place.offset_le_of_le head_stop.1
      have stop := Place.offset_le_of_le head_stop.2
      have reached := Place.offset_le_of_le (State.stop_le_reached_scan state accepts cursor.here)
      simp only [apply, Cursor.scan]
      refine ⟨?_, ?_, ?_⟩
      · dsimp only
        split <;> omega
      · dsimp only
        split <;> omega
      · intro mark marked
        cases marked
        dsimp only
        omega

theorem within_apply (within : cursor.Within text) (op : Op) : (cursor.apply op).Within text := by
  rcases within_iff.1 within with ⟨origin, tokenStart, here, mark⟩
  have onward : cursor.here.advance.source = text := (Place.source_advance _).trans here
  cases op with
  | begin => exact within_ofPlace here
  | commit => exact within_ofPlace (source_stop within)
  | rollback => exact within_ofPlace origin
  | skipBlanks => exact within_ofPlace ((Place.source_advanceWhile _ _).trans here)
  | advance => exact within_iff.2 ⟨origin, tokenStart, onward, mark⟩
  | skip => exact within_iff.2 ⟨origin, onward, onward, mark⟩
  | markEnd =>
      refine within_iff.2 ⟨origin, tokenStart, here, ?_⟩
      intro q marked
      cases marked
      exact here
  | scan state accepts =>
      have head_stop := State.le_head_le_stop_scan state accepts cursor.here
      have head := (Place.source_eq_of_le head_stop.1).trans here
      have stop := (Place.source_eq_of_le head_stop.2).trans head
      have reached := (Place.source_eq_of_le (State.stop_le_reached_scan state accepts cursor.here)).trans
        stop
      refine within_iff.2 ⟨origin, ?_, reached, ?_⟩
      · simp only [apply, Cursor.scan]
        split
        · exact tokenStart
        · exact head
      · intro q marked
        cases marked
        exact stop

theorem inOrder_after (ops : List Op) :
    ∀ {cursor : Cursor}, cursor.InOrder → (cursor.after ops).InOrder := by
  induction ops with
  | nil => exact fun ordered => ordered
  | cons op rest ih => exact fun ordered => ih (inOrder_apply ordered op)

theorem within_after (ops : List Op) :
    ∀ {cursor : Cursor}, cursor.Within text → (cursor.after ops).Within text := by
  induction ops with
  | nil => exact fun within => within
  | cons op rest ih => exact fun within => ih (within_apply within op)

/-! ## Within an attempt -/

theorem after_append (cursor : Cursor) (front back : List Op) :
    cursor.after (front ++ back) = (cursor.after front).after back :=
  List.foldl_append

theorem after_concat (cursor : Cursor) (front : List Op) (op : Op) :
    cursor.after (front ++ [op]) = (cursor.after front).apply op :=
  after_append cursor front [op]

/-- A step that ends an attempt leaves the cursor where the next one begins. -/
theorem origin_apply_of_endsAttempt (cursor : Cursor) {op : Op} (ends : op.endsAttempt = true) :
    (cursor.apply op).origin = (cursor.apply op).here := by
  cases op <;> first | rfl | cases ends

theorem origin_apply_of_not_endsAttempt (cursor : Cursor) {op : Op} (goes_on : op.endsAttempt = false) :
    (cursor.apply op).origin = cursor.origin := by
  cases op <;> first | rfl | cases goes_on

/-- An attempt begins where the last step that ended one left off, or where the cursor was put at first. -/
theorem origin_after (p : Place) (ops : List Op) :
    ((ofPlace p).after ops).origin =
      ((ofPlace p).after (ops.rdropWhile fun op => !op.endsAttempt)).here := by
  induction ops using List.reverseRecOn with
  | nil => rfl
  | append_singleton front op ih =>
      cases ends : op.endsAttempt with
      | true =>
          rw [List.rdropWhile_concat_neg _ _ _ (by simp [ends]), after_concat]
          exact origin_apply_of_endsAttempt _ ends
      | false =>
          rw [List.rdropWhile_concat_pos _ _ _ (by simp [ends]), after_concat,
            origin_apply_of_not_endsAttempt _ ends]
          exact ih

/-- Within an attempt the start of the token only moves forward. -/
theorem tokenStart_le_apply (ordered : cursor.InOrder) {op : Op} (goes_on : op.endsAttempt = false) :
    cursor.tokenStart.offset ≤ (cursor.apply op).tokenStart.offset := by
  cases op with
  | skip =>
      exact Nat.le_trans ordered.tokenStart_le (Place.offset_le_of_le (Place.le_advance cursor.here))
  | scan state accepts =>
      have head := Place.offset_le_of_le (State.le_head_le_stop_scan state accepts cursor.here).1
      simp only [apply, Cursor.scan]
      split
      · exact Nat.le_refl _
      · exact Nat.le_trans ordered.tokenStart_le head
  | advance => exact Nat.le_refl _
  | markEnd => exact Nat.le_refl _
  | begin => cases goes_on
  | commit => cases goes_on
  | rollback => cases goes_on
  | skipBlanks => cases goes_on

theorem tokenStart_le_after (since : List Op) :
    ∀ {cursor : Cursor}, cursor.InOrder → (∀ op ∈ since, op.endsAttempt = false) →
      cursor.tokenStart.offset ≤ (cursor.after since).tokenStart.offset := by
  induction since with
  | nil => exact fun _ _ => Nat.le_refl _
  | cons op rest ih =>
      intro cursor ordered goes_on
      have first := tokenStart_le_apply ordered (goes_on op (by simp))
      have others := ih (inOrder_apply ordered op) fun op member => goes_on op (by simp [member])
      exact Nat.le_trans first others

/-- A scan that owes nothing has the token start behind the margin, if there is one. -/
theorem tokenStart_scan_of_settled (cursor : Cursor) {state : State} (accepts : Acceptance)
    (settled : state.owed.next? = none) :
    (cursor.scan state accepts).2.tokenStart =
      if cursor.here.after.takeWhile Margin.isMarginChar = [] then cursor.tokenStart
      else cursor.here.lineHead := by
  have nowhere := (Place.reads_advanceWhile cursor.here Margin.isMarginChar).offset_eq_iff
  simp only [Cursor.scan, State.head_scan_of_settled accepts cursor.here settled, Place.lineHead, nowhere]

/-- The token starts behind what a step skips. -/
theorem tokenStart_apply_of_skippedTo? {op : Op} {skipped : Place}
    (skips : op.skippedTo? cursor = some skipped) : (cursor.apply op).tokenStart = skipped := by
  cases op with
  | skip =>
      simp only [Op.skippedTo?] at skips
      split at skips
      · cases skips
      · cases skips
        rfl
  | scan state accepts =>
      simp only [Op.skippedTo?] at skips
      split at skips
      next margin =>
        cases skips
        simp only [Bool.and_eq_true, Option.isNone_iff_eq_none, Option.any_eq_true] at margin
        rcases margin with ⟨settled, c, next, blank⟩
        have margin : cursor.here.after.takeWhile Margin.isMarginChar ≠ [] := by
          rw [Place.lookahead_eq_some_iff.1 next, List.takeWhile_cons_of_pos blank]
          exact List.cons_ne_nil _ _
        rw [apply, tokenStart_scan_of_settled cursor accepts settled, if_neg margin]
      · cases skips
  | begin => cases skips
  | advance => cases skips
  | markEnd => cases skips
  | commit => cases skips
  | rollback => cases skips
  | skipBlanks => cases skips

end

/-! ## Taking the token and going back -/

/-- A commit takes bytes that the attempt has read, and the cursor goes on behind them. -/
theorem span_commit {cursor : Cursor} (ordered : cursor.InOrder) :
    cursor.origin.offset ≤ cursor.commit.1.start ∧ cursor.commit.1.start ≤ cursor.commit.1.stop ∧
      cursor.commit.1.stop ≤ cursor.here.offset ∧ cursor.commit.2.here.offset = cursor.commit.1.stop := by
  rcases stop_of_inOrder ordered with ⟨origin_le, le_here⟩
  exact ⟨Nat.le_min.2 ⟨ordered.origin_le, origin_le⟩, Nat.min_le_right _ _, le_here, rfl⟩

/-- A token whose end was marked in front of something that was skipped is empty. -/
theorem span_commit_of_skipped {cursor : Cursor} {mark : Place} (marked : cursor.markedEnd = some mark)
    (skipped : mark.offset ≤ cursor.tokenStart.offset) :
    cursor.commit.1.start = cursor.commit.1.stop := by
  have stop_eq : cursor.stop = mark := by rw [stop, marked, Option.getD_some]
  exact Nat.min_eq_right (by rw [stop_eq]; exact skipped)

/-- Whatever a host did with a cursor since it was put at a place, its marks stand in order and between
characters, and so does all that is sliced off the text at them. A commit takes bytes that lie within the
attempt; it takes none if the end was marked no later than where the attempt skipped to. A rollback goes
back to where the last step that ended an attempt left off, and no scan goes back at all. -/
theorem marks_after (source : String) (offset : Nat) {p : Place}
    (found : Place.at? source.toList offset = some p) (ops : List Op) :
    let cursor := (ofPlace p).after ops
    cursor.InOrder ∧ (∀ q ∈ cursor.marks, q.Slices source) ∧
      (cursor.origin.offset ≤ cursor.commit.1.start ∧ cursor.commit.1.start ≤ cursor.commit.1.stop ∧
        cursor.commit.1.stop ≤ cursor.here.offset ∧
        cursor.commit.2.here.offset = cursor.commit.1.stop) ∧
      (∀ front op since skipped mark, ops = front ++ op :: since →
        (∀ later ∈ since, later.endsAttempt = false) →
        op.skippedTo? ((ofPlace p).after front) = some skipped → cursor.markedEnd = some mark →
        mark.offset ≤ skipped.offset → cursor.commit.1.start = cursor.commit.1.stop) ∧
      cursor.rollback.here = ((ofPlace p).after (ops.rdropWhile fun op => !op.endsAttempt)).here ∧
      ∀ state accepts, cursor.here.offset ≤ (cursor.scan state accepts).2.here.offset := by
  intro cursor
  have ordered : cursor.InOrder := inOrder_after ops (inOrder_ofPlace p)
  have within : cursor.Within source.toList :=
    within_after ops (within_ofPlace (Place.at?_eq_some_iff.1 found).1)
  refine ⟨ordered, fun q member => Place.slices_of_source_eq (within q member), span_commit ordered, ?_,
    origin_after p ops, fun state accepts => Place.offset_le_of_le (here_le_scan cursor state accepts)⟩
  intro front op since skipped mark parts same_attempt skips marked early
  -- The token started behind what was skipped, and within the attempt its start only moved forward.
  have there : ((ofPlace p).after front).InOrder := inOrder_after front (inOrder_ofPlace p)
  have onward := tokenStart_le_after since (inOrder_apply there op) same_attempt
  rw [tokenStart_apply_of_skippedTo? skips] at onward
  have same : ((((ofPlace p).after front).apply op).after since) = cursor := by
    change _ = (ofPlace p).after ops
    rw [parts, after_append]
    rfl
  rw [same] at onward
  exact span_commit_of_skipped marked (Nat.le_trans early onward)

/-- Behind a character of two bytes a scan skips two spaces and finds nothing. The host reads the `x`, marks
the end there and skips the `y`: the token is empty where the mark was. -/
theorem marks_after_accent :
    let behind : Place := .advance (.start ['é', ' ', ' ', 'x', 'y', 'z'])
    let ops : List Op := [.scan {} .producible, .advance, .markEnd, .skip]
    Place.at? "é  xyz".toList 2 = some behind ∧
      ((ofPlace behind).after ops).commit.1.start = ((ofPlace behind).after ops).commit.1.stop ∧
      ((ofPlace behind).after ops).commit.1 = ⟨5, 5⟩ := by
  intro behind ops
  have text : "é  xyz".toList = ['é', ' ', ' ', 'x', 'y', 'z'] := by decide
  have found : Place.at? "é  xyz".toList 2 = some behind := by
    rw [text]
    rfl
  have empties := (marks_after "é  xyz" 2 found ops).2.2.2.1
  exact ⟨found, empties [.scan {} .producible, .advance, .markEnd] .skip [] _ _ rfl (by simp) rfl rfl
    (by decide), rfl⟩

end Cursor
end Offside
