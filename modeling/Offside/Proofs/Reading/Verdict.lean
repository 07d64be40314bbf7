import Offside.Proofs.Lines.Continuation
import Offside.Proofs.Place.Reads

/-!
# Deciding at once

A scan asks whether a line continues only where the answer matters, and then it reads on and remembers
how far. Here the same decision is made at once, out of what a scan that owes nothing can see: the
margin, the column behind it and the text that is left there. Nothing is read on the way, so what the
decision depends on lies open. Main definitions and statements:

* `Sight` — what a scan sees.
* `State.verdict` — the decision: a token with the state behind it and its length, or a refusal.
* `State.given_scan` — a scan that owes nothing gives out what the verdict says.
-/

namespace Offside

/-! ## What a scan sees -/

/-- What a scan sees of a place: the margin there, and the column and the text of the line's head. -/
structure Sight where
  margin : Margin
  column : Nat
  text : List Char

namespace Sight

/-- The level of the text behind the margin. -/
def level (sight : Sight) : Level :=
  if sight.margin.crossesLine then sight.margin.indent else .ofColumn sight.column

end Sight

def Place.sight (p : Place) : Sight :=
  ⟨p.margin, p.lineHead.column, p.lineHead.after⟩

namespace Reading

/-- What a scan gives out: the token, the state behind it, and the places where it starts and ends. -/
def given (reading : Reading) : Except Refusal (External × State × Place × Place) :=
  reading.outcome.map fun (token, after) => (token, after, reading.head, reading.stop)

theorem given_eq_ok_iff {reading : Reading} {token : External} {after : State} {head stop : Place} :
    reading.given = .ok (token, after, head, stop) ↔
      reading.outcome = .ok (token, after) ∧ reading.head = head ∧ reading.stop = stop := by
  cases outcome : reading.outcome with
  | error refusal => simp [given, outcome, Except.map]
  | ok result =>
      rcases result with ⟨other, behind⟩
      simp [given, outcome, Except.map, and_assoc]

theorem given_eq_error_iff {reading : Reading} {refusal : Refusal} :
    reading.given = .error refusal ↔ reading.outcome = .error refusal := by
  cases outcome : reading.outcome with
  | error other => simp [given, outcome, Except.map]
  | ok result => simp [given, outcome, Except.map]

end Reading

/-! ## Raw string literals -/

namespace RawLiteral

/-- The number of characters of the literal that a text opens with, if it opens with one. -/
def measure (text : List Char) : Except Refusal Nat :=
  let signs := (text.tail.takeWhile (· == '#')).length
  match text.tail.dropWhile (· == '#') with
  | '"' :: body =>
      match bodyLength? (.ofNat signs) none 0 body with
      | some length => .ok (signs + length + 2)
      | none => .error (.openRawString (.ofNat signs))
  | _ => .error .noRawString

theorem measure_of_quote {text body : List Char}
    (quote : text.tail.dropWhile (· == '#') = '"' :: body) :
    measure text =
      match bodyLength? (.ofNat (text.tail.takeWhile (· == '#')).length) none 0 body with
      | some length => .ok ((text.tail.takeWhile (· == '#')).length + length + 2)
      | none => .error (.openRawString (.ofNat (text.tail.takeWhile (· == '#')).length)) := by
  rw [measure, quote]
  rfl

theorem measure_of_no_quote {text : List Char}
    (no_quote : (text.tail.dropWhile (· == '#')).head? ≠ some '"') :
    measure text = .error .noRawString := by
  rw [measure]
  split
  next body quote =>
    rw [quote] at no_quote
    exact absurd rfl no_quote
  next => rfl

/-- Where a literal ends, or why there is none. -/
def Result.end? : Result → Except Refusal Place
  | closed stop => .ok stop
  | absent _ => .error .noRawString
  | unterminated pounds _ => .error (.openRawString pounds)

theorem end?_read (p : Place) : (read p).end? = (measure p.after).map p.advanceBy := by
  have opening_eq : p.advance.advanceWhile (· == '#') =
      p.advanceBy (1 + (p.after.tail.takeWhile (· == '#')).length) := by
    rw [Place.advanceWhile_eq_advanceBy, Place.after_advance, ← Place.advanceBy_advanceBy]
    rfl
  have opening_after : (p.advance.advanceWhile (· == '#')).after =
      p.after.tail.dropWhile (· == '#') := by
    rw [Place.after_advanceWhile, Place.after_advance]
  simp only [read, measure, Place.after_advance, Place.lookahead, opening_after]
  split
  next quote =>
    rcases List.head?_eq_some_iff.1 quote with ⟨body, text⟩
    simp only [text, List.tail_cons]
    cases bodyLength? (.ofNat (p.after.tail.takeWhile (· == '#')).length) none 0 body with
    | none => rfl
    | some length =>
        -- The `r`, the signs, the quote, and then the body.
        have stop_eq :
            (p.advance.advanceWhile (· == '#')).advance.advanceBy length =
              p.advanceBy ((p.after.tail.takeWhile (· == '#')).length + length + 2) := by
          calc
            (p.advance.advanceWhile (· == '#')).advance.advanceBy length
                = ((p.advanceBy (1 + (p.after.tail.takeWhile (· == '#')).length)).advanceBy
                    1).advanceBy length := by rw [opening_eq]; rfl
            _ = p.advanceBy ((p.after.tail.takeWhile (· == '#')).length + length + 2) := by
                  rw [Place.advanceBy_advanceBy, Place.advanceBy_advanceBy]
                  congr 1
                  omega
        simp only [Result.end?, Except.map, stop_eq]
  next no_quote =>
    split
    next body text =>
      rw [text] at no_quote
      exact absurd rfl no_quote
    next => rfl

end RawLiteral

namespace LineRuling

/-- What a ruling decides; `none` where the rule defers. -/
def decided? : LineRuling → Option (Except Refusal (External × State))
  | produces token after _ _ => some (.ok (token, after))
  | «continues» _ => some (.error .lineContinues)
  | defers _ => none

end LineRuling

/-! ## The verdict -/

namespace State

/-- What the off-side rule says of a line that is indented to `indent` and goes on with `text`; `none`
where it does not apply. -/
def lineVerdict (state : State) (accepts : Acceptance) (indent : Level) (text : List Char) :
    Option (Except Refusal (External × State)) :=
  let goesOn := Lead.startsContinuation text
  if state.levels.innermost < indent then
    if accepts.openBrace && !accepts.endContinuation && !text.isEmpty && !goesOn then
      some (.ok (.openBrace, { state with levels := indent :: state.levels }))
    else
      none
  else if indent = state.levels.innermost then
    if accepts.semicolon && !accepts.endContinuation &&
        text.head?.bind Certainty.ofChar? != some .immediate then
      some (if goesOn then .error .lineContinues else .ok (.semicolon, state))
    else
      none
  else if accepts.semicolon && text.head? != some '}' then
    some (.ok (.semicolon, state.dedent indent goesOn))
  else
    none

/-- The token that `text` opens with, and its length; at the end of the text, the terminator. -/
def textVerdict (state : State) (accepts : Acceptance) (text : List Char) :
    Except Refusal (External × State × Nat) :=
  match text.head? with
  | none =>
      if state.terminated then
        .error .nothingApplies
      else
        .ok (.semicolon, { state with terminated := true }, 0)
  | some '{' =>
      if accepts.openBrace then
        .ok (.openBrace, { state with awaitsLevel := true }, 1)
      else
        .error .nothingApplies
  | some '}' =>
      if accepts.closeBrace then
        .ok (.semicolon, state.closeExplicitly, 0)
      else
        .error .nothingApplies
  | some ';' =>
      if accepts.semicolon then .ok (.semicolon, state, 1) else .error .nothingApplies
  | some 'r' =>
      if accepts.rawString then
        (RawLiteral.measure text).map fun length => (.rawString, state, length)
      else
        .error .nothingApplies
  | _ => .error .nothingApplies

/-- The decision of a scanner that owes nothing: the token, the state behind it, and the number of
characters that the token covers behind the margin. -/
def verdict (state : State) (accepts : Acceptance) (sight : Sight) :
    Except Refusal (External × State × Nat) :=
  let recorded := state.recordLevel sight.level
  let ruled :=
    if sight.margin.crossesLine then
      recorded.lineVerdict accepts sight.margin.indent sight.text
    else
      none
  match ruled with
  | some decided => decided.map fun (token, after) => (token, after, 0)
  | none => recorded.textVerdict accepts sight.text

/-! ## A scan comes to the verdict -/

/-- The token of a verdict, between the line's head and the place behind its characters. -/
def placed (head : Place) (decided : External × State × Nat) : External × State × Place × Place :=
  (decided.1, decided.2.1, head, head.advanceBy decided.2.2)

theorem given_readSpelled {state : State} (recorded : state.awaitsLevel = false)
    (accepts : Acceptance) {head : Place} (more : head.atEnd = false) :
    (state.readSpelled accepts head head).given =
      (state.textVerdict accepts head.after).map (placed head) := by
  rcases Place.lookahead_of_atEnd_eq_false more with ⟨c, here⟩
  have first : head.after.head? = some c := here
  have literal :
      (match RawLiteral.read head with
        | .closed stop => Reading.spelled .rawString state head stop
        | .absent reached => Reading.refused .noRawString head reached
        | .unterminated pounds reached => Reading.refused (.openRawString pounds) head reached).given =
        (RawLiteral.read head).end?.map fun stop => (External.rawString, state, head, stop) := by
    cases RawLiteral.read head <;> rfl
  rw [RawLiteral.end?_read] at literal
  -- Both sides tell the same characters apart.
  simp only [readSpelled, textVerdict, here, first, awaitLevel, recorded, Bool.false_eq_true, if_false]
  split
  next same =>
    cases same
    split <;> rfl
  next same =>
    cases same
    split <;> rfl
  next same =>
    cases same
    split <;> rfl
  next same =>
    cases same
    split
    · refine literal.trans ?_
      cases RawLiteral.measure head.after <;> rfl
    · rfl
  next no_open no_close no_separator no_letter =>
    split
    next same => cases same
    next same => exact absurd same no_open
    next same => exact absurd same no_close
    next same => exact absurd same no_separator
    next same => exact absurd same no_letter
    next => rfl

theorem textVerdict_of_isAmbiguous {state : State} (accepts : Acceptance) {head : Place}
    (ambiguous : (Opening.ofPlace head).isAmbiguous = true) :
    state.textVerdict accepts head.after = .error .nothingApplies := by
  cases first : head.lookahead with
  | none =>
      rw [Opening.ofPlace, first] at ambiguous
      cases ambiguous
  | some c =>
      have lead : Certainty.ofChar? c = some .ambiguous := by
        cases certainty : Certainty.ofChar? c with
        | none => simp [Opening.ofPlace, first, certainty, Opening.ofCertainty, Opening.isAmbiguous]
            at ambiguous
        | some answer =>
            cases answer with
            | immediate =>
                simp [Opening.ofPlace, first, certainty, Opening.ofCertainty, Opening.isAmbiguous]
                  at ambiguous
            | ambiguous => rfl
      have text : head.after.head? = some c := first
      rcases Lead.lead_of_ofChar?_eq_ambiguous lead with rfl | rfl | rfl | rfl
      all_goals simp [textVerdict, text]

theorem given_readHead {state : State} (recorded : state.awaitsLevel = false)
    (accepts : Acceptance) {head here : Place}
    (unread : (Opening.ofPlace head).isAmbiguous = false → here = head) :
    (state.readHead accepts head here).given =
      (state.textVerdict accepts head.after).map (placed head) := by
  cases ends : head.atEnd with
  | true =>
      have nothing : head.after = [] := Place.atEnd_iff.1 ends
      have decided := isAmbiguous_ofPlace_of_atEnd ends
      cases unread decided
      cases ended : state.terminated with
      | false => simp [readHead, textVerdict, ends, nothing, ended]; rfl
      | true =>
          have nothing_next : head.lookahead = none := by rw [Place.lookahead, nothing]; rfl
          simp [readHead, textVerdict, ends, nothing, ended, decided, readSpelled, nothing_next]
          rfl
  | false =>
      cases ambiguous : (Opening.ofPlace head).isAmbiguous with
      | true =>
          rw [textVerdict_of_isAmbiguous accepts ambiguous]
          simp [readHead, ends, ambiguous]
          rfl
      | false =>
          cases unread ambiguous
          simpa [readHead, ends, ambiguous] using given_readSpelled recorded accepts ends

/-- The off-side rule decides what the verdict says of the line. -/
theorem decided?_ruleLine (state : State) (accepts : Acceptance) (indent : Level) (head : Place) :
    (state.ruleLine accepts indent head).decided? = state.lineVerdict accepts indent head.after := by
  have goes_on : ((Opening.ofPlace head).ask head).continues =
      Lead.startsContinuation head.after := continuesAt_eq head
  have first : head.lookahead = head.after.head? := rfl
  have ends : head.atEnd = head.after.isEmpty := rfl
  have immediate : (Opening.ofPlace head != .continuation) =
      (head.after.head?.bind Certainty.ofChar? != some .immediate) := by
    rw [Opening.ofPlace, first]
    cases head.after.head?.bind Certainty.ofChar? with
    | none => rfl
    | some certainty => cases certainty <;> rfl
  simp only [ruleLine, lineVerdict, ruleIndent, ruleAligned, ruleDedent, goes_on, first, ends,
    immediate, dedent]
  split
  · -- A deeper line opens a block only if it does not continue.
    cases Lead.startsContinuation head.after with
    | true =>
        simp only [if_true, Bool.not_true, Bool.and_false]
        split <;> rfl
    | false =>
        simp only [Bool.not_false, Bool.and_true]
        split <;> rfl
  · split
    · split
      · split <;> rfl
      · rfl
    · split <;> rfl

theorem given_scan {state : State} (accepts : Acceptance) (p : Place)
    (settled : state.owed.next? = none) :
    (state.scan accepts p).given =
      (state.verdict accepts p.sight).map (placed p.lineHead) := by
  have scanned : (state.scan accepts p).given = (state.readText accepts p).given := by
    simp [Reading.given, scan, read, settled]
  have recorded := awaitsLevel_recordedAt state p
  have ruled : (state.rulingAt accepts p).decided? =
      if p.margin.crossesLine then
        (state.recordedAt p).lineVerdict accepts p.margin.indent p.lineHead.after
      else
        none := by
    rw [rulingAt]
    split
    · exact decided?_ruleLine _ accepts _ _
    · rfl
  have verdict_eq : state.verdict accepts p.sight =
      match (state.rulingAt accepts p).decided? with
      | some decided => decided.map fun given => (given.1, given.2, 0)
      | none => (state.recordedAt p).textVerdict accepts p.lineHead.after := by
    rw [ruled]
    rfl
  rw [scanned, verdict_eq, readText_eq]
  cases ruling : state.rulingAt accepts p with
  | produces token after reached notices => rfl
  | «continues» reached => rfl
  | defers here =>
      exact given_readHead recorded accepts (eq_lineHead_of_rulingAt_eq_defers ruling)

end State

end Offside
