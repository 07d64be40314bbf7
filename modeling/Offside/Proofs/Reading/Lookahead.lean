import Offside.Proofs.Place.Tail
import Offside.Proofs.Reading.Yields

/-!
# What a scan depends on

A scan decides by what stands in front of the place where it stops reading, and by the character that
it sees there. So if the tail of the text behind that character is exchanged, the scan comes out as it
did. Main statements:

* `Opening.resolve_withTail`, `RawLiteral.read_withTail`, `State.ruleLine_withTail` — for the parts of
  a scan that read on.
* `State.stop_le_reached_read` — a token ends where the scan has read to, or before.
* `State.scan_withTail` — for the scan.
-/

namespace Offside

open Place (InFrontOf)

/-! ## Openings -/

namespace Opening

/-- The answer with its place moved. -/
def Answer.map (f : Place → Place) (answer : Answer) : Answer :=
  { answer with reached := f answer.reached }

section

variable {s : List Char} (t : List Char) {head : Place}

theorem ofPlace_withTail (front : head.InFrontOf s) : ofPlace (head.withTail s t) = ofPlace head := by
  rw [ofPlace, ofPlace, Place.lookahead_withTail t front]

/-- A word that ends in front of the tail is read without the tail. -/
theorem takeWhile_take_append {continues : Char → Bool} {n : Nat} {ahead s : List Char}
    (t : List Char) (short : (((ahead ++ s).take n).takeWhile continues).length < ahead.length) :
    ((ahead ++ t).take n).takeWhile continues = ((ahead ++ s).take n).takeWhile continues := by
  induction ahead generalizing n with
  | nil => simp at short
  | cons c rest ih =>
      cases n with
      | zero => rfl
      | succ n =>
          cases begins : continues c with
          | false => simp [begins]
          | true =>
              have shorter : (((rest ++ s).take n).takeWhile continues).length < rest.length := by
                simpa [begins] using short
              simp [begins, ih shorter]

theorem resolveWord_withTail (front : (resolveWord head).2.InFrontOf s) :
    resolveWord (head.withTail s t) =
      ((resolveWord head).1, (resolveWord head).2.withTail s t) := by
  simp only [resolveWord] at front ⊢
  have same_word : ((head.withTail s t).after.take keywordLength).takeWhile isAscii =
      (head.after.take keywordLength).takeWhile isAscii := by
    rcases Place.exists_ahead_of_inFrontOf_advanceBy front with ⟨ahead, text, short⟩
    rw [text] at short
    rw [Place.after_withTail ahead t text, text]
    exact takeWhile_take_append t short
  rw [same_word, Place.advanceBy_withTail t front, Place.lookahead_withTail t front]

theorem resolve_withTail (front : (resolve head).2.InFrontOf s) :
    resolve (head.withTail s t) = ((resolve head).1, (resolve head).2.withTail s t) := by
  have here := InFrontOf.of_le (le_reached_resolve head) front
  have onward := Place.advance_withTail t here
  -- One case for each spelling that is told apart, with the character behind it in front of the tail.
  unfold resolve at front
  split at front
  next rest text =>
    rcases front with ⟨c, ahead, behind⟩
    simp only [Place.after_advance, text, List.tail_cons, List.cons.injEq] at behind
    rcases behind with ⟨rfl, rfl⟩
    have exchanged := Place.after_withTail ('>' :: '>' :: ahead) t text
    simp only [resolve, exchanged, text, List.cons_append, onward]
  next rest text =>
    rcases front with ⟨c, ahead, behind⟩
    simp only [Place.after_advance, text, List.tail_cons] at behind
    subst behind
    have exchanged := Place.after_withTail ('>' :: '|' :: c :: ahead) t text
    have next : head.advance.InFrontOf s := ⟨'|', c :: ahead, by simp [text]⟩
    simp only [resolve, exchanged, text, List.cons_append, onward, Place.advance_withTail t next,
      List.head?_cons]
  next rest not_shift not_bar text =>
    rcases front with ⟨c, ahead, behind⟩
    simp only [Place.after_advance, text, List.tail_cons] at behind
    subst behind
    have exchanged := Place.after_withTail ('>' :: c :: ahead) t text
    have shift : c ≠ '>' := fun same => not_shift _ (congrArg (· :: _) same)
    have bar : c ≠ '|' := fun same => not_bar _ (congrArg (· :: _) same)
    simp [resolve, exchanged, text, onward, shift, bar]
  next rest text =>
    rcases front with ⟨c, ahead, behind⟩
    simp only [Place.after_advance, text, List.tail_cons] at behind
    subst behind
    have exchanged := Place.after_withTail ('<' :: c :: ahead) t text
    simp only [resolve, exchanged, text, List.cons_append, onward, List.head?_cons]
  next rest text =>
    rcases here with ⟨c, ahead, behind⟩
    have exchanged := Place.after_withTail (c :: ahead) t behind
    rw [text] at behind
    cases behind
    simpa only [resolve, exchanged, text, List.cons_append] using resolveWord_withTail t front
  next rest text =>
    rcases here with ⟨c, ahead, behind⟩
    have exchanged := Place.after_withTail (c :: ahead) t behind
    rw [text] at behind
    cases behind
    simpa only [resolve, exchanged, text, List.cons_append] using resolveWord_withTail t front
  next no_greater no_less no_then no_else =>
    rcases here with ⟨c, ahead, text⟩
    have exchanged := Place.after_withTail (c :: ahead) t text
    have greater : c ≠ '>' := fun same => no_greater _ (text.trans (congrArg (· :: _) same))
    have less : c ≠ '<' := fun same => no_less _ (text.trans (congrArg (· :: _) same))
    have word_t : c ≠ 't' := fun same => no_then _ (text.trans (congrArg (· :: _) same))
    have word_e : c ≠ 'e' := fun same => no_else _ (text.trans (congrArg (· :: _) same))
    simp [resolve, exchanged, text, greater, less, word_t, word_e]

theorem ask_withTail {opening : Opening} (front : (opening.ask head).reached.InFrontOf s) :
    opening.ask (head.withTail s t) = (opening.ask head).map (Place.withTail s t) := by
  cases opening with
  | statement => rfl
  | continuation => rfl
  | ambiguous answer =>
      cases answer with
      | some _ => rfl
      | none =>
          have resolved := resolve_withTail t front
          simp only [ask, resolved, Answer.map]

end

end Opening

/-! ## Raw string literals -/

namespace RawLiteral

/-- How far the text was read for a result. -/
def Result.reached : Result → Place
  | closed stop => stop
  | absent reached => reached
  | unterminated _ reached => reached

/-- The result with its place moved. -/
def Result.map (f : Place → Place) : Result → Result
  | closed stop => closed (f stop)
  | absent reached => absent (f reached)
  | unterminated pounds reached => unterminated pounds (f reached)

theorem le_of_bodyLength?_eq_some {pounds : UInt32} {length : Nat} :
    ∀ {chars : List Char} {delimiter : Delimiter} {counted : Nat},
      bodyLength? pounds delimiter counted chars = some length → counted ≤ length := by
  intro chars
  induction chars with
  | nil =>
      intro delimiter counted found
      simp only [bodyLength?] at found
      split at found <;> cases found
      exact Nat.le_refl _
  | cons c rest ih =>
      intro delimiter counted found
      simp only [bodyLength?] at found
      split at found
      · cases found
        exact Nat.le_refl _
      · exact Nat.le_of_succ_le (ih found)

theorem le_length_of_bodyLength?_eq_some {pounds : UInt32} {length : Nat} :
    ∀ {chars : List Char} {delimiter : Delimiter} {counted : Nat},
      bodyLength? pounds delimiter counted chars = some length → length ≤ counted + chars.length := by
  intro chars
  induction chars with
  | nil =>
      intro delimiter counted found
      simp only [bodyLength?] at found
      split at found <;> cases found
      exact Nat.le_refl _
  | cons c rest ih =>
      intro delimiter counted found
      simp only [bodyLength?] at found
      split at found
      · cases found
        exact Nat.le_add_right _ _
      · have within := ih found
        rw [List.length_cons]
        omega

/-- Behind a whole delimiter nothing is counted any more. -/
theorem bodyLength?_of_complete (pounds : UInt32) (counted : Nat) (chars : List Char) :
    bodyLength? pounds (some pounds) counted chars = some counted := by
  cases chars <;> simp [bodyLength?]

theorem eq_some_of_bodyLength?_eq_counted {pounds : UInt32} {counted : Nat}
    {delimiter : Delimiter} {chars : List Char}
    (found : bodyLength? pounds delimiter counted chars = some counted) :
    delimiter = some pounds := by
  by_cases complete : delimiter = some pounds
  · exact complete
  · cases chars with
    | nil =>
        rw [bodyLength?, if_neg complete] at found
        cases found
    | cons c rest =>
        rw [bodyLength?, if_neg complete] at found
        exact absurd (le_of_bodyLength?_eq_some found) (Nat.not_succ_le_self _)

/-- A literal that does not reach into the tail is counted without the tail. -/
theorem bodyLength?_append {pounds : UInt32} {length : Nat} {s : List Char} (t : List Char) :
    ∀ {ahead : List Char} {delimiter : Delimiter} {counted : Nat},
      bodyLength? pounds delimiter counted (ahead ++ s) = some length →
      length ≤ counted + ahead.length →
      bodyLength? pounds delimiter counted (ahead ++ t) = some length := by
  intro ahead
  induction ahead with
  | nil =>
      intro delimiter counted found short
      obtain rfl : length = counted := Nat.le_antisymm short (le_of_bodyLength?_eq_some found)
      rw [eq_some_of_bodyLength?_eq_counted found]
      exact bodyLength?_of_complete pounds length t
  | cons c rest ih =>
      intro delimiter counted found short
      simp only [List.cons_append, bodyLength?] at found ⊢
      split at found
      next complete =>
        rw [if_pos complete]
        exact found
      next incomplete =>
        rw [if_neg incomplete]
        refine ih found ?_
        rw [List.length_cons] at short
        omega

/-- The place behind the `r` of a literal and its signs. -/
def opening (p : Place) : Place :=
  p.advance.advanceWhile (· == '#')

/-- The number of signs behind the `r` of a literal. -/
def signs (p : Place) : Nat :=
  (p.advance.after.takeWhile (· == '#')).length

theorem read_eq (p : Place) :
    read p =
      if (opening p).lookahead = some '"' then
        match bodyLength? (.ofNat (signs p)) none 0 (opening p).advance.after with
        | some length => .closed ((opening p).advance.advanceBy length)
        | none => .unterminated (.ofNat (signs p)) ((opening p).advance.advanceWhile fun _ => true)
      else
        .absent (opening p) :=
  rfl

theorem le_opening (p : Place) : p ≤ opening p :=
  Place.le_trans (Place.le_advance p) (Place.le_advanceWhile _ _)

theorem opening_le_reached_read (p : Place) : opening p ≤ (read p).reached := by
  rw [read_eq]
  split
  · split
    · exact Place.le_trans (Place.le_advance _) (Place.le_advanceBy _ _)
    · exact Place.le_trans (Place.le_advance _) (Place.le_advanceWhile _ _)
  · exact Place.le_refl _

theorem read_withTail {s : List Char} (t : List Char) {p : Place}
    (front : (read p).reached.InFrontOf s) :
    read (p.withTail s t) = (read p).map (Place.withTail s t) := by
  have opens : (opening p).InFrontOf s := front.of_le (opening_le_reached_read p)
  have onward := Place.advance_withTail t (opens.of_le (le_opening p))
  have same_opening : opening (p.withTail s t) = (opening p).withTail s t := by
    rw [opening, onward]
    exact Place.advanceWhile_withTail t opens
  have same_signs : signs (p.withTail s t) = signs p := by
    rw [signs, onward, Place.takeWhile_withTail t opens, signs]
  rw [read_eq] at front
  rw [read_eq, read_eq, same_opening, same_signs, Place.lookahead_withTail t opens,
    Place.advance_withTail t opens]
  split
  next quote =>
    rw [if_pos quote] at front
    split at front
    next length counted =>
      -- The literal is closed in front of the tail, so it is counted without the tail.
      rcases Place.exists_ahead_of_inFrontOf_advanceBy front with ⟨ahead, text, short⟩
      rw [text] at counted
      have counted_again := bodyLength?_append t counted (by omega)
      rw [Place.after_withTail ahead t text]
      simp only [counted_again, Result.map, Place.advanceBy_withTail t front]
    next open_end =>
      -- The search for the end of the literal went on into the tail.
      rcases front with ⟨c, ahead, more⟩
      cases Place.eq_false_of_after_advanceWhile more
  · rfl

end RawLiteral

/-! ## The off-side rule -/

namespace LineRuling

/-- How far the text was read for a ruling. -/
def reached : LineRuling → Place
  | produces _ _ reached _ => reached
  | «continues» reached => reached
  | defers reached => reached

/-- The ruling with its place moved. -/
def map (f : Place → Place) : LineRuling → LineRuling
  | produces token state reached notices => produces token state (f reached) notices
  | «continues» reached => «continues» (f reached)
  | defers reached => defers (f reached)

end LineRuling

namespace Reading

/-- The reading with its places moved. -/
def map (f : Place → Place) (reading : Reading) : Reading :=
  { reading with head := f reading.head, stop := f reading.stop, reached := f reading.reached }

end Reading

namespace State

section

variable {s : List Char} (t : List Char) {state : State} {accepts : Acceptance} {head : Place}

theorem le_reached_ruleLine (state : State) (accepts : Acceptance) (indent : Level) (head : Place) :
    head ≤ (state.ruleLine accepts indent head).reached := by
  have asked := Opening.le_reached_ask (Opening.ofPlace head) head
  simp only [ruleLine, ruleIndent, ruleAligned, ruleDedent]
  repeat' split
  all_goals first | exact asked | exact Place.le_refl head

theorem ruleIndent_withTail {indent : Level} (here : head.InFrontOf s)
    (front : (state.ruleIndent accepts indent head).reached.InFrontOf s) :
    state.ruleIndent accepts indent (head.withTail s t) =
      (state.ruleIndent accepts indent head).map (Place.withTail s t) := by
  simp only [ruleIndent, Opening.ofPlace_withTail t here, Place.atEnd_withTail t here] at front ⊢
  split
  next applies =>
    rw [if_pos applies] at front
    have asked : ((Opening.ofPlace head).ask head).reached.InFrontOf s := by
      split at front <;> exact front
    simp only [Opening.ask_withTail t asked, Opening.Answer.map]
    split <;> rfl
  · rfl

theorem ruleAligned_withTail (here : head.InFrontOf s)
    (front : (state.ruleAligned accepts head).reached.InFrontOf s) :
    state.ruleAligned accepts (head.withTail s t) =
      (state.ruleAligned accepts head).map (Place.withTail s t) := by
  simp only [ruleAligned, Opening.ofPlace_withTail t here] at front ⊢
  split
  next applies =>
    rw [if_pos applies] at front
    have asked : ((Opening.ofPlace head).ask head).reached.InFrontOf s := by
      split at front <;> exact front
    simp only [Opening.ask_withTail t asked, Opening.Answer.map]
    split <;> rfl
  · rfl

theorem ruleDedent_withTail {indent : Level} (here : head.InFrontOf s)
    (front : (state.ruleDedent accepts indent head).reached.InFrontOf s) :
    state.ruleDedent accepts indent (head.withTail s t) =
      (state.ruleDedent accepts indent head).map (Place.withTail s t) := by
  simp only [ruleDedent, Opening.ofPlace_withTail t here, Place.lookahead_withTail t here] at front ⊢
  split
  next applies =>
    rw [if_pos applies] at front
    simp only [Opening.ask_withTail t front, Opening.Answer.map]
    rfl
  · rfl

theorem ruleLine_withTail {indent : Level}
    (front : (state.ruleLine accepts indent head).reached.InFrontOf s) :
    state.ruleLine accepts indent (head.withTail s t) =
      (state.ruleLine accepts indent head).map (Place.withTail s t) := by
  have here := front.of_le (le_reached_ruleLine state accepts indent head)
  simp only [ruleLine] at front ⊢
  split
  next deeper =>
    rw [if_pos deeper] at front
    exact ruleIndent_withTail t here front
  next not_deeper =>
    rw [if_neg not_deeper] at front
    split
    next same =>
      rw [if_pos same] at front
      exact ruleAligned_withTail t here front
    next different =>
      rw [if_neg different] at front
      exact ruleDedent_withTail t here front

/-! ## The scan -/

theorem reached_readSpelled_of_letter (state : State) {accepts : Acceptance} (head : Place)
    {here : Place} (letter : here.lookahead = some 'r') (accepted : accepts.rawString = true) :
    (state.readSpelled accepts head here).reached = (RawLiteral.read here).reached := by
  simp only [readSpelled, letter, accepted, if_true]
  cases RawLiteral.read here <;> rfl

theorem le_reached_readSpelled (state : State) (accepts : Acceptance) (head here : Place) :
    here ≤ (state.readSpelled accepts head here).reached := by
  by_cases literal : here.lookahead = some 'r' ∧ accepts.rawString = true
  · rw [reached_readSpelled_of_letter state head literal.1 literal.2]
    exact Place.le_trans (RawLiteral.le_opening here) (RawLiteral.opening_le_reached_read here)
  · -- All other tokens have one character at most.
    simp only [readSpelled]
    repeat' split
    all_goals
      first
      | exact Place.le_advance here
      | exact Place.le_refl here
      | exact absurd ⟨by assumption, by assumption⟩ literal

theorem le_reached_readHead (state : State) (accepts : Acceptance) (head here : Place) :
    here ≤ (state.readHead accepts head here).reached := by
  simp only [readHead]
  split
  · exact Place.le_refl here
  · split
    · exact Place.le_refl here
    · exact le_reached_readSpelled state accepts head here

theorem readSpelled_withTail {here : Place}
    (front : (state.readSpelled accepts head here).reached.InFrontOf s) :
    state.readSpelled accepts (head.withTail s t) (here.withTail s t) =
      (state.readSpelled accepts head here).map (Place.withTail s t) := by
  have begins := front.of_le (le_reached_readSpelled state accepts head here)
  simp only [readSpelled, Place.lookahead_withTail t begins, Place.advance_withTail t begins]
  split
  next =>
    repeat' split
    all_goals rfl
  next => split <;> rfl
  next => split <;> rfl
  next letter =>
    split
    next accepted =>
      rw [reached_readSpelled_of_letter state head letter accepted] at front
      rw [RawLiteral.read_withTail t front]
      cases RawLiteral.read here <;> rfl
    · rfl
  next => rfl

theorem readHead_withTail {here : Place} (starts : head.InFrontOf s)
    (front : (state.readHead accepts head here).reached.InFrontOf s) :
    state.readHead accepts (head.withTail s t) (here.withTail s t) =
      (state.readHead accepts head here).map (Place.withTail s t) := by
  simp only [readHead, Place.atEnd_withTail t starts, Opening.ofPlace_withTail t starts] at front ⊢
  split
  · rfl
  next goes_on =>
    rw [if_neg goes_on] at front
    split
    · rfl
    next decided =>
      rw [if_neg decided] at front
      exact readSpelled_withTail t front

end

section

variable {s : List Char} (t : List Char) {state : State} {accepts : Acceptance} {p : Place}

theorem rulingAt_withTail (starts : p.lineHead.InFrontOf s)
    (front : (state.rulingAt accepts p).reached.InFrontOf s) :
    state.rulingAt accepts (p.withTail s t) =
      (state.rulingAt accepts p).map (Place.withTail s t) := by
  have same_level : levelAt p.margin (p.lineHead.withTail s t) = levelAt p.margin p.lineHead := rfl
  simp only [rulingAt, recordedAt, Place.margin_withTail t starts, Place.lineHead_withTail t starts,
    same_level] at front ⊢
  split
  next crosses =>
    rw [if_pos crosses] at front
    exact ruleLine_withTail t front
  · rfl

theorem le_reached_rulingAt (state : State) (accepts : Acceptance) (p : Place) :
    p.lineHead ≤ (state.rulingAt accepts p).reached := by
  simp only [rulingAt]
  split
  · exact le_reached_ruleLine _ accepts _ _
  · exact Place.le_refl _

/-- A scan reads as far as the off-side rule did, or further. -/
theorem reached_rulingAt_le (state : State) (accepts : Acceptance) (p : Place) :
    (state.rulingAt accepts p).reached ≤ (state.readText accepts p).reached := by
  rw [readText_eq]
  cases state.rulingAt accepts p with
  | produces => exact Place.le_refl _
  | «continues» => exact Place.le_refl _
  | defers here => exact le_reached_readHead _ accepts _ here

theorem readText_withTail (front : (state.readText accepts p).reached.InFrontOf s) :
    state.readText accepts (p.withTail s t) =
      (state.readText accepts p).map (Place.withTail s t) := by
  have ruled := front.of_le (reached_rulingAt_le state accepts p)
  have starts := ruled.of_le (le_reached_rulingAt state accepts p)
  have same_record : state.recordedAt (p.withTail s t) = state.recordedAt p := by
    rw [recordedAt, Place.margin_withTail t starts, Place.lineHead_withTail t starts]
    rfl
  rw [readText_eq] at front
  rw [readText_eq, readText_eq, rulingAt_withTail t starts ruled, same_record,
    Place.lineHead_withTail t starts]
  cases ruling : state.rulingAt accepts p with
  | produces => rfl
  | «continues» => rfl
  | defers here =>
      rw [ruling] at front
      exact readHead_withTail t starts front

theorem readOwed_withTail {token : External} {owed : Owed}
    (front : (state.readOwed token owed p).reached.InFrontOf s) :
    state.readOwed token owed (p.withTail s t) =
      (state.readOwed token owed p).map (Place.withTail s t) := by
  have begins : p.InFrontOf s := by
    refine front.of_le ?_
    simp only [readOwed, Reading.spelled]
    split
    · exact Place.le_advance p
    · exact Place.le_refl p
  simp only [readOwed, Place.lookahead_withTail t begins]
  split
  · rw [Place.advance_withTail t begins]
    rfl
  · rfl

/-- If a scan stops reading in front of the tail of the text, it comes out the same with another
tail. -/
theorem scan_withTail (front : (state.scan accepts p).reached.InFrontOf s) :
    state.scan accepts (p.withTail s t) = (state.scan accepts p).map (Place.withTail s t) := by
  have same_reading : state.read accepts (p.withTail s t) =
      (state.read accepts p).map (Place.withTail s t) := by
    have front_read : (state.read accepts p).reached.InFrontOf s := front
    cases debt : state.owed.next? with
    | none =>
        simp only [read, debt] at front_read ⊢
        exact readText_withTail t front_read
    | some paid =>
        simp only [read, debt] at front_read ⊢
        exact readOwed_withTail t front_read
  simp only [scan, same_reading]
  rfl

end

/-! ## Where a token lies in what was read -/

theorem stop_le_reached_readSpelled (state : State) (accepts : Acceptance) {head here : Place}
    (onward : head ≤ here) :
    (state.readSpelled accepts head here).stop ≤ (state.readSpelled accepts head here).reached := by
  -- A spelled token ends where reading does; all else leaves the head as it is.
  have reached := Place.le_trans onward (le_reached_readSpelled state accepts head here)
  generalize reading_eq : state.readSpelled accepts head here = reading at reached ⊢
  simp only [readSpelled] at reading_eq
  repeat' split at reading_eq
  all_goals subst reading_eq
  all_goals first | exact Place.le_refl _ | exact reached

theorem stop_le_reached_scan (state : State) (accepts : Acceptance) (p : Place) :
    (state.scan accepts p).stop ≤ (state.scan accepts p).reached := by
  change (state.read accepts p).stop ≤ (state.read accepts p).reached
  cases debt : state.owed.next? with
  | some paid =>
      simp only [read, debt, readOwed, Reading.spelled]
      exact Place.le_refl _
  | none =>
      have onward := le_reached_rulingAt state accepts p
      simp only [read, debt, readText_eq]
      cases ruling : state.rulingAt accepts p with
      | produces =>
          rw [ruling] at onward
          exact onward
      | «continues» =>
          rw [ruling] at onward
          exact onward
      | defers here =>
          rw [ruling] at onward
          simp only [readHead]
          repeat' split
          · exact onward
          · exact onward
          · exact stop_le_reached_readSpelled _ accepts onward

end State

end Offside
