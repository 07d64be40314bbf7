import Offside.Session

/-!
# Every turn makes progress

A turn that is not the last leaves a smaller session. Most turns read some of the text. The others
give out a token without width, and then either the terminator is given out, which happens once, or
less is owed. One step makes the debt larger: the separator in front of an explicit closing brace
owes the brace. But the brace, when it is paid, covers a character of the text; so in front of a
closing brace owing exactly that brace counts as less than owing nothing. Main statements:

* `State.le_stop_read` — a scan never goes back.
* `State.headway_scan` — a scan that gives out a token reads on, terminates, or pays.
* `Session.smaller_of_next?` — the session after a turn is smaller.
-/

namespace Offside

namespace Owed

/-- Exactly the brace is owed that follows the separator in front of an explicit closing brace. -/
def isLoneClose (owed : Owed) : Bool :=
  owed.closes == 1 && owed.separators == 0

/-- The lone brace is given out as the last of the debt. -/
theorem next?_of_isLoneClose {owed rest : Owed} {token : External}
    (lone : owed.isLoneClose = true) (h : owed.next? = some (token, rest)) :
    token = .closeBrace ∧ rest.isSettled = true := by
  obtain ⟨closes, separators, dropsLast⟩ := owed
  simp only [isLoneClose, Bool.and_eq_true, beq_iff_eq] at lone
  obtain ⟨rfl, rfl⟩ := lone
  cases h
  exact ⟨rfl, by cases dropsLast <;> decide⟩

/-- How many turns the debt can last at `p` without reading. -/
def weight (owed : Owed) (p : Place) : Nat :=
  if p.lookahead = some '}' then
    if owed.isLoneClose then 0 else owed.count + 1
  else
    owed.count

end Owed

namespace State

/-- What a scan at `p` that leaves off at `stop` does besides reading on. -/
inductive Headway (before after : State) (p stop : Place) : Prop
  | reads (shorter : stop.after.length < p.after.length)
  | terminates (stays : stop = p) (was : before.terminated = false)
      (becomes : after.terminated = true)
  | pays (stays : stop = p) (same : after.terminated = before.terminated)
      (less : after.owed.weight p < before.owed.weight p)

theorem headway_readOwed {state : State} {token : External} {owed : Owed} {p : Place}
    (h : state.owed.next? = some (token, owed)) :
    Headway state { state with owed := owed } p (state.readOwed token owed p).stop := by
  simp only [readOwed, Reading.spelled]
  split
  next covers =>
    exact .reads (Place.length_after_advance_lt (Place.atEnd_eq_false_of_lookahead covers.2.2))
  next not_covers =>
    -- A token that covers no text is paid, and so the debt is lighter.
    refine .pays rfl rfl ?_
    have less := Owed.count_lt_of_next? h
    have not_lone (brace : p.lookahead = some '}') : state.owed.isLoneClose = false := by
      by_cases lone : state.owed.isLoneClose
      · have := Owed.next?_of_isLoneClose lone h
        exact absurd ⟨this.1, this.2, brace⟩ not_covers
      · simpa using lone
    simp only [Owed.weight]
    split
    next brace =>
      rw [not_lone brace, if_neg Bool.false_ne_true]
      split
      · exact Nat.succ_pos _
      · exact Nat.succ_lt_succ less
    next => exact less

theorem headway_readSpelled {state after : State} {accepts : Acceptance} {head : Place}
    {token : External} (settled : state.owed.count = 0)
    (h : (state.readSpelled accepts head head).outcome = .ok (token, after)) :
    Headway state after head (state.readSpelled accepts head head).stop := by
  have reads {c : Char} (hc : head.lookahead = some c) {stop : Place} (hs : head.advance ≤ stop) :
      stop.after.length < head.after.length :=
    Nat.lt_of_le_of_lt (Place.length_after_le hs)
      (Place.length_after_advance_lt (Place.atEnd_eq_false_of_lookahead hc))
  generalize hr : state.readSpelled accepts head head = reading at h ⊢
  unfold readSpelled at hr
  split at hr
  next hc =>
    split at hr
    · split at hr
      · subst hr
        exact .reads (reads hc (Place.le_refl _))
      · subst hr
        cases h
    · subst hr
      cases h
  next hc =>
    split at hr
    · subst hr
      cases h
      -- In front of a closing brace, owing that brace alone weighs less than owing nothing.
      refine .pays rfl rfl ?_
      obtain ⟨levels, ⟨closes, separators, dropsLast⟩, terminated, awaitsLevel⟩ := state
      have closes_zero : closes = 0 := UInt32.toNat_inj.1 (by simp [Owed.count] at settled ⊢; omega)
      have separators_zero : separators = 0 :=
        UInt32.toNat_inj.1 (by simp [Owed.count] at settled ⊢; omega)
      subst closes_zero separators_zero
      simp [Owed.weight, hc, closeExplicitly, Owed.addClose, Owed.isLoneClose]
    · subst hr
      cases h
  next hc =>
    split at hr
    · subst hr
      exact .reads (reads hc (Place.le_refl _))
    · subst hr
      cases h
  next hc =>
    split at hr
    · split at hr
      next closed =>
        subst hr
        exact .reads (reads hc (RawLiteral.advance_le_of_read_eq_closed closed))
      · subst hr
        cases h
      · subst hr
        cases h
    · subst hr
      cases h
  next =>
    subst hr
    cases h

theorem headway_readHead {state after : State} {accepts : Acceptance} {head here : Place}
    {token : External} (settled : state.owed.count = 0)
    (unread : (Opening.ofPlace head).isAmbiguous = false → here = head)
    (h : (state.readHead accepts head here).outcome = .ok (token, after)) :
    Headway state after head (state.readHead accepts head here).stop := by
  unfold readHead at h ⊢
  split
  next terminates =>
    rw [if_pos terminates] at h
    simp only [Bool.and_eq_true, Bool.not_eq_true'] at terminates
    cases h
    exact .terminates rfl terminates.2 rfl
  next goes_on =>
    rw [if_neg goes_on] at h
    split
    next ambiguous =>
      rw [if_pos ambiguous] at h
      cases h
    next decided =>
      rw [if_neg decided] at h
      obtain rfl : here = head := unread (Bool.not_eq_true _ ▸ decided)
      exact headway_readSpelled settled h

/-- A scan reads on from the place where it starts. -/
theorem head_le_stop_readSpelled (state : State) (accepts : Acceptance) {head here : Place}
    (onward : head ≤ here) : head ≤ (state.readSpelled accepts head here).stop := by
  have reads_one : head ≤ here.advance := Place.le_trans onward (Place.le_advance here)
  unfold readSpelled
  repeat' split
  all_goals first
    | exact Place.le_refl head
    | exact reads_one
    | exact Place.le_trans reads_one (RawLiteral.advance_le_of_read_eq_closed ‹_›)

theorem head_le_stop_readHead (state : State) (accepts : Acceptance) {head here : Place}
    (onward : head ≤ here) : head ≤ (state.readHead accepts head here).stop := by
  unfold readHead
  split
  · exact Place.le_refl head
  · split
    · exact Place.le_refl head
    · exact head_le_stop_readSpelled state accepts onward

theorem lineHead_le_stop_readText (state : State) (accepts : Acceptance) (p : Place) :
    p.lineHead ≤ (state.readText accepts p).stop := by
  unfold readText
  dsimp only
  split
  · exact Place.le_refl _
  · exact Place.le_refl _
  next here ruling =>
    refine head_le_stop_readHead _ accepts ?_
    split at ruling
    · exact le_of_ruleLine_eq_defers ruling
    · cases ruling
      exact Place.le_refl _

theorem le_stop_read (state : State) (accepts : Acceptance) (p : Place) :
    p ≤ (state.read accepts p).stop := by
  unfold read
  split
  · simp only [readOwed, Reading.spelled]
    split
    · exact Place.le_advance p
    · exact Place.le_refl p
  · exact Place.le_trans (Place.le_advanceWhile _ _) (lineHead_le_stop_readText state accepts p)

theorem crossesLine_margin_of_lineHead_eq {p : Place} (h : p.lineHead = p) :
    p.margin.crossesLine = false := by
  have nothing : p.after.takeWhile Margin.isMarginChar = [] := by
    have parts := List.takeWhile_append_dropWhile (p := Margin.isMarginChar) (l := p.after)
    have rest : p.after.dropWhile Margin.isMarginChar = p.after := by
      rw [← Place.after_advanceWhile]
      exact congrArg Place.after h
    rw [rest] at parts
    exact List.append_left_eq_self.1 parts
  rw [Place.margin, nothing]
  rfl

theorem headway_readText {state after : State} {accepts : Acceptance} {p : Place}
    {token : External} (settled : state.owed.count = 0)
    (h : (state.readText accepts p).outcome = .ok (token, after)) :
    Headway state after p (state.readText accepts p).stop := by
  have onward : p ≤ p.lineHead := Place.le_advanceWhile _ _
  rcases Nat.lt_or_ge p.lineHead.after.length p.after.length with shorter | same
  · exact .reads (Nat.lt_of_le_of_lt
      (Place.length_after_le (lineHead_le_stop_readText state accepts p)) shorter)
  · -- Without a margin there is no new line, so the off-side rule is not asked.
    have stays : p.lineHead = p :=
      Place.eq_of_le_of_length_eq onward (Nat.le_antisymm (Place.length_after_le onward) same)
    have flat := crossesLine_margin_of_lineHead_eq stays
    unfold readText at h ⊢
    simp only [flat, stays] at h ⊢
    have owes_nothing :
        (state.recordLevel (levelAt p.margin p)).owed.count = 0 := by
      rw [owed_recordLevel]
      exact settled
    cases headway_readHead owes_nothing (fun _ => rfl) h with
    | reads shorter => exact .reads shorter
    | terminates stays was becomes => exact .terminates stays (by simpa using was) becomes
    | pays stays same less => exact .pays stays (by simpa using same) (by simpa using less)

/-- Every scan that gives out a token makes headway. -/
theorem headway_scan {state after : State} {accepts : Acceptance} {p : Place} {token : External}
    (h : (state.scan accepts p).outcome = .ok (token, after)) :
    Headway state after p (state.scan accepts p).stop := by
  change (state.read accepts p).outcome = _ at h
  change Headway state after p (state.read accepts p).stop
  cases next : state.owed.next? with
  | some paid =>
      simp only [read, next] at h ⊢
      cases h
      exact headway_readOwed next
  | none =>
      simp only [read, next] at h ⊢
      exact headway_readText ((Owed.next?_eq_none_iff _).1 next) h

end State

namespace Session

/-- The size of a session: what is left of the text, whether the terminator is still to come, and
the weight of what is owed. -/
def size (session : Session) : Nat × Nat × Nat :=
  (session.place.after.length, if session.state.terminated then 0 else 1,
    session.state.owed.weight session.place)

/-- Less text left, or else the terminator given out, or else less owed. -/
abbrev Smaller : Nat × Nat × Nat → Nat × Nat × Nat → Prop :=
  Prod.Lex (· < ·) (Prod.Lex (· < ·) (· < ·))

theorem size_smaller_of_headway {session : Session} {after : State} {stop : Place}
    {previous : Option (Nat × Checkpoint.Bytes)} (onward : session.place ≤ stop)
    (h : State.Headway session.state after session.place stop) :
    Smaller (size ⟨stop, after, previous⟩) session.size := by
  rcases h with shorter | ⟨rfl, was, becomes⟩ | ⟨rfl, same, less⟩
  · exact .left _ _ shorter
  · simp only [size, was, becomes]
    exact .right _ (.left _ _ (by decide))
  · simp only [size, same]
    exact .right _ (.right _ less)

/-- The session after a turn is smaller. -/
theorem smaller_of_next? {config : Config} {session next : Session}
    (h : (turn config session).value.next? = some next) :
    Smaller next.size session.size := by
  unfold turn at h
  dsimp only at h
  split at h
  next token state outcome =>
    unfold takeToken at h
    split at h
    · cases h
    · split at h
      · cases h
      · cases h
        exact size_smaller_of_headway (State.le_stop_read _ _ _) (State.headway_scan outcome)
  next refusal outcome =>
    unfold takeText at h
    split at h
    · dsimp only at h
      split at h
      · cases h
      next more =>
        cases h
        refine .left _ _ (Nat.lt_of_lt_of_le
          (Place.length_after_chunkEnd_lt (by simpa using more)) ?_)
        exact Place.length_after_le (Place.le_advanceWhile _ _)
    · cases h

end Session

end Offside
