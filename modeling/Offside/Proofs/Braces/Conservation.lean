import Mathlib.Algebra.GroupWithZero.Nat
import Offside.Proofs.Braces.Pairing
import Offside.Proofs.Reading.Scans

/-!
# No brace is lost

An opening brace that a scanner has given out is remembered, first as a block that waits for its level,
then as a level, then as a closing brace that is owed, until that brace is given out. The one brace that
comes without an opening brace is a closing brace in the text where no block is open. So the braces can
be counted. The counter of owed braces is a word of 32 bits and goes round when a line closes more blocks
than it can count. Main statements:

* `State.balances_of_yields`, `Scan.balances` — what one call adds to each count.
* `State.balance_afterScans` — what many calls add.
* `braces_conserved` — the balance behind every call of a host that starts with a fresh scanner.
* `State.afterScans_deepCalls` — what is owed behind a line that closes any number of blocks.
* `braces_lost_in_full_round` — where the counter goes round, the braces do not balance.
-/

namespace Offside

namespace State

/-- The number of blocks that are open. The innermost one may still wait for its level. -/
def blocks (state : State) : Nat :=
  state.depth + state.awaitsLevel.toNat

/-- The closing braces that the opening braces given out so far still ask for. -/
def outstanding (state : State) : Nat :=
  state.owed.closes.toNat + state.blocks

/-- An explicit closing brace is next, and there is no block that it could close. -/
def closesNothing (state : State) (p : Place) : Bool :=
  state.owed.isSettled && p.lineHead.lookahead == some '}' && (state.recordedAt p).levels.isEmpty

/-- The counts agree in front of a call and behind it. It gives out `token`, or refuses; `stray` says
whether it takes a closing brace that closes nothing. -/
def Balances (state after : State) (token : Option External) (stray : Bool) : Prop :=
  (decide (token = some .openBrace)).toNat + stray.toNat + state.outstanding =
    (decide (token = some .closeBrace)).toNat + after.outstanding +
      UInt32.size * ((state.blocks - after.blocks) / UInt32.size)

/-- Recording a level makes no difference to the number of blocks. -/
theorem depth_recordedAt (state : State) (p : Place) :
    (state.recordedAt p).depth = state.blocks := by
  cases awaits : state.awaitsLevel with
  | false => simp [recordedAt, recordLevel, awaits, blocks]
  | true => simp [recordedAt, recordLevel, awaits, blocks, depth]

theorem isSettled_of_next?_eq_none {state : State} (settled : state.owed.next? = none) :
    state.owed.isSettled = true :=
  (Owed.isSettled_iff_count _).2 ((Owed.next?_eq_none_iff _).1 settled)

/-! ## One call -/

section

variable {state after : State} {accepts : Acceptance} {p head stop : Place} {token : External}

theorem closesNothing_of_lookahead (no_brace : p.lineHead.lookahead ≠ some '}') :
    state.closesNothing p = false := by
  simp [closesNothing, no_brace]

theorem closesNothing_of_due {paid : External × Owed} (due : state.owed.next? = some paid) :
    state.closesNothing p = false := by
  have unsettled : ¬ state.owed.isSettled = true := by
    intro settled
    rw [(Owed.next?_eq_none_iff _).2 ((Owed.isSettled_iff_count _).1 settled)] at due
    cases due
  simp [closesNothing, unsettled]

/-- A token that is owed leaves the blocks as they are, and a closing brace is owed no longer. -/
theorem balances_of_due {rest : Owed} (due : state.owed.next? = some (token, rest)) :
    state.Balances { state with owed := rest } (some token) false := by
  have same_blocks : blocks { state with owed := rest } = state.blocks := rfl
  rcases Owed.next?_cases due with ⟨rfl, fewer⟩ | ⟨rfl, _, as_many⟩
  · simp [Balances, outstanding, same_blocks, ← fewer]
    omega
  · simp [Balances, outstanding, same_blocks, as_many]

/-- A call that leaves the blocks and what is owed as they are has no brace to count. -/
theorem balances_of_bystander (no_brace : token ≠ .openBrace ∧ token ≠ .closeBrace)
    (same_blocks : after.blocks = state.blocks) (same_owed : after.owed = state.owed) :
    state.Balances after (some token) false := by
  simp [Balances, outstanding, same_blocks, same_owed, no_brace]

theorem balances_of_opened (one_more : after.blocks = state.blocks + 1)
    (same_owed : after.owed = state.owed) :
    state.Balances after (some .openBrace) false := by
  simp [Balances, outstanding, one_more, same_owed]
  omega

/-- A dedent owes a brace for each block that it closes, but the counter may go round. -/
theorem balances_of_dedent (settled : state.owed.next? = none) (indent : Level) (continues : Bool) :
    state.Balances ((state.recordedAt p).dedent indent continues) (some .semicolon) false := by
  have still_settled : (state.recordedAt p).owed.next? = none := by rwa [owed_recordedAt]
  rcases Owed.eq_zero_of_count ((Owed.next?_eq_none_iff _).1 settled) with ⟨none_owed, _⟩
  have closes : ((state.recordedAt p).dedent indent continues).owed.closes.toNat =
      (state.recordedAt p).levels.countAbove indent % UInt32.size :=
    toNat_closes_dedent_mod continues still_settled
  have parts := (state.recordedAt p).levels.countAbove_add_length_closeAbove indent
  have before : (state.recordedAt p).levels.length = state.blocks := depth_recordedAt state p
  have left : ((state.recordedAt p).dedent indent continues).blocks =
      ((state.recordedAt p).levels.closeAbove indent).length := by
    simp [blocks, depth]
  have closed : state.blocks - ((state.recordedAt p).levels.closeAbove indent).length =
      (state.recordedAt p).levels.countAbove indent := by
    omega
  have rounds := Nat.div_add_mod ((state.recordedAt p).levels.countAbove indent) UInt32.size
  simp [Balances, outstanding, closed, closes, none_owed, left]
  omega

/-- The separator in front of an explicit closing brace owes the brace, and takes the innermost block
away, if there is one. -/
theorem balances_of_closeBrace (settled : state.owed.next? = none)
    (brace : p.lineHead.lookahead = some '}') :
    state.Balances (state.recordedAt p).closeExplicitly (some .semicolon)
      (state.closesNothing p) := by
  have nothing : (state.recordedAt p).owed.count = 0 := by
    rw [owed_recordedAt]
    exact (Owed.next?_eq_none_iff _).1 settled
  rcases owed_closeExplicitly nothing with ⟨closes, _⟩
  rcases Owed.eq_zero_of_count ((Owed.next?_eq_none_iff _).1 settled) with ⟨none_owed, _⟩
  have before : (state.recordedAt p).levels.length = state.blocks := depth_recordedAt state p
  have left : (state.recordedAt p).closeExplicitly.blocks = state.blocks - 1 := by
    simp [blocks, depth, closeExplicitly, before]
  have few : (state.blocks - (state.blocks - 1)) / UInt32.size = 0 :=
    Nat.div_eq_of_lt (Nat.lt_of_le_of_lt (by omega : _ ≤ 1) (by decide))
  have stray : state.closesNothing p = decide (state.blocks = 0) := by
    rw [closesNothing, isSettled_of_next?_eq_none settled, brace, ← before]
    cases (state.recordedAt p).levels <;> simp
  rw [Balances, outstanding, outstanding, left, few, closes, none_owed, stray]
  cases blocks_eq : state.blocks with
  | zero => rfl
  | succ outside =>
      simp
      omega

/-- The brace that a token adds to the blocks, to the debt or to the tokens given out is taken from one
of the others, or was read as a stray brace. -/
theorem balances_of_yields (yields : state.Yields accepts p token after head stop) :
    state.Balances after (some token) (state.closesNothing p) := by
  have recorded := depth_recordedAt state p
  have others {c : Char} (next : p.lineHead.lookahead = some c) (other : c ≠ '}') :
      state.closesNothing p = false :=
    closesNothing_of_lookahead (by simpa [next] using other)
  cases yields with
  | owed due =>
      rw [closesNothing_of_due due]
      exact balances_of_due due
  | owedBrace due =>
      rw [closesNothing_of_due due]
      exact balances_of_due due
  | indent _ _ _ _ _ _ starts =>
      rw [closesNothing_of_lookahead]
      · exact balances_of_opened (by simpa [blocks, depth] using recorded) (owed_recordedAt state p)
      · intro brace
        exact Bool.false_ne_true (starts.symm.trans (continuesAt_of_closing brace))
  | aligned _ _ _ _ _ starts =>
      rw [closesNothing_of_lookahead]
      · exact balances_of_bystander (by decide) (by simpa [blocks] using recorded)
          (owed_recordedAt state p)
      · intro brace
        exact Bool.false_ne_true (starts.symm.trans (continuesAt_of_closing brace))
  | dedent settled _ _ _ no_brace =>
      rw [closesNothing_of_lookahead no_brace]
      exact balances_of_dedent settled _ _
  | terminator _ _ ends =>
      rw [closesNothing_of_lookahead]
      · exact balances_of_bystander (by decide) (by simpa [blocks, depth] using recorded)
          (owed_recordedAt state p)
      · intro brace
        exact Bool.false_ne_true ((Place.atEnd_eq_false_of_lookahead brace).symm.trans ends)
  | openBrace _ _ brace =>
      rw [others brace (by decide)]
      exact balances_of_opened (by simpa [blocks, depth] using recorded) (owed_recordedAt state p)
  | closeBrace settled _ brace => exact balances_of_closeBrace settled brace
  | semicolon _ _ separator =>
      rw [others separator (by decide)]
      exact balances_of_bystander (by decide) (by simpa [blocks] using recorded)
        (owed_recordedAt state p)
  | rawString _ _ letter =>
      rw [others letter (by decide)]
      exact balances_of_bystander (by decide) (by simpa [blocks] using recorded)
        (owed_recordedAt state p)

/-- No token opens two blocks. -/
theorem blocks_le_of_yields (yields : state.Yields accepts p token after head stop) :
    after.blocks ≤ state.blocks + 1 := by
  have recorded := depth_recordedAt state p
  have closed := (state.recordedAt p).levels.countAbove_add_length_closeAbove p.margin.indent
  simp only [depth] at recorded
  cases yields <;> simp [blocks, depth, closeExplicitly] at recorded ⊢ <;> omega

end

end State

namespace Scan

/-- The call takes an explicit closing brace, and there is no block that it could close. -/
def isStray (scan : Scan) : Bool :=
  scan.token?.isSome && scan.state.closesNothing scan.place

/-- The number of blocks that the call closes. -/
def closed (scan : Scan) : Nat :=
  scan.state.blocks - scan.after.blocks

/-- A call that refuses changes no count. -/
theorem balances (scan : Scan) :
    (scan.gives .openBrace).toNat + scan.isStray.toNat + scan.state.outstanding =
      (scan.gives .closeBrace).toNat + scan.after.outstanding +
        UInt32.size * (scan.closed / UInt32.size) := by
  change scan.state.Balances scan.after scan.token? scan.isStray
  rcases scan.cases with ⟨token, after, head, stop, given, rfl, yields⟩ | ⟨refused, same⟩
  · rw [isStray, given, Option.isSome_some, Bool.true_and]
    exact State.balances_of_yields yields
  · rw [isStray, refused, same]
    simp [State.Balances]

/-- A call opens one block at most. -/
theorem blocks_after_le (scan : Scan) : scan.after.blocks ≤ scan.state.blocks + 1 := by
  rcases scan.cases with ⟨token, after, head, stop, _, rfl, yields⟩ | ⟨_, same⟩
  · exact State.blocks_le_of_yields yields
  · rw [same]
    exact Nat.le_succ _

end Scan

/-! ## Many calls -/

namespace State

/-- How often the counter of owed braces goes round in some calls. -/
def rounds (scans : List Scan) : Nat :=
  (scans.map fun scan => scan.closed / UInt32.size).sum

/-- The induction is on the calls; each of them adds to both sides what `Scan.balances` says. -/
theorem balance_afterScans (plan : List (Place × Acceptance)) :
    ∀ state : State,
      (state.scans plan).countP (·.gives .openBrace) + (state.scans plan).countP (·.isStray) +
          state.outstanding =
        (state.scans plan).countP (·.gives .closeBrace) + (state.afterScans plan).outstanding +
          UInt32.size * rounds (state.scans plan) := by
  induction plan with
  | nil =>
      intro state
      simp [scans, afterScans, rounds]
  | cons call rest ih =>
      intro state
      rcases call with ⟨place, accepts⟩
      have first := (Scan.mk state place accepts).balances
      dsimp only at first
      have later := ih (Scan.mk state place accepts).after
      have counted (test : Scan → Bool) : (state.scans ((place, accepts) :: rest)).countP test =
          (test ⟨state, place, accepts⟩).toNat +
            ((Scan.mk state place accepts).after.scans rest).countP test := by
        rw [scans, List.countP_cons, Nat.add_comm]
        cases test ⟨state, place, accepts⟩ <;> rfl
      have turned : rounds (state.scans ((place, accepts) :: rest)) =
          (Scan.mk state place accepts).closed / UInt32.size +
            rounds ((Scan.mk state place accepts).after.scans rest) := by
        rw [scans, rounds, List.map_cons, List.sum_cons, rounds]
      rw [counted, counted, counted, turned, afterScans, Nat.mul_add]
      omega

/-- Each call opens one block at most, so a call finds no more blocks than calls were made before it. -/
theorem blocks_lt_of_mem_scans (plan : List (Place × Acceptance)) :
    ∀ state : State, ∀ scan ∈ state.scans plan, scan.state.blocks < state.blocks + plan.length := by
  induction plan with
  | nil =>
      intro state scan member
      cases member
  | cons call rest ih =>
      intro state scan member
      rcases call with ⟨place, accepts⟩
      rw [List.length_cons]
      rcases List.mem_cons.1 member with rfl | later
      · exact Nat.lt_add_of_pos_right (Nat.succ_pos _)
      · have opened := (Scan.mk state place accepts).blocks_after_le
        have before := ih _ scan later
        dsimp only at opened
        omega

theorem rounds_eq_zero {scans : List Scan} (few : ∀ scan ∈ scans, scan.closed < UInt32.size) :
    rounds scans = 0 := by
  refine List.sum_eq_zero_iff_forall_eq_nat.2 ?_
  intro turned member
  rcases List.mem_map.1 member with ⟨scan, called, rfl⟩
  exact Nat.div_eq_of_lt (few scan called)

end State

/-! ## A full round of the counter -/

/-- Braces of the text in column 1, a separator behind the last of them, and then a line to the left of all
their blocks, which continues a statement. -/
def deepCalls (blocks : Nat) : List (Place × Acceptance) :=
  List.replicate blocks (.start [' ', '{'], .producible) ++ [(.start [' ', ';'], .producible)] ++
    [(.start ['\n', '|'], .producible)]

theorem Levels.countAbove_replicate {indent level : Level} (left : indent < level) (blocks : Nat) :
    Levels.countAbove (List.replicate blocks level) indent = blocks := by
  simp [Levels.countAbove, left]

namespace State

/-- Each brace records the level of the one in front of it. -/
theorem afterScans_braces (blocks : Nat) :
    ∀ outside : Levels,
      State.afterScans { levels := outside, awaitsLevel := true }
          (List.replicate blocks (.start [' ', '{'], .producible)) =
        { levels := List.replicate blocks 1 ++ outside, awaitsLevel := true } := by
  induction blocks with
  | zero => exact fun _ => rfl
  | succ blocks ih =>
      intro outside
      have later := ih (1 :: outside)
      rw [List.append_cons, ← List.replicate_succ'] at later
      exact later

/-- Behind the separator all blocks have their levels. -/
theorem afterScans_separated (blocks : Nat) :
    fresh.afterScans (List.replicate (blocks + 1) (.start [' ', '{'], .producible) ++
        [(.start [' ', ';'], .producible)]) =
      { levels := List.replicate (blocks + 1) 1 } := by
  have braces : fresh.afterScans (List.replicate (blocks + 1) (.start [' ', '{'], .producible)) =
      { levels := List.replicate blocks 1, awaitsLevel := true } := by
    have later := afterScans_braces blocks []
    rwa [List.append_nil] at later
  rw [afterScans_append, braces]
  rfl

/-- The line to the left closes all blocks at once and owes for as many of them as are counted. -/
theorem after_closingLine (blocks : Nat) :
    (Scan.mk { levels := List.replicate (blocks + 1) 1 } (.start ['\n', '|']) .producible).after =
      { owed := ⟨.ofNat (blocks + 1), .ofNat (blocks + 1), true⟩ } := by
  have left : (0 : Level) < 1 := by decide
  have closed : Levels.closeAbove (List.replicate (blocks + 1) 1) 0 = [] := by
    simp [Levels.closeAbove, left]
  have count : Levels.countAbove (List.replicate (blocks + 1) 1) 0 = blocks + 1 :=
    Levels.countAbove_replicate left _
  -- What comes out does not depend on the blocks outside the innermost one before they are counted.
  have line (levels : Levels) :
      (Scan.mk { levels := 1 :: levels } (.start ['\n', '|']) .producible).after =
        { levels := Levels.closeAbove (1 :: levels) 0
          owed := ⟨0 + .ofNat (Levels.countAbove (1 :: levels) 0),
            0 + .ofNat (Levels.countAbove (1 :: levels) 0), true⟩ } := rfl
  rw [List.replicate_succ, line, ← List.replicate_succ, closed, count]
  simp

theorem afterScans_deepCalls (blocks : Nat) :
    fresh.afterScans (deepCalls (blocks + 1)) =
      { owed := ⟨.ofNat (blocks + 1), .ofNat (blocks + 1), true⟩ } := by
  rw [deepCalls, afterScans_append, afterScans_separated]
  exact after_closingLine blocks

theorem afterScans_fullRound :
    fresh.afterScans (deepCalls UInt32.size) = { owed := { dropsLast := true } } :=
  afterScans_deepCalls (UInt32.size - 1)

theorem le_rounds_deepCalls (blocks : Nat) :
    (blocks + 1) / UInt32.size ≤ rounds (fresh.scans (deepCalls (blocks + 1))) := by
  have closed : (Scan.mk { levels := List.replicate (blocks + 1) 1 } (.start ['\n', '|'])
      .producible).closed = blocks + 1 := by
    rw [Scan.closed, after_closingLine]
    simp [State.blocks, depth]
  rw [deepCalls, scans_append, afterScans_separated, rounds, List.map_append, List.sum_append]
  simp [scans, closed]

end State

/-! ## The balance -/

/-- A host starts with a fresh scanner and calls it in any way. Behind the calls, the opening braces that
were given out and the stray closing braces are as many as the closing braces that were given out, those
that are owed, the levels and the block that waits for its level; and for each round of the counter that
many more as it can count. There is no such round unless some call closes as many blocks at once, and so
none in that many calls. -/
theorem braces_conserved (plan : List (Place × Acceptance)) :
    (State.fresh.scans plan).countP (·.gives .openBrace) +
        (State.fresh.scans plan).countP (·.isStray) =
      (State.fresh.scans plan).countP (·.gives .closeBrace) +
        (State.fresh.afterScans plan).owed.closes.toNat + (State.fresh.afterScans plan).depth +
        (State.fresh.afterScans plan).awaitsLevel.toNat +
        UInt32.size * State.rounds (State.fresh.scans plan) ∧
    ((∀ scan ∈ State.fresh.scans plan, scan.closed < UInt32.size) ∨ plan.length ≤ UInt32.size →
      (State.fresh.scans plan).countP (·.gives .openBrace) +
          (State.fresh.scans plan).countP (·.isStray) =
        (State.fresh.scans plan).countP (·.gives .closeBrace) +
          (State.fresh.afterScans plan).owed.closes.toNat + (State.fresh.afterScans plan).depth +
          (State.fresh.afterScans plan).awaitsLevel.toNat) := by
  have balance := State.balance_afterScans plan .fresh
  have nothing : State.fresh.outstanding = 0 := rfl
  rw [nothing, State.outstanding, State.blocks] at balance
  refine ⟨by omega, ?_⟩
  intro few
  have none_turned : State.rounds (State.fresh.scans plan) = 0 := by
    refine State.rounds_eq_zero ?_
    intro scan called
    rcases few with few | short
    · exact few scan called
    · have found := State.blocks_lt_of_mem_scans plan .fresh scan called
      have no_blocks : State.fresh.blocks = 0 := rfl
      rw [no_blocks, Nat.zero_add] at found
      exact Nat.lt_of_le_of_lt (Nat.sub_le _ _) (Nat.lt_of_lt_of_le found short)
  rw [none_turned, Nat.mul_zero] at balance
  omega

/-- The margin opens a block, which a brace in another text closes. A refusal comes between, and a brace
that closes nothing follows, whose own token is still owed. -/
def strayCalls : List (Place × Acceptance) :=
  [(.start ['\n', ' ', 'a'], .producible), (.start ['b'], .producible), (.start ['}'], .producible),
    (.start ['}'], .empty), (.start ['}'], .producible)]

theorem braces_conserved_strayCalls :
    strayCalls.length ≤ UInt32.size ∧ (State.fresh.scans strayCalls).countP (·.isStray) = 1 ∧
      (State.fresh.scans strayCalls).countP (·.gives .openBrace) + 1 =
        (State.fresh.scans strayCalls).countP (·.gives .closeBrace) +
          (State.fresh.afterScans strayCalls).owed.closes.toNat +
          (State.fresh.afterScans strayCalls).depth +
          (State.fresh.afterScans strayCalls).awaitsLevel.toNat := by
  have few : strayCalls.length ≤ UInt32.size := by decide
  have one_stray : (State.fresh.scans strayCalls).countP (·.isStray) = 1 := by decide
  have balance := (braces_conserved strayCalls).2 (.inr few)
  rw [one_stray] at balance
  exact ⟨few, one_stray, balance⟩

/-- As many blocks as the counter has values are closed at once, and it is where it was: no closing brace was
given out for them, and none is owed. -/
theorem braces_lost_in_full_round :
    State.fresh.afterScans (deepCalls UInt32.size) = { owed := { dropsLast := true } } ∧
      (State.fresh.scans (deepCalls UInt32.size)).countP (·.gives .openBrace) +
          (State.fresh.scans (deepCalls UInt32.size)).countP (·.isStray) ≠
        (State.fresh.scans (deepCalls UInt32.size)).countP (·.gives .closeBrace) +
          (State.fresh.afterScans (deepCalls UInt32.size)).owed.closes.toNat +
          (State.fresh.afterScans (deepCalls UInt32.size)).depth +
          (State.fresh.afterScans (deepCalls UInt32.size)).awaitsLevel.toNat := by
  have balance := State.balance_afterScans (deepCalls UInt32.size) .fresh
  have nothing : State.fresh.outstanding = 0 := rfl
  rw [nothing, State.outstanding, State.blocks] at balance
  have one_round : 1 ≤ State.rounds (State.fresh.scans (deepCalls UInt32.size)) :=
    State.le_rounds_deepCalls (UInt32.size - 1)
  have lost : 0 < UInt32.size * State.rounds (State.fresh.scans (deepCalls UInt32.size)) :=
    Nat.mul_pos (by decide) one_round
  refine ⟨State.afterScans_fullRound, ?_⟩
  omega

end Offside
