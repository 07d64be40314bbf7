import Offside.Proofs.Braces.Conservation
import Offside.Proofs.Lines.Owing

/-!
# What a scanner can owe

The counters of owed braces and owed separators could hold any two numbers. But braces and separators come
to be owed only when nothing is owed, either a brace and a separator for each of some blocks or one lone
brace, and each call that finds a debt gives out one token of it. So a debt has one of few shapes, also when
the host saves the scanner between the calls and goes on with what it reads back. Main definitions and
statements:

* `Owed.Shaped` — the debts that there are.
* `Owed.Changes` — what one call makes of a debt; `Scan.changes` — no call does anything else.
* `Call`, `State.afterCalls`, `State.scansAmong` — a host that calls a scanner and saves and restores it.
* `State.Dedents` — the scans that close blocks because of where a line starts.
* `debts_keep_shape` — the shapes behind every sequence of calls.
* `not_shaped_in_full_round` — a dedent that the counters do not show.
-/

namespace Offside

namespace Owed

/-- The debts that there are: none, the brace behind the separator of an explicit closing brace, and what is
left of a dedent, in front of a brace or in front of a separator. The last separator is dropped only where
there is one behind the next brace. -/
inductive Shaped : Owed → Prop
  | settled : Shaped ⟨0, 0, false⟩
  | brace : Shaped ⟨1, 0, false⟩
  | paired {blocks : Nat} (dropsLast : Bool) :
      0 < blocks → blocks < UInt32.size → Shaped (.paired blocks dropsLast)
  | separatorDue {blocks : Nat} (dropsLast : Bool) :
      blocks + 1 < UInt32.size → (dropsLast = true → 0 < blocks) →
      Shaped (.separatorDue blocks dropsLast)

/-- What is owed behind the first separator of a dedent. -/
def addDedent (owed : Owed) (blocks : Nat) (continues : Bool) : Owed :=
  let added := owed.addBlocks (UInt32.ofNat blocks)
  if continues then { added with dropsLast := true } else added

/-- What one call can make of a debt, if it finds `depth` levels and leaves `left` of them. A debt is paid
before anything else is read, and nothing is added to it. -/
inductive Changes (owed : Owed) (depth left : Nat) : Owed → Prop
  | paid {token : External} {rest : Owed} :
      owed.next? = some (token, rest) → Changes owed depth left rest
  | kept : owed.isSettled = true → Changes owed depth left owed
  | dedent (continues : Bool) :
      owed.isSettled = true → left < depth →
      Changes owed depth left (owed.addDedent (depth - left) continues)
  | brace : owed.isSettled = true → Changes owed depth left owed.addClose

/-- As many blocks as bring a counter back to where it was. -/
def FullRounds (blocks : Nat) : Prop :=
  0 < blocks ∧ UInt32.size ∣ blocks

/-- The counters do not go round where the tokens for up to `depth` blocks are added, or for one brace. -/
def HasRoom (owed : Owed) (depth : Nat) : Prop :=
  (∀ blocks ≤ depth, ∀ continues,
    (owed.addDedent blocks continues).closes.toNat = owed.closes.toNat + blocks ∧
      (owed.addDedent blocks continues).separators.toNat = owed.separators.toNat + blocks) ∧
    owed.addClose.closes.toNat = owed.closes.toNat + 1

section

variable {owed after : Owed} {depth left : Nat}

theorem not_isSettled_of_next? {paid : External × Owed} (due : owed.next? = some paid) :
    ¬ owed.isSettled = true := by
  intro settled
  rw [(next?_eq_none_iff owed).2 ((isSettled_iff_count owed).1 settled)] at due
  cases due

theorem Shaped.eq_of_isSettled (shaped : owed.Shaped) (settled : owed.isSettled = true) :
    owed = {} := by
  cases shaped with
  | settled => rfl
  | brace => cases settled
  | @paired blocks dropsLast some_block small =>
      rcases blocks with _ | blocks
      · cases some_block
      · exact absurd settled (not_isSettled_of_next? (next?_of_paired small dropsLast))
  | separatorDue dropsLast small some_block =>
      exact absurd settled (not_isSettled_of_next? (next?_of_separatorDue small dropsLast))

theorem Shaped.of_next? {token : External} (shaped : owed.Shaped)
    (due : owed.next? = some (token, after)) : after.Shaped := by
  cases shaped with
  | settled => cases due
  | brace =>
      cases due
      exact .settled
  | @paired blocks dropsLast some_block small =>
      rcases blocks with _ | blocks
      · cases some_block
      · rw [next?_of_paired small dropsLast] at due
        cases due
        -- The brace of the last pair takes the dropped separator with it.
        split
        · exact .settled
        next more =>
          refine .separatorDue dropsLast small fun drops => Nat.pos_of_ne_zero fun last => ?_
          exact more ⟨last, drops⟩
  | @separatorDue blocks dropsLast small some_block =>
      rw [next?_of_separatorDue small dropsLast] at due
      cases due
      rcases blocks with _ | blocks
      · cases dropsLast with
        | false => exact .settled
        | true => cases some_block rfl
      · exact .paired dropsLast (Nat.succ_pos blocks) (Nat.lt_of_succ_lt small)

/-- A call keeps the shape, unless the counters do not show what it owes. -/
theorem Shaped.changes (shaped : owed.Shaped) (changes : owed.Changes depth left after)
    (shown : ¬ FullRounds (depth - left)) : after.Shaped := by
  cases changes with
  | paid due => exact shaped.of_next? due
  | kept => exact shaped
  | dedent continues settled closes =>
      rw [shaped.eq_of_isSettled settled]
      have dedented : addDedent {} (depth - left) continues =
          Owed.paired ((depth - left) % UInt32.size) continues := by
        rw [paired_mod, addDedent, addBlocks_eq_paired]
        cases continues <;> rfl
      rw [dedented]
      have some_block : 0 < (depth - left) % UInt32.size :=
        Nat.pos_of_ne_zero fun none_left =>
          shown ⟨Nat.sub_pos_of_lt closes, Nat.dvd_of_mod_eq_zero none_left⟩
      exact .paired continues some_block (Nat.mod_lt _ (by decide))
  | brace settled =>
      rw [shaped.eq_of_isSettled settled]
      exact .brace

theorem hasRoom_of_isSettled (settled : owed.isSettled = true) (few : depth < UInt32.size) :
    owed.HasRoom depth := by
  rcases eq_zero_of_count ((isSettled_iff_count owed).1 settled) with ⟨no_closes, no_separators⟩
  refine ⟨?_, by simp [addClose, no_closes]⟩
  intro blocks within continues
  have counted : (UInt32.ofNat blocks).toNat = blocks :=
    UInt32.toNat_ofNat_of_lt' (Nat.lt_of_le_of_lt within few)
  cases continues <;> simp [addDedent, addBlocks, no_closes, no_separators, counted]

end

end Owed

/-! ## One call -/

/-- A column to the left of the innermost block is to the left of one block at least. -/
theorem Levels.countAbove_pos {levels : Levels} {indent : Level} (outer : indent < levels.innermost) :
    0 < levels.countAbove indent := by
  cases levels with
  | nil => simp [innermost] at outer
  | cons level rest =>
      have first : indent < level := by simpa [innermost] using outer
      simp [countAbove, first]

namespace State

section

variable {state after : State} {accepts : Acceptance} {p head stop : Place} {token : External}

/-- A block whose level was not recorded before gets the column of the line, so that the line does not
close it. -/
theorem recordedAt_eq_of_dedent (crosses : p.margin.crossesLine = true)
    (outer : p.margin.indent < (state.recordedAt p).levels.innermost) :
    state.recordedAt p = state := by
  cases awaits : state.awaitsLevel with
  | false => simp [recordedAt, recordLevel, awaits]
  | true =>
      simp [recordedAt, recordLevel, awaits, levelAt, crosses, Levels.innermost] at outer

/-- The scan at `p` finds nothing owed and a line to the left of the innermost block, where the host can take
a separator. A line that starts with a closing brace is not one of these. -/
structure Dedents (state : State) (accepts : Acceptance) (p : Place) : Prop where
  settled : state.owed.isSettled = true
  crosses : p.margin.crossesLine = true
  left : p.margin.indent < (state.recordedAt p).levels.innermost
  accepted : accepts.semicolon = true
  no_brace : p.lineHead.lookahead ≠ some '}'

theorem Dedents.yields (dedents : state.Dedents accepts p) :
    state.Yields accepts p .semicolon (state.dedent p.margin.indent (continuesAt p.lineHead))
      p.lineHead p.lineHead := by
  have nothing : state.owed.next? = none :=
    (Owed.next?_eq_none_iff _).2 ((Owed.isSettled_iff_count _).1 dedents.settled)
  have yields := State.Yields.dedent nothing dedents.crosses dedents.left dedents.accepted
    dedents.no_brace
  rwa [recordedAt_eq_of_dedent dedents.crosses dedents.left] at yields

/-- A dedent closes a block. -/
theorem Dedents.countAbove_pos (dedents : state.Dedents accepts p) :
    0 < state.levels.countAbove p.margin.indent := by
  have left := dedents.left
  rw [recordedAt_eq_of_dedent dedents.crosses left] at left
  exact Levels.countAbove_pos left

theorem changes_of_dedent (settled : state.owed.isSettled = true) (crosses : p.margin.crossesLine = true)
    (outer : p.margin.indent < (state.recordedAt p).levels.innermost) (continues : Bool) :
    state.owed.Changes state.depth ((state.recordedAt p).dedent p.margin.indent continues).depth
      ((state.recordedAt p).dedent p.margin.indent continues).owed := by
  -- So all that is closed had its level before the scan.
  have recorded := recordedAt_eq_of_dedent crosses outer
  rw [recorded] at outer ⊢
  have parts := state.levels.countAbove_add_length_closeAbove p.margin.indent
  have closes := Levels.countAbove_pos outer
  have closed : state.levels.countAbove p.margin.indent =
      state.depth - (state.dedent p.margin.indent continues).depth := by
    simp only [depth, levels_dedent]
    omega
  have fewer : (state.dedent p.margin.indent continues).depth < state.depth := by
    omega
  change state.owed.Changes _ _ (state.owed.addDedent (state.levels.countAbove p.margin.indent) continues)
  rw [closed]
  exact .dedent continues settled fewer

/-- A token changes the debt in one of the known ways. -/
theorem changes_of_yields (yields : state.Yields accepts p token after head stop) :
    state.owed.Changes state.depth after.depth after.owed := by
  have keeps (settled : state.owed.next? = none) (same : after.owed = state.owed) :
      state.owed.Changes state.depth after.depth after.owed := by
    rw [same]
    exact .kept (isSettled_of_next?_eq_none settled)
  cases yields with
  | owed due => exact .paid due
  | owedBrace due => exact .paid due
  | indent settled => exact keeps settled (owed_recordedAt state p)
  | aligned settled => exact keeps settled (owed_recordedAt state p)
  | dedent settled crosses outer =>
      exact changes_of_dedent (isSettled_of_next?_eq_none settled) crosses outer _
  | terminator settled => exact keeps settled (owed_recordedAt state p)
  | openBrace settled => exact keeps settled (owed_recordedAt state p)
  | closeBrace settled =>
      simp only [closeExplicitly, owed_recordedAt]
      exact .brace (isSettled_of_next?_eq_none settled)
  | semicolon settled => exact keeps settled (owed_recordedAt state p)
  | rawString settled => exact keeps settled (owed_recordedAt state p)

/-- A call that finds a debt gives out a token of it. -/
theorem settled_of_refused {refusal : Refusal} (refused : (state.scan accepts p).outcome = .error refusal) :
    state.owed.next? = none := by
  cases due : state.owed.next? with
  | none => rfl
  | some paid => simp [scan, read, due, readOwed, Reading.spelled] at refused

end

end State

/-- What one call makes of the debt that it finds. -/
theorem Scan.changes (scan : Scan) :
    scan.state.owed.Changes scan.state.depth scan.after.depth scan.after.owed := by
  cases outcome : scan.reading.outcome with
  | ok given =>
      rw [after_of_outcome outcome]
      exact State.changes_of_yields (State.yields_of_scan outcome)
  | error refusal =>
      rw [after_of_refused outcome]
      exact .kept (State.isSettled_of_next?_eq_none (State.settled_of_refused outcome))

/-! ## Many calls -/

/-- What a host does with a scanner. -/
inductive Call
  | scan (place : Place) (accepts : Acceptance)
  /-- The state is saved in `capacity` bytes and read back from them. -/
  | restore (capacity : Nat)

namespace State

/-- The state that is read back from `capacity` bytes. Where it could not be saved, nothing is read. -/
def restored (state : State) (capacity : Nat) : State :=
  match Checkpoint.encode capacity state with
  | .ok bytes => (Checkpoint.decode bytes).toOption.getD state
  | .error _ => state

/-- The state that some calls leave. -/
def afterCalls : State → List Call → State
  | state, [] => state
  | state, .scan place accepts :: rest => afterCalls (Scan.mk state place accepts).after rest
  | state, .restore capacity :: rest => afterCalls (state.restored capacity) rest

/-- The scans among some calls, each with the state that it finds. -/
def scansAmong : State → List Call → List Scan
  | _, [] => []
  | state, .scan place accepts :: rest =>
      ⟨state, place, accepts⟩ :: scansAmong (Scan.mk state place accepts).after rest
  | state, .restore capacity :: rest => scansAmong (state.restored capacity) rest

/-- Calls that save nothing leave what the scans among them leave. -/
theorem afterCalls_map_scan (plan : List (Place × Acceptance)) :
    ∀ state : State,
      state.afterCalls (plan.map fun call => .scan call.1 call.2) = state.afterScans plan := by
  induction plan with
  | nil => exact fun _ => rfl
  | cons call rest ih => exact fun state => ih (Scan.mk state call.1 call.2).after

/-- Saving and restoring a state can only lose levels. -/
theorem exists_restored_eq_truncate (state : State) (capacity : Nat) :
    ∃ depth, state.restored capacity = state.truncate depth := by
  unfold restored
  split
  next saved =>
    refine ⟨Checkpoint.depthWithin capacity, ?_⟩
    rw [Checkpoint.decode_encode saved]
    rfl
  next => exact ⟨state.depth, by simp [truncate, depth]⟩

theorem owed_restored (state : State) (capacity : Nat) :
    (state.restored capacity).owed = state.owed := by
  rcases state.exists_restored_eq_truncate capacity with ⟨depth, restored⟩
  rw [restored, truncate]

theorem blocks_restored_le (state : State) (capacity : Nat) :
    (state.restored capacity).blocks ≤ state.blocks := by
  rcases state.exists_restored_eq_truncate capacity with ⟨depth, restored⟩
  have fewer : (state.levels.take depth).length ≤ state.levels.length := List.length_take_le' _ _
  rw [restored]
  simp only [truncate, blocks, State.depth]
  omega

/-- A call opens one block at most, so a scan finds no more blocks than calls were made before it. -/
theorem blocks_lt_of_mem_scansAmong (calls : List Call) :
    ∀ state : State, ∀ scan ∈ state.scansAmong calls,
      scan.state.blocks < state.blocks + calls.length := by
  induction calls with
  | nil =>
      intro state scan member
      cases member
  | cons call rest ih =>
      intro state scan member
      rw [List.length_cons]
      cases call with
      | scan place accepts =>
          rcases List.mem_cons.1 member with rfl | later
          · exact Nat.lt_add_of_pos_right (Nat.succ_pos _)
          · have opened := (Scan.mk state place accepts).blocks_after_le
            have before := ih _ scan later
            dsimp only at opened
            omega
      | restore capacity =>
          have fewer := state.blocks_restored_le capacity
          have before := ih _ scan member
          omega

/-- The induction is on the calls; each of them keeps the shape of the debt. -/
theorem shaped_afterCalls (calls : List Call) :
    ∀ state : State, state.owed.Shaped →
      (∀ scan ∈ state.scansAmong calls, ¬ Owed.FullRounds (scan.state.depth - scan.after.depth)) →
      (state.afterCalls calls).owed.Shaped := by
  induction calls with
  | nil =>
      intro state shaped _
      exact shaped
  | cons call rest ih =>
      intro state shaped shown
      cases call with
      | scan place accepts =>
          have now := shown ⟨state, place, accepts⟩ List.mem_cons_self
          have later : ∀ scan ∈ (Scan.mk state place accepts).after.scansAmong rest,
              ¬ Owed.FullRounds (scan.state.depth - scan.after.depth) := fun scan member =>
            shown scan (List.mem_cons_of_mem _ member)
          exact ih _ (shaped.changes (Scan.mk state place accepts).changes now) later
      | restore capacity =>
          refine ih _ ?_ shown
          rw [owed_restored]
          exact shaped

end State

/-- A host starts with a fresh scanner, calls it in any way and saves and restores it between the calls.
Each scan pays a token of the debt that it finds, or finds none; only then it adds to it, and the counters do
not go round as long as they could count the levels. Behind the calls the debt has one of the shapes, unless
some scan took levels for which the counters come back to where they were, which takes as many calls; and
where nothing is owed, no separator is to be dropped. -/
theorem debts_keep_shape (calls : List Call) :
    (∀ scan ∈ State.fresh.scansAmong calls,
      scan.state.owed.Changes scan.state.depth scan.after.depth scan.after.owed ∧
        (scan.state.owed.isSettled = true → scan.state.depth < UInt32.size →
          scan.state.owed.HasRoom scan.state.depth)) ∧
    ((∀ scan ∈ State.fresh.scansAmong calls,
        ¬ Owed.FullRounds (scan.state.depth - scan.after.depth)) ∨ calls.length ≤ UInt32.size →
      (State.fresh.afterCalls calls).owed.Shaped ∧
        ((State.fresh.afterCalls calls).owed.isSettled = true →
          (State.fresh.afterCalls calls).owed.dropsLast = false)) := by
  refine ⟨fun scan _ => ⟨scan.changes, Owed.hasRoom_of_isSettled⟩, ?_⟩
  intro countable
  have shown : ∀ scan ∈ State.fresh.scansAmong calls,
      ¬ Owed.FullRounds (scan.state.depth - scan.after.depth) := by
    rcases countable with shown | short
    · exact shown
    · rintro scan member ⟨some_taken, rounds⟩
      -- Each level took a call, and there were not as many.
      have found := State.blocks_lt_of_mem_scansAmong calls .fresh scan member
      have no_blocks : State.fresh.blocks = 0 := rfl
      have many := Nat.le_of_dvd some_taken rounds
      rw [no_blocks, Nat.zero_add, State.blocks] at found
      omega
  have shaped := State.shaped_afterCalls calls .fresh .settled shown
  refine ⟨shaped, ?_⟩
  intro settled
  rw [shaped.eq_of_isSettled settled]

/-- A line that continues the enclosing statement closes two blocks. Their debt outlives a save that has no
room for levels, and a call in another text, which pays the first brace. -/
def continuedDedent : List Call :=
  [.scan (.start ['\n', ' ', 'a']) .producible, .scan (.start ['\n', ' ', ' ', 'b']) .producible,
    .scan (.start ['\n', '|']) .producible, .restore 11, .scan (.start ['\n', ' ', 'c']) .producible]

theorem debts_keep_shape_continuedDedent :
    continuedDedent.length ≤ UInt32.size ∧
      (State.fresh.afterCalls continuedDedent).owed = .separatorDue 1 true ∧
      (State.fresh.afterCalls continuedDedent).owed.Shaped := by
  have short : continuedDedent.length ≤ UInt32.size := by decide
  have owed : (State.fresh.afterCalls continuedDedent).owed = .separatorDue 1 true := by decide
  exact ⟨short, owed, ((debts_keep_shape continuedDedent).2 (.inr short)).1⟩

/-- As many blocks as a counter has values are closed at once by a line that continues a statement. Nothing is
owed behind it, but a separator is to be dropped: that is none of the shapes. -/
theorem not_shaped_in_full_round :
    let behind := (State.fresh.afterCalls
      ((deepCalls UInt32.size).map fun call => .scan call.1 call.2)).owed
    behind = ⟨0, 0, true⟩ ∧ behind.isSettled = true ∧ ¬ behind.Shaped := by
  intro behind
  have owed : behind = ⟨0, 0, true⟩ := by
    simp only [behind, State.afterCalls_map_scan, State.afterScans_fullRound]
  have settled : behind.isSettled = true := by
    rw [owed]
    rfl
  refine ⟨owed, settled, ?_⟩
  intro shaped
  have clean := shaped.eq_of_isSettled settled
  rw [owed] at clean
  cases clean

end Offside
