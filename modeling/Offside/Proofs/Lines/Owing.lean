import Offside.Proofs.Lines.Fragment

/-!
# Paying for a dedent

The first separator of a dedent is given out at once; a brace and a separator for each closed block
are owed, and the scans that follow give them out one at a time at the same place. Main statements:

* `Owed.next?_of_separators_le`, `Owed.next?_of_closes_le` — which token goes first.
* `Owed.next?_of_paired`, `Owed.next?_of_separatorDue` — braces and separators take turns.
* `Owed.givesOut_of_paired` — so all closed blocks get theirs.
* `Session.externalsFrom_of_owing` — a run of scans gives out all that is owed and reads nothing.
-/

namespace Offside

namespace Owed

/-- As many braces as separators. -/
def paired (blocks : Nat) (dropsLast : Bool) : Owed :=
  ⟨UInt32.ofNat blocks, UInt32.ofNat blocks, dropsLast⟩

/-- A brace was given out, and its separator is due. -/
def separatorDue (blocks : Nat) (dropsLast : Bool) : Owed :=
  ⟨UInt32.ofNat blocks, UInt32.ofNat (blocks + 1), dropsLast⟩

theorem addBlocks_eq_paired (blocks : Nat) :
    addBlocks {} (UInt32.ofNat blocks) = paired blocks false := by
  simp [addBlocks, paired]

/-- A word cannot tell the number of the blocks from its remainder. -/
theorem paired_mod (blocks : Nat) (dropsLast : Bool) :
    paired (blocks % UInt32.size) dropsLast = paired blocks dropsLast := by
  have word : UInt32.ofNat (blocks % UInt32.size) = UInt32.ofNat blocks := UInt32.ofNat_mod_size
  rw [paired, word, paired]

section

variable {blocks : Nat} (small : blocks + 1 < UInt32.size)

include small

theorem toNat_ofNat_succ : (UInt32.ofNat (blocks + 1)).toNat = blocks + 1 :=
  UInt32.toNat_ofNat_of_lt' small

theorem toNat_ofNat_of_succ : (UInt32.ofNat blocks).toNat = blocks :=
  UInt32.toNat_ofNat_of_lt' (Nat.lt_of_succ_lt small)

theorem ofNat_succ_sub_one : UInt32.ofNat (blocks + 1) - 1 = UInt32.ofNat blocks := by
  refine UInt32.toNat_inj.1 ?_
  have some_block : (1 : UInt32).toNat ≤ (UInt32.ofNat (blocks + 1)).toNat := by
    rw [toNat_ofNat_succ small]
    exact Nat.succ_le_succ (Nat.zero_le blocks)
  rw [UInt32.toNat_sub_of_le _ _ (UInt32.le_iff_toNat_le.2 some_block), toNat_ofNat_succ small,
    toNat_ofNat_of_succ small]
  rfl

theorem zero_lt_ofNat_succ : 0 < UInt32.ofNat (blocks + 1) := by
  refine UInt32.lt_iff_toNat_lt.2 ?_
  rw [toNat_ofNat_succ small]
  exact Nat.zero_lt_succ blocks

end

section

variable {closes separators : Nat}

/-- With no fewer braces than separators owed, a brace goes first. If only one separator is left and it is to
be dropped, it goes with the brace. -/
theorem next?_of_separators_le (small : closes + 1 < UInt32.size) (few : separators ≤ closes + 1)
    (dropsLast : Bool) :
    next? ⟨.ofNat (closes + 1), .ofNat separators, dropsLast⟩ =
      some (.closeBrace,
        if separators = 1 ∧ dropsLast = true then ⟨.ofNat closes, 0, false⟩
        else ⟨.ofNat closes, .ofNat separators, dropsLast⟩) := by
  have exact_count : (UInt32.ofNat separators).toNat = separators :=
    UInt32.toNat_ofNat_of_lt' (Nat.lt_of_le_of_lt few small)
  have no_more : UInt32.ofNat separators ≤ UInt32.ofNat (closes + 1) := by
    rw [UInt32.le_iff_toNat_le, exact_count, toNat_ofNat_succ small]
    exact few
  have last : UInt32.ofNat separators = 1 ↔ separators = 1 := by
    rw [← UInt32.toNat_inj, exact_count]
    rfl
  simp only [next?, zero_lt_ofNat_succ small, no_more, and_self, if_true, ofNat_succ_sub_one small, last]
  split <;> rfl

/-- With more separators than braces owed, a separator goes first. -/
theorem next?_of_closes_le (small : separators + 1 < UInt32.size) (few : closes ≤ separators)
    (dropsLast : Bool) :
    next? ⟨.ofNat closes, .ofNat (separators + 1), dropsLast⟩ =
      some (.semicolon, ⟨.ofNat closes, .ofNat separators, dropsLast⟩) := by
  have exact_count : (UInt32.ofNat closes).toNat = closes :=
    UInt32.toNat_ofNat_of_lt' (Nat.lt_of_le_of_lt few (Nat.lt_of_succ_lt small))
  have more : ¬ UInt32.ofNat (separators + 1) ≤ UInt32.ofNat closes := by
    rw [UInt32.le_iff_toNat_le, toNat_ofNat_succ small, exact_count]
    exact Nat.not_le_of_lt (Nat.lt_succ_of_le few)
  simp only [next?, more, and_false, if_false, zero_lt_ofNat_succ small, if_true, ofNat_succ_sub_one small]

end

section

variable {blocks : Nat} (small : blocks + 1 < UInt32.size)

include small

/-- With as many braces as separators owed, a brace goes first. The last separator goes with it if it
is to be dropped. -/
theorem next?_of_paired (dropsLast : Bool) :
    (paired (blocks + 1) dropsLast).next? =
      some (.closeBrace,
        if blocks = 0 ∧ dropsLast = true then {} else separatorDue blocks dropsLast) := by
  rw [paired, next?_of_separators_le small (Nat.le_refl _) dropsLast]
  simp only [Nat.add_eq_right]
  split
  next drops =>
    rw [drops.1]
    rfl
  · rfl

/-- Behind the brace its separator is due. -/
theorem next?_of_separatorDue (dropsLast : Bool) :
    (separatorDue blocks dropsLast).next? = some (.semicolon, paired blocks dropsLast) :=
  next?_of_closes_le small (Nat.le_refl _) dropsLast

end

end Owed

namespace Line

theorem closings_succ {blocks : Nat} {continues : Bool}
    (more : ¬ (blocks = 0 ∧ continues = true)) :
    closings (blocks + 1) continues =
      .closeBrace :: .semicolon :: closings blocks continues := by
  cases continues with
  | false => simp [closings, List.replicate_succ]
  | true =>
      rcases blocks with _ | blocks
      · exact absurd ⟨rfl, rfl⟩ more
      · simp [closings, List.replicate_succ]

end Line

namespace Owed

/-- `owed.GivesOut tokens left`: the debt gives out `tokens`, one after the other, and leaves `left`. -/
inductive GivesOut : Owed → List External → Owed → Prop
  | nothing (owed : Owed) : GivesOut owed [] owed
  | next {owed rest left : Owed} {token : External} {tokens : List External} :
      owed.next? = some (token, rest) → GivesOut rest tokens left →
      GivesOut owed (token :: tokens) left

/-- Where there is a block, the separator that is to be dropped is one of those owed. -/
theorem dropsLast_and_eq {blocks : Nat} {dropsLast : Bool} (some_block : dropsLast = true → 0 < blocks) :
    (dropsLast && blocks == 0) = false := by
  cases dropsLast with
  | false => rfl
  | true => simpa using Nat.ne_of_gt (some_block rfl)

/-- What is owed for `blocks` closed blocks closes all of them. If there is none, no separator is dropped. -/
theorem givesOut_of_paired (dropsLast : Bool) (blocks : Nat) (small : blocks < UInt32.size) :
    (paired blocks dropsLast).GivesOut (Line.closings blocks dropsLast)
      { dropsLast := dropsLast && blocks == 0 } := by
  induction blocks with
  | zero => cases dropsLast <;> exact .nothing _
  | succ blocks ih =>
      rw [dropsLast_and_eq fun _ => Nat.succ_pos blocks]
      -- Two tokens pay for a block, unless it is the last and its separator is dropped.
      have brace := next?_of_paired small dropsLast
      by_cases drops : blocks = 0 ∧ dropsLast = true
      · rcases drops with ⟨rfl, rfl⟩
        exact .next brace (.nothing _)
      · rw [if_neg drops] at brace
        have later := ih (Nat.lt_of_succ_lt small)
        rw [dropsLast_and_eq fun dropped => Nat.pos_of_ne_zero fun none_left => drops ⟨none_left, dropped⟩]
          at later
        rw [Line.closings_succ drops]
        exact .next brace (.next (next?_of_separatorDue small dropsLast) later)

end Owed

namespace Session

/-- An owed token is given out where the scan begins, without width. -/
theorem externalsFrom_of_next? {config : Config} (room : Checkpoint.headerSize ≤ config.capacity)
    {p : Place} (bare : p.lookahead ≠ some '}') (levels : Levels) {owed rest : Owed}
    {token : External} (next : owed.next? = some (token, rest)) :
    externalsFrom config p { levels := levels, owed := owed } =
      (token, ⟨p.offset, p.offset⟩) :: externalsFrom config p { levels := levels, owed := rest } := by
  have yields : State.Yields { levels := levels, owed := owed } (config.policy.acceptance p) p token
      { levels := levels, owed := rest } p p :=
    .owed next fun covers => bare covers.2.2
  exact externalsFrom_of_yields room yields

theorem externalsFrom_of_givesOut {config : Config} (room : Checkpoint.headerSize ≤ config.capacity)
    {p : Place} (bare : p.lookahead ≠ some '}') (levels : Levels) {owed left : Owed}
    {tokens : List External} (gives : owed.GivesOut tokens left) :
    externalsFrom config p { levels := levels, owed := owed } =
      Line.insertedAt p.offset tokens ++ externalsFrom config p { levels := levels, owed := left } := by
  induction gives with
  | nothing owed => rfl
  | next due _ ih =>
      rw [externalsFrom_of_next? room bare levels due, ih]
      rfl

/-- All that is owed for `blocks` closed blocks is given out at one place. -/
theorem externalsFrom_of_owing {config : Config} (room : Checkpoint.headerSize ≤ config.capacity)
    {p : Place} (bare : p.lookahead ≠ some '}') (levels : Levels) (dropsLast : Bool) (blocks : Nat)
    (small : blocks < UInt32.size) (some_block : dropsLast = true → 0 < blocks) :
    externalsFrom config p { levels := levels, owed := .paired blocks dropsLast } =
      Line.insertedAt p.offset (Line.closings blocks dropsLast) ++
        externalsFrom config p { levels := levels } := by
  have gives := Owed.givesOut_of_paired dropsLast blocks small
  rw [Owed.dropsLast_and_eq some_block] at gives
  exact externalsFrom_of_givesOut room bare levels gives

end Session

end Offside
