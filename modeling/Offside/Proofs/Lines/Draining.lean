import Offside.Proofs.Lines.Owing

/-!
# Paying all debts

A dedent owes a brace and a separator for each block, but a debt that was read back from bytes can be of any
number of either. A host that asks for what is owed until nothing more comes is given all of it in an order
that can be said at once: first what there is more of, and then a brace and a separator by turns. Main
definitions and statements:

* `Owed.drain` — what is given out until nothing is owed, and what is left of the debt.
* `Owed.payments` — the order in which a debt is paid.
* `Owed.GivesOut.counts` — each token that is given out is taken off its counter, which never wraps.
* `Owed.drain_eq_payments` — every debt is paid in that order.
-/

namespace Offside
namespace Owed

/-- Gives out tokens until nothing is owed: the tokens in their order, and what is left of the debt. -/
def drain (owed : Owed) : List External × Owed :=
  match _h : owed.next? with
  | some (token, rest) => (token :: rest.drain.1, rest.drain.2)
  | none => ([], owed)
termination_by owed.count
decreasing_by all_goals exact count_lt_of_next? _h

/-- The order in which a debt is paid: the separators that no brace goes with, the braces that no separator
goes with, and then the pairs. -/
def payments (closes separators : Nat) (dropsLast : Bool) : List External :=
  List.replicate (separators - closes) .semicolon ++ List.replicate (closes - separators) .closeBrace ++
    Line.closings (min closes separators) dropsLast

/-! ## Asking until nothing comes -/

theorem drain_of_next? {owed rest : Owed} {token : External} (due : owed.next? = some (token, rest)) :
    owed.drain = (token :: rest.drain.1, rest.drain.2) := by
  rw [drain]
  split
  next next =>
    cases due.symm.trans next
    rfl
  next nothing => cases due.symm.trans nothing

theorem drain_of_nothing {owed : Owed} (nothing : owed.next? = none) : owed.drain = ([], owed) := by
  rw [drain]
  split
  next next => cases nothing.symm.trans next
  next => rfl

/-- A debt that gives out some tokens and then no more gives out these when it is drained. -/
theorem GivesOut.drain_eq {owed left : Owed} {tokens : List External} (gives : owed.GivesOut tokens left)
    (nothing : left.next? = none) : owed.drain = (tokens, left) := by
  induction gives with
  | nothing owed => exact drain_of_nothing nothing
  | next due _ ih => rw [drain_of_next? due, ih nothing]

theorem GivesOut.append {owed middle left : Owed} {front back : List External}
    (first : owed.GivesOut front middle) (second : middle.GivesOut back left) :
    owed.GivesOut (front ++ back) left := by
  induction first with
  | nothing owed => exact second
  | next due _ ih => exact .next due (ih second)

theorem GivesOut.split {front back : List External} :
    ∀ {owed left : Owed}, owed.GivesOut (front ++ back) left →
      ∃ middle, owed.GivesOut front middle ∧ middle.GivesOut back left := by
  induction front with
  | nil =>
      intro owed left gives
      exact ⟨owed, .nothing owed, gives⟩
  | cons token front ih =>
      intro owed left gives
      cases gives with
      | next due later =>
          rcases ih later with ⟨middle, first, second⟩
          exact ⟨middle, .next due first, second⟩

/-! ## Counting -/

/-- What is left of a debt behind some tokens: each of them was taken off its counter. A separator that is
dropped is taken off as well, and then no other is to be dropped. -/
structure Counts (owed : Owed) (tokens : List External) (left : Owed) : Prop where
  closes : left.closes.toNat + tokens.count .closeBrace = owed.closes.toNat
  separators : left.separators.toNat + tokens.count .semicolon +
    (if owed.dropsLast && !left.dropsLast then 1 else 0) = owed.separators.toNat
  drops : left.dropsLast = true → owed.dropsLast = true

/-- A counter that is not at zero goes down by one. -/
theorem toNat_sub_one {counter : UInt32} (positive : 0 < counter) :
    (counter - 1).toNat + 1 = counter.toNat := by
  have at_least_one : 0 < counter.toNat := UInt32.lt_iff_toNat_lt.1 positive
  rw [UInt32.toNat_sub_of_le _ _ at_least_one]
  exact Nat.sub_add_cancel at_least_one

theorem counts_of_next? {owed rest : Owed} {token : External} (due : owed.next? = some (token, rest)) :
    owed.Counts [token] rest := by
  -- One case for each branch: a brace with the separator that is dropped, a brace alone, a separator.
  unfold next? at due
  split at due
  next brace =>
    dsimp only at due
    split at due
    next drops =>
      cases due
      exact ⟨toNat_sub_one brace.1, by simp [drops.1, drops.2], by simp⟩
    next =>
      cases due
      exact ⟨toNat_sub_one brace.1, by simp, id⟩
  next =>
    split at due
    next separator =>
      cases due
      exact ⟨by simp, by simpa using toNat_sub_one separator, id⟩
    next => cases due

theorem GivesOut.counts {owed left : Owed} {tokens : List External} (gives : owed.GivesOut tokens left) :
    owed.Counts tokens left := by
  induction gives with
  | nothing owed => exact ⟨by simp, by simp, id⟩
  | @next owed rest left token tokens due _ ih =>
      have first := counts_of_next? due
      refine ⟨?_, ?_, first.drops ∘ ih.drops⟩
      · rw [← first.closes, ← ih.closes, List.count_cons, List.count_singleton]
        omega
      · -- The flag goes down at one of the two steps at most.
        have separators := first.separators
        rw [← ih.separators] at separators
        rw [← separators, List.count_cons, List.count_singleton]
        have first_drops := first.drops
        have later_drops := ih.drops
        cases was : owed.dropsLast <;> cases between : rest.dropsLast <;> cases is : left.dropsLast <;>
          simp_all <;> omega

/-! ## The order of payment -/

/-- Separators that no brace goes with come first. -/
theorem givesOut_of_more_separators (closes : Nat) (dropsLast : Bool) (more : Nat)
    (small : closes + more < UInt32.size) :
    GivesOut ⟨.ofNat closes, .ofNat (closes + more), dropsLast⟩ (List.replicate more .semicolon)
      (paired closes dropsLast) := by
  induction more with
  | zero => exact .nothing _
  | succ more ih =>
      have separator := next?_of_closes_le small (Nat.le_add_right closes more) dropsLast
      exact .next separator (ih (Nat.lt_of_succ_lt small))

/-- Braces that no separator goes with come first, as long as no separator is dropped with one of them. -/
theorem givesOut_of_more_closes {separators : Nat} {dropsLast : Bool}
    (keeps : ¬ (separators = 1 ∧ dropsLast = true)) (more : Nat)
    (small : separators + more < UInt32.size) :
    GivesOut ⟨.ofNat (separators + more), .ofNat separators, dropsLast⟩
      (List.replicate more .closeBrace) (paired separators dropsLast) := by
  induction more with
  | zero => exact .nothing _
  | succ more ih =>
      have few : separators ≤ separators + more + 1 := Nat.le_add_right separators (more + 1)
      have brace := next?_of_separators_le small few dropsLast
      rw [if_neg keeps] at brace
      exact .next brace (ih (Nat.lt_of_succ_lt small))

/-- The only separator is dropped with the first brace, and what is left are braces. -/
theorem givesOut_of_dropped (more : Nat) (small : 1 + more < UInt32.size) :
    GivesOut ⟨.ofNat (1 + more), .ofNat 1, true⟩ (List.replicate (more + 1) .closeBrace) {} := by
  rw [Nat.add_comm] at small ⊢
  have brace := next?_of_separators_le small (Nat.le_add_left 1 more) true
  have others := @givesOut_of_more_closes 0 false (by simp) more (by simpa using Nat.lt_of_succ_lt small)
  rw [Nat.zero_add] at others
  exact .next brace others

/-- Every debt is paid in the one order, and nothing of it is left. -/
theorem givesOut_payments (closes separators : Nat) (dropsLast : Bool) (some_closes : closes < UInt32.size)
    (some_separators : separators < UInt32.size) :
    GivesOut ⟨.ofNat closes, .ofNat separators, dropsLast⟩ (payments closes separators dropsLast)
      { dropsLast := dropsLast && min closes separators == 0 } := by
  rcases Nat.le_total closes separators with few | many
  · rcases Nat.exists_eq_add_of_le few with ⟨more, rfl⟩
    have surplus := givesOut_of_more_separators closes dropsLast more some_separators
    have pairs := givesOut_of_paired dropsLast closes some_closes
    have order : payments closes (closes + more) dropsLast =
        List.replicate more .semicolon ++ Line.closings closes dropsLast := by
      simp [payments]
    rw [order, Nat.min_eq_left few]
    exact surplus.append pairs
  · rcases Nat.exists_eq_add_of_le many with ⟨more, rfl⟩
    have order : payments (separators + more) separators dropsLast =
        List.replicate more .closeBrace ++ Line.closings separators dropsLast := by
      simp [payments]
    rw [order, Nat.min_eq_right many]
    by_cases drops : separators = 1 ∧ dropsLast = true
    · -- The brace that is left of the pair is a brace like the others.
      rcases drops with ⟨rfl, rfl⟩
      have all := givesOut_of_dropped more some_closes
      rw [List.replicate_succ'] at all
      exact all
    · have surplus := givesOut_of_more_closes drops more some_closes
      exact surplus.append (givesOut_of_paired dropsLast separators some_separators)

/-- A host that asks for what is owed until nothing comes is given the separators that no brace goes with,
the braces that no separator goes with, and then the pairs, the last separator left out if it is to be
dropped and there is a pair. Behind that nothing is owed, and the flag is down if there was a pair. All
along, the counters say as numbers how much of the debt is left: none of them wraps. -/
theorem drain_eq_payments (closes separators : UInt32) (dropsLast : Bool) :
    let owed : Owed := ⟨closes, separators, dropsLast⟩
    let pairs := min closes.toNat separators.toNat
    owed.drain = (payments closes.toNat separators.toNat dropsLast,
        ⟨0, 0, dropsLast && pairs == 0⟩) ∧
      ∀ front back, owed.drain.1 = front ++ back →
        ∃ left, owed.GivesOut front left ∧ left.GivesOut back owed.drain.2 ∧ owed.Counts front left := by
  intro owed pairs
  have gives := givesOut_payments closes.toNat separators.toNat dropsLast closes.toNat_lt
    separators.toNat_lt
  rw [UInt32.ofNat_toNat, UInt32.ofNat_toNat] at gives
  have nothing : next? { dropsLast := dropsLast && pairs == 0 } = none := rfl
  have drained : owed.drain = (payments closes.toNat separators.toNat dropsLast,
      ⟨0, 0, dropsLast && pairs == 0⟩) := gives.drain_eq nothing
  refine ⟨drained, ?_⟩
  intro front back parts
  rw [drained] at parts ⊢
  rw [show payments closes.toNat separators.toNat dropsLast = front ++ back from parts] at gives
  rcases gives.split with ⟨left, first, second⟩
  exact ⟨left, first, second, first.counts⟩

/-- Three braces and one separator that is to be dropped: nothing but the braces is given out. -/
theorem drain_eq_payments_uneven :
    drain ⟨3, 1, true⟩ = ([.closeBrace, .closeBrace, .closeBrace], ⟨0, 0, false⟩) ∧
      ∃ left, GivesOut ⟨3, 1, true⟩ [.closeBrace] left ∧ Counts ⟨3, 1, true⟩ [.closeBrace] left := by
  have drained := (drain_eq_payments 3 1 true).1
  rcases (drain_eq_payments 3 1 true).2 [.closeBrace] [.closeBrace, .closeBrace] (by rw [drained]; rfl) with
    ⟨left, first, -, counts⟩
  exact ⟨drained, left, first, counts⟩

end Owed
end Offside
