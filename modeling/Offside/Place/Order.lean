import Offside.Place

/-!
# The order of places

`p ≤ q` says that `q` is reached from `p` by reading. Main statements:

* `le_refl`, `le_trans` — reading nothing, and reading on.
* `length_after_le` — reading leaves no more than was left before.
* `eq_of_le_of_length_eq` — a place that leaves as much is the same place.
-/

namespace Offside
namespace Place

instance : LE Place where
  le p q := ∃ n, q = p.advanceBy n

theorem le_refl (p : Place) : p ≤ p :=
  ⟨0, rfl⟩

theorem advanceBy_advanceBy (p : Place) (m n : Nat) :
    (p.advanceBy m).advanceBy n = p.advanceBy (m + n) := by
  induction m generalizing p with
  | zero => simp [advanceBy]
  | succ m ih => simp [advanceBy, ih, Nat.succ_add]

theorem le_trans {p q r : Place} (hpq : p ≤ q) (hqr : q ≤ r) : p ≤ r := by
  obtain ⟨m, rfl⟩ := hpq
  obtain ⟨n, rfl⟩ := hqr
  exact ⟨m + n, advanceBy_advanceBy p m n⟩

theorem le_advance (p : Place) : p ≤ p.advance :=
  ⟨1, rfl⟩

theorem le_advanceBy (p : Place) (n : Nat) : p ≤ p.advanceBy n :=
  ⟨n, rfl⟩

@[simp]
theorem before_advanceBy (p : Place) (n : Nat) :
    (p.advanceBy n).before = (p.after.take n).reverse ++ p.before := by
  induction n generalizing p with
  | zero => simp [advanceBy]
  | succ n ih =>
      rcases p with ⟨before, _ | ⟨c, rest⟩, offset, offset_eq⟩ <;> simp [advanceBy, ih]

theorem advanceWhile_eq_advanceBy (p : Place) (continues : Char → Bool) :
    p.advanceWhile continues = p.advanceBy (p.after.takeWhile continues).length := by
  have parts := List.takeWhile_append_dropWhile (p := continues) (l := p.after)
  have front : p.after.take (p.after.takeWhile continues).length = p.after.takeWhile continues := by
    conv => lhs; rw [← parts]
    rw [List.take_left' (by rw [parts])]
  have back : p.after.drop (p.after.takeWhile continues).length = p.after.dropWhile continues := by
    conv => lhs; rw [← parts]
    rw [List.drop_left' (by rw [parts])]
  ext1 <;> simp [front, back]

theorem le_advanceWhile (p : Place) (continues : Char → Bool) : p ≤ p.advanceWhile continues :=
  ⟨_, advanceWhile_eq_advanceBy p continues⟩

theorem length_after_le {p q : Place} (h : p ≤ q) : q.after.length ≤ p.after.length := by
  obtain ⟨n, rfl⟩ := h
  simp

theorem source_eq_of_le {p q : Place} (h : p ≤ q) : q.source = p.source := by
  obtain ⟨n, rfl⟩ := h
  exact source_advanceBy p n

theorem eq_of_le_of_length_eq {p q : Place} (h : p ≤ q)
    (same : q.after.length = p.after.length) : q = p := by
  obtain ⟨n, rfl⟩ := h
  have trivially : n = 0 ∨ p.after = [] := by
    rw [after_advanceBy, List.length_drop] at same
    rcases Nat.eq_zero_or_pos n with h | h
    · exact .inl h
    · exact .inr (List.eq_nil_of_length_eq_zero (by omega))
  rcases trivially with rfl | nothing
  · rfl
  · ext1 <;> simp [nothing]

theorem offset_le_of_le {p q : Place} (h : p ≤ q) : p.offset ≤ q.offset := by
  obtain ⟨n, rfl⟩ := h
  rw [offset_eq, offset_eq, before_advanceBy]
  simp

theorem length_after_advance_lt {p : Place} (h : p.atEnd = false) :
    p.advance.after.length < p.after.length := by
  rcases p with ⟨before, _ | ⟨c, rest⟩, offset, offset_eq⟩
  · simp [atEnd] at h
  · simp

theorem atEnd_eq_false_of_lookahead {p : Place} {c : Char} (h : p.lookahead = some c) :
    p.atEnd = false := by
  rcases p with ⟨before, _ | ⟨d, rest⟩, offset, offset_eq⟩
  · simp [lookahead] at h
  · rfl

end Place
end Offside
