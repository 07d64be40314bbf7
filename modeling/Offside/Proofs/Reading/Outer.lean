import Offside.Proofs.Reading.Verdict

/-!
# Scans that leave the outer levels alone

The off-side rule compares a line with the innermost level, and a dedent goes outwards level by level
until it finds one that it need not close. So a scan never learns of the levels further out, and two
states that differ there alone get the same token, as long as there is a level in front of those levels
before the scan and after it. Main statements:

* `Levels.closeAbove_append`, `Levels.countAbove_append` — a dedent that stops in front of the outer
  levels.
* `State.verdict_atop` — the decision of a scan that stays in front of them.
* `State.given_scan_atop` — and the scan itself.
-/

namespace Offside

namespace Levels

variable {inner : Levels} (outer : Levels) {indent : Level}

theorem innermost_append (inside : inner ≠ []) :
    Levels.innermost (inner ++ outer) = inner.innermost := by
  cases inner with
  | nil => exact absurd rfl inside
  | cons level rest => rfl

theorem closeAbove_append (stops : inner.closeAbove indent ≠ []) :
    Levels.closeAbove (inner ++ outer) indent = inner.closeAbove indent ++ outer := by
  simp only [closeAbove] at stops ⊢
  rw [List.dropWhile_append, if_neg (by simpa using stops)]

theorem countAbove_append (stops : inner.closeAbove indent ≠ []) :
    Levels.countAbove (inner ++ outer) indent = inner.countAbove indent := by
  have within := countAbove_add_length_closeAbove (inner ++ outer) indent
  have inside := inner.countAbove_add_length_closeAbove indent
  rw [closeAbove_append outer stops, List.length_append, List.length_append] at within
  omega

/-- A dedent that leaves more than the outer levels has stopped in front of them. -/
theorem closeAbove_ne_nil_of_deep
    (deep : outer.length < (Levels.closeAbove (inner ++ outer) indent).length) :
    inner.closeAbove indent ≠ [] := by
  intro all_closed
  have passes : Levels.closeAbove (inner ++ outer) indent = outer.closeAbove indent := by
    simp only [closeAbove] at all_closed ⊢
    rw [List.dropWhile_append, all_closed, List.isEmpty_nil, if_pos rfl]
  have left := (List.dropWhile_suffix (indent < ·) (l := outer)).length_le
  rw [passes] at deep
  exact absurd deep (Nat.not_lt.2 left)

end Levels

namespace State

/-- The state with further levels outside its own. -/
def atop (outer : Levels) (state : State) : State :=
  { state with levels := state.levels ++ outer }

section

variable (outer : Levels) {state : State}

@[simp]
theorem owed_atop (state : State) : (state.atop outer).owed = state.owed :=
  rfl

@[simp]
theorem terminated_atop (state : State) : (state.atop outer).terminated = state.terminated :=
  rfl

@[simp]
theorem depth_atop (state : State) : (state.atop outer).depth = state.depth + outer.length :=
  List.length_append

theorem depth_atop_le_of_nil (bottom : state.levels = []) :
    (state.atop outer).depth ≤ outer.length := by
  have no_level : state.depth = 0 := congrArg List.length bottom
  have bare : (state.atop outer).depth = outer.length := by
    rw [depth_atop, no_level, Nat.zero_add]
  exact Nat.le_of_eq bare

theorem length_lt_depth_atop (inside : state.levels ≠ []) :
    outer.length < (state.atop outer).depth := by
  rw [depth_atop]
  exact Nat.lt_add_of_pos_left (List.length_pos_iff.2 inside)

theorem recordLevel_atop (state : State) (level : Level) :
    (state.atop outer).recordLevel level = (state.recordLevel level).atop outer := by
  cases awaits : state.awaitsLevel with
  | false => simp [recordLevel, atop, awaits]
  | true => simp [recordLevel, atop, awaits]

theorem levels_recordLevel_ne_nil (inside : state.levels ≠ []) (level : Level) :
    (state.recordLevel level).levels ≠ [] := by
  cases awaits : state.awaitsLevel with
  | false => simpa [recordLevel, awaits] using inside
  | true => simp [recordLevel, awaits]

theorem closeExplicitly_atop (inside : state.levels ≠ []) :
    (state.atop outer).closeExplicitly = state.closeExplicitly.atop outer := by
  cases levels : state.levels with
  | nil => exact absurd levels inside
  | cons level rest => simp [closeExplicitly, atop, levels]

theorem dedent_atop {indent : Level} (goesOn : Bool)
    (deep : outer.length < ((state.atop outer).dedent indent goesOn).depth) :
    (state.atop outer).dedent indent goesOn = (state.dedent indent goesOn).atop outer := by
  have stops : state.levels.closeAbove indent ≠ [] :=
    Levels.closeAbove_ne_nil_of_deep outer deep
  have levels := Levels.closeAbove_append outer stops
  have blocks := Levels.countAbove_append outer stops
  simp only [atop, dedent, levels, blocks]

/-! ## The verdict -/

section

variable {accepts : Acceptance}

theorem lineVerdict_atop (inside : state.levels ≠ []) {indent : Level} {text : List Char}
    (deep : ∀ token after,
      (state.atop outer).lineVerdict accepts indent text = some (.ok (token, after)) →
        outer.length < after.depth) :
    (state.atop outer).lineVerdict accepts indent text =
      (state.lineVerdict accepts indent text).map
        (·.map fun (token, after) => (token, after.atop outer)) := by
  have same : (state.atop outer).levels.innermost = state.levels.innermost :=
    Levels.innermost_append outer inside
  simp only [lineVerdict, same] at deep ⊢
  split
  · split
    · rfl
    · rfl
  · split
    · split
      · split
        · rfl
        · rfl
      · rfl
    · split
      next dedents =>
        -- Only here are levels closed, and those in front of the outer levels do not suffice for it.
        rw [if_neg ‹_›, if_neg ‹_›, if_pos dedents] at deep
        rw [dedent_atop outer _ (deep _ _ rfl)]
        rfl
      next => rfl

theorem textVerdict_atop (inside : state.levels ≠ []) (text : List Char) :
    (state.atop outer).textVerdict accepts text =
      (state.textVerdict accepts text).map
        fun (token, after, length) => (token, after.atop outer, length) := by
  simp only [textVerdict, closeExplicitly_atop outer inside]
  split
  · cases ended : state.terminated with
    | false =>
        simp only [terminated_atop, ended, Bool.false_eq_true, if_false]
        rfl
    | true =>
        simp only [terminated_atop, ended, if_true]
        rfl
  · split
    · rfl
    · rfl
  · split
    · rfl
    · rfl
  · split
    · rfl
    · rfl
  · split
    · cases RawLiteral.measure text <;> rfl
    · rfl
  · rfl

/-- A decision that leaves more than the outer levels would have been taken without them. -/
theorem verdict_atop (inside : state.levels ≠ []) {sight : Sight}
    (deep : ∀ token after length,
      (state.atop outer).verdict accepts sight = .ok (token, after, length) →
        outer.length < after.depth) :
    (state.atop outer).verdict accepts sight =
      (state.verdict accepts sight).map
        fun (token, after, length) => (token, after.atop outer, length) := by
  have still_inside := levels_recordLevel_ne_nil inside sight.level
  cases crosses : sight.margin.crossesLine with
  | false =>
      simp only [verdict, recordLevel_atop, crosses, Bool.false_eq_true, if_false]
      exact textVerdict_atop outer still_inside sight.text
  | true =>
      simp only [verdict, recordLevel_atop, crosses, if_true] at deep ⊢
      have ruled := @lineVerdict_atop outer _ accepts still_inside sight.margin.indent sight.text
      rw [ruled]
      · cases (state.recordLevel sight.level).lineVerdict accepts sight.margin.indent sight.text with
        | none => exact textVerdict_atop outer still_inside sight.text
        | some decided => cases decided <;> rfl
      · intro token after given
        refine deep token after 0 ?_
        rw [given]
        rfl

end

/-! ## The scan -/

/-- A scan that leaves more than the outer levels behind it would have come out the same without
them. -/
theorem given_scan_atop {accepts : Acceptance} {p : Place} (inside : state.levels ≠ [])
    (deep : ∀ token after, ((state.atop outer).scan accepts p).outcome = .ok (token, after) →
      outer.length < after.depth) :
    ((state.atop outer).scan accepts p).given =
      (state.scan accepts p).given.map
        fun (token, after, head, stop) => (token, after.atop outer, head, stop) := by
  cases next : state.owed.next? with
  | some paid =>
      rcases paid with ⟨token, owed⟩
      simp only [scan, read, owed_atop, next]
      rfl
  | none =>
      have scanned := given_scan accepts p next
      have scanned_atop := @given_scan (state.atop outer) accepts p next
      rw [scanned_atop, scanned, verdict_atop outer inside]
      · cases state.verdict accepts p.sight <;> rfl
      · intro token after length decided
        refine deep token after ?_
        rw [decided] at scanned_atop
        exact (Reading.given_eq_ok_iff.1 scanned_atop).1

/-- A refusal leaves the levels alone. -/
theorem scan_eq_error_of_atop {accepts : Acceptance} {p : Place} {refusal : Refusal}
    (inside : state.levels ≠ [])
    (outcome : ((state.atop outer).scan accepts p).outcome = .error refusal) :
    (state.scan accepts p).outcome = .error refusal := by
  have same := given_scan_atop outer inside (fun _ _ given => by cases outcome.symm.trans given)
  rw [Reading.given_eq_error_iff.2 outcome] at same
  cases given : (state.scan accepts p).given with
  | error other =>
      rw [given] at same
      cases same
      exact Reading.given_eq_error_iff.1 given
  | ok decided =>
      rw [given] at same
      cases same

/-- A token that leaves more than the outer levels comes out in the same place without them. -/
theorem exists_scan_of_atop {accepts : Acceptance} {p : Place} {token : External} {after : State}
    (inside : state.levels ≠ [])
    (outcome : ((state.atop outer).scan accepts p).outcome = .ok (token, after))
    (deep : outer.length < after.depth) :
    ∃ left, (state.scan accepts p).outcome = .ok (token, left) ∧ after = left.atop outer ∧
      (state.scan accepts p).span = ((state.atop outer).scan accepts p).span ∧
      (state.scan accepts p).stop = ((state.atop outer).scan accepts p).stop := by
  have same := given_scan_atop outer inside (fun _ _ given => by cases outcome.symm.trans given; exact deep)
  rw [Reading.given_eq_ok_iff.2 ⟨outcome, rfl, rfl⟩] at same
  cases given : (state.scan accepts p).given with
  | error other =>
      rw [given] at same
      cases same
  | ok decided =>
      rcases decided with ⟨other, left, head, stop⟩
      rcases Reading.given_eq_ok_iff.1 given with ⟨left_eq, head_eq, stop_eq⟩
      rw [given] at same
      injection same with same
      simp only [Prod.mk.injEq] at same
      rcases same with ⟨rfl, rfl, same_head, same_stop⟩
      refine ⟨left, left_eq, rfl, ?_, ?_⟩
      · rw [Reading.span, Reading.span, head_eq, stop_eq, same_head, same_stop]
      · rw [stop_eq, same_stop]

end

end State

end Offside
