import Offside.Proofs.Session.Ending

/-!
# Scanners that are called again and again

A host calls a scanner wherever it likes: the places of its calls need not follow one another, nor lie in
one text. A call that refuses leaves the state as it was, one that gives out a token leaves the state
behind the token. Main definitions:

* `Scan` — one call, with the state that it finds.
* `State.scans`, `State.afterScans` — the calls of a host that starts with some state, and the state that
  they leave.
-/

namespace Offside

/-- A scanner in `state` is called at `place`. -/
structure Scan where
  state : State
  place : Place
  accepts : Acceptance

namespace Scan

def reading (scan : Scan) : Reading :=
  scan.state.scan scan.accepts scan.place

/-- The state behind the call. -/
def after (scan : Scan) : State :=
  scan.reading.next scan.state

/-- The token that the call gives out; `none` if it refuses. -/
def token? (scan : Scan) : Option External :=
  scan.reading.outcome.toOption.map Prod.fst

def gives (scan : Scan) (token : External) : Bool :=
  decide (scan.token? = some token)

section

variable {scan : Scan} {token : External} {after : State} {refusal : Refusal}

theorem after_of_outcome (outcome : scan.reading.outcome = .ok (token, after)) :
    scan.after = after := by
  simp [Scan.after, Reading.next, outcome]

theorem token?_of_outcome (outcome : scan.reading.outcome = .ok (token, after)) :
    scan.token? = some token := by
  simp [token?, outcome, Except.toOption]

theorem after_of_refused (outcome : scan.reading.outcome = .error refusal) :
    scan.after = scan.state := by
  simp [Scan.after, Reading.next, outcome]

theorem token?_of_refused (outcome : scan.reading.outcome = .error refusal) :
    scan.token? = none := by
  simp [token?, outcome, Except.toOption]

/-- A call gives out a token in one of the known ways, or it refuses and changes nothing. -/
theorem cases (scan : Scan) :
    (∃ token after head stop, scan.token? = some token ∧ scan.after = after ∧
      scan.state.Yields scan.accepts scan.place token after head stop) ∨
    (scan.token? = none ∧ scan.after = scan.state) := by
  cases outcome : scan.reading.outcome with
  | error refusal => exact .inr ⟨token?_of_refused outcome, after_of_refused outcome⟩
  | ok given =>
      rcases given with ⟨token, after⟩
      exact .inl ⟨token, after, _, _, token?_of_outcome outcome, after_of_outcome outcome,
        State.yields_of_scan outcome⟩

end

end Scan

namespace State

/-- The calls of a host that finds the scanner in `state`, each at a place of its own and with tokens of
its own that it accepts. -/
def scans : State → List (Place × Acceptance) → List Scan
  | _, [] => []
  | state, (place, accepts) :: rest =>
      ⟨state, place, accepts⟩ :: scans (Scan.mk state place accepts).after rest

/-- The state that such calls leave. -/
def afterScans : State → List (Place × Acceptance) → State
  | state, [] => state
  | state, (place, accepts) :: rest => afterScans (Scan.mk state place accepts).after rest

theorem afterScans_append (front rest : List (Place × Acceptance)) :
    ∀ state : State, state.afterScans (front ++ rest) = (state.afterScans front).afterScans rest := by
  induction front with
  | nil => exact fun _ => rfl
  | cons call front ih => exact fun state => ih (Scan.mk state call.1 call.2).after

theorem scans_append (front rest : List (Place × Acceptance)) :
    ∀ state : State,
      state.scans (front ++ rest) = state.scans front ++ (state.afterScans front).scans rest := by
  induction front with
  | nil => exact fun _ => rfl
  | cons call front ih =>
      intro state
      exact congrArg (Scan.mk state call.1 call.2 :: ·) (ih (Scan.mk state call.1 call.2).after)

end State

end Offside
