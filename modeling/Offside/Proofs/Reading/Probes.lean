import Offside.Cursor
import Offside.Proofs.Reading.Yields

/-!
# Probes leave no trace

A host that does not know what stands at a place tries it out, with one acceptance set after another. In
an attempt the scans may record a level, and they move the cursor, the start of the token and its marked
end; lookahead may read to the end of the text. If no scan gives out a token and the host goes back, the
attempt might as well not have been made, and neither might the restoring of bytes that are no state. This
is so of any number of such steps, anywhere among the others. It is not so of an attempt without a token
that the host ends by a commit: the cursor is then behind the margin. Main definitions and statements:

* `Host.Move`, `Host.Step` — what a host does within an attempt, and what it does in all.
* `Host.run` — the steps with their results, and the host behind them.
* `Host.Entry.failed`, `Host.Thinned` — a step that came to nothing, and a log without some of these.
* `Host.step_of_failed` — a step that came to nothing changes nothing.
* `Host.run_of_thinned` — without such steps, all others have the results that they had.
-/

namespace Offside

namespace Reading

/-- If the scan gave out no token, the marks that it left on the cursor stand at `head`. -/
def MarksAt (reading : Reading) (head : Place) : Prop :=
  ∀ refusal, reading.outcome = .error refusal → reading.head = head ∧ reading.stop = head

@[simp]
theorem marksAt_inserted (token : External) (state : State) (head other reached : Place)
    (notices : List Notice) : (inserted token state other reached notices).MarksAt head := by
  intro refusal refused
  cases refused

@[simp]
theorem marksAt_spelled (token : External) (state : State) (head other stop : Place) :
    (spelled token state other stop).MarksAt head := by
  intro refusal refused
  cases refused

@[simp]
theorem marksAt_refused (refusal : Refusal) (head reached : Place) :
    (refused refusal head reached).MarksAt head :=
  fun _ _ => ⟨rfl, rfl⟩

end Reading

namespace State

theorem marksAt_readSpelled (state : State) (accepts : Acceptance) (head here : Place) :
    (state.readSpelled accepts head here).MarksAt head := by
  unfold readSpelled
  split <;> (repeat' split) <;> simp

/-- A scan that gives out no token leaves its marks behind the margin. -/
theorem marksAt_scan (state : State) (accepts : Acceptance) (p : Place) :
    (state.scan accepts p).MarksAt p.lineHead := by
  change (state.read accepts p).MarksAt p.lineHead
  unfold read
  split
  next => simp [readOwed]
  next =>
    rw [readText_eq]
    split
    next => simp
    next => simp
    next here _ =>
      unfold readHead
      split
      · simp
      · split
        · simp
        · exact marksAt_readSpelled _ accepts p.lineHead here

end State

/-- A host at work: its cursor and the state of its scanner. -/
structure Host where
  cursor : Cursor
  state : State

namespace Host

/-- What a host does within an attempt. -/
inductive Move
  | scan (accepts : Acceptance)
  | advance
  | skip
  | markEnd

inductive Ending
  | commits
  | goesBack

inductive Step
  /-- Begins an attempt, makes the moves, and ends as the scans among them bid: one gave out a token, or
  none did. -/
  | attempt (moves : List Move) (onToken onRefusal : Ending)
  /-- Reads up to the next blank. -/
  | word
  | skipBlanks
  /-- Takes the state from some bytes, unless they are no state. -/
  | restore (bytes : Checkpoint.Bytes)

inductive Result
  /-- What each scan came to, and the bytes that the host took. -/
  | attempted (outcomes : List (Except Refusal External)) (span : Option Span)
  | read (span : Span)
  | skipped
  | restored (fault : Option Checkpoint.Fault)

/-- A host that stands at `p` between attempts. -/
def resting (p : Place) (state : State) : Host :=
  ⟨.ofPlace p, state⟩

def move (host : Host) : Move → List (Except Refusal External) × Host
  | .scan accepts =>
      let (reading, scanned) := host.cursor.scan host.state accepts
      ([reading.outcome.map Prod.fst], ⟨scanned, reading.next host.state⟩)
  | .advance => ([], { host with cursor := host.cursor.advance })
  | .skip => ([], { host with cursor := host.cursor.skip })
  | .markEnd => ([], { host with cursor := host.cursor.markEnd })

/-- Makes some moves, one after the other. -/
def moves : Host → List Move → List (Except Refusal External) × Host
  | host, [] => ([], host)
  | host, first :: rest =>
      let (outcomes, next) := host.move first
      let (others, last) := next.moves rest
      (outcomes ++ others, last)

/-- Ends an attempt. -/
def finish (host : Host) : Ending → Option Span × Host
  | .commits =>
      let (span, behind) := host.cursor.commit
      (some span, { host with cursor := behind })
  | .goesBack => (none, { host with cursor := host.cursor.rollback })

/-- One of the scans gave out a token. -/
def gives (outcomes : List (Except Refusal External)) : Bool :=
  outcomes.any fun outcome => outcome.toOption.isSome

def step (host : Host) : Step → Result × Host
  | .attempt tries onToken onRefusal =>
      let (outcomes, tried) := moves { host with cursor := host.cursor.begin } tries
      let (span, behind) := tried.finish (if gives outcomes then onToken else onRefusal)
      (.attempted outcomes span, behind)
  | .word =>
      let (span, behind) := host.cursor.advanceToBlank.commit
      (.read span, { host with cursor := behind })
  | .skipBlanks => (.skipped, { host with cursor := host.cursor.skipBlanks })
  | .restore bytes =>
      match Checkpoint.decode bytes with
      | .ok state => (.restored none, { host with state := state })
      | .error fault => (.restored (some fault), host)

/-- A step with its result. -/
structure Entry where
  step : Step
  result : Result

/-- Takes some steps: a log of them, and the host behind the last. -/
def run : Host → List Step → List Entry × Host
  | host, [] => ([], host)
  | host, first :: rest =>
      let (result, next) := host.step first
      let (log, last) := next.run rest
      (⟨first, result⟩ :: log, last)

/-- The step came to nothing: no scan gave out a token and the host went back, or bytes were no state. -/
def Entry.failed (entry : Entry) : Bool :=
  match entry.result with
  | .attempted outcomes none => !gives outcomes
  | .restored fault => fault.isSome
  | _ => false

/-- A log and what is left of it without some steps that came to nothing. -/
inductive Thinned : List Entry → List Entry → Prop
  | nil : Thinned [] []
  | keeps {log fewer : List Entry} (entry : Entry) (rest : Thinned log fewer) :
      Thinned (entry :: log) (entry :: fewer)
  | drops {log fewer : List Entry} (entry : Entry) (failed : entry.failed = true)
      (rest : Thinned log fewer) : Thinned (entry :: log) fewer

/-! ## Within an attempt -/

theorem origin_move (host : Host) (move : Move) :
    (host.move move).2.cursor.origin = host.cursor.origin := by
  cases move <;> rfl

theorem state_move_of_refused {host : Host} {move : Move} (refused : gives (host.move move).1 = false) :
    (host.move move).2.state = host.state := by
  cases move with
  | scan accepts =>
      cases outcome : (host.cursor.scan host.state accepts).1.outcome with
      | ok given =>
          simp [Host.move, gives, outcome, Except.map, Except.toOption] at refused
      | error refusal => simp [Host.move, Reading.next, outcome]
  | advance => rfl
  | skip => rfl
  | markEnd => rfl

/-- However far the moves of an attempt read, the cursor remembers where it began. -/
theorem origin_moves (moves : List Move) :
    ∀ host : Host, (host.moves moves).2.cursor.origin = host.cursor.origin := by
  induction moves with
  | nil => intro host; rfl
  | cons first rest ih =>
      intro host
      exact (ih (host.move first).2).trans (host.origin_move first)

/-- Scans that give out no token leave the state as they found it, each to the next. -/
theorem state_moves_of_refused (moves : List Move) :
    ∀ host : Host, gives (host.moves moves).1 = false → (host.moves moves).2.state = host.state := by
  induction moves with
  | nil => intro host _; rfl
  | cons first rest ih =>
      intro host refused
      simp only [gives, Host.moves, List.any_append, Bool.or_eq_false_iff] at refused
      exact (ih (host.move first).2 refused.2).trans (state_move_of_refused refused.1)

/-! ## Steps -/

/-- Between two steps no attempt is under way: the cursor has no marks. -/
def Rests (host : Host) : Prop :=
  host.cursor = .ofPlace host.cursor.here

theorem rests_resting (p : Place) (state : State) : (resting p state).Rests :=
  rfl

theorem rests_finish (host : Host) (ending : Ending) : (host.finish ending).2.Rests := by
  cases ending <;> rfl

theorem rests_step {host : Host} (rests : host.Rests) (step : Step) : (host.step step).2.Rests := by
  cases step with
  | attempt tries onToken onRefusal => exact rests_finish _ _
  | word => rfl
  | skipBlanks => rfl
  | restore bytes =>
      simp only [Host.step]
      split
      · exact rests
      · exact rests

/-- A step that came to nothing changes nothing. -/
theorem step_of_failed {host : Host} (rests : host.Rests) {step : Step}
    (failed : Entry.failed ⟨step, (host.step step).1⟩ = true) : (host.step step).2 = host := by
  cases step with
  | attempt tries onToken onRefusal =>
      simp only [Host.step] at failed ⊢
      generalize (if gives _ = true then onToken else onRefusal) = ending at failed ⊢
      cases ending with
      | commits => cases failed
      | goesBack =>
          -- The cursor goes back to where the attempt began, which is where the host stood.
          have refused : gives (moves { host with cursor := host.cursor.begin } tries).1 = false := by
            simpa [Entry.failed, finish] using failed
          have same_state := state_moves_of_refused tries _ refused
          have same_origin := origin_moves tries { host with cursor := host.cursor.begin }
          simp only [finish, Cursor.rollback, same_state, same_origin]
          exact congrArg (Host.mk · host.state) rests.symm
  | word => cases failed
  | skipBlanks => cases failed
  | restore bytes =>
      cases read : Checkpoint.decode bytes with
      | ok state =>
          rw [Host.step, read] at failed
          cases failed
      | error fault => rw [Host.step, read]

/-! ## Sessions -/

theorem run_cons (host : Host) (first : Step) (rest : List Step) :
    host.run (first :: rest) =
      (⟨first, (host.step first).1⟩ :: ((host.step first).2.run rest).1,
        ((host.step first).2.run rest).2) :=
  rfl

/-- The induction is on the steps, those that are left out included; the host between them is at rest. -/
theorem run_of_thinned_of_rests (steps : List Step) :
    ∀ (host : Host) (fewer : List Entry), host.Rests → Thinned (host.run steps).1 fewer →
      host.run (fewer.map Entry.step) = (fewer, (host.run steps).2) := by
  induction steps with
  | nil =>
      intro host fewer _ thinned
      cases thinned with
      | nil => rfl
  | cons first rest ih =>
      intro host fewer rests thinned
      rw [run_cons] at thinned ⊢
      cases thinned with
      | keeps _ others =>
          have same := ih _ _ (rests_step rests first) others
          rw [List.map_cons, run_cons, same]
      | drops _ failed others =>
          have stays := step_of_failed rests failed
          rw [stays] at others ⊢
          exact ih host fewer rests others

/-- A host may leave out any of the steps that came to nothing: the others have the results and the spans
that they had, and behind the last the cursor and the state of the scanner are the same. -/
theorem run_of_thinned (p : Place) (state : State) (steps : List Step) {fewer : List Entry}
    (thinned : Thinned ((resting p state).run steps).1 fewer) :
    (resting p state).run (fewer.map Entry.step) = (fewer, ((resting p state).run steps).2) :=
  run_of_thinned_of_rests steps _ fewer (rests_resting p state) thinned

/-- Behind an opening brace. The first attempt records the level of its block, reads to the end of the text
for the end of a raw string, and is given up; so is the second, which moves the start of the token and its
marked end by hand; then there are bytes that are no state. Without them the host reads the same word, still
finds nothing that it could take, and is given the same separator on the next line. -/
theorem run_of_thinned_openRawString :
    ∃ fewer : List Entry,
      fewer.map Entry.result = [.skipped, .read ⟨2, 6⟩, .attempted [.error .nothingApplies] none,
        .attempted [.ok .semicolon] (some ⟨8, 8⟩)] ∧
      Thinned
        ((resting (.advance (.start "\x7b r\"ab\n c".toList)) { awaitsLevel := true }).run
          [.attempt [.scan .producible] .commits .goesBack,
            .attempt [.skip, .scan .empty, .markEnd, .advance] .commits .goesBack, .restore [7],
            .skipBlanks, .word, .attempt [.scan .empty] .commits .goesBack,
            .attempt [.scan .producible] .commits .goesBack]).1 fewer ∧
      (resting (.advance (.start "\x7b r\"ab\n c".toList)) { awaitsLevel := true }).run
          (fewer.map Entry.step) =
        (fewer, resting (.advanceBy (.start "\x7b r\"ab\n c".toList) 8) { levels := [1] }) := by
  refine ⟨[⟨.skipBlanks, .skipped⟩, ⟨.word, .read ⟨2, 6⟩⟩,
    ⟨.attempt [.scan .empty] .commits .goesBack, .attempted [.error .nothingApplies] none⟩,
    ⟨.attempt [.scan .producible] .commits .goesBack, .attempted [.ok .semicolon] (some ⟨8, 8⟩)⟩],
    rfl, ?thinned, run_of_thinned _ _ _ ?thinned⟩
  -- The attempt with the empty set came to nothing as well, and is kept.
  exact .drops _ rfl <| .drops _ rfl <| .drops _ rfl <|
    .keeps _ <| .keeps _ <| .keeps _ <| .keeps _ .nil

end Host
end Offside
