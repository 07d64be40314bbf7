import Offside.Session.Progress

/-!
# Whole sessions

A session runs turn by turn to its end, which comes because every turn leaves a smaller session.
What it produced is read off its turns. Main statements:

* `turns_of_next`, `turns_of_last` — a session's turns are its first turn and the turns of the
  session after it, if there is one.
-/

namespace Offside

namespace Session

/-- The turns of a session, the last first, in front of those already taken. -/
def turnsOnto (config : Config) (taken : List (Logged Turn)) (session : Session) :
    List (Logged Turn) :=
  let turn := session.turn config
  match _h : turn.value.next? with
  | some next => turnsOnto config (turn :: taken) next
  | none => turn :: taken
termination_by session.size
decreasing_by exact smaller_of_next? _h

/-- The turns of a session, in order. -/
def turns (config : Config) (session : Session) : List (Logged Turn) :=
  (session.turnsOnto config []).reverse

theorem turnsOnto_of_next {config : Config} {session next : Session} (taken : List (Logged Turn))
    (h : (session.turn config).value.next? = some next) :
    session.turnsOnto config taken = next.turnsOnto config (session.turn config :: taken) := by
  rw [turnsOnto]
  split
  next following same =>
    obtain rfl : following = next := by simpa [same] using h
    rfl
  next none => simp [none] at h

theorem turnsOnto_of_last {config : Config} {session : Session} (taken : List (Logged Turn))
    (h : (session.turn config).value.next? = none) :
    session.turnsOnto config taken = session.turn config :: taken := by
  rw [turnsOnto]
  split
  next following some => simp [some] at h
  next => rfl

theorem turnsOnto_eq_append (config : Config) (taken : List (Logged Turn)) (session : Session) :
    session.turnsOnto config taken = session.turnsOnto config [] ++ taken := by
  cases h : (session.turn config).value.next? with
  | none => rw [turnsOnto_of_last _ h, turnsOnto_of_last _ h, List.singleton_append]
  | some next =>
      rw [turnsOnto_of_next _ h, turnsOnto_of_next _ h, turnsOnto_eq_append config (_ :: taken),
        turnsOnto_eq_append config [_]]
      simp
termination_by session.size
decreasing_by all_goals exact smaller_of_next? h

theorem turns_of_next {config : Config} {session next : Session}
    (h : (session.turn config).value.next? = some next) :
    session.turns config = session.turn config :: next.turns config := by
  rw [turns, turnsOnto_of_next _ h, turnsOnto_eq_append, List.reverse_append]
  rfl

theorem turns_of_last {config : Config} {session : Session}
    (h : (session.turn config).value.next? = none) :
    session.turns config = [session.turn config] := by
  rw [turns, turnsOnto_of_last _ h]
  rfl

/-- What the turns of a session that began at the checkpoint `origin` produced. -/
def collect (origin : Checkpoint) (turns : List (Logged Turn)) : Logged (Except Fault Stream) :=
  let notices := turns.flatMap (·.notices)
  match turns.findSome? (·.value.fault?) with
  | some fault => ⟨.error fault, notices⟩
  | none =>
      let stream : Stream :=
        { lexemes := turns.filterMap (·.value.lexeme?)
          checkpoints := origin :: turns.filterMap (·.value.checkpoint?) }
      { value := .ok stream
        notices :=
          notices ++ [.completes stream.lexemes.length stream.checkpoints.length] }

/-- Runs a session that begins at the checkpoint `origin` to its end. -/
def run (config : Config) (origin : Checkpoint) (session : Session) :
    Logged (Except Fault Stream) :=
  collect origin (session.turns config)

end Session

/-- Reads a whole text with a fresh state. -/
def tokenize (config : Config) (source : String) : Logged (Except Fault Stream) :=
  let run := (Session.fresh source.toList).run config .initial
  { run with notices := .begins source.utf8ByteSize config.policy :: run.notices }

/-- Reads a text from a checkpoint on. -/
def resume (config : Config) (source : String) (checkpoint : Checkpoint) :
    Logged (Except Fault Stream) :=
  match Place.at? source.toList checkpoint.offset with
  | none => ⟨.error (.misplaced checkpoint.offset source.utf8ByteSize), []⟩
  | some place =>
      match Checkpoint.decode checkpoint.state with
      | .error fault => ⟨.error (.state fault), []⟩
      | .ok state =>
          let run := Session.run config checkpoint ⟨place, state, none⟩
          { run with notices := .resumes checkpoint.offset state.depth :: run.notices }

end Offside
