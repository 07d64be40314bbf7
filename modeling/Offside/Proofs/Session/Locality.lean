import Offside.Proofs.Reading.Lookahead
import Offside.Proofs.Session.Resumption

/-!
# Edits behind a checkpoint

If a text is edited behind all that a run looked at before it saved a checkpoint, the run over the
edited text comes to that checkpoint in the same way. So a host can go on from the checkpoint instead
of reading the edited text from its start. Main statements:

* `Session.cursors` — the places at which the cursor is left in a turn.
* `Session.AfterTokens` — the turns that a session comes to when some number of tokens is given out.
* `Session.retold_of_staysInFrontOf` — up to a checkpoint a session does not depend on the tail that
  all cursors stay in front of.
* `tokenize_edited` — the run over the edited text gives what the run over the first text gave up to
  the checkpoint, and then what resuming from it gives.
-/

namespace Offside

open Place (InFrontOf)

namespace Lexeme

/-- The lexemes up to the external token number `n`, that token included. -/
def upToExternals : Nat → List Lexeme → List Lexeme
  | 0, _ => []
  | _ + 1, [] => []
  | n + 1, lexeme :: rest =>
      lexeme :: if lexeme.isExternal then upToExternals n rest else upToExternals (n + 1) rest

@[simp]
theorem upToExternals_zero (lexemes : List Lexeme) : upToExternals 0 lexemes = [] := by
  cases lexemes <;> rfl

theorem upToExternals_external (n : Nat) (token : External) (span : Span) (rest : List Lexeme) :
    upToExternals (n + 1) (⟨.external token, span⟩ :: rest) =
      ⟨.external token, span⟩ :: upToExternals n rest :=
  rfl

theorem upToExternals_text (n : Nat) (span : Span) (rest : List Lexeme) :
    upToExternals (n + 1) (⟨.text, span⟩ :: rest) = ⟨.text, span⟩ :: upToExternals (n + 1) rest :=
  rfl

end Lexeme

namespace Session

/-- The places at which the cursor is left in a turn: by the scan, and where it refuses, by the host,
behind the blanks and behind the chunk. -/
def cursors (config : Config) (session : Session) : List Place :=
  let reading := session.reading config
  match reading.outcome with
  | .ok _ => [reading.reached]
  | .error _ =>
      let start := session.place.advanceWhile Text.isBlank
      [reading.reached, start, start.chunkEnd]

/-- `AfterTokens config n first session`: in the course of `first`, `session` takes its turn when `n`
tokens have been given out. -/
inductive AfterTokens (config : Config) : Nat → Session → Session → Prop
  | first (session : Session) : AfterTokens config 0 session session
  | token {n : Nat} {session next later : Session} {lexeme : Lexeme} {saved : Checkpoint} :
      (session.turn config).value = .token lexeme saved next →
      AfterTokens config n next later → AfterTokens config (n + 1) session later
  | text {n : Nat} {session next later : Session} {lexeme : Lexeme} :
      (session.turn config).value = .text lexeme next →
      AfterTokens config n next later → AfterTokens config n session later

/-- A session never leaves its text. -/
theorem source_of_next? {config : Config} {session next : Session}
    (h : (session.turn config).value.next? = some next) :
    next.place.source = session.place.source := by
  rcases cases_of_next? h with ⟨token, after, bytes, _, _, rfl⟩ | ⟨_, _, _, rfl⟩
  · exact Place.source_eq_of_le (State.le_stop_read _ _ _)
  · exact Place.source_eq_of_le (Place.le_trans (Place.le_advanceWhile _ _) (Place.le_chunkEnd _))

theorem source_of_afterTokens {config : Config} {n : Nat} {session later : Session}
    (after : AfterTokens config n session later) : later.place.source = session.place.source := by
  induction after with
  | first => rfl
  | token turn _ ih => exact ih.trans (source_of_next? (congrArg Turn.next? turn))
  | text turn _ ih => exact ih.trans (source_of_next? (congrArg Turn.next? turn))

theorem le_of_mem_cursors {config : Config} {session : Session} {place : Place}
    (member : place ∈ session.cursors config) : session.place ≤ place := by
  have scanned : session.place ≤ (session.reading config).reached :=
    Place.le_trans (State.le_stop_read _ _ _) (State.stop_le_reached_scan _ _ _)
  have skipped := Place.le_advanceWhile session.place Text.isBlank
  simp only [cursors] at member
  split at member
  · rw [List.mem_singleton.1 member]
    exact scanned
  · simp only [List.mem_cons, List.not_mem_nil, or_false] at member
    rcases member with rfl | rfl | rfl
    · exact scanned
    · exact skipped
    · exact Place.le_trans skipped (Place.le_chunkEnd _)

/-- Until a session has given out `k` tokens, every place at which it leaves the cursor is in front of
the tail `s`. -/
def StaysInFrontOf (config : Config) (s : List Char) (k : Nat) (session : Session) : Prop :=
  ∀ n later, AfterTokens config n session later → n < k →
    ∀ place ∈ later.cursors config, place.InFrontOf s

section

variable {config : Config} {s : List Char} {k : Nat} {session next : Session} {lexeme : Lexeme}
  {saved : Checkpoint}

/-- The turn before, which `takingUp` forgets, does not show in the cursors. -/
theorem staysInFrontOf_takingUp (coherent : next.Coherent config)
    (stays : next.StaysInFrontOf config s k) :
    (takingUp next.place next.state).StaysInFrontOf config s k := by
  have same := turn_takingUp coherent
  intro n later after few
  cases after with
  | first => exact stays 0 next (.first next) few
  | token turn rest => exact stays _ later (.token (same ▸ turn) rest) few
  | text turn rest => exact stays _ later (.text (same ▸ turn) rest) few

theorem staysInFrontOf_of_token (turn : (session.turn config).value = .token lexeme saved next)
    (stays : session.StaysInFrontOf config s (k + 1)) :
    (takingUp next.place next.state).StaysInFrontOf config s k :=
  staysInFrontOf_takingUp (coherent_of_next? (congrArg Turn.next? turn))
    fun n later after few => stays (n + 1) later (.token turn after) (Nat.succ_lt_succ few)

theorem staysInFrontOf_of_text (turn : (session.turn config).value = .text lexeme next)
    (stays : session.StaysInFrontOf config s k) :
    (takingUp next.place next.state).StaysInFrontOf config s k :=
  staysInFrontOf_takingUp (coherent_of_next? (congrArg Turn.next? turn))
    fun n later after few => stays n later (.text turn after) few

end

section

variable {config : Config} {s : List Char} (t : List Char) {k : Nat} {p : Place} {state after : State}
  {token : External} {refusal : Refusal}

/-- A policy looks back only. -/
theorem acceptance_withTail (policy : Policy) (p : Place) (s t : List Char) :
    policy.acceptance (p.withTail s t) = policy.acceptance p :=
  rfl

theorem reached_inFrontOf (stays : (takingUp p state).StaysInFrontOf config s (k + 1)) :
    (state.scan (config.policy.acceptance p) p).reached.InFrontOf s := by
  refine stays 0 _ (.first _) (Nat.succ_pos k) _ ?_
  simp only [cursors]
  split <;> exact List.mem_cons_self

/-- The scan of the first turn comes out the same with another tail. -/
theorem scan_withTail_of_stays (stays : (takingUp p state).StaysInFrontOf config s (k + 1)) :
    state.scan (config.policy.acceptance (p.withTail s t)) (p.withTail s t) =
      (state.scan (config.policy.acceptance p) p).map (Place.withTail s t) := by
  rw [acceptance_withTail]
  exact State.scan_withTail t (reached_inFrontOf stays)

theorem host_inFrontOf_of_refused
    (outcome : (state.scan (config.policy.acceptance p) p).outcome = .error refusal)
    (stays : (takingUp p state).StaysInFrontOf config s (k + 1)) :
    (p.advanceWhile Text.isBlank).InFrontOf s ∧
      (p.advanceWhile Text.isBlank).chunkEnd.InFrontOf s := by
  have refused : ((takingUp p state).reading config).outcome = .error refusal := outcome
  have all := stays 0 _ (.first _) (Nat.succ_pos k)
  simp only [cursors, refused, List.mem_cons, List.not_mem_nil, or_false] at all
  exact ⟨all _ (.inr (.inl rfl)), all _ (.inr (.inr rfl))⟩

end

/-- What the session that takes up `state` at `p` gives if the tail of the text is exchanged: up to the
token number `k` what it gave before, and then what a session gives that takes up `saved` at `place`,
where the state was saved behind that token. -/
structure Retold (config : Config) (s t : List Char) (p : Place) (state : State) (k : Nat)
    (saved : State) (place : Place) : Prop where
  in_front : place.InFrontOf s
  lexemes_eq : lexemesFrom config (p.withTail s t) state =
    Lexeme.upToExternals k (lexemesFrom config p state) ++
      lexemesFrom config (place.withTail s t) saved
  checkpoints_eq : checkpointsFrom config (p.withTail s t) state =
    (checkpointsFrom config p state).take k ++ checkpointsFrom config (place.withTail s t) saved

theorem retold_of_staysInFrontOf {config : Config} (room : Checkpoint.headerSize ≤ config.capacity)
    {s : List Char} (t : List Char) (p : Place) (state : State) :
    ∀ k checkpoint saved place, (savesFrom config p state)[k]? = some (checkpoint, saved) →
      place.source = p.source → place.offset = checkpoint.offset →
      (takingUp p state).StaysInFrontOf config s (k + 1) →
      Retold config s t p state (k + 1) saved place := by
  induction p, state using course_induction config with
  | ends p state refusal outcome at_end =>
      intro k checkpoint saved place found
      rw [savesFrom_of_end outcome at_end] at found
      simp at found
  | text p state refusal outcome more ih =>
      intro k checkpoint saved place found same_source same_offset stays
      rcases host_inFrontOf_of_refused outcome stays with ⟨starts, ends⟩
      have onward : p ≤ (p.advanceWhile Text.isBlank).chunkEnd :=
        Place.le_trans (Place.le_advanceWhile p _) (Place.le_chunkEnd _)
      rw [savesFrom_of_text outcome more] at found
      have later := ih k checkpoint saved place found
        (same_source.trans (Place.source_eq_of_le onward).symm) same_offset
        (staysInFrontOf_of_text (turn_takingUp_of_text outcome more) stays)
      -- The scan refuses again, and the host reads the same chunk.
      have outcome_again : (state.scan (config.policy.acceptance (p.withTail s t))
          (p.withTail s t)).outcome = .error refusal := by
        rw [scan_withTail_of_stays t stays]
        exact outcome
      have start_again := Place.advanceWhile_withTail t starts
      have stop_again := Place.chunkEnd_withTail t ends starts
      have more_again : ((p.withTail s t).advanceWhile Text.isBlank).atEnd = false := by
        rw [start_again, Place.atEnd_withTail t starts, more]
      refine ⟨later.in_front, ?_, ?_⟩
      · rw [lexemesFrom_of_text outcome_again more_again, lexemesFrom_of_text outcome more,
          start_again, stop_again, later.lexemes_eq, Lexeme.upToExternals_text, List.cons_append]
        rfl
      · rw [checkpointsFrom_of_text outcome_again more_again, checkpointsFrom_of_text outcome more,
          start_again, stop_again, later.checkpoints_eq]
  | token p state token after outcome ih =>
      intro k checkpoint saved place found same_source same_offset stays
      rcases Checkpoint.exists_encode_eq_ok room after with ⟨bytes, saved_eq⟩
      have onward : p ≤ (state.scan (config.policy.acceptance p) p).stop :=
        State.le_stop_read state _ p
      have again := scan_withTail_of_stays t stays
      have outcome_again : (state.scan (config.policy.acceptance (p.withTail s t))
          (p.withTail s t)).outcome = .ok (token, after) := by
        rw [again]
        exact outcome
      have lexemes := lexemesFrom_of_token room outcome_again
      have checkpoints := checkpointsFrom_of_token outcome_again saved_eq
      rw [again] at lexemes checkpoints
      rw [savesFrom_of_token outcome saved_eq] at found
      cases k with
      | zero =>
          -- The checkpoint of this very turn, so the place is where the token ends.
          have same : (⟨(state.scan (config.policy.acceptance p) p).stop.offset, bytes⟩, after) =
              (checkpoint, saved) := by
            simpa using found
          cases same
          have here := Place.eq_of_source_of_offset
            (same_source.trans (Place.source_eq_of_le onward).symm) same_offset
          subst here
          refine ⟨(reached_inFrontOf stays).of_le (State.stop_le_reached_scan _ _ p), ?_, ?_⟩
          · rw [lexemes, lexemesFrom_of_token room outcome, Lexeme.upToExternals_external,
              Lexeme.upToExternals_zero]
            rfl
          · rw [checkpoints, checkpointsFrom_of_token outcome saved_eq]
            rfl
      | succ k =>
          -- A later one: the token of this turn comes before it in both runs.
          have later_found : (savesFrom config (state.scan (config.policy.acceptance p) p).stop
              after)[k]? = some (checkpoint, saved) := by
            simpa using found
          have later := ih k checkpoint saved place later_found
            (same_source.trans (Place.source_eq_of_le onward).symm) same_offset
            (staysInFrontOf_of_token (turn_takingUp_of_token outcome saved_eq) stays)
          refine ⟨later.in_front, ?_, ?_⟩
          · rw [lexemes, lexemesFrom_of_token room outcome, Lexeme.upToExternals_external,
              List.cons_append, ← later.lexemes_eq]
            rfl
          · rw [checkpoints, checkpointsFrom_of_token outcome saved_eq, List.take_succ_cons,
              List.cons_append, ← later.checkpoints_eq]
            rfl

end Session

/-- Two texts agree on their first `m` bytes, and until the run over the first saves its checkpoint
number `k`, the cursor is always left at a character within these bytes. Then the run over the second
text begins with the same lexemes and checkpoints up to that one, and goes on as if resumed from it. -/
theorem tokenize_edited {config : Config} (room : Checkpoint.headerSize ≤ config.capacity)
    (first second : String) (m : Nat)
    (agree : first.toByteArray.extract 0 m = second.toByteArray.extract 0 m)
    (k : Nat) (checkpoint : Checkpoint) (saved : State)
    (found : (savepoints config first)[k]? = some (checkpoint, saved))
    (whole : saved.depth ≤ Checkpoint.depthWithin config.capacity)
    (sees : ∀ n session, Session.AfterTokens config n (.fresh first.toList) session → n < k →
      ∀ place ∈ session.cursors config, place.SeesWithin m) :
    ∃ full rest, (tokenize config first).value = .ok full ∧
      full.checkpoints[k]? = some checkpoint ∧
      (resume config second checkpoint).value = .ok rest ∧
      (tokenize config second).value =
        .ok ⟨Lexeme.upToExternals k full.lexemes ++ rest.lexemes,
          full.checkpoints.take k ++ rest.checkpoints⟩ := by
  cases k with
  | zero =>
      have same : (Checkpoint.initial, State.fresh) = (checkpoint, saved) := by
        simpa [savepoints] using found
      cases same
      have at_start : Place.at? second.toList Checkpoint.initial.offset =
          some (.start second.toList) :=
        Place.at?_eq_some_iff.2 ⟨by simp [Place.source, Place.start], rfl⟩
      refine ⟨_, _, tokenize_eq_ok room first, rfl, resume_eq_ok room at_start rfl, ?_⟩
      rw [tokenize_eq_ok room second, Lexeme.upToExternals_zero]
      rfl
  | succ k =>
      have later : (Session.savesFrom config (.start first.toList) .fresh)[k]? =
          some (checkpoint, saved) := by
        simpa [savepoints] using found
      rcases Session.exists_savedBehind room _ _ k checkpoint saved later with ⟨place, behind⟩
      rcases Place.exists_tails_of_agree agree with ⟨pre, s, t, first_eq, second_eq, in_front⟩
      have stays : (Session.takingUp (.start first.toList) .fresh).StaysInFrontOf config s (k + 1) := by
        intro n session after few place member
        refine in_front place ?_ (sees n session after few place member)
        rw [Place.source_eq_of_le (Session.le_of_mem_cursors member),
          Session.source_of_afterTokens after]
        rfl
      have retold := Session.retold_of_staysInFrontOf room t _ _ k checkpoint saved place later
        behind.source_eq behind.offset_eq stays
      -- The place of the checkpoint, in the second text.
      have text : (place.withTail s t).source = second.toList := by
        rcases retold.in_front with ⟨c, ahead, split⟩
        have whole_text : place.source = pre ++ s := behind.source_eq.trans first_eq
        rw [second_eq]
        exact Place.source_withTail (c :: ahead) t split whole_text
      have at_place := Place.at?_eq_some_iff.2 ⟨text, behind.offset_eq⟩
      have decoded := Checkpoint.decode_of_whole behind.encode_eq whole
      have start_again : (Place.start first.toList).withTail s t = .start second.toList := by
        have split : (Place.start first.toList).after = pre ++ s := first_eq
        exact Place.ext rfl ((Place.after_withTail pre t split).trans second_eq.symm)
      have lexemes := retold.lexemes_eq
      have checkpoints := retold.checkpoints_eq
      rw [start_again] at lexemes checkpoints
      have saved_here := Session.getElem?_checkpointsFrom later
      refine ⟨_, _, tokenize_eq_ok room first, saved_here, resume_eq_ok room at_place decoded, ?_⟩
      rw [tokenize_eq_ok room second, lexemes, checkpoints, List.take_add_one, saved_here,
        List.append_assoc]
      rfl

/-- The second text goes on with ` = 1` behind the `b` where the first ends its line. The block that
opens in front of the `b` is looked at no further than to the `b`, the fourth byte. -/
theorem tokenize_edited_second_line :
    Checkpoint.headerSize ≤ 1024 ∧
      "a\n b\nc".toByteArray.extract 0 4 = "a\n b = 1".toByteArray.extract 0 4 ∧
      (savepoints ⟨.permissive, 1024⟩ "a\n b\nc")[1]? =
        some (⟨3, [0, 0, 0, 0, 0, 0, 0, 0, 0, 0, 0, 1, 0, 0, 0]⟩, { levels := [1] }) ∧
      (∀ n session,
        Session.AfterTokens ⟨.permissive, 1024⟩ n (.fresh "a\n b\nc".toList) session → n < 1 →
          ∀ place ∈ session.cursors ⟨.permissive, 1024⟩, place.SeesWithin 4) ∧
      ∃ full rest, (tokenize ⟨.permissive, 1024⟩ "a\n b\nc").value = .ok full ∧
        (resume ⟨.permissive, 1024⟩ "a\n b = 1"
          ⟨3, [0, 0, 0, 0, 0, 0, 0, 0, 0, 0, 0, 1, 0, 0, 0]⟩).value = .ok rest ∧
        (tokenize ⟨.permissive, 1024⟩ "a\n b = 1").value =
          .ok ⟨Lexeme.upToExternals 1 full.lexemes ++ rest.lexemes,
            full.checkpoints.take 1 ++ rest.checkpoints⟩ := by
  have agree : "a\n b\nc".toByteArray.extract 0 4 = "a\n b = 1".toByteArray.extract 0 4 := by decide
  have block : (savepoints ⟨.permissive, 1024⟩ "a\n b\nc")[1]? =
      some (⟨3, [0, 0, 0, 0, 0, 0, 0, 0, 0, 0, 0, 1, 0, 0, 0]⟩, { levels := [1] }) := by
    rw [savepoints, Session.savesFrom, Session.turns_eq_turnsWithin (n := 20) (by decide)]
    decide
  -- Two turns come before the checkpoint: the host reads the `a`, and the scan gives out the brace.
  have first_turn : ((Session.fresh "a\n b\nc".toList).turn ⟨.permissive, 1024⟩).value =
      .text ⟨.text, ⟨0, 1⟩⟩ ⟨⟨['a'], ['\n', ' ', 'b', '\n', 'c'], 1, rfl⟩, .fresh, none⟩ := rfl
  have first_cursors : (Session.fresh "a\n b\nc".toList).cursors ⟨.permissive, 1024⟩ =
      [.start ['a', '\n', ' ', 'b', '\n', 'c'], .start ['a', '\n', ' ', 'b', '\n', 'c'],
        ⟨['a'], ['\n', ' ', 'b', '\n', 'c'], 1, rfl⟩] := rfl
  have second_cursors : (Session.mk ⟨['a'], ['\n', ' ', 'b', '\n', 'c'], 1, rfl⟩ .fresh none).cursors
      ⟨.permissive, 1024⟩ = [⟨[' ', '\n', 'a'], ['b', '\n', 'c'], 3, rfl⟩] := rfl
  have second_turn : ∃ lexeme saved next,
      ((Session.mk ⟨['a'], ['\n', ' ', 'b', '\n', 'c'], 1, rfl⟩ .fresh none).turn
        ⟨.permissive, 1024⟩).value = .token lexeme saved next := ⟨_, _, _, rfl⟩
  have sees : ∀ n session,
      Session.AfterTokens ⟨.permissive, 1024⟩ n (.fresh "a\n b\nc".toList) session → n < 1 →
        ∀ place ∈ session.cursors ⟨.permissive, 1024⟩, place.SeesWithin 4 := by
    intro n session after few
    cases after with
    | first =>
        rw [first_cursors]
        decide
    | token turn _ => cases first_turn.symm.trans turn
    | text turn rest =>
        cases first_turn.symm.trans turn
        cases rest with
        | first =>
            rw [second_cursors]
            decide
        | token turn _ => exact absurd few (by omega)
        | text turn _ =>
            rcases second_turn with ⟨_, _, _, gives⟩
            cases gives.symm.trans turn
  rcases @tokenize_edited ⟨.permissive, 1024⟩ (by decide) _ _ 4 agree 1 _ _ block (by decide) sees
    with ⟨full, rest, run, _, resumed, edited⟩
  exact ⟨by decide, agree, block, sees, full, rest, run, resumed, edited⟩

end Offside
