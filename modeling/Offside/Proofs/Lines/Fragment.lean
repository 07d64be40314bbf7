import Offside.Proofs.Lines.Line
import Offside.Proofs.Session.Course

/-!
# Reading on within a line

Inside a line the off-side rule is not asked, and where nothing is spelled like a token the host
reads chunk after chunk, none of which crosses the end of the line. Main statements:

* `State.exists_refusal` — what a scan refuses.
* `Session.externalsFrom_of_plain` — a plain piece of a line gives no external token.
-/

namespace Offside

/-! ## Plain pieces -/

theorem isMarginChar_of_spaced {c : Char} (spaced : c = ' ' ∨ c = '\t') :
    Margin.isMarginChar c = true := by
  rcases spaced with rfl | rfl <;> rfl

theorem isMarginChar_eq_false {c : Char} (visible : Text.isBlank c = false) :
    Margin.isMarginChar c = false := by
  cases margin : Margin.isMarginChar c with
  | false => rfl
  | true =>
      rw [Place.isBlank_of_isMarginChar margin] at visible
      cases visible

namespace Plain

theorem of_append {front back : List Char} (plain : Plain (front ++ back)) : Plain back := by
  refine ⟨?_, ?_, ?_⟩
  · intro c member
    exact plain.unspelled c (List.mem_append_right front member)
  · intro c member
    exact plain.spaced c (List.mem_append_right front member)
  · intro c last
    exact plain.ends c (by rw [List.getLast?_append, last]; rfl)

theorem append_of_spaced {indentation body : List Char} (plain : Plain body)
    (spaced : ∀ c ∈ indentation, c = ' ' ∨ c = '\t') (more : body ≠ []) :
    Plain (indentation ++ body) := by
  refine ⟨?_, ?_, ?_⟩
  · intro c member
    rcases List.mem_append.1 member with front | back
    · rcases spaced c front with rfl | rfl <;> decide
    · exact plain.unspelled c back
  · intro c member blank
    rcases List.mem_append.1 member with front | back
    · exact spaced c front
    · exact plain.spaced c back blank
  · intro c last
    have body_last := List.getLast?_eq_some_getLast more
    rw [List.getLast?_append, body_last, Option.some_or] at last
    exact plain.ends c (body_last.trans last)

/-- A piece that is not empty has a visible character behind its leading blanks. -/
theorem exists_visible {chars : List Char} (plain : Plain chars) (more : chars ≠ []) :
    ∃ blanks c back, chars = blanks ++ c :: back ∧ (∀ d ∈ blanks, d = ' ' ∨ d = '\t') ∧
      Text.isBlank c = false := by
  induction chars with
  | nil => exact absurd rfl more
  | cons c rest ih =>
      cases blank : Text.isBlank c with
      | false => exact ⟨[], c, rest, rfl, by simp, blank⟩
      | true =>
          -- A blank is not the last character of the piece.
          have rest_more : rest ≠ [] := by
            rintro rfl
            rw [plain.ends c rfl] at blank
            cases blank
          have rest_plain : Plain rest := @of_append [c] rest plain
          rcases ih rest_plain rest_more with ⟨blanks, d, back, rfl, spaced, visible⟩
          refine ⟨c :: blanks, d, back, rfl, ?_, visible⟩
          intro e member
          rcases List.mem_cons.1 member with rfl | later
          · exact plain.spaced e (.head _) blank
          · exact spaced e later

end Plain

namespace State

/-- A scan refuses text that does not start like a token where no quote follows. At the end of the
text the terminator must have been given out, and behind a line break the line must be one that
continues without a dedent. -/
theorem exists_refusal (accepts : Acceptance) {state : State} {p : Place}
    (settled : state.owed.next? = none)
    (unspelled : ∀ c, p.lineHead.lookahead = some c → c ∉ ['{', '}', ';', '"'])
    (terminated : p.lineHead.atEnd = true → state.terminated = true)
    (unquoted : ∀ d ∈ p.after, d ≠ '"')
    (silent : p.margin.crossesLine = true →
      (state.recordedAt p).levels.innermost ≤ p.margin.indent ∧ continuesAt p.lineHead = true) :
    ∃ refusal, (state.scan accepts p).outcome = .error refusal := by
  refine exists_refusal_of_not_yields ?_
  -- Each way to give out a token asks for something that is excluded here.
  intro token after head stop yields
  cases yields with
  | owed next =>
      rw [settled] at next
      cases next
  | owedBrace next =>
      rw [settled] at next
      cases next
  | indent _ crosses _ _ _ _ starts =>
      rw [(silent crosses).2] at starts
      cases starts
  | aligned _ crosses _ _ _ starts =>
      rw [(silent crosses).2] at starts
      cases starts
  | dedent _ crosses left => exact absurd left (UInt32.not_lt.2 (silent crosses).1)
  | terminator _ _ at_end open_end =>
      rw [terminated at_end] at open_end
      cases open_end
  | openBrace _ _ brace => exact unspelled '{' brace (by decide)
  | closeBrace _ _ brace => exact unspelled '}' brace (by decide)
  | semicolon _ _ separator => exact unspelled ';' separator (by decide)
  | rawString _ _ letter _ closed =>
      -- A literal has a quote, and none is left in the text.
      rcases RawLiteral.exists_reads_of_read_eq_closed letter closed with
        ⟨chars, reads, signs, content, spelled⟩
      have margin := (Place.reads_advanceWhile p Margin.isMarginChar).after_eq
      refine unquoted '"' ?_ rfl
      rw [margin, ← Place.lineHead, reads.after_eq, spelled]
      simp

theorem exists_refusal_of_lookahead (accepts : Acceptance) {state : State} {p : Place} {c : Char}
    (settled : state.owed.next? = none) (head : p.lineHead.lookahead = some c)
    (unspelled : c ∉ ['{', '}', ';', '"']) (unquoted : ∀ d ∈ p.after, d ≠ '"')
    (silent : p.margin.crossesLine = true →
      (state.recordedAt p).levels.innermost ≤ p.margin.indent ∧ continuesAt p.lineHead = true) :
    ∃ refusal, (state.scan accepts p).outcome = .error refusal := by
  refine exists_refusal accepts settled ?_ ?_ unquoted silent
  · intro d same
    rw [head] at same
    cases same
    exact unspelled
  · intro at_end
    rw [Place.atEnd_eq_false_of_lookahead head] at at_end
    cases at_end

/-- A scan at the end of the text refuses once the terminator is given out and nothing is owed. -/
theorem exists_refusal_of_terminated (accepts : Acceptance) {state : State} {p : Place}
    (settled : state.owed.next? = none) (ended : state.terminated = true) (nothing : p.after = []) :
    ∃ refusal, (state.scan accepts p).outcome = .error refusal := by
  have flat : p.margin.crossesLine = false := by
    rw [Place.margin, nothing]
    rfl
  have bare : p.lineHead.lookahead = none := by
    simp [Place.lookahead, Place.lineHead, nothing]
  refine exists_refusal accepts settled ?_ (fun _ => ended) ?_ ?_
  · simp [bare]
  · simp [nothing]
  · simp [flat]

end State

namespace Session

/-- The external tokens of the session that takes up `state` at `p`, with their spans. -/
def externalsFrom (config : Config) (p : Place) (state : State) : List (External × Span) :=
  (lexemesFrom config p state).filterMap fun lexeme => lexeme.kind.token?.map (·, lexeme.span)

section

variable {config : Config} {p : Place} {state after : State} {token : External} {refusal : Refusal}

theorem externalsFrom_of_yields {head stop : Place} (room : Checkpoint.headerSize ≤ config.capacity)
    (yields : state.Yields (config.policy.acceptance p) p token after head stop) :
    externalsFrom config p state =
      (token, ⟨head.offset, stop.offset⟩) :: externalsFrom config stop after := by
  rw [externalsFrom, lexemesFrom_of_yields room yields]
  rfl

theorem externalsFrom_of_text
    (outcome : (state.scan (config.policy.acceptance p) p).outcome = .error refusal)
    (more : (p.advanceWhile Text.isBlank).atEnd = false) :
    externalsFrom config p state =
      externalsFrom config (p.advanceWhile Text.isBlank).chunkEnd state := by
  rw [externalsFrom, lexemesFrom_of_text outcome more]
  rfl

theorem externalsFrom_of_end
    (outcome : (state.scan (config.policy.acceptance p) p).outcome = .error refusal)
    (ends : (p.advanceWhile Text.isBlank).atEnd = true) : externalsFrom config p state = [] := by
  rw [externalsFrom, lexemesFrom_of_end outcome ends]
  rfl

end

/-- Blanks in front of text that is refused do not matter. -/
theorem externalsFrom_advanceWhile {config : Config} {p : Place} {state : State}
    (here : ∃ refusal, (state.scan (config.policy.acceptance p) p).outcome = .error refusal)
    (behind : ∃ refusal, (state.scan (config.policy.acceptance (p.advanceWhile Text.isBlank))
      (p.advanceWhile Text.isBlank)).outcome = .error refusal) :
    externalsFrom config p state = externalsFrom config (p.advanceWhile Text.isBlank) state := by
  rcases here with ⟨refusal, here⟩
  rcases behind with ⟨other, behind⟩
  have again := Place.advanceWhile_advanceWhile p Text.isBlank
  cases at_end : (p.advanceWhile Text.isBlank).atEnd with
  | true =>
      rw [externalsFrom_of_end here at_end, externalsFrom_of_end behind (by rw [again, at_end])]
  | false =>
      rw [externalsFrom_of_text here at_end, externalsFrom_of_text behind (by rw [again, at_end]),
        again]

/-- A chunk ends within the piece of the line in which it starts. -/
theorem exists_reads_chunkEnd_within {p : Place} {c : Char} {back tail : List Char}
    (text : p.after = c :: back ++ tail) (visible : Text.isBlank c = false)
    (breaks : ∀ d, tail.head? = some d → Text.isBlank d = true) :
    ∃ word rest, back = word ++ rest ∧ p.Reads (c :: word) p.chunkEnd := by
  have next : p.lookahead = some c := by rw [Place.lookahead, text]; rfl
  rcases Place.exists_reads_chunkEnd_of_not_isBlank next visible with ⟨word, reads, all_visible⟩
  have same : back ++ tail = word ++ p.chunkEnd.after := by
    simpa using text.symm.trans reads.after_eq
  rcases List.append_eq_append_iff.1 same with ⟨excess, rfl, tail_eq⟩ | ⟨rest, rfl, _⟩
  · cases excess with
    | nil => exact ⟨back, [], by simp, by simpa using reads⟩
    | cons d excess =>
        -- The chunk would have to take in the blank behind the piece.
        have blank := breaks d (by rw [tail_eq]; rfl)
        rw [all_visible d (by simp)] at blank
        cases blank
  · exact ⟨word, rest, rfl, reads⟩

/-- A margin of spaces and tabs in front of a visible character crosses no line break. -/
theorem crossesLine_margin_of_spaced {p : Place} {rest : List Char} {c : Char} (blanks : List Char)
    (text : p.after = blanks ++ c :: rest) (spaced : ∀ d ∈ blanks, d = ' ' ∨ d = '\t')
    (visible : Text.isBlank c = false) : p.margin.crossesLine = false := by
  have margin := Place.takeWhile_of_after_eq text
    (fun d member => isMarginChar_of_spaced (spaced d member)) (isMarginChar_eq_false visible)
  have measured := Line.foldl_extend spaced false 0
  rw [Place.margin, margin]
  exact congrArg Margin.crossesLine measured

/-- The first visible character of a plain piece and those that follow it are read as a chunk. -/
theorem exists_reads_of_plain (config : Config) {state : State} (settled : state.owed.next? = none)
    {p : Place} {chars tail : List Char} (plain : Plain chars) (more : chars ≠ [])
    (text : p.after = chars ++ tail) (unquoted : ∀ d ∈ p.after, d ≠ '"')
    (breaks : ∀ d, tail.head? = some d → Text.isBlank d = true) :
    ∃ front rest q, chars = front ++ rest ∧ front ≠ [] ∧ p.Reads front q ∧
      externalsFrom config p state = externalsFrom config q state := by
  rcases plain.exists_visible more with ⟨blanks, c, back, rfl, spaced, visible⟩
  have here : p.after = blanks ++ c :: (back ++ tail) := by
    rw [text, List.append_assoc, List.cons_append]
  have margin : ∀ d ∈ blanks, Margin.isMarginChar d = true := fun d member =>
    isMarginChar_of_spaced (spaced d member)
  have blank : ∀ d ∈ blanks, Text.isBlank d = true := fun d member =>
    Place.isBlank_of_isMarginChar (margin d member)
  have to_head : p.Reads blanks p.lineHead :=
    Place.reads_advanceWhile_of_after_eq here margin (isMarginChar_eq_false visible)
  -- Inside a line scanner and host skip the same blanks, though they know different ones.
  have to_chunk := Place.reads_advanceWhile_of_after_eq here blank visible
  have head : p.lineHead.lookahead = some c := by
    rw [Place.lookahead, to_head.after_eq_of_append here]
    rfl
  have flat := crossesLine_margin_of_spaced blanks here spaced visible
  rcases State.exists_refusal_of_lookahead (config.policy.acceptance p) settled head
    (plain.unspelled c (by simp)) unquoted (by simp [flat]) with ⟨refusal, outcome⟩
  have chunk_text := to_chunk.after_eq_of_append here
  have at_chunk : (p.advanceWhile Text.isBlank).atEnd = false := by
    rw [Place.atEnd, chunk_text]
    rfl
  rcases exists_reads_chunkEnd_within chunk_text visible breaks with ⟨word, rest, rfl, reads⟩
  exact ⟨blanks ++ c :: word, rest, _, by simp, by simp, to_chunk.append reads,
    externalsFrom_of_text outcome at_chunk⟩

/-- A plain piece of a line gives no external token. -/
theorem externalsFrom_of_plain (config : Config) {state : State} (settled : state.owed.next? = none)
    {chars tail : List Char} (breaks : ∀ d, tail.head? = some d → Text.isBlank d = true)
    (p : Place) (plain : Plain chars) (text : p.after = chars ++ tail)
    (unquoted : ∀ d ∈ p.after, d ≠ '"') :
    ∃ q, p.Reads chars q ∧ externalsFrom config p state = externalsFrom config q state := by
  by_cases more : chars = []
  · subst more
    exact ⟨p, Place.reads_nil p, rfl⟩
  · rcases exists_reads_of_plain config settled plain more text unquoted breaks with
      ⟨front, rest, q, rfl, onward, reads, same⟩
    have rest_text : q.after = rest ++ tail :=
      reads.after_eq_of_append (by rw [text, List.append_assoc])
    have rest_unquoted : ∀ d ∈ q.after, d ≠ '"' := by
      intro d member
      exact unquoted d (by rw [reads.after_eq]; exact List.mem_append_right front member)
    -- What is left of the piece is shorter, and it is plain as well.
    have shorter : rest.length < (front ++ rest).length := by
      simp [List.length_pos_iff.2 onward]
    rcases externalsFrom_of_plain config settled breaks q plain.of_append rest_text rest_unquoted with
      ⟨r, reads_on, same_on⟩
    exact ⟨r, reads.append reads_on, same.trans same_on⟩
termination_by chars.length

end Session

end Offside
