import Offside.Proofs.Session.Ending
import Offside.Proofs.Session.Tiling

/-!
# What a text says apart from layout

The lexemes with width are those that stand in the text. Levels, debts and policies decide which
tokens are inserted between them, and at which places the scanner is asked; they have no say in what
the text itself is cut into. `Place.visibleFrom` cuts a text without any of them. Main statements:

* `State.nextVisible?_of_yields`, `State.spelled?_lineHead_of_refused` — what a scan gives out with
  width is what stands at its place, and a scan that refuses has nothing spelled out at its place.
* `Session.visible_lexemesFrom` — without the inserted tokens a session gives what the text says.
* `visible_resume` — so do two runs from one place, whatever their states and configurations.
-/

namespace Offside

namespace Place

/-- The token that is spelled out at a place, and where it ends. -/
def spelled? (p : Place) : Option (External × Place) :=
  match p.lookahead with
  | some '{' => some (.openBrace, p.advance)
  | some '}' => some (.closeBrace, p.advance)
  | some ';' => some (.semicolon, p.advance)
  | some 'r' =>
      match RawLiteral.read p with
      | .closed stop => some (.rawString, stop)
      | _ => none
  | _ => none

/-- The next lexeme that stands in the text, from where it starts to where it ends: a token spelled
out behind the margin, or else a chunk behind the blanks. -/
def nextVisible? (p : Place) : Option (Lexeme.Kind × Place × Place) :=
  match p.lineHead.spelled? with
  | some (token, stop) => some (.external token, p.lineHead, stop)
  | none =>
      let start := p.advanceWhile Text.isBlank
      if start.atEnd then none else some (.text, start, start.chunkEnd)

theorem advance_le_of_spelled? {p stop : Place} {token : External}
    (h : p.spelled? = some (token, stop)) : p.advance ≤ stop ∧ p.atEnd = false := by
  simp only [spelled?] at h
  split at h
  next brace =>
    cases h
    exact ⟨le_refl _, atEnd_eq_false_of_lookahead brace⟩
  next brace =>
    cases h
    exact ⟨le_refl _, atEnd_eq_false_of_lookahead brace⟩
  next separator =>
    cases h
    exact ⟨le_refl _, atEnd_eq_false_of_lookahead separator⟩
  next letter =>
    split at h
    next closed =>
      cases h
      exact ⟨RawLiteral.advance_le_of_read_eq_closed closed, atEnd_eq_false_of_lookahead letter⟩
    · cases h
  · cases h

/-- A lexeme that stands in the text has width, and less of the text is left behind it. -/
theorem of_nextVisible? {p head stop : Place} {kind : Lexeme.Kind}
    (h : p.nextVisible? = some (kind, head, stop)) :
    p ≤ head ∧ head ≤ stop ∧ stop.after.length < head.after.length := by
  simp only [nextVisible?] at h
  split at h
  next token stop spelled =>
    cases h
    rcases advance_le_of_spelled? spelled with ⟨onward, more⟩
    exact ⟨le_advanceWhile p _, le_trans (le_advance _) onward,
      Nat.lt_of_le_of_lt (length_after_le onward) (length_after_advance_lt more)⟩
  · split at h
    · cases h
    next more =>
      cases h
      exact ⟨le_advanceWhile p _, le_chunkEnd _, length_after_chunkEnd_lt (by simpa using more)⟩

/-- The lexemes that stand in the text from a place on. -/
def visibleFrom (p : Place) : List Lexeme :=
  match _h : p.nextVisible? with
  | none => []
  | some (kind, head, stop) => ⟨kind, head.offset, stop.offset⟩ :: visibleFrom stop
termination_by p.after.length
decreasing_by
  rcases of_nextVisible? _h with ⟨to_head, _, shorter⟩
  exact Nat.lt_of_lt_of_le shorter (length_after_le to_head)

theorem visibleFrom_of_none {p : Place} (h : p.nextVisible? = none) : p.visibleFrom = [] := by
  rw [visibleFrom]
  split
  · rfl
  next same => simp [h] at same

theorem visibleFrom_of_some {p head stop : Place} {kind : Lexeme.Kind}
    (h : p.nextVisible? = some (kind, head, stop)) :
    p.visibleFrom = ⟨kind, head.offset, stop.offset⟩ :: stop.visibleFrom := by
  rw [visibleFrom]
  split
  next none => simp [h] at none
  next same =>
    rw [h] at same
    cases same
    rfl

/-! ## Margins do not matter -/

theorem lineHead_lineHead (p : Place) : p.lineHead.lineHead = p.lineHead :=
  advanceWhile_advanceWhile p Margin.isMarginChar

theorem takeWhile_append_takeWhile {shorter longer : Char → Bool}
    (within : ∀ c, shorter c = true → longer c = true) (chars : List Char) :
    chars.takeWhile shorter ++ (chars.dropWhile shorter).takeWhile longer =
      chars.takeWhile longer := by
  induction chars with
  | nil => rfl
  | cons c rest ih =>
      cases runs : shorter c with
      | true => simp [runs, within c runs, ih]
      | false => simp [runs]

/-- Blanks end at one place, whether the margin was skipped before or not. -/
theorem advanceWhile_isBlank_lineHead (p : Place) :
    p.lineHead.advanceWhile Text.isBlank = p.advanceWhile Text.isBlank := by
  have margin := reads_advanceWhile p Margin.isMarginChar
  have behind := reads_advanceWhile p.lineHead Text.isBlank
  have run : p.after.takeWhile Margin.isMarginChar ++ p.lineHead.after.takeWhile Text.isBlank =
      p.after.takeWhile Text.isBlank := by
    rw [lineHead, after_advanceWhile]
    exact takeWhile_append_takeWhile (fun _ => isBlank_of_isMarginChar) p.after
  have reads := margin.append behind
  rw [run] at reads
  exact reads.unique (reads_advanceWhile p Text.isBlank)

theorem nextVisible?_lineHead (p : Place) : p.lineHead.nextVisible? = p.nextVisible? := by
  simp only [nextVisible?, lineHead_lineHead, advanceWhile_isBlank_lineHead]

theorem visibleFrom_lineHead (p : Place) : p.lineHead.visibleFrom = p.visibleFrom := by
  have same := nextVisible?_lineHead p
  cases next : p.nextVisible? with
  | none => rw [visibleFrom_of_none next, visibleFrom_of_none (same.trans next)]
  | some found =>
      rcases found with ⟨kind, head, stop⟩
      rw [visibleFrom_of_some next, visibleFrom_of_some (same.trans next)]

theorem lineHead_eq_self {p : Place} {c : Char} (next : p.lookahead = some c)
    (visible : Margin.isMarginChar c = false) : p.lineHead = p := by
  have text : p.after = [] ++ c :: p.advance.after := lookahead_eq_some_iff.1 next
  exact (reads_advanceWhile_of_after_eq text (by simp) visible).unique (reads_nil p)

end Place

namespace Policy

/-- What a policy has no say in: all tokens that a scan can produce are accepted everywhere. -/
theorem accepts_acceptance (policy : Policy) (p : Place) {token : External}
    (produced : token.isProduced = true) : (policy.acceptance p).accepts token = true := by
  have producible : Acceptance.producible.accepts token = true := by
    cases token <;> first | rfl | cases produced
  cases policy with
  | permissive => exact producible
  | heuristic =>
      simp only [acceptance]
      split
      · rw [Acceptance.insert, Acceptance.accepts_update, producible]
        split <;> rfl
      · exact producible

end Policy

namespace State

variable {state after : State} {accepts : Acceptance} {p head stop : Place} {token : External}
  {refusal : Refusal}

/-- A token either has no width and stands at the place or behind its margin, or it is what stands in
the text next. -/
theorem nextVisible?_of_yields (h : state.Yields accepts p token after head stop) :
    (stop = head ∧ (head = p ∨ head = p.lineHead)) ∨
      p.nextVisible? = some (.external token, head, stop) := by
  cases h with
  | owed => exact .inl ⟨rfl, .inl rfl⟩
  | owedBrace _ _ brace =>
      have stays : p.lineHead = p := Place.lineHead_eq_self brace rfl
      exact .inr (by simp [Place.nextVisible?, stays, Place.spelled?, brace])
  | openBrace _ _ brace => exact .inr (by simp [Place.nextVisible?, Place.spelled?, brace])
  | semicolon _ _ separator =>
      exact .inr (by simp [Place.nextVisible?, Place.spelled?, separator])
  | rawString _ _ letter _ closed =>
      exact .inr (by simp [Place.nextVisible?, Place.spelled?, letter, closed])
  | _ => exact .inl ⟨rfl, .inr rfl⟩

/-- Where the rule refuses a line that continues, the line opens ambiguously. -/
theorem isAmbiguous_of_rulingAt_eq_continues {reached : Place}
    (h : state.rulingAt accepts p = .continues reached) :
    (Opening.ofPlace p.lineHead).isAmbiguous = true := by
  have ruling : (state.recordedAt p).ruleLine accepts p.margin.indent p.lineHead =
      .continues reached := by
    cases crosses : p.margin.crossesLine with
    | true => simpa [rulingAt, crosses] using h
    | false => simp [rulingAt, crosses] at h
  simp only [ruleLine, ruleIndent, ruleAligned, ruleDedent] at ruling
  split at ruling
  · split at ruling
    · split at ruling <;> cases ruling
    · cases ruling
  · split at ruling
    · split at ruling
      next checks =>
        split at ruling
        next goes_on =>
          -- Neither a statement nor an immediate lead comes this far.
          cases opening : Opening.ofPlace p.lineHead with
          | statement => simp [opening, Opening.ask] at goes_on
          | continuation => simp [opening] at checks
          | ambiguous answer => rfl
        · cases ruling
      · cases ruling
    · split at ruling <;> cases ruling

/-- A scan that refuses, in front of a character that is no ambiguous lead, has come past the off-side
rule. -/
theorem rulingAt_of_refused (h : (state.scan accepts p).outcome = .error refusal)
    (decided : (Opening.ofPlace p.lineHead).isAmbiguous = false) :
    state.rulingAt accepts p = .defers p.lineHead := by
  have settled := next?_eq_none_of_scan_eq_error h
  cases ruling : state.rulingAt accepts p with
  | produces given left reached notices =>
      rw [(scan_of_rulingAt_eq_produces settled ruling).1] at h
      cases h
  | «continues» reached =>
      rw [isAmbiguous_of_rulingAt_eq_continues ruling] at decided
      cases decided
  | defers here => rw [eq_lineHead_of_rulingAt_eq_defers ruling decided]

/-- A scan refuses only where nothing is spelled out behind the margin. -/
theorem spelled?_lineHead_of_refused
    (open_to : ∀ token : External, token.isProduced = true → accepts.accepts token = true)
    (h : (state.scan accepts p).outcome = .error refusal) : p.lineHead.spelled? = none := by
  have settled := next?_eq_none_of_scan_eq_error h
  have none_given {token : External} {after : State} {head stop : Place} :
      ¬ state.Yields accepts p token after head stop := by
    intro yields
    rw [(scan_of_yields yields).1] at h
    cases h
  have defers {c : Char} (next : p.lineHead.lookahead = some c)
      (decided : (Opening.ofCertainty (Certainty.ofChar? c)).isAmbiguous = false) :
      state.rulingAt accepts p = .defers p.lineHead :=
    rulingAt_of_refused h (by rw [Opening.ofPlace, next]; exact decided)
  -- Each spelling would have been given out, since nothing else comes first.
  simp only [Place.spelled?]
  split
  next brace =>
    exact absurd (.openBrace settled (defers brace rfl) brace (open_to .openBrace rfl)) none_given
  next brace =>
    exact absurd (.closeBrace settled (defers brace rfl) brace (open_to .closeBrace rfl)) none_given
  next separator =>
    exact absurd (.semicolon settled (defers separator rfl) separator (open_to .semicolon rfl))
      none_given
  next letter =>
    split
    next closed =>
      exact absurd
        (.rawString settled (defers letter rfl) letter (open_to .rawString rfl) closed) none_given
    · rfl
  · rfl

/-- Where a scan refuses, the chunk that the host reads stands in the text next, if a chunk is left. -/
theorem nextVisible?_of_refused (policy : Policy)
    (h : (state.scan (policy.acceptance p) p).outcome = .error refusal) :
    p.nextVisible? =
      if (p.advanceWhile Text.isBlank).atEnd then none
      else some (.text, p.advanceWhile Text.isBlank, (p.advanceWhile Text.isBlank).chunkEnd) := by
  have unspelled := spelled?_lineHead_of_refused (fun _ => policy.accepts_acceptance p) h
  rw [Place.nextVisible?, unspelled]

end State

namespace Lexeme

/-- The lexeme has width: it stands in the text and was not inserted. -/
def isVisible (lexeme : Lexeme) : Bool :=
  !lexeme.span.isEmpty

theorem isVisible_iff (kind : Kind) (start stop : Nat) :
    isVisible ⟨kind, start, stop⟩ = true ↔ start < stop := by
  rw [isVisible, Bool.not_eq_true', ← Bool.not_eq_true, Span.isEmpty_iff, Nat.not_le]

theorem isVisible_eq_false (kind : Kind) (offset : Nat) :
    isVisible ⟨kind, offset, offset⟩ = false :=
  Bool.eq_false_iff.2 fun wide => Nat.lt_irrefl _ ((isVisible_iff kind offset offset).1 wide)

end Lexeme

/-- The lexemes of the stream that have width. -/
def Stream.visible (stream : Stream) : List Lexeme :=
  stream.lexemes.filter Lexeme.isVisible

namespace Session

/-- What stands in the text is visible among the lexemes. -/
theorem filter_isVisible_cons {p head stop : Place} {kind : Lexeme.Kind} {later : List Lexeme}
    (next : p.nextVisible? = some (kind, head, stop))
    (rest : later.filter Lexeme.isVisible = stop.visibleFrom) :
    (⟨kind, head.offset, stop.offset⟩ :: later).filter Lexeme.isVisible = p.visibleFrom := by
  rcases Place.of_nextVisible? next with ⟨_, onward, shorter⟩
  have wide : head.offset < stop.offset := by
    refine Nat.lt_of_not_le fun same => ?_
    rw [Place.eq_of_le_of_offset_le onward same] at shorter
    exact Nat.lt_irrefl _ shorter
  rw [List.filter_cons_of_pos ((Lexeme.isVisible_iff _ _ _).2 wide), rest,
    Place.visibleFrom_of_some next]

/-- Without the tokens that have no width, a session gives the lexemes that stand in the text. -/
theorem visible_lexemesFrom {config : Config} (room : Checkpoint.headerSize ≤ config.capacity)
    (p : Place) (state : State) :
    (lexemesFrom config p state).filter Lexeme.isVisible = p.visibleFrom := by
  induction p, state using course_induction config with
  | ends p state refusal outcome at_end =>
      have nothing := State.nextVisible?_of_refused config.policy outcome
      rw [if_pos at_end] at nothing
      rw [lexemesFrom_of_end outcome at_end, Place.visibleFrom_of_none nothing]
      rfl
  | text p state refusal outcome more ih =>
      have chunk := State.nextVisible?_of_refused config.policy outcome
      rw [if_neg (Bool.eq_false_iff.1 more)] at chunk
      rw [lexemesFrom_of_text outcome more]
      exact filter_isVisible_cons chunk ih
  | token p state token after outcome ih =>
      have yields := State.yields_of_scan outcome
      rw [lexemesFrom_of_yields room yields]
      rcases State.nextVisible?_of_yields yields with ⟨no_width, here⟩ | next
      · -- The session stays where it is or moves behind the margin, and gives nothing visible.
        rw [no_width, List.filter_cons_of_neg (by simp [Lexeme.isVisible_eq_false]), ← no_width, ih]
        rcases here with here | here
        · rw [no_width, here]
        · rw [no_width, here, Place.visibleFrom_lineHead]
      · exact filter_isVisible_cons next ih

end Session

/-- Two runs that are resumed at one place of a text, each with a state, a policy and a capacity of
its own, both succeed, and their lexemes with width are the same, namely those that stand in the text
from there on. -/
theorem visible_resume {first second : Config} (first_room : Checkpoint.headerSize ≤ first.capacity)
    (second_room : Checkpoint.headerSize ≤ second.capacity) (source : String) (offset : Nat)
    (place : Place) (found : Place.at? source.toList offset = some place)
    (bytes others : Checkpoint.Bytes) (state other : State)
    (decoded : Checkpoint.decode bytes = .ok state)
    (other_decoded : Checkpoint.decode others = .ok other) :
    ∃ stream twin, (resume first source ⟨offset, bytes⟩).value = .ok stream ∧
      (resume second source ⟨offset, others⟩).value = .ok twin ∧
      stream.visible = twin.visible ∧ stream.visible = place.visibleFrom := by
  have stream_visible := Session.visible_lexemesFrom first_room place state
  have twin_visible := Session.visible_lexemesFrom second_room place other
  exact ⟨_, _, resume_eq_ok first_room found decoded, resume_eq_ok second_room found other_decoded,
    stream_visible.trans twin_visible.symm, stream_visible⟩

/-- One run takes up the text fresh behind the `λ`; the other owes two closing braces and a separator,
has a level to record and finds the last line unfinished. Both read the same brace and raw string. -/
theorem visible_resume_owing :
    Checkpoint.headerSize ≤ 1024 ∧ Checkpoint.headerSize ≤ 11 ∧
      Place.at? "λ\n  b\x7d(\nr\"\"".toList 2 =
        some ⟨['λ'], ['\n', ' ', ' ', 'b', '}', '(', '\n', 'r', '"', '"'], 2, rfl⟩ ∧
      Checkpoint.decode [] = .ok .fresh ∧
      Checkpoint.decode [2, 0, 0, 0, 1, 0, 0, 0, 1, 1, 1, 9, 0, 0, 0] =
        .ok ⟨[9], ⟨2, 1, true⟩, true, true⟩ ∧
      ∃ stream twin,
        (resume ⟨.permissive, 1024⟩ "λ\n  b\x7d(\nr\"\"" ⟨2, []⟩).value = .ok stream ∧
        (resume ⟨.heuristic, 11⟩ "λ\n  b\x7d(\nr\"\""
          ⟨2, [2, 0, 0, 0, 1, 0, 0, 0, 1, 1, 1, 9, 0, 0, 0]⟩).value = .ok twin ∧
        stream.visible = twin.visible := by
  have found : Place.at? "λ\n  b\x7d(\nr\"\"".toList 2 =
      some ⟨['λ'], ['\n', ' ', ' ', 'b', '}', '(', '\n', 'r', '"', '"'], 2, rfl⟩ :=
    Place.at?_eq_some_iff.2 ⟨by decide, rfl⟩
  have decoded : Checkpoint.decode [2, 0, 0, 0, 1, 0, 0, 0, 1, 1, 1, 9, 0, 0, 0] =
      .ok ⟨[9], ⟨2, 1, true⟩, true, true⟩ := rfl
  rcases @visible_resume ⟨.permissive, 1024⟩ ⟨.heuristic, 11⟩ (by decide) (by decide) _ 2 _ found
    [] _ .fresh _ rfl decoded with ⟨stream, twin, run, twin_run, same, _⟩
  exact ⟨by decide, by decide, found, rfl, decoded, stream, twin, run, twin_run, same⟩

end Offside
