import Offside.Proofs.Reading.Literal
import Offside.Proofs.Session.Course

/-!
# Lexemes tile the source

Scanner and host share the work of reading a text: the one looks ahead and goes back, the other
skips blanks and reads chunks. Together they neither lose a character nor read one twice. Main
statements:

* `Lexeme.tiles_cons`, `Lexeme.tiles_nil` — what one turn has to show.
* `Session.tiles_lexemesFrom` — the lexemes from a place on tile the text behind it.
* `lexemes_tile_source` — so do those of every run, wherever and with whatever state it begins.
* `rawString_with_unequal_signs` — a literal whose signs are too many to be counted.
-/

namespace Offside

namespace Lexeme

/-- The texts that may stand under a lexeme. Tokens without width were inserted. -/
def Kind.Admits : Kind → String → Prop
  | .text, covered => covered ≠ "" ∧ ∀ c ∈ covered.toList, Text.isBlank c = false
  | .external .openBrace, covered => covered = "" ∨ covered = "\x7b"
  | .external .closeBrace, covered => covered = "" ∨ covered = "\x7d"
  | .external .semicolon, covered => covered = "" ∨ covered = ";"
  | .external .rawString, covered => RawLiteral.Spells covered.toList
  | .external .endContinuation, _ => False

/-- `Tiles source offset lexemes`: from byte `offset` on, `source` consists of the lexemes in their
order, with nothing but blanks in front of them, between them and behind the last. Each slice exists
only if its ends fall between characters of the source and stand in order. -/
inductive Tiles (source : String) : Nat → List Lexeme → Prop
  | nil {offset : Nat} {rest : String} :
      Text.slice? source offset source.utf8ByteSize = some rest →
      (∀ c ∈ rest.toList, Text.isBlank c = true) →
      Tiles source offset []
  | cons {offset : Nat} {lexeme : Lexeme} {later : List Lexeme} {gap text : String} :
      Text.slice? source offset lexeme.span.start = some gap →
      (∀ c ∈ gap.toList, Text.isBlank c = true) →
      Text.slice? source lexeme.span.start lexeme.span.stop = some text →
      lexeme.kind.Admits text →
      Tiles source lexeme.span.stop later →
      Tiles source offset (lexeme :: later)

theorem tiles_nil {source : String} {p q : Place} {blanks : List Char}
    (text : p.source = source.toList) (reads : p.Reads blanks q)
    (blank : ∀ c ∈ blanks, Text.isBlank c = true) (ends : q.after = []) :
    Tiles source p.offset [] := by
  -- With nothing left to read, all bytes of the source are in front of `q`.
  have stop : q.offset = source.utf8ByteSize := by
    have whole : q.before.reverse = source.toList := by
      rw [← text, ← reads.source_eq, Place.source, ends, List.append_nil]
    rw [← Text.byteLength_toList, ← whole, Text.byteLength_reverse, Place.offset_eq]
  have rest := Place.slice?_of_reads text reads
  rw [stop] at rest
  exact .nil rest (by simpa using blank)

theorem tiles_cons {source : String} {p head stop : Place} {kind : Kind}
    {blanks chars : List Char} {later : List Lexeme} (text : p.source = source.toList)
    (to_head : p.Reads blanks head) (blank : ∀ c ∈ blanks, Text.isBlank c = true)
    (to_stop : head.Reads chars stop) (admitted : kind.Admits (String.ofList chars))
    (tiles : Tiles source stop.offset later) :
    Tiles source p.offset (⟨kind, head.offset, stop.offset⟩ :: later) := by
  have same_text : head.source = source.toList := to_head.source_eq.trans text
  exact .cons (Place.slice?_of_reads text to_head) (by simpa using blank)
    (Place.slice?_of_reads same_text to_stop) admitted tiles

end Lexeme

namespace Owed

/-- Only closing braces and separators are ever owed. -/
theorem token_of_next? {owed rest : Owed} {token : External}
    (h : owed.next? = some (token, rest)) : token = .closeBrace ∨ token = .semicolon := by
  simp only [next?] at h
  repeat' split at h
  all_goals cases h
  · exact .inl rfl
  · exact .inl rfl
  · exact .inr rfl

end Owed

namespace State

theorem reads_lineHead (p : Place) :
    ∃ blanks, p.Reads blanks p.lineHead ∧ ∀ c ∈ blanks, Text.isBlank c = true := by
  refine ⟨_, Place.reads_advanceWhile p Margin.isMarginChar, ?_⟩
  intro c member
  exact Place.isBlank_of_isMarginChar
    (Place.forall_mem_takeWhile Margin.isMarginChar p.after c member)

/-- Only blanks stand in front of a token. -/
theorem reads_head_of_yields {state after : State} {accepts : Acceptance} {p head stop : Place}
    {token : External} (h : state.Yields accepts p token after head stop) :
    ∃ blanks, p.Reads blanks head ∧ ∀ c ∈ blanks, Text.isBlank c = true := by
  cases h with
  | owed => exact ⟨[], Place.reads_nil p, by simp⟩
  | owedBrace => exact ⟨[], Place.reads_nil p, by simp⟩
  | _ => exact reads_lineHead p

/-- A token covers nothing or its own spelling. -/
theorem reads_stop_of_yields {state after : State} {accepts : Acceptance} {p head stop : Place}
    {token : External} (h : state.Yields accepts p token after head stop) :
    ∃ chars, head.Reads chars stop ∧
      (Lexeme.Kind.external token).Admits (String.ofList chars) := by
  cases h with
  | owed next =>
      refine ⟨[], Place.reads_nil p, ?_⟩
      rcases Owed.token_of_next? next with rfl | rfl
      · simp [Lexeme.Kind.Admits]
      · simp [Lexeme.Kind.Admits]
  | owedBrace _ _ brace => exact ⟨_, Place.reads_advance brace, by simp [Lexeme.Kind.Admits]⟩
  | openBrace _ _ brace => exact ⟨_, Place.reads_advance brace, by simp [Lexeme.Kind.Admits]⟩
  | semicolon _ _ separator =>
      exact ⟨_, Place.reads_advance separator, by simp [Lexeme.Kind.Admits]⟩
  | rawString _ _ letter _ closed =>
      rcases RawLiteral.exists_reads_of_read_eq_closed letter closed with ⟨chars, reads, spelled⟩
      refine ⟨chars, reads, ?_⟩
      simpa [Lexeme.Kind.Admits] using spelled
  | _ => exact ⟨[], Place.reads_nil _, by simp [Lexeme.Kind.Admits]⟩

end State

namespace Session

/-- From any place on, whatever the state, the lexemes tile the text. -/
theorem tiles_lexemesFrom {config : Config} (room : Checkpoint.headerSize ≤ config.capacity)
    {source : String} (p : Place) (state : State) (text : p.source = source.toList) :
    Lexeme.Tiles source p.offset (lexemesFrom config p state) := by
  induction p, state using course_induction config with
  | ends p state refusal outcome at_end =>
      rw [lexemesFrom_of_end outcome at_end]
      exact Lexeme.tiles_nil text (Place.reads_advanceWhile p Text.isBlank)
        (Place.forall_mem_takeWhile Text.isBlank p.after) (Place.atEnd_iff.1 at_end)
  | text p state refusal outcome more ih =>
      -- What the scanner read ahead does not count: the host starts again at `p`.
      rw [lexemesFrom_of_text outcome more]
      rcases Place.lookahead_of_atEnd_eq_false more with ⟨c, next⟩
      have visible := Place.isBlank_eq_false_of_lookahead_advanceWhile next
      rcases Place.exists_reads_chunkEnd_of_not_isBlank next visible with ⟨rest, reads, word⟩
      have skips := Place.reads_advanceWhile p Text.isBlank
      have same_text := (reads.source_eq.trans skips.source_eq).trans text
      refine Lexeme.tiles_cons text skips (Place.forall_mem_takeWhile Text.isBlank p.after) reads ?_
        (ih same_text)
      exact ⟨by simp, by simpa using word⟩
  | token p state token after outcome ih =>
      -- The token lies where its derivation says, and the next turn starts at its end.
      rw [lexemesFrom_of_token room outcome]
      have yields := State.yields_of_scan outcome
      rcases State.reads_head_of_yields yields with ⟨blanks, to_head, blank⟩
      rcases State.reads_stop_of_yields yields with ⟨chars, to_stop, admitted⟩
      have same_text := (to_stop.source_eq.trans to_head.source_eq).trans text
      exact Lexeme.tiles_cons text to_head blank to_stop admitted (ih same_text)

end Session

/-! ## Literals with more signs than can be counted -/

namespace RawLiteral

/-- A literal with `count` signs in front of its quote, and one that stands at its end. -/
def lopsided (count : Nat) : List Char :=
  'r' :: List.replicate count '#' ++ '"' :: ['x'] ++ closing 1

/-- A literal has as many signs at its end as in front of its quote only if it is long enough. -/
theorem lopsided_ne {count : Nat} (many : 2 < count) (signs : Nat) (content : List Char) :
    lopsided count ≠ 'r' :: List.replicate signs '#' ++ '"' :: content ++ closing signs := by
  intro same
  have text : (Place.start (lopsided count)).after = lopsided count := rfl
  have counted : RawLiteral.signs (.start (lopsided count)) = count :=
    (reads_opening (text.trans (List.append_assoc _ ('"' :: ['x']) _))).1
  have counted_again : RawLiteral.signs (.start (lopsided count)) = signs :=
    (reads_opening ((text.trans same).trans (List.append_assoc _ ('"' :: content) _))).1
  have lengths := congrArg List.length same
  simp [lopsided, length_closing] at lengths
  omega

end RawLiteral

/-- Where the count of the signs has gone around and come to 1, one sign closes the literal. -/
theorem rawString_of_lopsided {config : Config} {count : Nat}
    (room : Checkpoint.headerSize ≤ config.capacity)
    (accepted : (config.policy.acceptance (.start (RawLiteral.lopsided count))).rawString = true)
    (counted : count % UInt32.size = 1) :
    ∃ stop, (Place.start (RawLiteral.lopsided count)).Reads (RawLiteral.lopsided count) stop ∧
      ⟨.external .rawString, ⟨0, stop.offset⟩⟩ ∈
        Session.lexemesFrom config (.start (RawLiteral.lopsided count)) .fresh := by
  have spelled : (Place.start (RawLiteral.lopsided count)).after =
      'r' :: List.replicate count '#' ++ '"' :: ['x'] ++
        RawLiteral.closing (count % UInt32.size) ++ [] := by
    rw [counted, List.append_nil]
    rfl
  have unclosed : ¬ RawLiteral.closing (count % UInt32.size) <:+: ['x'] := by
    rw [counted]
    decide
  rcases RawLiteral.exists_read_eq_closed spelled unclosed with ⟨stop, closed, reads⟩
  rw [counted] at reads
  refine ⟨stop, reads, ?_⟩
  rw [Session.lexemesFrom_of_yields room (.rawString rfl rfl rfl accepted closed)]
  exact List.mem_cons_self

/-- A run over a whole text and a run that begins anywhere, with any state that reads back, both
succeed, and their lexemes tile the text from the place where the run began. -/
theorem lexemes_tile_source {config : Config} (room : Checkpoint.headerSize ≤ config.capacity)
    (source : String) :
    (∃ stream, (tokenize config source).value = .ok stream ∧
      Lexeme.Tiles source 0 stream.lexemes) ∧
    ∀ (checkpoint : Checkpoint) (place : Place) (state : State),
      Place.at? source.toList checkpoint.offset = some place →
      Checkpoint.decode checkpoint.state = .ok state →
      ∃ stream, (resume config source checkpoint).value = .ok stream ∧
        Lexeme.Tiles source checkpoint.offset stream.lexemes := by
  refine ⟨⟨_, tokenize_eq_ok room source, ?_⟩, ?_⟩
  · exact Session.tiles_lexemesFrom room (.start source.toList) .fresh
      (by simp [Place.source, Place.start])
  · intro checkpoint place state found decoded
    rcases Place.at?_eq_some_iff.1 found with ⟨text, offset⟩
    refine ⟨_, resume_eq_ok room found decoded, ?_⟩
    rw [← offset]
    exact Session.tiles_lexemesFrom room place state text

/-- A run taken up behind `λ` that still owes a closing brace, which covers the brace in front of the
raw string. -/
theorem lexemes_tile_source_midway :
    Checkpoint.headerSize ≤ 11 ∧
      Place.at? "λ\x7d r\"\"".toList 2 = some ⟨['λ'], ['}', ' ', 'r', '"', '"'], 2, rfl⟩ ∧
      Checkpoint.decode [1, 0, 0, 0, 0, 0, 0, 0, 0, 0, 0] = .ok ⟨[], ⟨1, 0, false⟩, false, false⟩ ∧
      ∃ stream, (resume ⟨.permissive, 11⟩ "λ\x7d r\"\""
          ⟨2, [1, 0, 0, 0, 0, 0, 0, 0, 0, 0, 0]⟩).value = .ok stream ∧
        Lexeme.Tiles "λ\x7d r\"\"" 2 stream.lexemes := by
  have found : Place.at? "λ\x7d r\"\"".toList 2 =
      some ⟨['λ'], ['}', ' ', 'r', '"', '"'], 2, rfl⟩ := rfl
  have decoded : Checkpoint.decode [1, 0, 0, 0, 0, 0, 0, 0, 0, 0, 0] =
      .ok ⟨[], ⟨1, 0, false⟩, false, false⟩ := rfl
  have tiles := @lexemes_tile_source ⟨.permissive, 11⟩ (by decide) "λ\x7d r\"\""
  exact ⟨by decide, found, decoded,
    tiles.2 ⟨2, [1, 0, 0, 0, 0, 0, 0, 0, 0, 0, 0]⟩ _ _ found decoded⟩

/-- A raw string with `2 ^ 32 + 1` signs in front of its quote is closed by one: with more signs than can be
counted there need not be as many of them on both sides. -/
theorem rawString_with_unequal_signs :
    ∃ stream lexeme text,
      (tokenize ⟨.permissive, 11⟩ (.ofList (RawLiteral.lopsided (UInt32.size + 1)))).value =
        .ok stream ∧
      lexeme ∈ stream.lexemes ∧ lexeme.kind = .external .rawString ∧
      Text.slice? (.ofList (RawLiteral.lopsided (UInt32.size + 1)))
        lexeme.span.start lexeme.span.stop = some text ∧
      ∀ signs content,
        text.toList ≠
          'r' :: List.replicate signs '#' ++ '"' :: content ++ RawLiteral.closing signs := by
  have many : 2 < UInt32.size + 1 := by decide
  have counted : (UInt32.size + 1) % UInt32.size = 1 := by decide
  generalize UInt32.size + 1 = count at many counted ⊢
  have room : Checkpoint.headerSize ≤ 11 := by decide
  rcases @rawString_of_lopsided ⟨.permissive, 11⟩ count room rfl counted with ⟨stop, reads, given⟩
  have text : (Place.start (RawLiteral.lopsided count)).source =
      (String.ofList (RawLiteral.lopsided count)).toList := by
    simp [Place.source, Place.start]
  refine ⟨_, ⟨.external .rawString, ⟨0, stop.offset⟩⟩, .ofList (RawLiteral.lopsided count),
    tokenize_eq_ok room _, ?_, rfl, Place.slice?_of_reads text reads, ?_⟩
  · simpa using given
  · simpa using RawLiteral.lopsided_ne many

end Offside
