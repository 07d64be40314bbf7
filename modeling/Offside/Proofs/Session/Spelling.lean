import Offside.Proofs.Session.Terminator

/-!
# Characters that spell a token

Braces and semicolons are tokens of the scanner wherever they stand in the text, unless they are part of a raw
string literal. But the scanner is asked in front of the blanks, and a blank that is no margin stops it there;
the host goes past the blank and reads the character behind it as a chunk, without asking again. Main
definitions and statements:

* `External.spelledBy?` — the characters that spell a token on their own.
* `Stream.SpellsTokens` — each of them is read as its token.
* `Place.exists_covering_visibleFrom` — what becomes of such a character depends on the blanks in front of it.
* `exists_lexeme_of_spelledBy?` — so it does in every run over a whole text.
* `not_spellsTokens_noBreakSpace` — a semicolon behind a no-break space is read as text.
-/

namespace Offside

/-- The token that a character spells on its own. -/
def External.spelledBy? : Char → Option External
  | '{' => some .openBrace
  | '}' => some .closeBrace
  | ';' => some .semicolon
  | _ => none

/-- The byte at `offset` lies in the lexeme. -/
def Lexeme.covers (lexeme : Lexeme) (offset : Nat) : Bool :=
  decide (lexeme.span.start ≤ offset) && decide (offset < lexeme.span.stop)

namespace Stream

/-- The lexemes in which the byte at `offset` lies. -/
def covering (stream : Stream) (offset : Nat) : List Lexeme :=
  stream.lexemes.filter (·.covers offset)

/-- Each character of the text that spells a token and is not part of a raw string literal lies in one lexeme
only. This is the token, and it covers the character and nothing else. -/
def SpellsTokens (stream : Stream) (text : List Char) : Prop :=
  ∀ (p : Place) (c : Char) (token : External), p.source = text → p.lookahead = some c →
    External.spelledBy? c = some token →
    (∀ lexeme ∈ stream.covering p.offset, lexeme.kind ≠ .external .rawString) →
    stream.covering p.offset = [⟨.external token, p.offset, p.offset + 1⟩]

end Stream

namespace External

variable {c : Char} {token : External}

theorem spelledBy?_cases (spells : spelledBy? c = some token) :
    c = '{' ∧ token = .openBrace ∨ c = '}' ∧ token = .closeBrace ∨ c = ';' ∧ token = .semicolon := by
  simp only [spelledBy?] at spells
  split at spells <;> cases spells
  · exact .inl ⟨rfl, rfl⟩
  · exact .inr (.inl ⟨rfl, rfl⟩)
  · exact .inr (.inr ⟨rfl, rfl⟩)

/-- A character that spells a token is a chunk of its own. -/
theorem chunk_of_spelledBy? (spells : spelledBy? c = some token) :
    Chunk.isWordChar c = false ∧ Chunk.isOperatorChar c = false := by
  rcases spelledBy?_cases spells with ⟨rfl, rfl⟩ | ⟨rfl, rfl⟩ | ⟨rfl, rfl⟩ <;> decide +kernel

theorem isBlank_of_spelledBy? (spells : spelledBy? c = some token) : Text.isBlank c = false := by
  rcases spelledBy?_cases spells with ⟨rfl, rfl⟩ | ⟨rfl, rfl⟩ | ⟨rfl, rfl⟩ <;> rfl

theorem utf8Size_of_spelledBy? (spells : spelledBy? c = some token) : c.utf8Size = 1 := by
  rcases spelledBy?_cases spells with ⟨rfl, rfl⟩ | ⟨rfl, rfl⟩ | ⟨rfl, rfl⟩ <;> rfl

end External

namespace Lexeme

theorem covers_iff (lexeme : Lexeme) (offset : Nat) :
    lexeme.covers offset = true ↔ lexeme.span.start ≤ offset ∧ offset < lexeme.span.stop := by
  simp [covers]

theorem isVisible_of_covers {lexeme : Lexeme} {offset : Nat} (covers : lexeme.covers offset = true) :
    lexeme.isVisible = true := by
  rcases (covers_iff lexeme offset).1 covers with ⟨started, goes_on⟩
  exact (isVisible_iff lexeme.kind _ _).2 (Nat.lt_of_le_of_lt started goes_on)

end Lexeme

/-- Only lexemes with width cover anything. -/
theorem Stream.covering_eq_filter_visible (stream : Stream) (offset : Nat) :
    stream.covering offset = stream.visible.filter (·.covers offset) := by
  rw [covering, visible, List.filter_filter]
  refine List.filter_congr fun lexeme _ => ?_
  cases covers : lexeme.covers offset with
  | false => rfl
  | true => rw [Lexeme.isVisible_of_covers covers, Bool.and_self]

namespace Place

open External (spelledBy?)

/-! ## One lexeme -/

/-- The place is at the start of the text or behind a visible character. -/
def BehindVisible (p : Place) : Prop :=
  p.before.takeWhile Text.isBlank = []

/-- What a character is read as that stands at `p` and spells `token`. -/
def readAs (p : Place) (token : External) : Lexeme.Kind :=
  if Text.EndsInMargin p.before.reverse then .external token else .text

section

variable {p q head stop : Place} {c : Char} {token : External} {kind : Lexeme.Kind}
  {run chars : List Char}

/-- The blanks at the end of what was read are those behind the last visible character. -/
theorem endsInMargin_before_iff (behind : q.BehindVisible) (reads : q.Reads run p)
    (blank : ∀ d ∈ run, Text.isBlank d = true) :
    Text.EndsInMargin p.before.reverse ↔ ∀ d ∈ run, Margin.isMarginChar d = true := by
  have blank_reverse : ∀ d ∈ run.reverse, Text.isBlank d = true := fun d member =>
    blank d (List.mem_reverse.1 member)
  have visible : q.before.takeWhile Text.isBlank = [] := behind
  rw [Text.EndsInMargin, List.reverse_reverse, reads.before_eq,
    List.takeWhile_append_of_pos blank_reverse, visible, List.append_nil]
  simp only [List.mem_reverse]

theorem spelled?_of_spelledBy? (next : p.lookahead = some c) (spells : spelledBy? c = some token) :
    p.spelled? = some (token, p.advance) := by
  rcases External.spelledBy?_cases spells with ⟨rfl, rfl⟩ | ⟨rfl, rfl⟩ | ⟨rfl, rfl⟩ <;>
    simp [spelled?, next]

/-- A token that is spelled out is a raw string literal or one character. -/
theorem spelled?_cases (spelled : p.spelled? = some (token, stop)) :
    token = .rawString ∨
      ∃ c, p.lookahead = some c ∧ spelledBy? c = some token ∧ stop = p.advance := by
  simp only [spelled?] at spelled
  split at spelled
  next brace =>
    cases spelled
    exact .inr ⟨_, brace, rfl, rfl⟩
  next brace =>
    cases spelled
    exact .inr ⟨_, brace, rfl, rfl⟩
  next separator =>
    cases spelled
    exact .inr ⟨_, separator, rfl, rfl⟩
  next letter =>
    split at spelled <;> cases spelled
    exact .inl rfl
  · cases spelled

/-- A single character is read from the place in front of it only. -/
theorem eq_of_reads_singleton {d e : Char} {front rest : List Char} (single : head.Reads [e] stop)
    (onward : head.Reads front p) (within : p.Reads (d :: rest) stop) : p = head ∧ stop = p.advance := by
  have whole : front ++ d :: rest = [e] := (onward.append within).chars_eq single
  have parts : front = [] ∧ d :: rest = [e] := by
    cases front with
    | nil => exact ⟨rfl, whole⟩
    | cons first more => simp at whole
  rw [parts.1] at onward
  rw [parts.2] at within
  exact ⟨onward.unique (reads_nil head), within.unique (reads_advance within.lookahead_eq)⟩

/-- A token that is spelled out takes in such a character as part of a raw string literal, or is itself the
character. -/
theorem eq_of_spelled?_of_spelledBy? {given : External} (spelled : head.spelled? = some (given, stop))
    (next : p.lookahead = some c) (spells : spelledBy? c = some token) {d : Char} {front rest : List Char}
    (onward : head.Reads front p) (within : p.Reads (d :: rest) stop) :
    given = .rawString ∨ given = token ∧ p = head ∧ stop = p.advance := by
  rcases spelled?_cases spelled with raw | ⟨e, first, spells_given, rfl⟩
  · exact .inl raw
  · rcases eq_of_reads_singleton (reads_advance first) onward within with ⟨rfl, behind⟩
    rw [next] at first
    cases first
    rw [spells] at spells_given
    exact .inr ⟨(Option.some.inj spells_given).symm, rfl, behind⟩

/-- A chunk that takes in such a character is itself the character. -/
theorem eq_of_chunkEnd_of_spelledBy? (more : head.atEnd = false) (next : p.lookahead = some c)
    (spells : spelledBy? c = some token) {d : Char} {front rest : List Char}
    (onward : head.Reads front p) (within : p.Reads (d :: rest) head.chunkEnd) :
    p = head ∧ head.chunkEnd = p.advance := by
  rcases lookahead_of_atEnd_eq_false more with ⟨e, first⟩
  rcases exists_reads_chunkEnd first with ⟨others, reads, uniform⟩
  have same : c = d := Option.some.inj (next.symm.trans within.lookahead_eq)
  have member : c ∈ e :: others := by
    rw [← (onward.append within).chars_eq reads, same]
    simp
  rcases External.chunk_of_spelledBy? spells with ⟨no_word, no_operator⟩
  rcases uniform with words | operators | rfl
  · rw [words c member] at no_word
    cases no_word
  · rw [operators c member] at no_operator
    cases no_operator
  · exact eq_of_reads_singleton reads onward within

/-- The next lexeme, if it takes in a character that spells a token. -/
theorem eq_of_nextVisible?_of_spelledBy? (behind : q.BehindVisible)
    (visible : q.nextVisible? = some (kind, head, stop)) (reads : q.Reads chars p)
    (next : p.lookahead = some c) (spells : spelledBy? c = some token) {d : Char} {rest : List Char}
    (within : p.Reads (d :: rest) stop) :
    head.offset ≤ p.offset ∧
      (kind = .external .rawString ∨ kind = p.readAs token ∧ p = head ∧ stop = p.advance) := by
  have no_blank := External.isBlank_of_spelledBy? spells
  have no_margin : Margin.isMarginChar c = false :=
    Bool.eq_false_iff.2 fun margin => by simp [isBlank_of_isMarginChar margin] at no_blank
  simp only [nextVisible?] at visible
  split at visible
  next given _ spelled =>
    cases visible
    rcases exists_reads_of_run reads next no_margin with ⟨front, onward⟩
    refine ⟨onward.offset_eq ▸ Nat.le_add_right _ _, ?_⟩
    rcases eq_of_spelled?_of_spelledBy? spelled next spells onward within with rfl | ⟨rfl, at_head, single⟩
    · exact .inl rfl
    · refine .inr ⟨?_, at_head, single⟩
      -- Nothing but a margin stands in front of the character.
      have margin := forall_mem_takeWhile Margin.isMarginChar q.after
      have run := reads_advanceWhile q Margin.isMarginChar
      have in_margin : Text.EndsInMargin p.before.reverse := by
        rw [at_head]
        exact (endsInMargin_before_iff behind run fun d member =>
          isBlank_of_isMarginChar (margin d member)).2 margin
      rw [readAs, if_pos in_margin]
  next unspelled =>
    split at visible
    · cases visible
    next more =>
      cases visible
      rcases exists_reads_of_run reads next no_blank with ⟨front, onward⟩
      refine ⟨onward.offset_eq ▸ Nat.le_add_right _ _, .inr ?_⟩
      rcases eq_of_chunkEnd_of_spelledBy? (Bool.eq_false_iff.2 more) next spells onward within with
        ⟨at_head, single⟩
      refine ⟨?_, at_head, single⟩
      -- Behind a margin the character would have been spelled out.
      have blanks := forall_mem_takeWhile Text.isBlank q.after
      have run := reads_advanceWhile q Text.isBlank
      have no_margin_run : ¬ Text.EndsInMargin p.before.reverse := by
        rw [at_head, endsInMargin_before_iff behind run blanks]
        intro margin
        rw [← at_head] at run
        have to_head := reads_advanceWhile_of_after_eq
          (run.after_eq.trans (congrArg _ (lookahead_eq_some_iff.1 next))) margin no_margin
        have same : q.lineHead = p := to_head.unique run
        rw [same, spelled?_of_spelledBy? next spells] at unspelled
        cases unspelled
      rw [readAs, if_neg no_margin_run]

end

/-! ## All lexemes -/

/-- The lexemes that stand in the text from a place on start there or further on. -/
theorem offset_le_of_mem_visibleFrom (p : Place) :
    ∀ lexeme ∈ p.visibleFrom, p.offset ≤ lexeme.span.start := by
  induction p using visibleFrom.induct with
  | case1 p nothing => simp [visibleFrom_of_none nothing]
  | case2 p kind head stop next ih =>
      rcases of_nextVisible? next with ⟨to_head, to_stop, _⟩
      have onward := offset_le_of_le to_head
      rw [visibleFrom_of_some next]
      refine List.forall_mem_cons.2 ⟨onward, ?_⟩
      intro lexeme member
      exact Nat.le_trans onward (Nat.le_trans (offset_le_of_le to_stop) (ih lexeme member))

theorem nextVisible?_ne_none {q p : Place} {c : Char} {chars : List Char} (reads : q.Reads chars p)
    (next : p.lookahead = some c) (no_blank : Text.isBlank c = false) : q.nextVisible? ≠ none := by
  intro nothing
  rcases exists_reads_of_run reads next no_blank with ⟨rest, onward⟩
  have more : (q.advanceWhile Text.isBlank).atEnd = false := by
    rw [atEnd, onward.after_eq, lookahead_eq_some_iff.1 next]
    simp
  simp only [nextVisible?] at nothing
  split at nothing
  · cases nothing
  · simp [more] at nothing

/-- Of the lexemes that stand in the text one takes in a character that spells a token. It is a raw string
literal, or it covers the character and nothing else; then it is the token exactly if the blanks in front of
the character are a margin. -/
theorem exists_covering_visibleFrom (q : Place) :
    q.BehindVisible → ∀ (p : Place) (chars : List Char) (c : Char) (token : External),
      q.Reads chars p → p.lookahead = some c → spelledBy? c = some token →
      ∃ lexeme, q.visibleFrom.filter (·.covers p.offset) = [lexeme] ∧
        (lexeme.kind = .external .rawString ∨
          lexeme = ⟨p.readAs token, p.offset, p.offset + 1⟩) := by
  induction q using visibleFrom.induct with
  | case1 q nothing =>
      intro _ p chars c token reads next spells
      exact absurd nothing (nextVisible?_ne_none reads next (External.isBlank_of_spelledBy? spells))
  | case2 q kind head stop visible ih =>
      intro behind p chars c token reads next spells
      rcases exists_reads_of_nextVisible? visible with ⟨front, last, to_stop, no_blank⟩
      rw [visibleFrom_of_some visible]
      rcases reads.cases to_stop with ⟨rest, _, onward⟩ | ⟨d, rest, _, within⟩
      · -- The character stands behind the lexeme.
        have behind_stop : stop.BehindVisible := by
          rw [BehindVisible, to_stop.before_eq]
          simp [no_blank]
        have clear : Lexeme.covers ⟨kind, head.offset, stop.offset⟩ p.offset = false := by
          rw [← Bool.not_eq_true, Lexeme.covers_iff, onward.offset_eq]
          exact fun covers => Nat.not_lt.2 (Nat.le_add_right _ _) covers.2
        rw [List.filter_cons_of_neg (by simp [clear])]
        exact ih behind_stop p rest c token onward next spells
      · rcases eq_of_nextVisible?_of_spelledBy? behind visible reads next spells within with
          ⟨from_head, read_as⟩
        have in_front : p.offset < stop.offset := by
          have wide := d.utf8Size_pos
          rw [within.offset_eq, Text.byteLength_cons]
          omega
        have later : stop.visibleFrom.filter (·.covers p.offset) = [] := by
          refine List.filter_eq_nil_iff.2 fun lexeme member covers => ?_
          have started := offset_le_of_mem_visibleFrom stop lexeme member
          have reached := ((Lexeme.covers_iff lexeme _).1 covers).1
          exact Nat.lt_irrefl _ (Nat.lt_of_lt_of_le in_front (Nat.le_trans started reached))
        have covers : Lexeme.covers ⟨kind, head.offset, stop.offset⟩ p.offset = true :=
          (Lexeme.covers_iff _ _).2 ⟨from_head, in_front⟩
        rw [List.filter_cons_of_pos (by simp [covers]), later]
        refine ⟨_, rfl, ?_⟩
        rcases read_as with raw | ⟨rfl, rfl, rfl⟩
        · exact .inl raw
        · refine .inr ?_
          rw [(reads_advance next).offset_eq]
          simp [External.utf8Size_of_spelledBy? spells]

theorem reads_of_source {p : Place} {text : List Char} (whole : p.source = text) :
    (start text).Reads p.before.reverse p :=
  ⟨whole.symm, by simp [start]⟩

theorem readAs_of_margins {p : Place} {text : List Char} (token : External) (whole : p.source = text)
    (margins : ∀ c ∈ text, Text.isBlank c = true → Margin.isMarginChar c = true) :
    p.readAs token = .external token := by
  refine if_pos fun c member => ?_
  rw [List.reverse_reverse] at member
  have in_text : c ∈ text := by
    rw [← whole, source]
    exact List.mem_append_left _ (List.mem_reverse.2 ((List.takeWhile_sublist _).subset member))
  exact margins c in_text (forall_mem_takeWhile _ _ c member)

end Place

/-! ## The run -/

namespace Stream

section

variable {stream : Stream} {text : List Char} (visible : stream.visible = (Place.start text).visibleFrom)

include visible

theorem exists_covering {p : Place} {c : Char} {token : External} (whole : p.source = text)
    (next : p.lookahead = some c) (spells : External.spelledBy? c = some token) :
    ∃ lexeme, stream.covering p.offset = [lexeme] ∧
      (lexeme.kind = .external .rawString ∨
        lexeme = ⟨p.readAs token, p.offset, p.offset + 1⟩) := by
  rw [covering_eq_filter_visible, visible]
  exact Place.exists_covering_visibleFrom (.start text) rfl p _ c token (Place.reads_of_source whole)
    next spells

theorem spellsTokens_of_margins
    (margins : ∀ c ∈ text, Text.isBlank c = true → Margin.isMarginChar c = true) :
    stream.SpellsTokens text := by
  intro p c token whole next spells no_literal
  rcases exists_covering visible whole next spells with ⟨lexeme, only, raw | rfl⟩
  · exact absurd raw (no_literal lexeme (by simp [only]))
  · rw [only, Place.readAs_of_margins token whole margins]

end

end Stream

/-- In a run over a whole text each character that spells a token lies in one lexeme only. This is a raw string
literal, or it covers the character and nothing else, and then it is the token exactly if the blanks in front
of the character are a margin; otherwise it is text. So all such characters are read as their tokens in a text
whose blanks are spaces, tabs and line breaks. -/
theorem exists_lexeme_of_spelledBy? {config : Config} (room : Checkpoint.headerSize ≤ config.capacity)
    (source : String) :
    ∃ stream, (tokenize config source).value = .ok stream ∧
      (∀ (p : Place) (c : Char) (token : External), p.source = source.toList → p.lookahead = some c →
        External.spelledBy? c = some token →
        ∃ lexeme, stream.covering p.offset = [lexeme] ∧
          (lexeme.kind = .external .rawString ∨
            lexeme = ⟨p.readAs token, p.offset, p.offset + 1⟩)) ∧
      ((∀ c ∈ source.toList, Text.isBlank c = true → Margin.isMarginChar c = true) →
        stream.SpellsTokens source.toList) := by
  have visible := Session.visible_lexemesFrom room (.start source.toList) .fresh
  refine ⟨_, tokenize_eq_ok room source, ?_, Stream.spellsTokens_of_margins visible⟩
  intro p c token whole next spells
  refine Stream.exists_covering ?_ whole next spells
  exact visible

/-- Braces behind all four blanks of a margin, and one that is part of a literal. -/
theorem exists_lexeme_of_spelledBy?_margins :
    Checkpoint.headerSize ≤ 1024 ∧
      ∃ stream, (tokenize ⟨.heuristic, 1024⟩ "\x7b\t;\r\n r\"\x7d\"\x7d").value = .ok stream ∧
        stream.SpellsTokens "\x7b\t;\r\n r\"\x7d\"\x7d".toList := by
  rcases @exists_lexeme_of_spelledBy? ⟨.heuristic, 1024⟩ (by decide) "\x7b\t;\r\n r\"\x7d\"\x7d" with
    ⟨stream, run, _, spells⟩
  have checked : "\x7b\t;\r\n r\"\x7d\"\x7d".toList.all
      (fun c => !Text.isBlank c || Margin.isMarginChar c) = true := by decide
  refine ⟨by decide, stream, run, spells ?_⟩
  intro c member blank
  simpa [blank] using List.all_eq_true.1 checked c member

/-- A semicolon behind a no-break space is read as text, and a separator is inserted behind it. -/
theorem not_spellsTokens_noBreakSpace :
    ∃ stream, (tokenize ⟨.permissive, 1024⟩ "\u00a0;").value = .ok stream ∧
      stream.lexemes = [⟨.text, 2, 3⟩, ⟨.external .semicolon, 3, 3⟩] ∧
      ¬ stream.SpellsTokens "\u00a0;".toList := by
  have run : (tokenize ⟨.permissive, 1024⟩ "\u00a0;").value =
      .ok ⟨[⟨.text, 2, 3⟩, ⟨.external .semicolon, 3, 3⟩],
        [.initial, ⟨3, [0, 0, 0, 0, 0, 0, 0, 0, 0, 1, 0]⟩]⟩ := by
    rw [tokenize, Session.run, Session.turns_eq_turnsWithin (n := 20) (by decide)]
    decide
  refine ⟨_, run, rfl, fun spells => ?_⟩
  have read := spells (.advance (.start "\u00a0;".toList)) ';' .semicolon rfl rfl rfl (by decide)
  exact absurd read (by decide)

end Offside
