import Offside.Proofs.Session.Respacing

/-!
# Tabs and spaces

A tab takes as many columns as eight spaces wherever a margin is measured. The level of an explicit opening
brace whose block begins in the brace's own line is not measured so, but counted in characters, where a tab
is one. So eight spaces can stand for a tab everywhere outside the raw string literals of a run, except in
front of a token that such a level is taken from. Main definitions and statements:

* `Respacing.tabs` — eight spaces for each tab outside some spans.
* `Respacing.column_tabs` — the column of a place grows by seven for each tab in front of it in its line.
* `tokenize_tabs` — the run over the respaced text gives the same tokens and the same states, if the run
  takes no level from a column behind a tab.
* `not_sameTokens_tabs` — a run that does, and that gives other tokens.
-/

namespace Offside

open Text (byteLength)

/-! ## Eight spaces for a tab -/

namespace Level

@[simp]
theorem shift_zero (level : Level) : level.shift 0 = level := by
  have bound := level.toNat_lt
  refine UInt32.toNat_inj.1 ?_
  rw [toNat_shift, widest, UInt32.size]
  omega

@[simp]
theorem shift_shift (level : Level) (first second : Nat) :
    (level.shift first).shift second = level.shift (first + second) := by
  refine UInt32.toNat_inj.1 ?_
  rw [toNat_shift, toNat_shift, toNat_shift]
  omega

end Level

theorem Margin.foldl_extend_spaces (columns : Nat) :
    ∀ margin : Margin, (List.replicate columns ' ').foldl Margin.extend margin =
      { margin with indent := margin.indent.shift columns } := by
  induction columns with
  | zero => simp
  | succ columns ih =>
      intro margin
      have space : margin.extend ' ' = { margin with indent := margin.indent.shift 1 } := rfl
      rw [List.replicate_succ, List.foldl_cons, ih, space, Level.shift_shift, Nat.add_comm]

/-- One of the spans covers the byte at the offset. -/
def Span.cover (spans : List Span) (offset : Nat) : Bool :=
  spans.any fun span => span.start ≤ offset && offset < span.stop

namespace Respacing

/-- Eight spaces for each tab outside the spans. -/
def tabs (spans : List Span) : Respacing where
  image offset c :=
    if c = '\t' ∧ Span.cover spans offset = false then List.replicate Level.tabWidth ' ' else [c]
  image_of_visible offset c visible := by
    refine if_neg ?_
    rintro ⟨rfl, _⟩
    cases visible
  image_ne_nil offset c := by
    split
    · exact List.cons_ne_nil ' ' _
    · exact List.cons_ne_nil c []
  isMarginChar_of_mem offset c margin d member := by
    split at member
    · rw [List.eq_of_mem_replicate member]
      rfl
    · rwa [List.mem_singleton.1 member]
  extend_image offset c margin := by
    split
    next tab =>
      rw [Margin.foldl_extend_spaces, tab.1]
      rfl
    next => rfl

theorem image_tabs (spans : List Span) (offset : Nat) (c : Char) :
    (tabs spans).image offset c =
      if c = '\t' ∧ Span.cover spans offset = false then List.replicate Level.tabWidth ' ' else [c] :=
  rfl

theorem keeps_tabs {spans : List Span} {offset : Nat} (covered : Span.cover spans offset = true) :
    (tabs spans).Keeps offset := by
  intro c
  simp [image_tabs, covered]

/-- The tabs outside the spans in the last line of a text that is given backwards. -/
def tabsBehind (spans : List Span) : List Char → Nat
  | [] => 0
  | c :: rest =>
      if c = '\n' then
        0
      else
        (if c = '\t' ∧ Span.cover spans (byteLength rest) = false then 1 else 0) +
          tabsBehind spans rest

/-- Eight characters stand in the last line for each tab, and one for each character else. -/
theorem length_lastLine_tabs (spans : List Span) (chars : List Char) :
    (((tabs spans).respaced 0 chars.reverse).reverse.takeWhile (· != '\n')).length =
      (chars.takeWhile (· != '\n')).length + (Level.tabWidth - 1) * tabsBehind spans chars := by
  induction chars with
  | nil => rfl
  | cons c rest ih =>
      rw [reverse_respaced_reverse_cons, image_tabs, tabsBehind]
      by_cases line_break : c = '\n'
      · simp [line_break]
      · have same_line : (c != '\n') = true := by simpa using line_break
        have longer (chars : List Char) : (c :: chars).takeWhile (· != '\n') =
            c :: chars.takeWhile (· != '\n') :=
          List.takeWhile_cons_of_pos same_line
        rw [if_neg line_break, longer, List.length_cons]
        split
        next tab =>
          have spaces : ∀ d ∈ (List.replicate Level.tabWidth ' ').reverse, (d != '\n') = true := by
            intro d member
            rw [List.reverse_replicate] at member
            rw [List.eq_of_mem_replicate member]
            rfl
          rw [List.takeWhile_append_of_pos spaces, List.length_append, ih, List.length_reverse,
            List.length_replicate, Nat.mul_add, Level.tabWidth]
          omega
        next =>
          rw [List.reverse_singleton, List.singleton_append, longer, List.length_cons, ih,
            Nat.zero_add]
          omega

/-- Each tab in front of a place in its line makes seven columns more. -/
theorem column_tabs (spans : List Span) (p : Place) :
    (p.respace (tabs spans)).column =
      p.column + (Level.tabWidth - 1) * tabsBehind spans p.before :=
  length_lastLine_tabs spans p.before

/-- Where an offset of the source comes to lie in the respaced source. -/
def shift (respacing : Respacing) (source : String) (offset : Nat) : Nat :=
  match Place.at? source.toList offset with
  | some p => (p.respace respacing).offset
  | none => offset

theorem offset_respace_eq_shift (respacing : Respacing) {source : String} {p : Place}
    (text : p.source = source.toList) :
    (p.respace respacing).offset = respacing.shift source p.offset := by
  have found : Place.at? source.toList p.offset = some p := Place.at?_eq_some_iff.2 ⟨text, rfl⟩
  rw [shift, found]

end Respacing

/-! ## Whole runs -/

/-- The kinds of the lexemes with the texts under them. -/
def Stream.tokens (stream : Stream) (source : String) : List (Lexeme.Kind × String) :=
  stream.lexemes.map fun lexeme => (lexeme.kind, lexeme.text source)

/-- No level is taken from a column behind a tab that is replaced. -/
def Session.TakesNoTabs (config : Config) (source : String) (spans : List Span) : Prop :=
  ∀ scan ∈ scansFrom config (.start source.toList) .fresh,
    scan.state.takesColumn scan.accepts scan.place = true →
      Respacing.tabsBehind spans scan.place.lineHead.before = 0

theorem Session.tolerates_tabs {config : Config} {source : String} {stream : Stream}
    (lexemes : stream.lexemes = lexemesFrom config (.start source.toList) .fresh)
    (no_tabs : TakesNoTabs config source stream.literals) :
    Tolerates config (.tabs stream.literals) (.start source.toList) .fresh := by
  refine ⟨?_, ?_⟩
  · intro lexeme member raw byte from_start within
    rw [← lexemes] at member
    refine Respacing.keeps_tabs (List.any_eq_true.2 ⟨_, Stream.mem_literals member raw, ?_⟩)
    simp [from_start, within]
  · intro scan member takes
    rw [Respacing.column_tabs, no_tabs scan member takes, Nat.mul_zero, Nat.add_zero]

/-- Eight spaces can stand for each tab outside the raw string literals of a run. Every margin of the text
measures the same then, but columns grow by seven for each such tab. So the run over the respaced text gives
lexemes of the same kinds with the same texts, and saves the same states, as long as no level is taken from
a column behind such a tab. -/
theorem tokenize_tabs {config : Config} (room : Checkpoint.headerSize ≤ config.capacity)
    (source : String) :
    ∃ stream, (tokenize config source).value = .ok stream ∧
      (∀ p : Place, p.source = source.toList →
        (p.respace (.tabs stream.literals)).margin = p.margin ∧
          (p.respace (.tabs stream.literals)).column =
            p.column + (Level.tabWidth - 1) * Respacing.tabsBehind stream.literals p.before) ∧
      (Session.TakesNoTabs config source stream.literals →
        ∃ spaced,
          (tokenize config ((Respacing.tabs stream.literals).string source)).value = .ok spaced ∧
          spaced.tokens ((Respacing.tabs stream.literals).string source) = stream.tokens source ∧
          spaced.checkpoints.map (·.state) = stream.checkpoints.map (·.state)) := by
  refine ⟨_, tokenize_eq_ok room source, ?_⟩
  generalize stream_eq : (⟨Session.lexemesFrom config (.start source.toList) .fresh,
    .initial :: Session.checkpointsFrom config (.start source.toList) .fresh⟩ : Stream) = stream
  refine ⟨fun p _ => ⟨Place.margin_respace _ p, Respacing.column_tabs _ p⟩, ?_⟩
  intro no_tabs
  have tolerates := Session.tolerates_tabs (by rw [← stream_eq]) no_tabs
  generalize Respacing.tabs stream.literals = respacing at tolerates ⊢
  subst stream_eq
  have respaced := Session.respaced_from (fun _ text => respacing.offset_respace_eq_shift text) room
    (.start source.toList) .fresh rfl tolerates
  have run := tokenize_eq_ok room (respacing.string source)
  rw [← Respacing.respace_start] at run
  refine ⟨_, run, ?_, ?_⟩
  · rw [Stream.tokens, Stream.tokens, respaced.lexemes_eq, List.map_map]
    refine List.map_congr_left ?_
    intro lexeme member
    rw [Function.comp_apply, respaced.text_eq lexeme member]
    rfl
  · rw [List.map_cons, List.map_cons, respaced.checkpoints_eq, List.map_map]
    rfl

/-- The level of the block is taken from the `;`, in whose line no tab is replaced. The tab in front of the
literal is measured, the one behind it is skipped, and the one inside it stays. -/
theorem tokenize_tabs_literal :
    Checkpoint.headerSize ≤ 1024 ∧
      (Respacing.tabs [⟨6, 10⟩]).string "\x7b a;\n\tr\"\t\"\tb" =
        "\x7b a;\n        r\"\t\"        b" ∧
      ∃ stream, (tokenize ⟨.permissive, 1024⟩ "\x7b a;\n\tr\"\t\"\tb").value = .ok stream ∧
        stream.literals = [⟨6, 10⟩] ∧
        Session.TakesNoTabs ⟨.permissive, 1024⟩ "\x7b a;\n\tr\"\t\"\tb" [⟨6, 10⟩] ∧
        ∃ spaced,
          (tokenize ⟨.permissive, 1024⟩ "\x7b a;\n        r\"\t\"        b").value = .ok spaced ∧
            spaced.tokens "\x7b a;\n        r\"\t\"        b" =
              stream.tokens "\x7b a;\n\tr\"\t\"\tb" ∧
            spaced.checkpoints.map (·.state) = stream.checkpoints.map (·.state) := by
  have room : Checkpoint.headerSize ≤ 1024 := by decide
  have spaced_text : (Respacing.tabs [⟨6, 10⟩]).string "\x7b a;\n\tr\"\t\"\tb" =
      "\x7b a;\n        r\"\t\"        b" := by decide
  rcases @tokenize_tabs ⟨.permissive, 1024⟩ room "\x7b a;\n\tr\"\t\"\tb" with
    ⟨stream, run, _, spaced⟩
  have literals : stream.literals = [⟨6, 10⟩] := by
    have whole := @tokenize_eq_ok ⟨.permissive, 1024⟩ room "\x7b a;\n\tr\"\t\"\tb"
    cases Except.ok.inj (run.symm.trans whole)
    rw [Stream.literals, Session.lexemesFrom, Session.turns_eq_turnsWithin (n := 20) (by decide)]
    decide
  have no_tabs : Session.TakesNoTabs ⟨.permissive, 1024⟩ "\x7b a;\n\tr\"\t\"\tb" [⟨6, 10⟩] := by
    rw [Session.TakesNoTabs, Session.scansFrom, Session.turns_eq_turnsWithin (n := 20) (by decide)]
    decide
  rw [literals, spaced_text] at spaced
  exact ⟨room, spaced_text, stream, run, literals, no_tabs, spaced no_tabs⟩

/-- A tab between an explicit opening brace and the first token of its block. The level of the block is two
and not nine, so that the next line is a statement of the block where it should close it. -/
theorem not_sameTokens_tabs :
    ∃ stream spaced, (tokenize ⟨.permissive, 1024⟩ "\x7b\t;\n  y").value = .ok stream ∧
      (tokenize ⟨.permissive, 1024⟩ ((Respacing.tabs stream.literals).string "\x7b\t;\n  y")).value =
        .ok spaced ∧
      spaced.tokens ((Respacing.tabs stream.literals).string "\x7b\t;\n  y") ≠
        stream.tokens "\x7b\t;\n  y" := by
  have room : Checkpoint.headerSize ≤ 1024 := by decide
  have run := @tokenize_eq_ok ⟨.permissive, 1024⟩ room "\x7b\t;\n  y"
  generalize stream_eq : (⟨_, _⟩ : Stream) = stream at run
  have found : stream.lexemes.length = 5 ∧ stream.literals = [] := by
    rw [← stream_eq, Stream.literals, Session.lexemesFrom,
      Session.turns_eq_turnsWithin (n := 20) (by decide)]
    decide
  have spaced_text : (Respacing.tabs []).string "\x7b\t;\n  y" = "\x7b        ;\n  y" := by decide
  have spaced_run := @tokenize_eq_ok ⟨.permissive, 1024⟩ room "\x7b        ;\n  y"
  generalize spaced_eq : (⟨_, _⟩ : Stream) = spaced at spaced_run
  have spaced_found : spaced.lexemes.length = 7 := by
    rw [← spaced_eq, Session.lexemesFrom, Session.turns_eq_turnsWithin (n := 20) (by decide)]
    decide
  refine ⟨stream, spaced, run, ?_, ?_⟩
  · rw [found.2, spaced_text]
    exact spaced_run
  · intro same
    have lengths := congrArg List.length same
    rw [Stream.tokens, Stream.tokens, List.length_map, List.length_map, found.1, spaced_found]
      at lengths
    cases lengths

end Offside
