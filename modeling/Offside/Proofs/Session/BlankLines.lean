import Offside.Proofs.Place.Padding
import Offside.Proofs.Session.Respacing

/-!
# Blank lines and trailing blanks

Margin characters in front of a line break are never seen: whether a text has blank lines, blanks at the
ends of its lines, or carriage returns there, makes no difference to a run but for the offsets. Raw string
literals are kept as they are, since what stands in them is content. Main definitions and statements:

* `Padding.outside` — padding that leaves the raw string literals of a run alone.
* `Padding.shift` — where an offset of a text comes to lie in the padded text.
* `Session.Padded`, `Session.padded_from` — what a session gives over the padded text, turn by turn.
* `tokenize_padded` — the run over the padded text gives the same lexemes with the same texts, and the
  same checkpoints, each moved by what was put in front of it.
-/

namespace Offside

open Text (byteLength)

/-! ## Offsets -/

namespace Padding

/-- The padding at those line breaks that satisfy a test. -/
def restrict (padding : Padding) (keeps : Nat → Bool) : Padding where
  fill offset := if keeps offset then padding.fill offset else []
  isMarginChar_of_mem offset c member := by
    split at member
    · exact padding.isMarginChar_of_mem offset c member
    · cases member

/-- The padding outside some spans. -/
def outside (padding : Padding) (spans : List Span) : Padding :=
  padding.restrict fun offset => !spans.any fun span => span.start ≤ offset && offset < span.stop

theorem fill_outside_of_mem {padding : Padding} {spans : List Span} {span : Span} {byte : Nat}
    (member : span ∈ spans) (from_start : span.start ≤ byte) (within : byte < span.stop) :
    (padding.outside spans).fill byte = [] := by
  have inside : spans.any (fun span => span.start ≤ byte && byte < span.stop) = true :=
    List.any_eq_true.2 ⟨span, member, by simp [from_start, within]⟩
  simp only [outside, restrict, inside, Bool.not_true, Bool.false_eq_true, if_false]

/-- The padded source. -/
def string (padding : Padding) (source : String) : String :=
  .ofList (padding.padded 0 source.toList)

/-- Where an offset comes to lie: behind all that is put in front of line breaks at lower offsets. -/
def shift (padding : Padding) (source : String) (offset : Nat) : Nat :=
  offset + (padding.restrict (· < offset)).added 0 source.toList

section

variable {padding other : Padding} {offset : Nat} {text : List Char}

theorem added_of_spares (spares : padding.Spares offset text) : padding.added offset text = 0 := by
  induction text generalizing offset with
  | nil => rfl
  | cons c rest ih => rw [added, spares.1, ih spares.2, Text.byteLength_nil]

theorem added_congr (same : ∀ byte, offset ≤ byte → byte < offset + byteLength text →
    padding.fill byte = other.fill byte) : padding.added offset text = other.added offset text := by
  induction text generalizing offset with
  | nil => rfl
  | cons c rest ih =>
      have wide := c.utf8Size_pos
      rw [Text.byteLength_cons] at same
      have here : padding.before offset c = other.before offset c := by
        rw [before, before, same offset (Nat.le_refl _) (by omega)]
      have later := @ih (offset + c.utf8Size) fun byte from_here within =>
        same byte (by omega) (by omega)
      rw [added, added, here, later]

/-- An offset is moved as the place is that has it. -/
theorem offset_pad_eq_shift {source : String} {p : Place} (text : p.source = source.toList) :
    (p.pad padding).offset = padding.shift source p.offset := by
  have front : (padding.restrict (· < p.offset)).added 0 p.before.reverse =
      padding.added 0 p.before.reverse := by
    refine added_congr ?_
    intro byte _ within
    rw [Text.byteLength_reverse, Nat.zero_add, ← p.offset_eq] at within
    simp [restrict, within]
  have behind : (padding.restrict (· < p.offset)).added (0 + byteLength p.before.reverse) p.after =
      0 := by
    refine added_of_spares (spares_of_fill ?_)
    intro byte from_here _
    rw [Text.byteLength_reverse, Nat.zero_add, ← p.offset_eq] at from_here
    simp [restrict, Nat.not_lt.2 from_here]
  calc
    (p.pad padding).offset = p.offset + padding.added 0 p.before.reverse := Place.offset_pad padding p
    _ = p.offset + (padding.restrict (· < p.offset)).added 0 (p.before.reverse ++ p.after) := by
      rw [added_append, front, behind, Nat.add_zero]
    _ = padding.shift source p.offset := by
      rw [shift, ← text, Place.source]

theorem pad_start (padding : Padding) (source : String) :
    (Place.start source.toList).pad padding = .start (padding.string source).toList := by
  rw [string, String.toList_ofList]
  rfl

/-- Nothing is put in front of a whole text. -/
theorem shift_zero (padding : Padding) (source : String) : padding.shift source 0 = 0 := by
  have moved := @offset_pad_eq_shift padding source (.start source.toList) rfl
  rw [pad_start] at moved
  exact moved.symm

end

end Padding

/-- A run over padded text starts at the same checkpoint. -/
theorem Padding.moved_initial (padding : Padding) (source : String) :
    Checkpoint.initial.moved (padding.shift source) = .initial := by
  have stays : padding.shift source Checkpoint.initial.offset = Checkpoint.initial.offset :=
    shift_zero padding source
  rw [Checkpoint.moved, stays]

/-! ## Sessions -/

namespace Session

/-- No line break in a raw string literal is padded. -/
def SparesLiterals (padding : Padding) (lexemes : List Lexeme) : Prop :=
  ∀ lexeme ∈ lexemes, lexeme.kind = .external .rawString →
    ∀ byte, lexeme.span.start ≤ byte → byte < lexeme.span.stop → padding.fill byte = []

/-- What the session gives that takes up `state` at `p` in the padded text. -/
structure Padded (config : Config) (padding : Padding) (source : String) (p : Place)
    (state : State) : Prop where
  lexemes_eq : lexemesFrom config (p.pad padding) state =
    (lexemesFrom config p state).map (Lexeme.moved (padding.shift source))
  checkpoints_eq : checkpointsFrom config (p.pad padding) state =
    (checkpointsFrom config p state).map (Checkpoint.moved (padding.shift source))
  text_eq : ∀ lexeme ∈ lexemesFrom config p state,
    (lexeme.moved (padding.shift source)).text (padding.string source) = lexeme.text source

/-- The sessions over both texts keep step, as padding replaces nothing in a literal and keeps all
columns. -/
theorem padded_from {config : Config} {padding : Padding} {source : String}
    (room : Checkpoint.headerSize ≤ config.capacity) (p : Place) (state : State) :
    p.source = source.toList → SparesLiterals padding (lexemesFrom config p state) →
      Padded config padding source p state := by
  intro text spared
  have moves (q : Place) (text : q.source = source.toList) :
      (q.respace padding.respacing).offset = padding.shift source q.offset := by
    rw [← Place.pad_eq_respace]
    exact Padding.offset_pad_eq_shift text
  have tolerates : Tolerates config padding.respacing p state := by
    refine ⟨?_, fun scan _ _ => padding.column_respace _⟩
    intro lexeme member raw byte from_start within
    exact padding.keeps_of_fill (spared lexeme member raw byte from_start within)
  have respaced := respaced_from moves room p state text tolerates
  refine ⟨?_, ?_, ?_⟩
  · rw [Place.pad_eq_respace]
    exact respaced.lexemes_eq
  · rw [Place.pad_eq_respace]
    exact respaced.checkpoints_eq
  · rw [Padding.string, padding.padded_eq_respaced]
    exact respaced.text_eq

end Session

/-! ## Whole runs -/

/-- Padding outside the literals of a run spares them. -/
theorem Session.sparesLiterals_outside (padding : Padding) (stream : Stream) :
    SparesLiterals (padding.outside stream.literals) stream.lexemes := by
  intro lexeme member raw byte from_start within
  exact Padding.fill_outside_of_mem (Stream.mem_literals member raw) from_start within

/-- Margin characters in front of line breaks are invisible, except in raw string literals. The run over
the padded text gives the lexemes and the checkpoints of the run over the text, moved by what is put in
front of line breaks at lower offsets; the texts under the lexemes and the bytes in the checkpoints are
the same. -/
theorem tokenize_padded {config : Config} (room : Checkpoint.headerSize ≤ config.capacity)
    (source : String) (padding : Padding) :
    ∃ stream, (tokenize config source).value = .ok stream ∧
      (tokenize config ((padding.outside stream.literals).string source)).value =
        .ok (stream.moved ((padding.outside stream.literals).shift source)) ∧
      ∀ lexeme ∈ stream.lexemes,
        (lexeme.moved ((padding.outside stream.literals).shift source)).text
            ((padding.outside stream.literals).string source) =
          lexeme.text source := by
  refine ⟨_, tokenize_eq_ok room source, ?_⟩
  generalize stream_eq : (⟨Session.lexemesFrom config (.start source.toList) .fresh,
    .initial :: Session.checkpointsFrom config (.start source.toList) .fresh⟩ : Stream) = stream
  have spared := Session.sparesLiterals_outside padding stream
  generalize padding.outside stream.literals = padding at spared ⊢
  subst stream_eq
  have padded := Session.padded_from room (.start source.toList) .fresh (by rfl) spared
  refine ⟨?_, padded.text_eq⟩
  rw [tokenize_eq_ok room, ← Padding.pad_start, padded.lexemes_eq, padded.checkpoints_eq,
    Stream.moved, List.map_cons, Padding.moved_initial]

/-- One margin character of each kind, in front of every line break. -/
def Padding.oneOfEach : Padding where
  fill _ := [' ', '\r', '\n', '\t']
  isMarginChar_of_mem _ := by simp [Margin.isMarginChar]

/-- The line break inside the literal is left alone, and the two others are padded. -/
theorem tokenize_padded_literal :
    Checkpoint.headerSize ≤ 11 ∧
      (Padding.oneOfEach.outside [⟨4, 10⟩]).string "f\n  r\"x\ny\"\nh" =
        "f \r\n\t\n  r\"x\ny\" \r\n\t\nh" ∧
      ∃ stream, (tokenize ⟨.permissive, 11⟩ "f\n  r\"x\ny\"\nh").value = .ok stream ∧
        stream.literals = [⟨4, 10⟩] ∧
        (tokenize ⟨.permissive, 11⟩ "f \r\n\t\n  r\"x\ny\" \r\n\t\nh").value =
          .ok (stream.moved
            ((Padding.oneOfEach.outside [⟨4, 10⟩]).shift "f\n  r\"x\ny\"\nh")) := by
  have padded_text : (Padding.oneOfEach.outside [⟨4, 10⟩]).string "f\n  r\"x\ny\"\nh" =
      "f \r\n\t\n  r\"x\ny\" \r\n\t\nh" := by decide
  have room : Checkpoint.headerSize ≤ 11 := by decide
  rcases @tokenize_padded ⟨.permissive, 11⟩ room "f\n  r\"x\ny\"\nh" Padding.oneOfEach with
    ⟨stream, run, padded_run, _⟩
  have literals : stream.literals = [⟨4, 10⟩] := by
    have whole := @tokenize_eq_ok ⟨.permissive, 11⟩ room "f\n  r\"x\ny\"\nh"
    cases Except.ok.inj (run.symm.trans whole)
    rw [Stream.literals, Session.lexemesFrom, Session.turns_eq_turnsWithin (n := 20) (by decide)]
    decide
  rw [literals, padded_text] at padded_run
  exact ⟨room, padded_text, stream, run, literals, padded_run⟩

end Offside
