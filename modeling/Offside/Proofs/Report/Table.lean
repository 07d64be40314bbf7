import Mathlib.Data.List.Basic
import Offside.Report

/-!
# Reading a table back

A table is made for people, but it can be read back line by line. Every line break of it is the end of a
line: texts stand in quotes, where a line break is escaped, and all else is numbers, names and bytes. A line
is as wide as it has to be, so its columns are told apart by the blanks between them and not by where they
stand. Main definitions and statements:

* `Report.rows` — the lexemes, each with the checkpoint that is shown behind it, found by counting.
* `Report.readLexemeLine?`, `Report.readCheckpointLine?` — what can be read off a line.
* `Report.lines_eq_rows` — the lines that are printed are those of the rows.
* `Report.table_eq_intercalate` — trimming a table takes off its last line break alone.
* `Report.split_table` — a table, split at its line breaks and read back.
-/

namespace Offside

open Text (isBlank)

/-! ## Characters of a line -/

namespace Text

theorem isBlank_eq_false_of_isDigit {c : Char} (digit : c.isDigit = true) : isBlank c = false := by
  simp only [Char.isDigit, Bool.and_eq_true, decide_eq_true_eq, UInt32.le_iff_toNat_le] at digit
  change 48 ≤ c.toNat ∧ c.toNat ≤ 57 at digit
  simp only [isBlank, Bool.or_eq_false_iff, Bool.and_eq_false_iff, decide_eq_false_iff_not,
    beq_eq_false_iff_ne]
  omega

theorem not_isBlank_of_all {chars : List Char} (visible : chars.all (!isBlank ·) = true) :
    ∀ c ∈ chars, isBlank c = false := by
  intro c member
  simpa using List.all_eq_true.1 visible c member

namespace Hex

theorem newline_notMem_ofNat (n : Nat) : '\n' ∉ ofNat n := by
  induction n using Nat.strongRecOn with
  | ind n ih =>
      rw [ofNat, Nat.toDigits_eq_if (by decide)]
      split
      · simp
      · have fewer := ih (n / 16) (by omega)
        simpa [ofNat] using fewer

theorem not_isBlank_digit (value : Nat) : isBlank (digit value) = false := by
  -- What stands behind the last digit of the list is written as a zero.
  have visible : ∀ c ∈ '0' :: digits, isBlank c = false := not_isBlank_of_all rfl
  refine visible _ ?_
  rw [digit, List.getD_eq_getElem?_getD]
  cases found : digits[value]? with
  | none => exact List.mem_cons_self
  | some c => exact List.mem_cons_of_mem '0' (List.mem_of_getElem? found)

theorem not_isBlank_encodeBytes {bytes : List UInt8} {c : Char} (member : c ∈ encodeBytes bytes) :
    isBlank c = false := by
  simp only [encodeBytes, List.mem_flatMap, List.mem_cons, List.not_mem_nil, or_false] at member
  rcases member with ⟨byte, -, rfl | rfl⟩
  · exact not_isBlank_digit _
  · exact not_isBlank_digit _

end Hex

namespace Quoted

/-- A line break is escaped, and no escape contains one. -/
theorem newline_notMem_escape (c : Char) : '\n' ∉ escape c := by
  unfold escape
  split
  next letter short =>
    unfold shortEscape? at short
    split at short <;> cases short <;> decide
  next plain =>
    split
    · simp [Hex.newline_notMem_ofNat]
    · intro same
      rw [← List.mem_singleton.1 same] at plain
      cases plain

theorem newline_notMem_encode (chars : List Char) : '\n' ∉ encode chars := by
  simp [encode, newline_notMem_escape]

end Quoted
end Text

namespace Report

/-! ## Reading lines -/

/-- The words of a line, with the blanks between them left out. -/
def fields (line : List Char) : List (List Char) :=
  (line.splitOnP isBlank).filter fun field => !field.isEmpty

def readNumber? (digits : List Char) : Option Nat :=
  if digits.isEmpty || digits.any (!·.isDigit) then none else some (Nat.ofDigitChars 10 digits 0)

/-- Reads two numbers with two dots between them. -/
def readSpan? (field : List Char) : Option Span :=
  match field.splitOn '.' with
  | [start, [], stop] => do return ⟨← readNumber? start, ← readNumber? stop⟩
  | _ => none

/-- Reads the first two fields of a line: the span of a lexeme and the name of its kind. -/
def readLexemeLine? (line : String) : Option (Span × String) :=
  match fields line.toList with
  | span :: name :: _ => (readSpan? span).map (·, String.ofList name)
  | _ => none

/-- Reads a checkpoint: its offset, and its bytes in brackets. The number of levels is not needed. -/
def readCheckpointLine? (line : String) : Option Checkpoint :=
  match fields line.toList with
  | ['@' :: offset, _, '[' :: bytes] =>
      do return ⟨← readNumber? offset, ← Text.Hex.decodeBytes? bytes.dropLast⟩
  | _ => none

theorem fields_of_gap {gap : List Char} (rest : List Char) (blank : ∀ c ∈ gap, isBlank c = true) :
    fields (gap ++ rest) = fields rest := by
  induction gap with
  | nil => rfl
  | cons c gap ih =>
      have first : isBlank c = true := blank c List.mem_cons_self
      have others := ih fun d member => blank d (List.mem_cons_of_mem c member)
      rw [← others, List.cons_append, fields, List.splitOnP_cons_eq_if_modifyHead, if_pos first]
      rfl

theorem fields_of_word {word : List Char} (some_word : word ≠ []) (visible : ∀ c ∈ word, isBlank c = false) :
    fields word = [word] := by
  simp [fields, List.splitOnP_eq_singleton visible, some_word]

/-- A word is a field if a blank follows. -/
theorem fields_of_word_blank {word : List Char} {c : Char} (rest : List Char) (some_word : word ≠ [])
    (visible : ∀ c ∈ word, isBlank c = false) (blank : isBlank c = true) :
    fields (word ++ c :: rest) = word :: fields rest := by
  rw [fields, List.splitOnP_append_cons _ _ blank, List.filter_append]
  exact congrArg (· ++ fields rest) (fields_of_word some_word visible)

theorem isBlank_of_mem_replicate (n : Nat) : ∀ c ∈ List.replicate n ' ', isBlank c = true := by
  intro c member
  rw [List.eq_of_mem_replicate member]
  rfl

/-- However many blanks follow a word, they are left out. -/
theorem fields_of_padded {word : List Char} (n : Nat) (rest : List Char) (some_word : word ≠ [])
    (visible : ∀ c ∈ word, isBlank c = false) :
    fields (word ++ List.replicate n ' ' ++ ' ' :: rest) = word :: fields rest := by
  cases n with
  | zero => simpa using fields_of_word_blank rest some_word visible rfl
  | succ n =>
      -- The first blank ends the word, and the others are a gap in front of the rest.
      have gap := fields_of_gap rest (isBlank_of_mem_replicate (n + 1))
      rw [List.replicate_succ', List.append_assoc, List.singleton_append] at gap
      rw [List.replicate_succ, List.append_assoc, List.cons_append,
        fields_of_word_blank _ some_word visible rfl, gap]

theorem readNumber?_toDigits (n : Nat) : readNumber? (Nat.toDigits 10 n) = some n := by
  have digits : (Nat.toDigits 10 n).any (!·.isDigit) = false := by
    rw [List.any_eq_false]
    intro c member
    simp [Nat.isDigit_of_mem_toDigits (by decide) (by decide) member]
  simp [readNumber?, digits, Nat.ofDigitChars_ten_toDigits]

theorem not_isBlank_of_mem_toDigits {n : Nat} {c : Char} (member : c ∈ Nat.toDigits 10 n) :
    isBlank c = false :=
  Text.isBlank_eq_false_of_isDigit (Nat.isDigit_of_mem_toDigits (by decide) (by decide) member)

/-! ## Lines of lexemes -/

/-- The first field of the line of a lexeme. -/
def spanField (span : Span) : List Char :=
  Nat.toDigits 10 span.start ++ '.' :: '.' :: Nat.toDigits 10 span.stop

theorem readSpan?_spanField (span : Span) : readSpan? (spanField span) = some span := by
  have undotted (n : Nat) : '.' ∉ Nat.toDigits 10 n := by
    intro member
    cases Nat.isDigit_of_mem_toDigits (by decide) (by decide) member
  have parts : (spanField span).splitOn '.' =
      [Nat.toDigits 10 span.start, [], Nat.toDigits 10 span.stop] := by
    have joined : spanField span =
        ['.'].intercalate [Nat.toDigits 10 span.start, [], Nat.toDigits 10 span.stop] := by
      simp [spanField, List.intercalate]
    rw [joined]
    exact List.splitOn_intercalate '.' (by simp [undotted]) (by simp)
  simp [readSpan?, parts, readNumber?_toDigits]

theorem not_isBlank_spanField {span : Span} {c : Char} (member : c ∈ spanField span) :
    isBlank c = false := by
  simp only [spanField, List.mem_append, List.mem_cons] at member
  rcases member with digit | rfl | rfl | digit
  · exact not_isBlank_of_mem_toDigits digit
  · rfl
  · rfl
  · exact not_isBlank_of_mem_toDigits digit

/-- The name of a kind is one word. -/
theorem name_word (kind : Lexeme.Kind) :
    kind.name.toList ≠ [] ∧ ∀ c ∈ kind.name.toList, isBlank c = false := by
  rcases kind with token | _
  · cases token <;> exact ⟨List.cons_ne_nil _ _, Text.not_isBlank_of_all rfl⟩
  · exact ⟨List.cons_ne_nil _ _, Text.not_isBlank_of_all rfl⟩

theorem toList_padRight (width : Nat) (text : String) :
    (padRight width text).toList = text.toList ++ List.replicate (width - text.length) ' ' := by
  simp [padRight]

/-- A text in the middle of another stands there as it is. -/
theorem toString_text (text : String) : toString text = text :=
  rfl

/-- The line of a lexeme: the span, the name of the kind and the text, with blanks between them. -/
theorem exists_toList_lexemeLine (source : String) (lexeme : Lexeme) :
    ∃ few more : Nat, (lexemeLine source lexeme).toList =
      spanField lexeme.span ++ List.replicate few ' ' ++ ' ' :: (lexeme.kind.name.toList ++
        List.replicate more ' ' ++ ' ' :: Text.Quoted.encode (lexeme.render source).toList) := by
  refine ⟨spanWidth - s!"{lexeme.span.start}..{lexeme.span.stop}".length,
    kindWidth - lexeme.kind.name.length, ?_⟩
  simp [lexemeLine, toList_padRight, spanField, Text.quote, toString_text]

theorem readLexemeLine?_lexemeLine (source : String) (lexeme : Lexeme) :
    readLexemeLine? (lexemeLine source lexeme) = some (lexeme.span, lexeme.kind.name) := by
  rcases exists_toList_lexemeLine source lexeme with ⟨few, more, line⟩
  rcases name_word lexeme.kind with ⟨some_name, visible⟩
  have span_word : spanField lexeme.span ≠ [] := by simp [spanField]
  have visible_span : ∀ c ∈ spanField lexeme.span, isBlank c = false := fun _ => not_isBlank_spanField
  have words : fields (lexemeLine source lexeme).toList = spanField lexeme.span :: lexeme.kind.name.toList ::
      fields (Text.Quoted.encode (lexeme.render source).toList) := by
    rw [line, fields_of_padded few _ span_word visible_span, fields_of_padded more _ some_name visible]
  simp [readLexemeLine?, words, readSpan?_spanField]

/-! ## Lines of checkpoints -/

/-- The line of a checkpoint: the offset, the number of levels and the bytes behind some blanks. -/
theorem exists_toList_checkpointLine (checkpoint : Checkpoint) :
    ∃ depth : List Char, (∀ c ∈ depth, isBlank c = false) ∧
      (checkpointLine checkpoint).toList = List.replicate (spanWidth + 1) ' ' ++
        ('@' :: Nat.toDigits 10 checkpoint.offset ++ ' ' :: ('d' :: depth ++ ' ' ::
          ('[' :: Text.Hex.encodeBytes checkpoint.state ++ [']']))) := by
  cases decoded : Checkpoint.decode checkpoint.state with
  | ok state =>
      refine ⟨"epth=".toList ++ Nat.toDigits 10 state.depth, ?_, ?_⟩
      · intro c member
        rcases List.mem_append.1 member with letter | digit
        · have plain : ∀ c ∈ "epth=".toList, isBlank c = false := Text.not_isBlank_of_all rfl
          exact plain c letter
        · exact not_isBlank_of_mem_toDigits digit
      · simp [checkpointLine, toList_padRight, Checkpoint.report, Checkpoint.hex, decoded, toString_text]
  | error fault =>
      have unknown : ("?").toList = ['?'] := rfl
      refine ⟨"epth=?".toList, Text.not_isBlank_of_all rfl, ?_⟩
      simp [checkpointLine, toList_padRight, Checkpoint.report, Checkpoint.hex, decoded, toString_text,
        unknown]

theorem readCheckpointLine?_checkpointLine (checkpoint : Checkpoint) :
    readCheckpointLine? (checkpointLine checkpoint) = some checkpoint := by
  rcases exists_toList_checkpointLine checkpoint with ⟨depth, visible, line⟩
  have words : fields (checkpointLine checkpoint).toList =
      ['@' :: Nat.toDigits 10 checkpoint.offset, 'd' :: depth,
        '[' :: Text.Hex.encodeBytes checkpoint.state ++ [']']] := by
    have offset : ∀ c ∈ '@' :: Nat.toDigits 10 checkpoint.offset, isBlank c = false := by
      intro c member
      rcases List.mem_cons.1 member with rfl | digit
      · rfl
      · exact not_isBlank_of_mem_toDigits digit
    have levels : ∀ c ∈ 'd' :: depth, isBlank c = false := List.forall_mem_cons.2 ⟨rfl, visible⟩
    have bytes : ∀ c ∈ '[' :: Text.Hex.encodeBytes checkpoint.state ++ [']'], isBlank c = false := by
      intro c member
      simp only [List.cons_append, List.mem_cons, List.mem_append, List.not_mem_nil, or_false] at member
      rcases member with rfl | digit | rfl
      · rfl
      · exact Text.Hex.not_isBlank_encodeBytes digit
      · rfl
    rw [line, fields_of_gap _ (isBlank_of_mem_replicate _), fields_of_word_blank _ (by simp) offset rfl,
      fields_of_word_blank _ (by simp) levels rfl, fields_of_word (by simp) bytes]
  simp [readCheckpointLine?, words, readNumber?_toDigits, Text.Hex.decodeBytes?_encodeBytes]

/-! ## Rows -/

/-- The lexemes of a stream, each with the checkpoint that is shown behind it. The first checkpoint is not
shown: an external token with `j` others in front of it is followed by the checkpoint with number `j + 1`, if
there is one. -/
def rows (stream : Stream) (withCheckpoints : Bool) : List (Lexeme × Option Checkpoint) :=
  stream.lexemes.mapIdx fun i lexeme =>
    let externals := (stream.lexemes.take i).countP Lexeme.isExternal
    (lexeme,
      if withCheckpoints && lexeme.isExternal then stream.checkpoints[externals + 1]? else none)

/-- The lines of a row: that of the lexeme, and that of the checkpoint if there is one. -/
def rowLines (source : String) (row : Lexeme × Option Checkpoint) : List String :=
  lexemeLine source row.1 :: (row.2.map checkpointLine).toList

theorem linesOnto_eq (source : String) (lexemes : List Lexeme) :
    ∀ (printed : List String) (saved : List Checkpoint),
      linesOnto source printed saved lexemes = linesOnto source [] saved lexemes ++ printed := by
  induction lexemes with
  | nil =>
      intro printed saved
      cases saved <;> rfl
  | cons lexeme rest ih =>
      intro printed saved
      cases saved with
      | nil =>
          simp only [linesOnto]
          rw [ih, ih [_]]
          simp
      | cons checkpoint saved =>
          simp only [linesOnto]
          split
          · rw [ih, ih [_, _]]
            simp
          · rw [ih, ih [_]]
            simp

/-- The lines are those of the lexemes, each with the next checkpoint behind it if it is external. -/
theorem lines_cons (source : String) (saved : List Checkpoint) (lexeme : Lexeme) (rest : List Lexeme) :
    lines source saved (lexeme :: rest) =
      if lexeme.isExternal then
        rowLines source (lexeme, saved.head?) ++ lines source saved.tail rest
      else
        rowLines source (lexeme, none) ++ lines source saved rest := by
  cases saved with
  | nil =>
      simp only [lines, linesOnto]
      rw [linesOnto_eq]
      simp [rowLines]
  | cons checkpoint saved =>
      simp only [lines, linesOnto]
      split
      · rw [linesOnto_eq]
        simp [rowLines]
      · rw [linesOnto_eq]
        simp [rowLines]

/-- The induction is on the lexemes: each external one takes a checkpoint off those that are left, and so
does the count of those in front. -/
theorem lines_eq_mapIdx (source : String) (lexemes : List Lexeme) :
    ∀ saved : List Checkpoint,
      lines source saved lexemes =
        (lexemes.mapIdx fun i lexeme => (lexeme,
          if lexeme.isExternal then saved[(lexemes.take i).countP Lexeme.isExternal]? else none)).flatMap
            (rowLines source) := by
  induction lexemes with
  | nil =>
      intro saved
      cases saved <;> rfl
  | cons lexeme rest ih =>
      intro saved
      rw [lines_cons, List.mapIdx_cons, List.flatMap_cons]
      -- An external lexeme shifts the checkpoints and the count by one, any other leaves both alone.
      cases external : lexeme.isExternal with
      | true => simp [ih, external, List.head?_eq_getElem?, List.getElem?_tail]
      | false => simp [ih, external]

/-- The lines that are printed are those of the rows. -/
theorem lines_eq_rows (source : String) (stream : Stream) (withCheckpoints : Bool) :
    lines source (if withCheckpoints then stream.checkpoints.tail else []) stream.lexemes =
      (rows stream withCheckpoints).flatMap (rowLines source) := by
  rw [lines_eq_mapIdx, rows]
  cases withCheckpoints <;> simp

/-! ## Line breaks -/

/-- A line does not break, and no blank stands at its end. -/
structure Unbroken (line : String) : Prop where
  newline_notMem : '\n' ∉ line.toList
  last : ∃ c, line.toList.getLast? = some c ∧ isBlank c = false

theorem newline_notMem_of_not_isBlank {chars : List Char} (visible : ∀ c ∈ chars, isBlank c = false) :
    '\n' ∉ chars := by
  intro member
  cases visible _ member

theorem unbroken_lexemeLine (source : String) (lexeme : Lexeme) : Unbroken (lexemeLine source lexeme) := by
  rcases exists_toList_lexemeLine source lexeme with ⟨few, more, line⟩
  have name := newline_notMem_of_not_isBlank (name_word lexeme.kind).2
  have span : '\n' ∉ spanField lexeme.span := newline_notMem_of_not_isBlank fun _ => not_isBlank_spanField
  have text := Text.Quoted.newline_notMem_encode (lexeme.render source).toList
  refine ⟨?_, ?_⟩
  · rw [line]
    simp [name, span, text]
  · exact ⟨'"', by simp [line, Text.Quoted.encode, List.getLast?_append, List.getLast?_cons], rfl⟩

theorem unbroken_checkpointLine (checkpoint : Checkpoint) : Unbroken (checkpointLine checkpoint) := by
  rcases exists_toList_checkpointLine checkpoint with ⟨depth, visible, line⟩
  have levels := newline_notMem_of_not_isBlank visible
  have offset : '\n' ∉ Nat.toDigits 10 checkpoint.offset :=
    newline_notMem_of_not_isBlank fun _ => not_isBlank_of_mem_toDigits
  have bytes : '\n' ∉ Text.Hex.encodeBytes checkpoint.state :=
    newline_notMem_of_not_isBlank fun _ => Text.Hex.not_isBlank_encodeBytes
  refine ⟨?_, ?_⟩
  · rw [line]
    simp [levels, offset, bytes]
  · exact ⟨']', by simp [line, List.getLast?_append, List.getLast?_cons], rfl⟩

theorem unbroken_of_mem_rowLines {source : String} {row : Lexeme × Option Checkpoint} {line : String}
    (member : line ∈ rowLines source row) : Unbroken line := by
  simp only [rowLines, List.mem_cons, Option.mem_toList, Option.map_eq_some_iff] at member
  rcases member with rfl | ⟨checkpoint, -, rfl⟩
  · exact unbroken_lexemeLine source row.1
  · exact unbroken_checkpointLine checkpoint

theorem join_eq_intercalate {lines : List String} (some_line : lines ≠ []) :
    String.join (lines.map (· ++ "\n")) = "\n".intercalate lines ++ "\n" := by
  induction lines with
  | nil => exact absurd rfl some_line
  | cons line rest ih =>
      by_cases last : rest = []
      · simp [last]
      · rw [List.map_cons, String.join_cons, ih last, String.intercalate_cons_of_ne_nil last,
          String.append_assoc, String.append_assoc, String.append_assoc]

theorem exists_last_intercalate {lines : List String} (some_line : lines ≠ [])
    (unbroken : ∀ line ∈ lines, Unbroken line) :
    ∃ c, ("\n".intercalate lines).toList.getLast? = some c ∧ isBlank c = false := by
  induction lines with
  | nil => exact absurd rfl some_line
  | cons line rest ih =>
      by_cases last : rest = []
      · subst last
        simpa using (unbroken line List.mem_cons_self).last
      · rcases ih last fun other member => unbroken other (List.mem_cons_of_mem line member) with
          ⟨c, ends, visible⟩
        refine ⟨c, ?_, visible⟩
        rw [String.intercalate_cons_of_ne_nil last, String.toList_append, List.getLast?_append, ends]
        rfl

/-- A line break behind a visible character is all that trimming takes off. -/
theorem trimEnd_newline {text : String} {c : Char} (ends : text.toList.getLast? = some c)
    (visible : isBlank c = false) : trimEnd (text ++ "\n") = text := by
  have newline : isBlank '\n' = true := rfl
  rcases List.getLast?_eq_some_iff.1 ends with ⟨front, parts⟩
  rw [← String.toList_inj]
  simp [trimEnd, parts, newline, visible]

/-! ## Tables -/

theorem flatMap_rowLines_eq_nil_iff {source : String} {stream : Stream} {withCheckpoints : Bool} :
    (rows stream withCheckpoints).flatMap (rowLines source) = [] ↔ stream.lexemes = [] := by
  rw [← List.length_eq_zero_iff, ← List.length_eq_zero_iff]
  rcases stream with ⟨lexemes, checkpoints⟩
  cases lexemes <;> simp [rows, rowLines]

theorem unbroken_of_mem_rows {source : String} {stream : Stream} {withCheckpoints : Bool} {line : String}
    (member : line ∈ (rows stream withCheckpoints).flatMap (rowLines source)) : Unbroken line := by
  rcases List.mem_flatMap.1 member with ⟨row, -, of_row⟩
  exact unbroken_of_mem_rowLines of_row

/-- Trimming a table takes off its last line break alone. -/
theorem table_eq_intercalate (source : String) (stream : Stream) (withCheckpoints : Bool) :
    table source stream withCheckpoints =
      "\n".intercalate ((rows stream withCheckpoints).flatMap (rowLines source)) := by
  rw [table, lines_eq_rows]
  by_cases nothing : (rows stream withCheckpoints).flatMap (rowLines source) = []
  · rw [nothing]
    rfl
  · rcases exists_last_intercalate nothing fun _ => unbroken_of_mem_rows with ⟨c, ends, visible⟩
    rw [join_eq_intercalate nothing]
    exact trimEnd_newline ends visible

/-- A table is empty if there are no lexemes. -/
theorem table_eq_empty_iff {source : String} {stream : Stream} {withCheckpoints : Bool} :
    table source stream withCheckpoints = "" ↔ stream.lexemes = [] := by
  rw [table_eq_intercalate, ← flatMap_rowLines_eq_nil_iff]
  constructor
  · intro empty
    by_cases nothing : (rows stream withCheckpoints).flatMap (rowLines source) = []
    · exact nothing
    · rcases exists_last_intercalate nothing fun _ => unbroken_of_mem_rows with ⟨c, ends, -⟩
      rw [empty] at ends
      cases ends
  · intro nothing
    rw [nothing]
    rfl

/-- A table that is split at its line breaks has one line for each lexeme, and one behind it for the
checkpoint that is shown there. The span of the lexeme and the name of its kind can be read off the one, the
checkpoint with all its bytes off the other. What was trimmed is the line break at the end. -/
theorem split_table (source : String) (stream : Stream) (withCheckpoints : Bool) :
    (table source stream withCheckpoints = "" ↔ stream.lexemes = []) ∧
      (table source stream withCheckpoints ≠ "" →
        ((table source stream withCheckpoints).split '\n').toList.map (·.copy) =
            (rows stream withCheckpoints).flatMap (rowLines source) ∧
          String.join ((lines source (if withCheckpoints then stream.checkpoints.tail else [])
            stream.lexemes).map (· ++ "\n")) = table source stream withCheckpoints ++ "\n") ∧
      (∀ lexeme, readLexemeLine? (lexemeLine source lexeme) = some (lexeme.span, lexeme.kind.name)) ∧
      ∀ checkpoint, readCheckpointLine? (checkpointLine checkpoint) = some checkpoint := by
  refine ⟨table_eq_empty_iff, ?_, readLexemeLine?_lexemeLine source, readCheckpointLine?_checkpointLine⟩
  intro some_text
  have some_line : (rows stream withCheckpoints).flatMap (rowLines source) ≠ [] := by
    intro nothing
    exact some_text (table_eq_empty_iff.2 (flatMap_rowLines_eq_nil_iff.1 nothing))
  refine ⟨?_, ?_⟩
  · have unbroken : ∀ line ∈ (rows stream withCheckpoints).flatMap (rowLines source), '\n' ∉ line.toList :=
      fun line member => (unbroken_of_mem_rows member).newline_notMem
    have whole := String.toList_split_intercalate unbroken
    rw [if_neg some_line] at whole
    rw [table_eq_intercalate]
    exact whole
  · rw [lines_eq_rows, join_eq_intercalate some_line, ← table_eq_intercalate]

/-- A text with a line break in it, a span whose ends are in the wrong order, bytes that are no state, and
one checkpoint for two external tokens. -/
theorem split_table_crooked :
    let stream : Stream :=
      ⟨[⟨.external .rawString, ⟨0, 6⟩⟩, ⟨.text, ⟨9, 3⟩⟩, ⟨.external .semicolon, ⟨6, 6⟩⟩],
        [⟨0, []⟩, ⟨6, [255]⟩]⟩
    table "r\"a\nb\"" stream true ≠ "" ∧
      ((table "r\"a\nb\"" stream true).split '\n').toList.map (·.copy) =
        ["0..6         _raw_string                \"r\\\"a\\nb\\\"\"",
         "             @6 depth=? [ff]",
         "9..3         text                       \"\"",
         "6..6         _semi                      \";\""] := by
  intro stream
  have some_text : table "r\"a\nb\"" stream true ≠ "" :=
    (split_table "r\"a\nb\"" stream true).1.not.2 (List.cons_ne_nil _ _)
  refine ⟨some_text, ?_⟩
  rw [((split_table "r\"a\nb\"" stream true).2.1 some_text).1]
  decide +kernel

end Report
end Offside
