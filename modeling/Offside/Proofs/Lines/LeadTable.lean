import Offside.Proofs.Lines.Continuation

/-!
# The table of leads

Three things know which lines continue: the table of leads with the spellings of each, the classifier
of single characters, and the reader that looks ahead where a character does not decide. Only the table
is written to be read, and the scanner does not consult it. All three agree, on texts that end early
and on texts with foreign characters in them too. Main definition and statements:

* `Lead.Continues` — what the table says about a text.
* `Certainty.ofChar?_eq_find?` — the classifier agrees with the table on every character.
* `Lead.startsContinuation_iff` — a text starts like a continuation exactly if the table says so.
* `Opening.ask_follows_table` — the scanner's answer is that of the table, and it reads on at most once.
-/

namespace Offside

namespace Lead

/-- The text starts with `word`, and no ASCII letter, no digit and no `'` follows that would make it a
longer word. -/
def StartsWord (text word : List Char) : Prop :=
  ∃ rest, text = word ++ rest ∧ ∀ c, rest.head? = some c → ¬ (c.isAlpha ∨ c.isDigit ∨ c = '\'')

/-- What the table says about the text at the head of a line. -/
inductive Continues (text : List Char) : Prop
  /-- Behind an immediate lead anything may follow. -/
  | immediate {c : Char} {rest : List Char} {lead : Lead} :
      text = c :: rest → find? c = some lead → lead.certainty = .immediate → Continues text
  /-- Of the texts that start with an angle bracket, those are excluded that start with a longer
  spelling. -/
  | bracket {c : Char} {rest : List Char} {lead : Lead} :
      text = c :: rest → c = '>' ∨ c = '<' → find? c = some lead →
      (∀ spelling ∈ lead.excluded, ¬ spelling.toList <+: text) → Continues text
  | word {c : Char} {lead : Lead} {word : String} :
      c = 't' ∨ c = 'e' → find? c = some lead → word ∈ lead.continues →
      StartsWord text word.toList → Continues text

/-! ## The classifier -/

theorem chars_table :
    table.map Lead.char =
      ['$', '%', '&', '*', '+', '@', '\\', '^', '?', '.', '=', ')', ']', '{', '}', ':', '-', '|',
        '>', '<', 't', 'e'] :=
  rfl

theorem find?_eq_none {c : Char} (unlisted : c ∉ table.map Lead.char) : find? c = none := by
  rw [find?, List.find?_eq_none]
  intro lead listed same
  exact unlisted (List.mem_map.2 ⟨lead, listed, by simpa using same⟩)

end Lead

theorem Certainty.ofChar?_eq_find? (c : Char) :
    Certainty.ofChar? c = (Lead.find? c).map Lead.certainty := by
  unfold Certainty.ofChar?
  split
  any_goals rfl
  -- What is left are the characters that are not in the table.
  rw [Lead.find?_eq_none (by simp_all [Lead.chars_table])]
  rfl

namespace Lead

/-! ## What starts like a continuation -/

theorem not_isWordChar_iff (c : Char) :
    isWordChar c = false ↔ ¬ (c.isAlpha ∨ c.isDigit ∨ c = '\'') := by
  simp [isWordChar, Char.isAlphanum, and_assoc]

theorem startsWithWord_iff (text : List Char) (word : String) :
    startsWithWord text word = true ↔ StartsWord text word.toList := by
  simp only [startsWithWord, Bool.and_eq_true, List.isPrefixOf_iff_prefix, Bool.not_eq_true',
    Option.any_eq_false]
  constructor
  · rintro ⟨⟨rest, rfl⟩, ends⟩
    refine ⟨rest, rfl, fun c next => (not_isWordChar_iff c).1 ?_⟩
    simpa using ends c (by simpa [← String.length_toList] using next)
  · rintro ⟨rest, rfl, ends⟩
    refine ⟨⟨rest, rfl⟩, fun c next => ?_⟩
    simpa using (not_isWordChar_iff c).2 (ends c (by simpa [← String.length_toList] using next))

/-- The keywords are the spellings of the leads that start words. -/
theorem mem_keywords_iff (word : String) :
    word ∈ keywords ↔ ∃ c lead, (c = 't' ∨ c = 'e') ∧ find? c = some lead ∧ word ∈ lead.continues := by
  have words_of_t : find? 't' = some ⟨'t', .ambiguous, ["then"], []⟩ := rfl
  have words_of_e : find? 'e' = some ⟨'e', .ambiguous, ["else", "elif"], []⟩ := rfl
  constructor
  · intro keyword
    rcases List.mem_cons.1 keyword with rfl | keyword
    · exact ⟨'t', _, .inl rfl, words_of_t, List.mem_singleton_self _⟩
    · exact ⟨'e', _, .inr rfl, words_of_e, keyword⟩
  · rintro ⟨c, lead, rfl | rfl, found, listed⟩
    · cases words_of_t.symm.trans found
      exact List.mem_cons.2 (.inl (List.mem_singleton.1 listed))
    · cases words_of_e.symm.trans found
      exact List.mem_cons_of_mem _ listed

theorem startsContinuation_bracket {c : Char} {lead : Lead} (rest : List Char)
    (bracket : c = '>' ∨ c = '<') (found : find? c = some lead) :
    startsContinuation (c :: rest) = true ↔
      ∀ spelling ∈ lead.excluded, ¬ spelling.toList <+: c :: rest := by
  have excluded_right : find? '>' = some ⟨'>', .ambiguous, [">", ">="], [">>", ">|<"]⟩ := rfl
  have excluded_left : find? '<' = some ⟨'<', .ambiguous, ["<", "<-", "<="], ["<<"]⟩ := rfl
  rcases bracket with rfl | rfl
  · cases excluded_right.symm.trans found
    rcases rest with _ | ⟨d, rest⟩
    · simp [startsContinuation]
    · simp [startsContinuation, List.prefix_iff_eq_take, @eq_comm _ d, @eq_comm _ (rest.take 1)]
  · cases excluded_left.symm.trans found
    rcases rest with _ | ⟨d, rest⟩
    · simp [startsContinuation]
    · simp [startsContinuation, @eq_comm _ d]

theorem startsContinuation_letter {c : Char} (rest : List Char) (letter : c = 't' ∨ c = 'e') :
    startsContinuation (c :: rest) = keywords.any (startsWithWord (c :: rest)) := by
  rcases letter with rfl | rfl
  · have undecided : (Certainty.ofChar? 't' == some .immediate) = false := rfl
    simp [startsContinuation, undecided]
  · have undecided : (Certainty.ofChar? 'e' == some .immediate) = false := rfl
    simp [startsContinuation, undecided]

/-- A text that starts with a keyword starts with its letter. -/
theorem exists_letter_of_startsWord {text : List Char} {word : String} (keyword : word ∈ keywords)
    (starts : StartsWord text word.toList) : ∃ c rest, text = c :: rest ∧ (c = 't' ∨ c = 'e') := by
  rcases starts with ⟨rest, rfl, _⟩
  simp only [keywords, List.mem_cons, List.not_mem_nil, or_false] at keyword
  rcases keyword with rfl | rfl | rfl
  · exact ⟨'t', _, rfl, .inl rfl⟩
  · exact ⟨'e', _, rfl, .inr rfl⟩
  · exact ⟨'e', _, rfl, .inr rfl⟩

theorem continues_of_startsContinuation {c : Char} {rest : List Char}
    (starts : startsContinuation (c :: rest) = true) : Continues (c :: rest) := by
  have agrees := Certainty.ofChar?_eq_find? c
  cases found : find? c with
  | none =>
      rw [found] at agrees
      rw [startsContinuation_of_settled agrees (by simp)] at starts
      cases starts
  | some lead =>
      rw [found, Option.map_some] at agrees
      cases certain : lead.certainty with
      | immediate => exact .immediate rfl found certain
      | ambiguous =>
          rw [certain] at agrees
          have bracket_or_letter : (c = '>' ∨ c = '<') ∨ (c = 't' ∨ c = 'e') :=
            or_assoc.2 (lead_of_ofChar?_eq_ambiguous agrees)
          rcases bracket_or_letter with bracket | letter
          · exact .bracket rfl bracket found ((startsContinuation_bracket rest bracket found).1 starts)
          · -- The keyword that is found need not be entered under `c`, but it is under its own letter.
            rw [startsContinuation_letter rest letter] at starts
            rcases List.any_eq_true.1 starts with ⟨word, keyword, starts_word⟩
            rcases (mem_keywords_iff word).1 keyword with ⟨d, entry, of_letter, entered, listed⟩
            exact .word of_letter entered listed ((startsWithWord_iff _ word).1 starts_word)

/-- The scanner's test of a line is the rule of the table. -/
theorem startsContinuation_iff (text : List Char) :
    startsContinuation text = true ↔ Continues text := by
  constructor
  · intro starts
    rcases text with _ | ⟨c, rest⟩
    · cases starts
    · exact continues_of_startsContinuation starts
  · intro continues
    cases continues with
    | @immediate c rest lead text found certain =>
        have agrees := Certainty.ofChar?_eq_find? c
        rw [found, Option.map_some, certain] at agrees
        rw [text, startsContinuation_of_settled agrees (by simp)]
        rfl
    | @bracket c rest lead text bracket found unexcluded =>
        rw [text] at unexcluded ⊢
        exact (startsContinuation_bracket rest bracket found).2 unexcluded
    | @word c lead word letter found listed starts =>
        have keyword := (mem_keywords_iff word).2 ⟨c, lead, letter, found, listed⟩
        rcases exists_letter_of_startsWord keyword starts with ⟨d, rest, rfl, first⟩
        rw [startsContinuation_letter rest first]
        exact List.any_eq_true.2 ⟨word, keyword, (startsWithWord_iff _ word).2 starts⟩

end Lead

namespace Opening

/-- Where the first character is no lead or an immediate one, the line is not read. -/
theorem ofPlace_isAmbiguous_eq_false {head : Place}
    (decided : ∀ c lead, head.lookahead = some c → Lead.find? c = some lead →
      lead.certainty = .immediate) : (ofPlace head).isAmbiguous = false := by
  cases first : head.lookahead with
  | none => simp [ofPlace, first, ofCertainty, isAmbiguous]
  | some c =>
      have agrees := Certainty.ofChar?_eq_find? c
      cases found : Lead.find? c with
      | none =>
          rw [found] at agrees
          simp [ofPlace, first, agrees, ofCertainty, isAmbiguous]
      | some lead =>
          rw [found, Option.map_some, decided c lead first found] at agrees
          simp [ofPlace, first, agrees, ofCertainty, isAmbiguous]

/-- An answer is kept: wherever the line is asked about again, the answer is the same and nothing is
read. -/
theorem ask_again (opening : Opening) (here there : Place) :
    (opening.ask here).opening.ask there = { opening.ask here with reached := there } := by
  cases opening with
  | statement => rfl
  | continuation => rfl
  | ambiguous answer => cases answer <;> rfl

/-- The scanner's answer whether a line continues is the rule of the table, and its classifier of single
characters is the column of the table that it stands for. Asking a second time gives the same answer and
reads nothing; a line whose first character is no lead, or an immediate one, is not read at all. -/
theorem ask_follows_table (head : Place) :
    (∀ c, Certainty.ofChar? c = (Lead.find? c).map Lead.certainty) ∧
      (((ofPlace head).ask head).continues = true ↔ Lead.Continues head.after) ∧
      (∀ there, ((ofPlace head).ask head).opening.ask there =
        { (ofPlace head).ask head with reached := there }) ∧
      ((∀ c lead, head.lookahead = some c → Lead.find? c = some lead → lead.certainty = .immediate) →
        ∀ there, ((ofPlace head).ask there).reached = there) := by
  refine ⟨Certainty.ofChar?_eq_find?, ?_, ask_again _ head, ?_⟩
  · change State.continuesAt head = true ↔ _
    rw [State.continuesAt_eq, Lead.startsContinuation_iff]
  · intro decided there
    exact reached_ask_of_not_isAmbiguous there (ofPlace_isAmbiguous_eq_false decided)

/-- Two bars, of which the first decides. -/
theorem ask_follows_table_bars :
    (∀ c lead, (Place.start "|| x".toList).lookahead = some c → Lead.find? c = some lead →
      lead.certainty = .immediate) ∧
      Lead.Continues "|| x".toList ∧
      ∀ there, ((ofPlace (.start "|| x".toList)).ask there).reached = there := by
  have decided : ∀ c lead, (Place.start "|| x".toList).lookahead = some c →
      Lead.find? c = some lead → lead.certainty = .immediate := by
    intro c lead first found
    cases first
    cases found
    rfl
  have table := ask_follows_table (.start "|| x".toList)
  exact ⟨decided, table.2.1.1 rfl, table.2.2.2 decided⟩

end Opening

end Offside
