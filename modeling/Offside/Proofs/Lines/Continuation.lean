import Offside.Proofs.Reading.Yields

/-!
# Which lines continue

A scanner classifies a line by its first character, reads on if that does not decide, and keeps the
answer. What it finds out depends on the text at the head of the line alone. Main statements:

* `Opening.resolveWord_eq` — reading on finds the keywords that end where a word does.
* `State.continuesAt_eq` — the scanner's answer is whether the text starts like a continuation.
-/

namespace Offside

namespace Lead

/-- The text starts with `word`, and the word ends there. -/
def startsWithWord (text : List Char) (word : String) : Bool :=
  word.toList.isPrefixOf text && !(text.drop word.length).head?.any isWordChar

/-- The text starts like a line that goes on with the statement before it: with an immediate lead,
with a `>` that starts neither `>>` nor `>|<`, with a `<` that does not start `<<`, or with one of
the keywords. -/
def startsContinuation (text : List Char) : Bool :=
  match text with
  | [] => false
  | '>' :: rest => rest.head? != some '>' && rest.take 2 != ['|', '<']
  | '<' :: rest => rest.head? != some '<'
  | c :: _ => Certainty.ofChar? c == some .immediate || keywords.any (startsWithWord text)

theorem lead_of_ofChar?_eq_ambiguous {c : Char} (h : Certainty.ofChar? c = some .ambiguous) :
    c = '>' ∨ c = '<' ∨ c = 't' ∨ c = 'e' := by
  unfold Certainty.ofChar? at h
  split at h
  all_goals cases h
  · exact .inl rfl
  · exact .inr (.inl rfl)
  · exact .inr (.inr (.inl rfl))
  · exact .inr (.inr (.inr rfl))

theorem any_startsWithWord_eq_false {c : Char} (rest : List Char) (not_then : c ≠ 't')
    (not_else : c ≠ 'e') : keywords.any (startsWithWord (c :: rest)) = false := by
  simp [keywords, startsWithWord, List.isPrefixOf, not_then.symm, not_else.symm]

/-- Where the first character decides, it decides alone. -/
theorem startsContinuation_of_settled {c : Char} {certainty : Option Certainty} {rest : List Char}
    (lead : Certainty.ofChar? c = certainty) (settled : certainty ≠ some .ambiguous) :
    startsContinuation (c :: rest) = (certainty == some .immediate) := by
  have other (d : Char) (open_lead : Certainty.ofChar? d = some .ambiguous) : c ≠ d := by
    rintro rfl
    exact settled (lead.symm.trans open_lead)
  have words := any_startsWithWord_eq_false rest (other 't' rfl) (other 'e' rfl)
  simp [startsContinuation, other '>' rfl, other '<' rfl, lead, words]

theorem keyword_spelled {word : String} (keyword : word ∈ keywords) :
    word.toList.length = Opening.keywordLength ∧
      ∀ c ∈ word.toList, Opening.isAscii c = true := by
  have spelled : keywords.all (fun word =>
      word.toList.length == Opening.keywordLength && word.toList.all Opening.isAscii) = true := by
    decide
  simpa only [Bool.and_eq_true, beq_iff_eq, List.all_eq_true] using
    List.all_eq_true.1 spelled word keyword

end Lead

namespace Opening

/-- The characters that are compared with the keywords. -/
def wordAt (text : List Char) : List Char :=
  (text.take keywordLength).takeWhile isAscii

theorem wordAt_eq_iff {text word : List Char} (long : word.length = keywordLength)
    (ascii : ∀ c ∈ word, isAscii c = true) : wordAt text = word ↔ word <+: text := by
  constructor
  · intro same
    rw [← same]
    exact (List.takeWhile_prefix _).trans (List.take_prefix _ _)
  · rintro ⟨rest, rfl⟩
    rw [wordAt, ← long, List.take_left]
    simpa using @List.takeWhile_append_of_pos _ isAscii word [] ascii

/-- A word is read as a keyword exactly if the text starts with it and it ends there. -/
theorem resolveWord_eq (head : Place) :
    (resolveWord head).1 = Lead.keywords.any (Lead.startsWithWord head.after) := by
  have ends : (head.advanceBy (wordAt head.after).length).lookahead =
      (head.after.drop (wordAt head.after).length).head? := by
    simp [Place.lookahead]
  have answer : (resolveWord head).1 =
      (Lead.keywords.contains (String.ofList (wordAt head.after)) &&
        !(head.after.drop (wordAt head.after).length).head?.any Lead.isWordChar) := by
    rw [← ends]
    rfl
  rw [answer, Bool.eq_iff_iff]
  simp only [Bool.and_eq_true, List.contains_iff_mem, List.any_eq_true, Lead.startsWithWord,
    List.isPrefixOf_iff_prefix]
  -- The scanner compares what it read with the keywords; the other side compares each keyword with
  -- the text. Both read four characters if they find one.
  constructor
  · rintro ⟨keyword, ends_there⟩
    rcases Lead.keyword_spelled keyword with ⟨long, ascii⟩
    refine ⟨_, keyword, ?_, ?_⟩
    · exact (wordAt_eq_iff (by simpa using long) ascii).1 (by simp)
    · simpa using ends_there
  · rintro ⟨word, keyword, starts, ends_there⟩
    rcases Lead.keyword_spelled keyword with ⟨long, ascii⟩
    have read : wordAt head.after = word.toList :=
      (wordAt_eq_iff long ascii).2 starts
    rw [read, String.ofList_toList]
    exact ⟨keyword, by rwa [String.length_toList]⟩

theorem resolve_eq {head : Place} {c : Char} {rest : List Char} (text : head.after = c :: rest)
    (ambiguous : Certainty.ofChar? c = some .ambiguous) :
    (resolve head).1 = Lead.startsContinuation (c :: rest) := by
  rcases Lead.lead_of_ofChar?_eq_ambiguous ambiguous with rfl | rfl | rfl | rfl
  -- A `>` is decided by the one or two characters behind it.
  · rcases rest with _ | ⟨d, rest⟩
    · simp [resolve, text, Lead.startsContinuation]
    · by_cases double : d = '>'
      · simp [resolve, text, Lead.startsContinuation, double]
      · by_cases bar : d = '|'
        · rcases rest with _ | ⟨e, rest⟩
          · simp [resolve, text, Lead.startsContinuation, bar, bne]
          · simp [resolve, text, Lead.startsContinuation, bar, bne]
        · simp [resolve, text, Lead.startsContinuation, double, bar]
  · simp [resolve, text, Lead.startsContinuation]
  · have word := resolveWord_eq head
    rw [text] at word
    have undecided : (Certainty.ofChar? 't' == some .immediate) = false := rfl
    simpa [resolve, text, Lead.startsContinuation, undecided] using word
  · have word := resolveWord_eq head
    rw [text] at word
    have undecided : (Certainty.ofChar? 'e' == some .immediate) = false := rfl
    simpa [resolve, text, Lead.startsContinuation, undecided] using word

end Opening

namespace State

/-- Whether a line continues is read off the text at its head. -/
theorem continuesAt_eq (head : Place) :
    continuesAt head = Lead.startsContinuation head.after := by
  cases text : head.after with
  | nil => simp [continuesAt, Opening.ofPlace, Place.lookahead, text, Opening.ofCertainty,
      Opening.ask, Lead.startsContinuation]
  | cons c rest =>
      -- Only an ambiguous lead has the scanner read on.
      have opening : Opening.ofPlace head = Opening.ofCertainty (Certainty.ofChar? c) := by
        simp [Opening.ofPlace, Place.lookahead, text]
      cases lead : Certainty.ofChar? c with
      | none =>
          simp [continuesAt, opening, lead, Opening.ofCertainty, Opening.ask,
            Lead.startsContinuation_of_settled lead (by simp)]
      | some certainty =>
          cases certainty with
          | immediate =>
              simp [continuesAt, opening, lead, Opening.ofCertainty, Opening.ask,
                Lead.startsContinuation_of_settled lead (by simp)]
          | ambiguous =>
              rw [← Opening.resolve_eq text lead]
              simp [continuesAt, opening, lead, Opening.ofCertainty, Opening.ask]

end State

end Offside
