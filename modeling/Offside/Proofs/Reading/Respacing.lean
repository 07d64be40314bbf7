import Offside.Proofs.Place.Respacing
import Offside.Proofs.Reading.Lookahead
import Offside.Proofs.Reading.Verdict
import Offside.Proofs.Session.Tiling

/-!
# Scans of respaced texts

A scan decides by the margin, by the text of the line, and by the column of the line's head if an explicit
opening brace waits for a level and the head stands in the brace's own line. Respacing keeps the first two,
except inside a raw string literal, which would change its length. It does not keep the column, so that a
token comes out with the same state only if the column is the same, or no level. Main definitions and
statements:

* `State.takesColumn` — the scan takes a level from a column.
* `Lead.startsContinuation_respaced` — whether a line continues.
* `RawLiteral.measure_respaced_of_ok`, `RawLiteral.measure_respaced_of_error` — how long a literal is.
* `State.verdict_respaced`, `State.verdict_of_column` — what a scan decides.
* `State.given_scan_respace` — what a scan gives out.
-/

namespace Offside

open Text (byteLength)

variable {respacing : Respacing}

/-! ## Continuation lines -/

namespace Lead

theorem isWordChar_of_isMarginChar {c : Char} (margin : Margin.isMarginChar c = true) :
    isWordChar c = false := by
  simp only [Margin.isMarginChar, Bool.or_eq_true, beq_iff_eq] at margin
  rcases margin with ((rfl | rfl) | rfl) | rfl <;> rfl

theorem startsContinuation_of_isMarginChar {c : Char} (margin : Margin.isMarginChar c = true)
    (rest : List Char) : startsContinuation (c :: rest) = false := by
  have ordinary : Certainty.ofChar? c = none := by
    simp only [Margin.isMarginChar, Bool.or_eq_true, beq_iff_eq] at margin
    rcases margin with ((rfl | rfl) | rfl) | rfl <;> rfl
  rw [startsContinuation_of_settled ordinary (by simp)]
  rfl

theorem startsWithWord_respaced {word : String}
    (plain : ∀ c ∈ word.toList, Margin.isMarginChar c = false) (offset : Nat) (text : List Char) :
    startsWithWord (respacing.respaced offset text) word = startsWithWord text word := by
  have starts : word.toList.isPrefixOf (respacing.respaced offset text) =
      word.toList.isPrefixOf text := by
    rw [Bool.eq_iff_iff, List.isPrefixOf_iff_prefix, List.isPrefixOf_iff_prefix]
    exact Respacing.prefix_respaced_iff plain offset text
  rw [startsWithWord, startsWithWord, starts]
  cases front : word.toList.isPrefixOf text with
  | false => rfl
  | true =>
      -- Behind the word both texts go on with a margin character, or with the same character.
      have spares : respacing.Spares offset word.toList := Respacing.spares_of_visible plain
      have behind := Respacing.drop_respaced_of_prefix spares (List.isPrefixOf_iff_prefix.1 front)
      rw [String.length_toList] at behind
      have same : (respacing.respaced (offset + byteLength word.toList)
          (text.drop word.length)).head?.any isWordChar =
          (text.drop word.length).head?.any isWordChar := by
        refine Respacing.any_head?_respaced ?_ _ _
        intro c margin
        rw [isWordChar_of_isMarginChar margin]
        rfl
      rw [behind, same]

theorem plain_of_mem_keywords {word : String} (keyword : word ∈ keywords) :
    ∀ c ∈ word.toList, Margin.isMarginChar c = false := by
  have plain : keywords.all (fun word =>
      word.toList.all fun c => !Margin.isMarginChar c) = true := by
    decide
  simpa using List.all_eq_true.1 plain word keyword

theorem any_startsWithWord_respaced (offset : Nat) (text : List Char) :
    keywords.any (startsWithWord (respacing.respaced offset text)) =
      keywords.any (startsWithWord text) := by
  have same (word : String) (keyword : word ∈ keywords) :
      startsWithWord (respacing.respaced offset text) word = startsWithWord text word :=
    startsWithWord_respaced (plain_of_mem_keywords keyword) offset text
  rw [Bool.eq_iff_iff, List.any_eq_true, List.any_eq_true]
  constructor
  · rintro ⟨word, keyword, starts⟩
    exact ⟨word, keyword, (same word keyword).symm.trans starts⟩
  · rintro ⟨word, keyword, starts⟩
    exact ⟨word, keyword, (same word keyword).trans starts⟩

theorem startsContinuation_respaced (offset : Nat) (text : List Char) :
    startsContinuation (respacing.respaced offset text) = startsContinuation text := by
  cases text with
  | nil => rfl
  | cons c rest =>
      cases margin : Margin.isMarginChar c with
      | true =>
          rcases respacing.exists_image_eq_cons offset c with ⟨d, more, image⟩
          have also_margin : Margin.isMarginChar d = true :=
            respacing.isMarginChar_of_mem offset c margin d (image ▸ List.mem_cons_self)
          rw [Respacing.respaced, image, List.cons_append,
            startsContinuation_of_isMarginChar also_margin, startsContinuation_of_isMarginChar margin]
      | false =>
          have words := @any_startsWithWord_respaced respacing offset (c :: rest)
          rw [Respacing.respaced, respacing.image_of_visible offset c margin,
            List.singleton_append] at words ⊢
          generalize offset + c.utf8Size = offset at words ⊢
          have second (d : Char) (visible : Margin.isMarginChar d = false) :
              ((respacing.respaced offset rest).head? == some d) = (rest.head? == some d) := by
            rw [Bool.eq_iff_iff, beq_iff_eq, beq_iff_eq]
            exact Respacing.head?_respaced_eq_some_iff visible offset rest
          have bar : ((respacing.respaced offset rest).take 2 == ['|', '<']) =
              (rest.take 2 == ['|', '<']) := by
            have starts := @Respacing.prefix_respaced_iff respacing ['|', '<']
              (by simp [Margin.isMarginChar]) offset rest
            rw [Bool.eq_iff_iff, beq_iff_eq, beq_iff_eq]
            simpa only [List.prefix_iff_eq_take, List.length_cons, List.length_nil, eq_comm] using starts
          -- The signs that continue a line are told apart by what stands behind their first character.
          by_cases greater : c = '>'
          · subst greater
            rw [startsContinuation, startsContinuation, bne, bne, bne, bne, second '>' rfl, bar]
          · by_cases less : c = '<'
            · subst less
              rw [startsContinuation, startsContinuation, bne, bne, second '<' rfl]
            · simp only [startsContinuation, words]

end Lead

/-! ## Raw string literals -/

namespace RawLiteral

theorem Delimiter.read_of_isMarginChar (delimiter : Delimiter) {c : Char}
    (margin : Margin.isMarginChar c = true) : delimiter.read c = none := by
  simp only [Margin.isMarginChar, Bool.or_eq_true, beq_iff_eq] at margin
  rcases margin with ((rfl | rfl) | rfl) | rfl <;> rfl

/-- Margin characters inside a literal are content. -/
theorem bodyLength?_margin {pounds : UInt32} {front : List Char}
    (margin : ∀ c ∈ front, Margin.isMarginChar c = true) (rest : List Char) (counted : Nat) :
    bodyLength? pounds none counted (front ++ rest) =
      bodyLength? pounds none (counted + front.length) rest := by
  induction front generalizing counted with
  | nil => rfl
  | cons c front ih =>
      have content : Delimiter.read none c = none :=
        Delimiter.read_of_isMarginChar none (margin c List.mem_cons_self)
      have later := ih (fun d member => margin d (List.mem_cons_of_mem c member)) (counted + 1)
      rw [List.cons_append, bodyLength?, if_neg (by simp), content, later, List.length_cons,
        Nat.add_assoc, Nat.add_comm 1]

/-- What replaces a character is content if the character is. -/
theorem bodyLength?_image {pounds : UInt32} (offset : Nat) (c : Char) (rest : List Char)
    {delimiter : Delimiter} (incomplete : delimiter ≠ some pounds) (counted : Nat) :
    bodyLength? pounds delimiter counted (respacing.image offset c ++ rest) =
      bodyLength? pounds (delimiter.read c) (counted + (respacing.image offset c).length) rest := by
  cases margin : Margin.isMarginChar c with
  | false =>
      rw [respacing.image_of_visible offset c margin, List.singleton_append, bodyLength?,
        if_neg incomplete]
      rfl
  | true =>
      have all_margin := respacing.isMarginChar_of_mem offset c margin
      rcases respacing.exists_image_eq_cons offset c with ⟨d, more, image⟩
      rw [image] at all_margin ⊢
      rw [List.cons_append, bodyLength?, if_neg incomplete, delimiter.read_of_isMarginChar margin,
        delimiter.read_of_isMarginChar (all_margin d List.mem_cons_self),
        bodyLength?_margin (fun e member => all_margin e (List.mem_cons_of_mem d member)),
        List.length_cons, Nat.add_assoc, Nat.add_comm 1]

/-- A literal that is not closed is not closed by respacing either. The count so far does not matter. -/
theorem bodyLength?_respaced_eq_none {pounds : UInt32} (chars : List Char) :
    ∀ (offset counted other : Nat) (delimiter : Delimiter),
      bodyLength? pounds delimiter counted chars = none →
      bodyLength? pounds delimiter other (respacing.respaced offset chars) = none := by
  induction chars with
  | nil =>
      intro offset counted other delimiter open_end
      simp only [bodyLength?] at open_end
      split at open_end
      · cases open_end
      next incomplete => rw [Respacing.respaced, bodyLength?, if_neg incomplete]
  | cons c rest ih =>
      intro offset counted other delimiter open_end
      simp only [bodyLength?] at open_end
      split at open_end
      · cases open_end
      next incomplete =>
        rw [Respacing.respaced, bodyLength?_image offset c _ incomplete]
        exact ih _ _ _ _ open_end

/-- A text that is measured starts with a letter, signs and a quote. -/
theorem exists_of_measure_eq_ok {text : List Char} {length : Nat} (measured : measure text = .ok length) :
    ∃ letter signs body count,
      text = letter :: (List.replicate signs '#' ++ '"' :: body) ∧
        bodyLength? (.ofNat signs) none 0 body = some count ∧ length = signs + count + 2 := by
  cases text with
  | nil => cases measured
  | cons letter rest =>
      by_cases quote : (rest.dropWhile (· == '#')).head? = some '"'
      · rcases List.head?_eq_some_iff.1 quote with ⟨body, behind⟩
        have signs : rest.takeWhile (· == '#') =
            List.replicate (rest.takeWhile (· == '#')).length '#' := by
          refine List.eq_replicate_iff.2 ⟨rfl, ?_⟩
          intro c member
          simpa using Place.forall_mem_takeWhile (· == '#') rest c member
        rw [@measure_of_quote (letter :: rest) body behind, List.tail_cons] at measured
        split at measured
        next count counted =>
          cases measured
          refine ⟨letter, _, body, count, ?_, counted, rfl⟩
          rw [← signs, ← behind, List.takeWhile_append_dropWhile]
        · cases measured
      · rw [@measure_of_no_quote (letter :: rest) quote] at measured
        cases measured

theorem measure_cons (letter : Char) (count : Nat) (body : List Char) :
    measure (letter :: (List.replicate count '#' ++ '"' :: body)) =
      match bodyLength? (.ofNat count) none 0 body with
      | some length => .ok (count + length + 2)
      | none => .error (.openRawString (.ofNat count)) := by
  have signs : ∀ c ∈ List.replicate count '#', (c == '#') = true := by
    intro c member
    simp [List.eq_of_mem_replicate member]
  have front : (List.replicate count '#' ++ '"' :: body).takeWhile (· == '#') =
      List.replicate count '#' := by
    rw [List.takeWhile_append_of_pos signs, List.takeWhile_cons_of_neg (by decide), List.append_nil]
  have behind : (List.replicate count '#' ++ '"' :: body).dropWhile (· == '#') = '"' :: body := by
    rw [List.dropWhile_append_of_pos signs, List.dropWhile_cons_of_neg (by decide)]
  have measured := @measure_of_quote (letter :: _) body behind
  rw [List.tail_cons, front, List.length_replicate] at measured
  refine measured.trans ?_
  cases bodyLength? (.ofNat count) none 0 body <;> rfl

/-- A literal keeps its length if nothing inside it is replaced. -/
theorem measure_respaced_of_ok {offset length : Nat} {text : List Char}
    (measured : measure text = .ok length) (spares : respacing.Spares offset (text.take length)) :
    measure (respacing.respaced offset text) = .ok length := by
  rcases exists_of_measure_eq_ok measured with ⟨letter, signs, body, count, rfl, counted, rfl⟩
  have within : count ≤ body.length := by
    simpa using le_length_of_bodyLength?_eq_some counted
  -- The literal ends in front of what is left of the body behind its last character.
  have literal : letter :: (List.replicate signs '#' ++ '"' :: body) =
      letter :: (List.replicate signs '#' ++ '"' :: body.take count) ++ body.drop count := by
    simp
  have long : (letter :: (List.replicate signs '#' ++ '"' :: body.take count)).length =
      signs + count + 2 := by
    simp [List.length_take_of_le within]
    omega
  rw [literal, List.take_left' long] at spares
  rw [literal, Respacing.respaced_append, Respacing.respaced_of_spares spares, List.cons_append,
    List.append_assoc, List.cons_append, measure_cons]
  rw [← List.take_append_drop count body] at counted
  have counted_again := bodyLength?_append
    (respacing.respaced (offset + byteLength (letter :: (List.replicate signs '#' ++ '"' ::
      body.take count))) (body.drop count)) counted
    (by simp [List.length_take_of_le within])
  rw [counted_again]

/-- What opens no literal, or one without an end, does so respaced too. -/
theorem measure_respaced_of_error {refusal : Refusal} {text : List Char} (offset : Nat)
    (letter : text.head? = some 'r') (refused : measure text = .error refusal) :
    measure (respacing.respaced offset text) = .error refusal := by
  rcases List.head?_eq_some_iff.1 letter with ⟨rest, rfl⟩
  have uniform : ∀ c, Margin.isMarginChar c = true → (c == '#') = ('\n' == '#') := by
    intro c margin
    refine beq_eq_false_iff_ne.2 ?_
    rintro rfl
    cases margin
  rw [Respacing.respaced, respacing.image_of_visible _ 'r' rfl, List.singleton_append]
  generalize offset + 'r'.utf8Size = offset
  have signs : (respacing.respaced offset rest).takeWhile (· == '#') =
      rest.takeWhile (· == '#') := by
    rw [Respacing.takeWhile_respaced uniform]
    refine Respacing.respaced_of_spares (Respacing.spares_of_visible ?_)
    intro c member
    have sign : c = '#' := by simpa using Place.forall_mem_takeWhile (· == '#') rest c member
    rw [sign]
    rfl
  have behind := @Respacing.dropWhile_respaced respacing _ uniform offset rest
  generalize offset + byteLength (rest.takeWhile (· == '#')) = further at behind
  by_cases quote : (rest.dropWhile (· == '#')).head? = some '"'
  · rcases List.head?_eq_some_iff.1 quote with ⟨body, body_eq⟩
    rw [body_eq, Respacing.respaced, respacing.image_of_visible _ '"' rfl,
      List.singleton_append] at behind
    rw [@measure_of_quote ('r' :: rest) body body_eq] at refused
    rw [@measure_of_quote ('r' :: _) _ behind]
    simp only [List.tail_cons, signs] at refused ⊢
    split at refused
    · cases refused
    next open_end => rw [bodyLength?_respaced_eq_none body _ _ _ _ open_end, refused]
  · rw [@measure_of_no_quote ('r' :: rest) quote] at refused
    rw [@measure_of_no_quote ('r' :: _), refused]
    rw [List.tail_cons, behind, Ne, Respacing.head?_respaced_eq_some_iff rfl]
    exact quote

end RawLiteral

/-! ## The verdict -/

namespace State

variable {state : State} {accepts : Acceptance}

/-- The off-side rule sees the same line. -/
theorem lineVerdict_respaced {indent : Level} {text : List Char}
    (visible : ∀ c ∈ text.head?, Margin.isMarginChar c = false) (offset : Nat) :
    state.lineVerdict accepts indent (respacing.respaced offset text) =
      state.lineVerdict accepts indent text := by
  simp only [lineVerdict, Lead.startsContinuation_respaced, Respacing.head?_respaced visible,
    Respacing.isEmpty_respaced]

/-- So do the tokens that are spelled out, as long as nothing is replaced in a literal that is given out. -/
theorem textVerdict_respaced {offset : Nat} {text : List Char}
    (visible : ∀ c ∈ text.head?, Margin.isMarginChar c = false)
    (literal : ∀ length, state.textVerdict accepts text = .ok (.rawString, state, length) →
      respacing.Spares offset (text.take length)) :
    state.textVerdict accepts (respacing.respaced offset text) = state.textVerdict accepts text := by
  simp only [textVerdict, Respacing.head?_respaced visible] at literal ⊢
  split
  · rfl
  · rfl
  · rfl
  · rfl
  next letter =>
    rw [letter] at literal
    split
    next accepted =>
      simp only [accepted, if_true] at literal
      cases measured : RawLiteral.measure text with
      | error refusal => rw [RawLiteral.measure_respaced_of_error offset letter measured]
      | ok length =>
          rw [measured] at literal
          rw [RawLiteral.measure_respaced_of_ok measured (literal length rfl)]
    · rfl
  · rfl

theorem verdict_respaced {sight : Sight} {offset : Nat}
    (visible : ∀ c ∈ sight.text.head?, Margin.isMarginChar c = false)
    (literal : ∀ after length, state.verdict accepts sight = .ok (.rawString, after, length) →
      respacing.Spares offset (sight.text.take length)) :
    state.verdict accepts { sight with text := respacing.respaced offset sight.text } =
      state.verdict accepts sight := by
  have same_level : Sight.level { sight with text := respacing.respaced offset sight.text } =
      sight.level := rfl
  simp only [verdict, same_level, lineVerdict_respaced visible] at literal ⊢
  split
  · rfl
  next deferred =>
    -- Nothing was decided by the line, so the text decides.
    rw [deferred] at literal
    refine textVerdict_respaced visible ?_
    intro length given
    exact literal _ length given

/-- The levels have no part in a refusal. -/
theorem textVerdict_eq_error {other : State} {text : List Char} {refusal : Refusal}
    (same_end : other.terminated = state.terminated)
    (refused : state.textVerdict accepts text = .error refusal) :
    other.textVerdict accepts text = .error refusal := by
  simp only [textVerdict, same_end] at refused ⊢
  split at refused
  next => split at refused <;> simp_all
  next => split at refused <;> simp_all
  next => split at refused <;> simp_all
  next => split at refused <;> simp_all
  next =>
    split at refused
    next => cases measured : RawLiteral.measure text <;> simp_all [Except.map]
    next => simp_all
  next => exact refused

/-- The column matters only if a token comes out and a level is taken from the column. -/
theorem verdict_of_column {sight : Sight} (column : Nat)
    (same : ∀ given, state.verdict accepts sight = .ok given → state.awaitsLevel = true →
      sight.margin.crossesLine = false → Level.ofColumn column = Level.ofColumn sight.column) :
    state.verdict accepts { sight with column := column } = state.verdict accepts sight := by
  by_cases alike : state.recordLevel (Sight.level { sight with column := column }) =
      state.recordLevel sight.level
  · rw [verdict, verdict, alike]
  · have awaits : state.awaitsLevel = true := by
      cases awaits : state.awaitsLevel with
      | true => rfl
      | false => simp [recordLevel, awaits] at alike
    have same_line : sight.margin.crossesLine = false := by
      cases crosses : sight.margin.crossesLine with
      | false => rfl
      | true => simp [Sight.level, crosses] at alike
    have other_column : Level.ofColumn column ≠ Level.ofColumn sight.column := by
      intro equal
      simp [Sight.level, same_line, equal] at alike
    cases decided : state.verdict accepts sight with
    | ok given => exact absurd (same given decided awaits same_line) other_column
    | error refusal =>
        simp only [verdict, same_line, Bool.false_eq_true, if_false] at decided ⊢
        exact textVerdict_eq_error (by rw [terminated_recordLevel, terminated_recordLevel]) decided

/-! ## The scan -/

/-- The scan at `p` gives out a token and takes a level from a column: an explicit opening brace waits for
the level of its block, and the text behind the margin stands in the brace's own line. -/
def takesColumn (state : State) (accepts : Acceptance) (p : Place) : Bool :=
  state.owed.next?.isNone && state.awaitsLevel && !p.margin.crossesLine &&
    (state.scan accepts p).outcome.toOption.isSome

theorem sight_respace (respacing : Respacing) (p : Place) :
    (p.respace respacing).sight =
      ⟨p.margin, (p.lineHead.respace respacing).column,
        respacing.respaced p.lineHead.offset p.lineHead.after⟩ := by
  rw [Place.sight, Place.lineHead_respace, Place.margin_respace]
  rfl

/-- Nothing in a token is replaced, if nothing in a literal is. -/
theorem exists_spares_of_yields {after : State} {p head stop : Place} {token : External}
    (yields : state.Yields accepts p token after head stop)
    (literal : token = .rawString → ∀ byte, head.offset ≤ byte → byte < stop.offset →
      respacing.Keeps byte) :
    ∃ chars, head.Reads chars stop ∧ respacing.Spares head.offset chars := by
  rcases reads_stop_of_yields yields with ⟨chars, reads, admitted⟩
  refine ⟨chars, reads, ?_⟩
  -- A token with a spelling of its own is visible; only a literal may have margin characters.
  have spelled {spelling : List Char} (visible : ∀ c ∈ spelling, Margin.isMarginChar c = false)
      (either : String.ofList chars = "" ∨ String.ofList chars = String.ofList spelling) :
      respacing.Spares head.offset chars := by
    rcases either with nothing | same
    · rw [String.ofList_injective (nothing.trans String.ofList_nil.symm)]
      trivial
    · rw [String.ofList_injective same]
      exact Respacing.spares_of_visible visible
  cases token with
  | openBrace => exact @spelled ['{'] (by simp [Margin.isMarginChar]) admitted
  | closeBrace => exact @spelled ['}'] (by simp [Margin.isMarginChar]) admitted
  | semicolon => exact @spelled [';'] (by simp [Margin.isMarginChar]) admitted
  | rawString =>
      refine Respacing.spares_of_keeps ?_
      rw [← reads.offset_eq]
      exact literal rfl
  | endContinuation => cases admitted

/-- The line's head is visible, if there is one. -/
theorem isMarginChar_of_head?_sight (p : Place) :
    ∀ c ∈ p.sight.text.head?, Margin.isMarginChar c = false := by
  intro c member
  have ends := List.head?_dropWhile_not Margin.isMarginChar p.after
  have text : p.sight.text = p.after.dropWhile Margin.isMarginChar := Place.after_advanceWhile p _
  rw [← text, member] at ends
  simpa using ends

/-- A token of a verdict lies as the verdict counts it. -/
theorem spares_of_given {p : Place} {token : External} {after : State} {length : Nat}
    (given : (state.scan accepts p).given =
      .ok (token, after, p.lineHead, p.lineHead.advanceBy length))
    (literal : token = .rawString → ∀ byte, p.lineHead.offset ≤ byte →
      byte < (p.lineHead.advanceBy length).offset → respacing.Keeps byte) :
    respacing.Spares p.lineHead.offset (p.lineHead.after.take length) := by
  rcases Reading.given_eq_ok_iff.1 given with ⟨outcome, head_eq, stop_eq⟩
  have yields := yields_of_scan outcome
  rw [head_eq, stop_eq] at yields
  rcases exists_spares_of_yields yields literal with ⟨chars, reads, spares⟩
  have front := reads.after_eq
  rw [Place.after_advanceBy] at front
  have counted : chars = p.lineHead.after.take length := by
    refine List.append_cancel_right (front.symm.trans ?_)
    exact (List.take_append_drop length p.lineHead.after).symm
  rw [← counted]
  exact spares

/-- A token that is owed comes at once, with the brace that it may cover. -/
theorem given_scan_respace_of_owed {p : Place} {token : External} {owed : Owed}
    (due : state.owed.next? = some (token, owed)) :
    (state.scan accepts (p.respace respacing)).given =
      (state.scan accepts p).given.map fun (token, after, head, stop) =>
        (token, after, head.respace respacing, stop.respace respacing) := by
  have same_brace : (p.respace respacing).lookahead = some '}' ↔ p.lookahead = some '}' :=
    Place.lookahead_respace_eq_some_iff rfl
  simp only [Reading.given, scan, read, due, readOwed, Reading.spelled, same_brace]
  split
  next covers =>
    rw [Place.advance_respace covers.2.2 rfl]
    rfl
  next => rfl

/-- The scan gives out the same at the same place of the respaced text. -/
theorem given_scan_respace {p : Place}
    (literal : ∀ after head stop, (state.scan accepts p).given = .ok (.rawString, after, head, stop) →
      ∀ byte, head.offset ≤ byte → byte < stop.offset → respacing.Keeps byte)
    (column : state.takesColumn accepts p = true →
      (p.lineHead.respace respacing).column = p.lineHead.column) :
    (state.scan accepts (p.respace respacing)).given =
      (state.scan accepts p).given.map fun (token, after, head, stop) =>
        (token, after, head.respace respacing, stop.respace respacing) := by
  cases next : state.owed.next? with
  | some paid => exact given_scan_respace_of_owed next
  | none =>
      have scanned := given_scan accepts p next
      have spares {token : External} {after : State} {length : Nat}
          (decided : state.verdict accepts p.sight = .ok (token, after, length)) :
          respacing.Spares p.lineHead.offset (p.lineHead.after.take length) := by
        rw [decided] at scanned
        refine spares_of_given scanned ?_
        rintro rfl
        exact literal after _ _ scanned
      have same_text : state.verdict accepts ⟨p.margin, p.lineHead.column,
          respacing.respaced p.lineHead.offset p.lineHead.after⟩ = state.verdict accepts p.sight :=
        verdict_respaced (isMarginChar_of_head?_sight p) fun _ _ decided => spares decided
      have same : state.verdict accepts (p.respace respacing).sight =
          state.verdict accepts p.sight := by
        rw [sight_respace, ← same_text]
        refine @verdict_of_column state accepts ⟨p.margin, p.lineHead.column, _⟩ _ ?_
        intro given decided awaits same_line
        rw [← same_text, decided] at scanned
        have same_line : p.margin.crossesLine = false := same_line
        rcases Reading.given_eq_ok_iff.1 scanned with ⟨outcome, _⟩
        rw [column (by simp [takesColumn, next, awaits, same_line, outcome, Except.toOption])]
      rw [given_scan accepts (p.respace respacing) next, same, scanned, Place.lineHead_respace]
      cases decided : state.verdict accepts p.sight with
      | error refusal => rfl
      | ok given => simp only [Except.map, placed, Place.advanceBy_respace (spares decided)]

end State

end Offside
