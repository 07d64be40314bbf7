import Offside.Proofs.Place.Reads

/-!
# Exchanging the tail of a text

What is read at a place does not depend on what comes far behind it. Here a text ends in some tail,
which is exchanged for another; a place in front of the tail stays where it is. Main statements:

* `InFrontOf.of_le` — where reading does not come up to the tail, it began in front of it.
* `advanceWhile_withTail`, `takeWhile_withTail`, `advanceBy_withTail` — reading commutes with the
  exchange as long as it ends in front of the tail. A run of characters ends there if the character
  that ends it stands there.
* `lineHead_withTail`, `margin_withTail`, `chunkEnd_withTail` — and so do the host and the margin.
* `exists_tails_of_agree` — two texts that agree on their first bytes differ in a tail only, and a
  place is in front of it if its next character lies within these bytes.
-/

namespace Offside
namespace Place

/-- The text ends in the tail `s`, and there is a character between the place and the tail. -/
def InFrontOf (s : List Char) (p : Place) : Prop :=
  ∃ c ahead, p.after = c :: (ahead ++ s)

/-- The place with the tail of its text, as long as `s`, exchanged for `t`. -/
def withTail (s t : List Char) (p : Place) : Place :=
  { p with after := p.after.take (p.after.length - s.length) ++ t }

theorem after_withTail {p : Place} {s : List Char} (ahead t : List Char)
    (split : p.after = ahead ++ s) : (p.withTail s t).after = ahead ++ t := by
  simp [withTail, split]

@[simp]
theorem before_withTail (p : Place) (s t : List Char) : (p.withTail s t).before = p.before :=
  rfl

@[simp]
theorem offset_withTail (p : Place) (s t : List Char) : (p.withTail s t).offset = p.offset :=
  rfl

theorem source_withTail {p : Place} {pre s : List Char} (ahead t : List Char)
    (split : p.after = ahead ++ s) (text : p.source = pre ++ s) :
    (p.withTail s t).source = pre ++ t := by
  have parts : p.before.reverse ++ ahead = pre := by
    rw [source, split, ← List.append_assoc] at text
    exact List.append_cancel_right text
  rw [source, after_withTail ahead t split, before_withTail, ← parts, List.append_assoc]

/-- Where `n` characters can be read in front of the tail, more than `n` stand in front of it. -/
theorem exists_ahead_of_inFrontOf_advanceBy {s : List Char} {p : Place} {n : Nat}
    (front : (p.advanceBy n).InFrontOf s) :
    ∃ ahead, p.after = ahead ++ s ∧ n < ahead.length := by
  rcases front with ⟨c, ahead, rest⟩
  rw [after_advanceBy] at rest
  refine ⟨p.after.take n ++ c :: ahead, ?_, ?_⟩
  · rw [List.append_assoc, List.cons_append, ← rest, List.take_append_drop]
  · have left : p.after.length - n = (c :: (ahead ++ s)).length := by rw [← rest, List.length_drop]
    simp only [List.length_append, List.length_take, List.length_cons] at left ⊢
    omega

/-- Reading on does not come back to the front of the tail. -/
theorem InFrontOf.of_le {s : List Char} {p q : Place} (onward : p ≤ q) (front : q.InFrontOf s) :
    p.InFrontOf s := by
  rcases onward with ⟨n, rfl⟩
  rcases exists_ahead_of_inFrontOf_advanceBy front with ⟨ahead, text, more⟩
  cases ahead with
  | nil => exact absurd more (Nat.not_lt_zero n)
  | cons c rest => exact ⟨c, rest, text⟩

section

variable {s : List Char} (t : List Char) {p : Place}

theorem lookahead_withTail (front : p.InFrontOf s) :
    (p.withTail s t).lookahead = p.lookahead := by
  rcases front with ⟨c, ahead, text⟩
  rw [lookahead, lookahead, after_withTail (c :: ahead) t text, text]
  rfl

theorem atEnd_withTail (front : p.InFrontOf s) : (p.withTail s t).atEnd = p.atEnd := by
  rcases front with ⟨c, ahead, text⟩
  rw [atEnd, atEnd, after_withTail (c :: ahead) t text, text]
  rfl

theorem advance_withTail (front : p.InFrontOf s) :
    (p.withTail s t).advance = p.advance.withTail s t := by
  rcases front with ⟨c, ahead, text⟩
  have exchanged := after_withTail (c :: ahead) t text
  have onward : p.advance.after = ahead ++ s := by rw [after_advance, text, List.tail_cons]
  ext1
  · rw [before_withTail, before_advance, before_advance, exchanged, text, before_withTail]
    rfl
  · rw [after_withTail ahead t onward, after_advance, exchanged, List.cons_append, List.tail_cons]

theorem advanceBy_withTail {n : Nat} (front : (p.advanceBy n).InFrontOf s) :
    (p.withTail s t).advanceBy n = (p.advanceBy n).withTail s t := by
  induction n generalizing p with
  | zero => rfl
  | succ n ih =>
      have here := InFrontOf.of_le (le_advanceBy p (n + 1)) front
      rw [advanceBy, advance_withTail t here]
      exact ih front

theorem eq_false_of_after_advanceWhile {p : Place} {continues : Char → Bool} {c : Char}
    {rest : List Char} (h : (p.advanceWhile continues).after = c :: rest) : continues c = false := by
  have stops := List.head?_dropWhile_not continues p.after
  rw [← after_advanceWhile, h] at stops
  simpa using stops

/-- A run that ends in front of the tail does so at a character that stands there. -/
theorem takeWhile_withTail {continues : Char → Bool}
    (front : (p.advanceWhile continues).InFrontOf s) :
    (p.withTail s t).after.takeWhile continues = p.after.takeWhile continues := by
  rcases front with ⟨c, ahead, rest⟩
  have ends := eq_false_of_after_advanceWhile rest
  rw [after_advanceWhile] at rest
  have text : p.after = (p.after.takeWhile continues ++ c :: ahead) ++ s := by
    rw [List.append_assoc, List.cons_append, ← rest, List.takeWhile_append_dropWhile]
  have exchanged : (p.withTail s t).after = p.after.takeWhile continues ++ c :: (ahead ++ t) := by
    rw [after_withTail _ t text, List.append_assoc, List.cons_append]
  exact takeWhile_of_after_eq exchanged (forall_mem_takeWhile continues p.after) ends

theorem advanceWhile_withTail {continues : Char → Bool}
    (front : (p.advanceWhile continues).InFrontOf s) :
    (p.withTail s t).advanceWhile continues = (p.advanceWhile continues).withTail s t := by
  have run := takeWhile_withTail t front
  rw [advanceWhile_eq_advanceBy, run, advanceWhile_eq_advanceBy]
  rw [advanceWhile_eq_advanceBy] at front
  exact advanceBy_withTail t front

theorem lineHead_withTail (front : p.lineHead.InFrontOf s) :
    (p.withTail s t).lineHead = p.lineHead.withTail s t :=
  advanceWhile_withTail t front

theorem margin_withTail (front : p.lineHead.InFrontOf s) : (p.withTail s t).margin = p.margin :=
  congrArg Margin.ofChars (takeWhile_withTail t front)

theorem chunkEnd_withTail (front : p.chunkEnd.InFrontOf s) (here : p.InFrontOf s) :
    (p.withTail s t).chunkEnd = p.chunkEnd.withTail s t := by
  simp only [chunkEnd, lookahead_withTail t here] at front ⊢
  split
  next c next =>
    simp only [next] at front
    split
    next word =>
      rw [if_pos word] at front
      exact advanceWhile_withTail t front
    next no_word =>
      rw [if_neg no_word] at front
      split
      next operator =>
        rw [if_pos operator] at front
        exact advanceWhile_withTail t front
      · exact advance_withTail t here
  · rfl

end

end Place

/-! ## Texts that agree on their first bytes -/

namespace Text

/-- The longest beginning of a text that takes no more than `m` bytes. -/
def within : Nat → List Char → List Char
  | _, [] => []
  | m, c :: rest => if c.utf8Size ≤ m then c :: within (m - c.utf8Size) rest else []

theorem within_prefix (m : Nat) (chars : List Char) : within m chars <+: chars := by
  induction chars generalizing m with
  | nil => exact List.nil_prefix
  | cons c rest ih =>
      simp only [within]
      split
      · exact List.prefix_cons_inj c |>.2 (ih _)
      · exact List.nil_prefix

theorem byteLength_within_le (m : Nat) (chars : List Char) : byteLength (within m chars) ≤ m := by
  induction chars generalizing m with
  | nil => exact Nat.zero_le m
  | cons c rest ih =>
      simp only [within]
      split
      · have fits := ih (m - c.utf8Size)
        rw [byteLength_cons]
        omega
      · exact Nat.zero_le m

/-- No beginning of the text that takes no more bytes is longer. -/
theorem prefix_within {front chars : List Char} (begins : front <+: chars) {m : Nat}
    (fits : byteLength front ≤ m) : front <+: within m chars := by
  induction front generalizing m chars with
  | nil => exact List.nil_prefix
  | cons c rest ih =>
      rcases begins with ⟨behind, rfl⟩
      rw [byteLength_cons] at fits
      have first_fits : c.utf8Size ≤ m := by omega
      simp only [List.cons_append, within, first_fits, if_true]
      exact (List.prefix_cons_inj c).2 (ih (List.prefix_append rest behind) (by omega))

/-- What fits into the bytes on which two texts agree begins both. -/
theorem prefix_of_agree {first second : String} {m : Nat}
    (agree : first.toByteArray.extract 0 m = second.toByteArray.extract 0 m) {front : List Char}
    (begins : front <+: first.toList) (fits : byteLength front ≤ m) : front <+: second.toList := by
  rcases begins with ⟨behind, text⟩
  have size : front.utf8Encode.size = byteLength front := by
    rw [byteLength_eq_utf8ByteSize, ← String.size_toByteArray, String.toByteArray_ofList]
  have cut (bytes : ByteArray) :
      (bytes.extract 0 m).extract 0 (byteLength front) = bytes.extract 0 (byteLength front) := by
    rw [ByteArray.extract_extract, Nat.zero_add, Nat.zero_add, Nat.min_eq_left fits]
  have first_cut : first.toByteArray.extract 0 (byteLength front) = front.utf8Encode := by
    rw [← String.utf8Encode_toList, ← text, List.utf8Encode_append,
      ByteArray.extract_append_eq_left size.symm]
  have second_cut : second.toByteArray.extract 0 (byteLength front) = front.utf8Encode := by
    rw [← cut, ← agree, cut, first_cut]
  -- The bytes of the second text begin with the encoding, and decoding begins with the characters.
  refine List.isPrefix_of_utf8Encode_append_eq_utf8Encode
    (second.toByteArray.extract (byteLength front) second.toByteArray.size) ?_
  have inside : byteLength front ≤ second.toByteArray.size := by
    have cut_size := congrArg ByteArray.size second_cut
    rw [size, ByteArray.size_extract] at cut_size
    omega
  rw [← second_cut, String.utf8Encode_toList, ← ByteArray.extract_eq_extract_append_extract _
    (Nat.zero_le _) inside, ByteArray.extract_zero_size]

end Text

namespace Place

/-- The character at the place lies within the first `m` bytes of the text. -/
def SeesWithin (m : Nat) (p : Place) : Prop :=
  ∃ c, p.lookahead = some c ∧ p.offset + c.utf8Size ≤ m

instance (m : Nat) (p : Place) : Decidable (p.SeesWithin m) :=
  decidable_of_iff (p.lookahead.any (fun c => decide (p.offset + c.utf8Size ≤ m)) = true) (by
    cases seen : p.lookahead <;> simp [SeesWithin, seen])

theorem exists_tails_of_agree {first second : String} {m : Nat}
    (agree : first.toByteArray.extract 0 m = second.toByteArray.extract 0 m) :
    ∃ pre s t, first.toList = pre ++ s ∧ second.toList = pre ++ t ∧
      ∀ p : Place, p.source = first.toList → p.SeesWithin m → p.InFrontOf s := by
  have begins := Text.within_prefix m first.toList
  have begins_other := Text.prefix_of_agree agree begins (Text.byteLength_within_le m _)
  rcases begins with ⟨s, first_eq⟩
  rcases begins_other with ⟨t, second_eq⟩
  refine ⟨_, s, t, first_eq.symm, second_eq.symm, ?_⟩
  rintro p text ⟨c, next, inside⟩
  have reads := reads_advance next
  -- All up to the next character fits into the bytes, so it belongs to what the texts share.
  have seen : p.before.reverse ++ [c] <+: first.toList := by
    rw [← text, source, reads.after_eq, ← List.append_assoc]
    exact List.prefix_append _ _
  have fits : Text.byteLength (p.before.reverse ++ [c]) ≤ m := by
    rw [Text.byteLength_append, Text.byteLength_reverse, ← offset_eq]
    simpa using inside
  rcases Text.prefix_within seen fits with ⟨ahead, shared⟩
  refine ⟨c, ahead, ?_⟩
  rw [source, ← first_eq, ← shared] at text
  simpa using text

end Place
end Offside
