import Offside.Proofs.Braces.Blocks

/-!
# Which braces are matched

A closing brace is matched with the opening brace of the block whose level was removed for it. The
levels do not say how their blocks were opened: an explicit closing brace closes the innermost block,
and a dedent all blocks to the right of the line. So a brace in the text and an inserted one may be
matched. Main statements:

* `State.Owes` — the braces that are still to be matched and the blocks for which braces are owed.
* `State.paired_of_due`, `State.paired_of_settled` — what one token does to both.
* `Session.pairs_lexemesFrom` — the pairs of a session are the blocks that it closes.
* `matchesKinds_tokenize` — the braces of a run match their own kind exactly if each block is closed as
  it was opened.
* `not_matchesKinds_sameLine` — a text with balanced braces in which they do not.
-/

namespace Offside

/-! ## Closing braces that are owed -/

theorem Owed.next?_cases {owed rest : Owed} {token : External}
    (h : owed.next? = some (token, rest)) :
    (token = .closeBrace ∧ rest.closes.toNat + 1 = owed.closes.toNat) ∨
      (token = .semicolon ∧ owed.separators ≠ 0 ∧ rest.closes = owed.closes) := by
  simp only [next?] at h
  split at h
  next positive =>
    have some_close : 0 < owed.closes.toNat := UInt32.lt_iff_toNat_lt.1 positive.1
    have fewer : (owed.closes - 1).toNat + 1 = owed.closes.toNat := by
      rw [UInt32.toNat_sub_of_le _ _ (UInt32.lt_iff_toNat_lt.1 positive.1), UInt32.toNat_one]
      omega
    split at h <;> cases h <;> exact .inl ⟨rfl, fewer⟩
  next =>
    split at h
    next positive =>
      cases h
      exact .inr ⟨rfl, (UInt32.ne_of_lt positive).symm, rfl⟩
    · cases h

namespace State

/-- In front of the place `p`, the braces `opened` are still to be matched and the blocks that `blocks`
opened have levels; for the other blocks, which are `pending`, closing braces are owed. -/
inductive Owes (state : State) (p : Place) (blocks : List Lexeme) :
    List Lexeme → List Closing → Prop
  | nothing : state.owed.next? = none → Owes state p blocks blocks []
  /-- The blocks that a dedent has closed. -/
  | layout (closed : List Lexeme) :
      state.awaitsLevel = false → state.owed.closes.toNat = closed.length →
      p.lookahead ≠ some '}' →
      Owes state p blocks (closed ++ blocks) (closed.map fun opener => ⟨some opener, false⟩)
  /-- The block that the explicit closing brace at the place closes. -/
  | brace (opened : List Lexeme) :
      state.awaitsLevel = false → state.owed.closes = 1 → state.owed.separators = 0 →
      p.lookahead = some '}' → blocks = opened.tail →
      Owes state p blocks opened [⟨opened.head?, true⟩]

section

variable {state : State} {p : Place} {blocks opened : List Lexeme} {pending : List Closing}

theorem Owes.eq_of_settled (owes : state.Owes p blocks opened pending)
    (settled : state.owed.next? = none) : opened = blocks ∧ pending = [] := by
  have nothing := (Owed.next?_eq_none_iff _).1 settled
  simp only [Owed.count] at nothing
  cases owes with
  | nothing => exact ⟨rfl, rfl⟩
  | layout closed _ count _ =>
      have none_closed : closed = [] := List.eq_nil_of_length_eq_zero (by omega)
      rw [none_closed]
      exact ⟨rfl, rfl⟩
  | brace _ _ closes =>
      rw [closes] at nothing
      simp at nothing

theorem Owes.awaitsLevel_eq_false (owes : state.Owes p blocks opened pending)
    (due : state.owed.next? ≠ none) : state.awaitsLevel = false := by
  cases owes with
  | nothing settled => exact absurd settled due
  | layout _ recorded => exact recorded
  | brace _ recorded => exact recorded

end

/-- A line that starts with a closing brace goes on with the statement in front of it. -/
theorem continuesAt_of_closing {head : Place} (brace : head.lookahead = some '}') :
    continuesAt head = true := by
  have leads : Certainty.ofChar? '}' = some .immediate := rfl
  simp [continuesAt, Opening.ofPlace, brace, leads, Opening.ofCertainty, Opening.ask]

/-- What a token leaves to be matched and owed, and the braces that it matches. -/
structure Paired (blocks opened : List Lexeme) (pending : List Closing) (lexeme : Lexeme)
    (after : State) (stop : Place) : Prop where
  exists_owes : ∃ paid left remaining,
    pending ++ lexeme.closings stop after.depth blocks = paid ++ remaining ∧
      after.Owes stop (lexeme.blocksBehind after.depth blocks) left remaining ∧
      ∀ rest, (Lexeme.pairs opened (lexeme :: rest)).map Closing.ofPair =
        paid ++ (Lexeme.pairs left rest).map Closing.ofPair
  holds : after.Holds (lexeme.blocksBehind after.depth blocks)

section

variable {state after : State} {accepts : Acceptance} {p head stop : Place} {token given : External}
  {rest : Owed} {blocks opened : List Lexeme} {pending : List Closing} {lexeme : Lexeme}

/-- Behind a token that leaves the levels as they are, the same blocks are open. -/
theorem paired_of_same_levels (no_brace : lexeme.kind ≠ .external .openBrace)
    (unannounced : ¬ lexeme.announcesBrace stop) (recorded : after.awaitsLevel = false)
    (above : Blocks.Above blocks after.levels)
    (owes : ∃ paid left remaining, pending = paid ++ remaining ∧
      after.Owes stop blocks left remaining ∧
      ∀ rest, (Lexeme.pairs opened (lexeme :: rest)).map Closing.ofPair =
        paid ++ (Lexeme.pairs left rest).map Closing.ofPair) :
    Paired blocks opened pending lexeme after stop := by
  have behind := Lexeme.blocksBehind_of_length_eq no_brace above.length_eq
  have none_closed := Lexeme.closings_of_length_eq unannounced above.length_eq
  refine ⟨?_, ?_⟩
  · rw [depth, none_closed, List.append_nil, behind]
    exact owes
  · rw [depth, behind]
    exact holds_of_above recorded above

/-- An owed token closes no further block, and an owed brace is matched with a block that is pending. -/
theorem paired_of_due (due : state.owed.next? = some (given, rest))
    (yields : state.Yields accepts p token after head stop) (holds : state.Holds blocks)
    (owes : state.Owes p blocks opened pending) :
    Paired blocks opened pending ⟨.external token, head.offset, stop.offset⟩ after stop := by
  have recorded := owes.awaitsLevel_eq_false (by simp [due])
  have above := holds.above recorded
  rcases eq_of_yields_of_due due yields with ⟨rfl, rfl, rfl, stop_eq⟩
  cases owes with
  | nothing settled =>
      rw [settled] at due
      cases due
  | layout closed _ count no_explicit =>
      rw [if_neg fun covers => no_explicit covers.2.2] at stop_eq
      subst stop_eq
      have unannounced : ¬ (Lexeme.mk (.external token) ⟨stop.offset, stop.offset⟩).announcesBrace
          stop := fun announces => no_explicit announces.2.2
      rcases Owed.next?_cases due with ⟨rfl, fewer⟩ | ⟨rfl, _, as_many⟩
      · -- The brace of the innermost block that is pending.
        cases closed with
        | nil =>
            rw [count] at fewer
            cases fewer
        | cons opener more =>
            refine paired_of_same_levels (Lexeme.kind_ne_openBrace (by decide)) unannounced recorded
              above ⟨[⟨some opener, false⟩], more ++ blocks, _, rfl,
                .layout more recorded ?_ no_explicit, fun lexemes => ?_⟩
            · rw [count, List.length_cons] at fewer
              exact Nat.succ.inj fewer
            · have no_width := Lexeme.isVisible_eq_false (.external .closeBrace) stop.offset
              simp [Lexeme.pairs, Closing.ofPair, no_width]
      · refine paired_of_same_levels (Lexeme.kind_ne_openBrace (by decide)) unannounced recorded above
          ⟨[], closed ++ blocks, _, rfl, .layout closed recorded ?_ no_explicit, fun _ => rfl⟩
        rw [as_many, count]
  | brace opened recorded closes separators brace tail =>
      have lone : state.owed.isLoneClose = true := by simp [Owed.isLoneClose, closes, separators]
      rcases Owed.next?_of_isLoneClose lone due with ⟨rfl, settled⟩
      rw [if_pos ⟨rfl, settled, brace⟩] at stop_eq
      subst stop_eq
      have wide : Lexeme.isVisible ⟨.external .closeBrace, head.offset, head.advance.offset⟩ = true :=
        (Lexeme.isVisible_iff _ _ _).2 (Place.offset_lt_advance brace)
      refine paired_of_same_levels (Lexeme.kind_ne_openBrace (by decide))
        (Lexeme.not_announcesBrace (by decide)) recorded above
        ⟨[⟨opened.head?, true⟩], opened.tail, [], rfl, ?_, fun lexemes => ?_⟩
      · rw [← tail]
        exact .nothing ((Owed.next?_eq_none_iff _).2 ((Owed.isSettled_iff_count _).1 settled))
      · simp [Lexeme.pairs, Closing.ofPair, wide]

/-- A token that neither opens nor closes a block leaves all as it is. -/
theorem paired_of_bystander (settled : after.owed.next? = none)
    (bystander : lexeme.kind = .external .semicolon ∨ lexeme.kind = .external .rawString)
    (unannounced : ¬ lexeme.announcesBrace stop) (recorded : after.awaitsLevel = false)
    (above : Blocks.Above blocks after.levels) : Paired blocks blocks [] lexeme after stop := by
  rcases lexeme with ⟨kind, span⟩
  rcases bystander with rfl | rfl
  · exact paired_of_same_levels (Lexeme.kind_ne_openBrace (by decide)) unannounced recorded above
      ⟨[], blocks, [], rfl, .nothing settled, fun _ => rfl⟩
  · exact paired_of_same_levels (Lexeme.kind_ne_openBrace (by decide)) unannounced recorded above
      ⟨[], blocks, [], rfl, .nothing settled, fun _ => rfl⟩

/-- An opening brace opens a block. -/
theorem paired_of_openBrace (span : Span) (settled : after.owed.next? = none)
    (holds : after.Holds (⟨.external .openBrace, span⟩ :: blocks)) :
    Paired blocks blocks [] ⟨.external .openBrace, span⟩ after stop :=
  ⟨⟨[], ⟨.external .openBrace, span⟩ :: blocks, [], rfl, .nothing settled, fun _ => rfl⟩, holds⟩

/-- The separator in front of an explicit closing brace closes the innermost block. -/
theorem paired_of_closeBrace (settled : state.owed.next? = none) (recorded : state.awaitsLevel = false)
    (above : Blocks.Above blocks state.levels) (brace : stop.lookahead = some '}') :
    Paired blocks blocks [] ⟨.external .semicolon, stop.offset, stop.offset⟩ state.closeExplicitly
      stop := by
  have announces : (Lexeme.mk (.external .semicolon) ⟨stop.offset, stop.offset⟩).announcesBrace
      stop := ⟨rfl, Lexeme.isVisible_eq_false _ _, brace⟩
  have closed : Lexeme.closings ⟨.external .semicolon, stop.offset, stop.offset⟩ stop
      state.closeExplicitly.depth blocks = [⟨blocks.head?, true⟩] := by
    rw [Lexeme.closings, if_neg (Lexeme.kind_ne_openBrace (by decide)), if_pos announces]
  have behind : Lexeme.blocksBehind ⟨.external .semicolon, stop.offset, stop.offset⟩
      state.closeExplicitly.depth blocks = blocks.tail := by
    have same := above.length_eq
    rw [Lexeme.blocksBehind, if_neg (Lexeme.kind_ne_openBrace (by decide))]
    cases blocks with
    | nil => exact List.drop_nil
    | cons opener outside =>
        have one : (opener :: outside).length - state.closeExplicitly.depth = 1 := by
          rw [List.length_cons] at same
          simp only [closeExplicitly, depth, List.length_cons, List.length_tail]
          omega
        rw [one, List.drop_one]
  rcases owed_closeExplicitly ((Owed.next?_eq_none_iff _).1 settled) with ⟨closes, separators⟩
  refine ⟨⟨[], blocks, [⟨blocks.head?, true⟩], ?_, ?_, fun _ => rfl⟩, ?_⟩
  · rw [closed]
  · rw [behind]
    exact .brace blocks recorded closes separators brace rfl
  · rw [behind]
    exact holds_of_above recorded above.tail

/-- Where nothing was owed, a dedent owes as many braces as it removes levels, as far as the counter can
count them. -/
theorem toNat_closes_dedent_mod {indent : Level} (continues : Bool)
    (settled : state.owed.next? = none) :
    (state.dedent indent continues).owed.closes.toNat =
      state.levels.countAbove indent % UInt32.size := by
  rcases Owed.eq_zero_of_count ((Owed.next?_eq_none_iff _).1 settled) with ⟨none_owed, _⟩
  have owed : (state.dedent indent continues).owed.closes =
      UInt32.ofNat (state.levels.countAbove indent) := by
    cases continues <;> simp [dedent, Owed.addBlocks, none_owed]
  rw [owed]
  exact UInt32.toNat_ofNat'

theorem toNat_closes_dedent {indent : Level} (continues : Bool) (settled : state.owed.next? = none)
    (fits : state.levels.countAbove indent < UInt32.size) :
    (state.dedent indent continues).owed.closes.toNat = state.levels.countAbove indent := by
  rw [toNat_closes_dedent_mod continues settled, Nat.mod_eq_of_lt fits]

/-- The separator of a dedent closes the blocks whose levels lie to the right of the line. -/
theorem paired_of_dedent (settled : state.owed.next? = none) (recorded : state.awaitsLevel = false)
    (above : Blocks.Above blocks state.levels) (no_explicit : stop.lookahead ≠ some '}')
    (indent : Level) (continues : Bool)
    (few : blocks.length < UInt32.size ∨
      ∀ closing ∈ Lexeme.closings ⟨.external .semicolon, stop.offset, stop.offset⟩ stop
        (state.dedent indent continues).depth blocks, closing.Agrees) :
    Paired blocks blocks [] ⟨.external .semicolon, stop.offset, stop.offset⟩
      (state.dedent indent continues) stop := by
  have unannounced : ¬ (Lexeme.mk (.external .semicolon) ⟨stop.offset, stop.offset⟩).announcesBrace
      stop := fun announces => no_explicit announces.2.2
  have same := above.length_eq
  have count_left := state.levels.countAbove_add_length_closeAbove indent
  have count : blocks.length - (state.dedent indent continues).depth =
      state.levels.countAbove indent := by
    rw [depth, levels_dedent]
    omega
  have closed : Lexeme.closings ⟨.external .semicolon, stop.offset, stop.offset⟩ stop
      (state.dedent indent continues).depth blocks =
        (blocks.take (state.levels.countAbove indent)).map fun opener => ⟨some opener, false⟩ := by
    rw [Lexeme.closings, if_neg (Lexeme.kind_ne_openBrace (by decide)), if_neg unannounced, count]
  have behind : Lexeme.blocksBehind ⟨.external .semicolon, stop.offset, stop.offset⟩
      (state.dedent indent continues).depth blocks =
        blocks.drop (state.levels.countAbove indent) := by
    rw [Lexeme.blocksBehind, if_neg (Lexeme.kind_ne_openBrace (by decide)), count]
  have within : state.levels.countAbove indent ≤ blocks.length := by omega
  -- The number of closed blocks fits into the counter of owed braces.
  have fits : state.levels.countAbove indent < UInt32.size := by
    rcases few with few | agree
    · exact Nat.lt_of_le_of_lt within few
    · have inserted : ∀ opener ∈ blocks.take (state.levels.countAbove indent),
          opener.isVisible = false := by
        intro opener member
        have agrees := agree ⟨some opener, false⟩ (closed ▸ List.mem_map_of_mem member)
        simpa [Closing.Agrees] using agrees
      exact Nat.lt_of_le_of_lt (above.le_innermost within inserted) (UInt32.toNat_lt_size _)
  have closes : (state.dedent indent continues).owed.closes.toNat =
      (blocks.take (state.levels.countAbove indent)).length := by
    rw [toNat_closes_dedent continues settled fits, List.length_take_of_le within]
  refine ⟨⟨[], blocks, _, rfl, ?_, fun _ => rfl⟩, ?_⟩
  · rw [closed, behind]
    have owes : (state.dedent indent continues).Owes stop
        (blocks.drop (state.levels.countAbove indent)) (blocks.take _ ++ blocks.drop _) _ :=
      .layout _ recorded closes no_explicit
    rwa [List.take_append_drop] at owes
  · rw [behind]
    refine holds_of_above recorded ?_
    rw [levels_dedent, Levels.closeAbove_eq_drop]
    exact above.drop _

theorem paired_of_settled (settled : state.owed.next? = none)
    (yields : state.Yields accepts p token after head stop) (holds : state.Holds blocks)
    (few : blocks.length < UInt32.size ∨
      ∀ closing ∈ Lexeme.closings ⟨.external token, head.offset, stop.offset⟩ stop after.depth blocks,
        closing.Agrees) :
    Paired blocks blocks [] ⟨.external token, head.offset, stop.offset⟩ after stop := by
  have above := holds.above_recordedAt p
  have recorded := awaitsLevel_recordedAt state p
  have still_settled : (state.recordedAt p).owed.next? = none := by rwa [owed_recordedAt]
  cases yields with
  | owed due =>
      rw [settled] at due
      cases due
  | owedBrace due =>
      rw [settled] at due
      cases due
  | indent _ _ deeper =>
      exact paired_of_openBrace _ still_settled (holds_of_above recorded (.inserted deeper above))
  | aligned _ _ _ _ _ starts =>
      refine paired_of_bystander still_settled (.inl rfl) (fun announces => ?_) recorded above
      rw [continuesAt_of_closing announces.2.2] at starts
      cases starts
  | dedent _ _ _ _ no_explicit =>
      exact paired_of_dedent still_settled recorded above no_explicit _ _ few
  | terminator _ _ at_end =>
      refine paired_of_bystander still_settled (.inl rfl) (fun announces => ?_) recorded above
      rw [Place.atEnd_eq_false_of_lookahead announces.2.2] at at_end
      cases at_end
  | openBrace _ _ brace =>
      refine paired_of_openBrace _ still_settled ?_
      have wide := (Lexeme.isVisible_iff (.external .openBrace) _ _).2 (Place.offset_lt_advance brace)
      exact ⟨_, blocks, rfl, wide, above⟩
  | closeBrace _ _ brace => exact paired_of_closeBrace still_settled recorded above brace
  | semicolon _ _ separator =>
      refine paired_of_bystander still_settled (.inl rfl) (fun announces => ?_) recorded above
      have wide := (Lexeme.isVisible_iff (.external .semicolon) _ _).2
        (Place.offset_lt_advance separator)
      rw [announces.2.1] at wide
      cases wide
  | rawString =>
      exact paired_of_bystander still_settled (.inr rfl) (Lexeme.not_announcesBrace (by decide))
        recorded above

/-- An opening brace takes a character of the text, or stands behind a line break. So no more blocks
are open than characters were read. -/
theorem length_blocksBehind_le (yields : state.Yields accepts p token after head stop)
    (blocks : List Lexeme) :
    (Lexeme.blocksBehind ⟨.external token, head.offset, stop.offset⟩ after.depth blocks).length +
      stop.after.length ≤ blocks.length + p.after.length := by
  have onward : stop.after.length ≤ p.after.length :=
    Place.length_after_le (Place.le_trans (le_head_of_yields yields) (head_le_stop_of_yields yields))
  have shorter : token = .openBrace → stop.after.length < p.after.length := by
    intro opens
    cases yields with
    | owed due =>
        subst opens
        rcases Owed.next?_cases due with ⟨brace, _⟩ | ⟨separator, _⟩
        · cases brace
        · cases separator
    | indent _ crosses => exact length_after_lineHead_lt crosses
    | openBrace _ _ brace =>
        exact Nat.lt_of_lt_of_le (length_after_advance_lt brace) (length_after_lineHead_le p)
    | _ => cases opens
  simp only [Lexeme.blocksBehind]
  split
  next opens =>
    have read := shorter (by simpa using opens)
    rw [List.length_cons]
    omega
  next =>
    rw [List.length_drop]
    omega

end

end State

/-! ## The pairs of a run -/

namespace Session

/-- A dedent can count the blocks that it closes: there are not that many, or they were all opened by
the margin, at levels that ascend. -/
def CountsBlocks (config : Config) (blocks : List Lexeme) (p : Place) (state : State) : Prop :=
  blocks.length + p.after.length < UInt32.size ∨
    ∀ closing ∈ closingsFrom config blocks p state, closing.Agrees

/-- The closing braces of a session are matched with the opening braces of the blocks that are pending
and of those that it closes, in this order. -/
theorem pairs_lexemesFrom {config : Config} (room : Checkpoint.headerSize ≤ config.capacity)
    (p : Place) (state : State) :
    ∀ blocks opened pending, state.Holds blocks → state.Owes p blocks opened pending →
      CountsBlocks config blocks p state →
      (Lexeme.pairs opened (lexemesFrom config p state)).map Closing.ofPair =
        pending ++ closingsFrom config blocks p state := by
  induction p, state using course_induction config with
  | ends p state refusal outcome at_end =>
      intro blocks opened pending holds owes counts
      rcases owes.eq_of_settled (State.next?_eq_none_of_scan_eq_error outcome) with ⟨rfl, rfl⟩
      rw [lexemesFrom_of_end outcome at_end, closingsFrom_of_end _ outcome at_end]
      rfl
  | text p state refusal outcome more ih =>
      intro blocks opened pending holds owes counts
      have settled := State.next?_eq_none_of_scan_eq_error outcome
      have shorter : (p.advanceWhile Text.isBlank).chunkEnd.after.length ≤ p.after.length :=
        Place.length_after_le (Place.le_trans (Place.le_advanceWhile p _) (Place.le_chunkEnd _))
      have closings := closingsFrom_of_text blocks outcome more
      rcases owes.eq_of_settled settled with ⟨rfl, rfl⟩
      have counts_later : CountsBlocks config opened (p.advanceWhile Text.isBlank).chunkEnd state := by
        rcases counts with few | agree
        · exact .inl (Nat.lt_of_le_of_lt (Nat.add_le_add_left shorter _) few)
        · exact .inr (closings ▸ agree)
      rw [lexemesFrom_of_text outcome more, closings]
      exact ih opened opened [] holds (.nothing settled) counts_later
  | token p state token after outcome ih =>
      intro blocks opened pending holds owes counts
      have yields := State.yields_of_scan outcome
      generalize (state.scan (config.policy.acceptance p) p).head = head at yields
      generalize (state.scan (config.policy.acceptance p) p).stop = stop at yields ih
      have closings := closingsFrom_of_yields blocks room yields
      have length_le := State.length_blocksBehind_le yields blocks
      rw [CountsBlocks, closings] at counts
      have paired : State.Paired blocks opened pending ⟨.external token, head.offset, stop.offset⟩
          after stop := by
        cases due : state.owed.next? with
        | some paid => exact State.paired_of_due due yields holds owes
        | none =>
            rcases owes.eq_of_settled due with ⟨rfl, rfl⟩
            refine State.paired_of_settled due yields holds ?_
            rcases counts with few | agree
            · exact .inl (by omega)
            · exact .inr fun closing member => agree closing (List.mem_append_left _ member)
      rcases paired.exists_owes with ⟨paid, left, remaining, split, owes_later, matched⟩
      have counts_later : CountsBlocks config (Lexeme.blocksBehind
          ⟨.external token, head.offset, stop.offset⟩ after.depth blocks) stop after := by
        rcases counts with few | agree
        · exact .inl (Nat.lt_of_le_of_lt length_le few)
        · exact .inr fun closing member => agree closing (List.mem_append_right _ member)
      have later := ih _ left remaining paired.holds owes_later counts_later
      rw [lexemesFrom_of_yields room yields, matched, later, closings, ← List.append_assoc, ← split,
        List.append_assoc]

end Session

/-! ## Whole runs -/

/-- The blocks that are closed in the run over a whole text. -/
def closedBlocks (config : Config) (source : String) : List Closing :=
  Session.closingsFrom config [] (.start source.toList) .fresh

/-- Every closing brace is matched with an opening brace of its own kind: both stand in the text, or
both were inserted. -/
def Stream.MatchesKinds (stream : Stream) : Prop :=
  ∀ pair ∈ Lexeme.pairs [] stream.lexemes, (Closing.ofPair pair).Agrees

instance (stream : Stream) : Decidable stream.MatchesKinds :=
  inferInstanceAs (Decidable (∀ pair ∈ Lexeme.pairs [] stream.lexemes, (Closing.ofPair pair).Agrees))

/-- If in the run over a text every explicit closing brace closes a block that a brace in the text
opened, and every dedent closes blocks that the margin opened, then the braces match their own kind. In
a text with fewer characters than a counter can count, the pairs are in any case the blocks that the
run closes, so that the braces match their own kind only then. -/
theorem matchesKinds_tokenize {config : Config} (room : Checkpoint.headerSize ≤ config.capacity)
    (source : String) :
    ∃ stream, (tokenize config source).value = .ok stream ∧
      ((∀ closing ∈ closedBlocks config source, closing.Agrees) → stream.MatchesKinds) ∧
      (source.length < UInt32.size →
        (Lexeme.pairs [] stream.lexemes).map Closing.ofPair = closedBlocks config source ∧
          (stream.MatchesKinds → ∀ closing ∈ closedBlocks config source, closing.Agrees)) := by
  have pairs (counts : Session.CountsBlocks config [] (.start source.toList) .fresh) :=
    Session.pairs_lexemesFrom room (.start source.toList) .fresh [] [] [] State.holds_fresh
      (.nothing rfl) counts
  refine ⟨_, tokenize_eq_ok room source, ?_, ?_⟩
  · intro agree pair member
    refine agree _ ?_
    rw [closedBlocks, ← List.nil_append (Session.closingsFrom _ _ _ _), ← pairs (.inr agree)]
    exact List.mem_map_of_mem member
  · intro short
    have few : Session.CountsBlocks config [] (.start source.toList) .fresh := by
      refine .inl ?_
      rwa [List.length_nil, Nat.zero_add, Place.start, String.length_toList]
    have same := pairs few
    rw [List.nil_append] at same
    refine ⟨same, ?_⟩
    intro agree closing member
    rw [closedBlocks, ← same] at member
    rcases List.mem_map.1 member with ⟨pair, found, rfl⟩
    exact agree pair found

/-- Two blocks in braces inside a block that the margin opens; one of them ends on a line of its own. -/
theorem matchesKinds_tokenize_nested :
    Checkpoint.headerSize ≤ 1024 ∧
      ∃ stream,
        (tokenize ⟨.permissive, 1024⟩ "a\n  b \x7bc\x7d\n  d \x7b\n    e\n  \x7d\nf").value =
          .ok stream ∧ stream.MatchesKinds := by
  have agree : ∀ closing ∈ closedBlocks ⟨.permissive, 1024⟩
      "a\n  b \x7bc\x7d\n  d \x7b\n    e\n  \x7d\nf", closing.Agrees := by
    rw [closedBlocks, Session.closingsFrom, Session.turns_eq_turnsWithin (n := 40) (by decide)]
    decide
  rcases @matchesKinds_tokenize ⟨.permissive, 1024⟩ (by decide)
    "a\n  b \x7bc\x7d\n  d \x7b\n    e\n  \x7d\nf" with ⟨stream, run, matches_kinds, _⟩
  exact ⟨by decide, stream, run, matches_kinds agree⟩

/-! ## Balanced braces -/

/-- The braces of a text outside some spans; `offset` bytes stand in front of the text. -/
def Text.bracesOutside (spans : List Span) : Nat → List Char → List Char
  | _, [] => []
  | offset, c :: rest =>
      let covered := spans.any fun span => span.start ≤ offset && offset < span.stop
      let later := bracesOutside spans (offset + c.utf8Size) rest
      if (c = '{' ∨ c = '}') ∧ covered = false then c :: later else later

/-- The braces are properly nested if `depth` of them are open in front. -/
def Text.isBalanced : Nat → List Char → Bool
  | depth, [] => depth == 0
  | depth, c :: rest =>
      if c = '{' then isBalanced (depth + 1) rest else depth != 0 && isBalanced (depth - 1) rest

/-- The braces of the text outside its raw strings are properly nested. -/
def Stream.BalancesBraces (stream : Stream) (source : String) : Prop :=
  let literals := stream.lexemes.filter fun lexeme => lexeme.kind == .external .rawString
  Text.isBalanced 0 (Text.bracesOutside (literals.map Lexeme.span) 0 source.toList) = true

instance (stream : Stream) (source : String) : Decidable (stream.BalancesBraces source) :=
  inferInstanceAs (Decidable (_ = true))

/-- A line inside a block in braces opens a block of its own, and ends with the closing brace. The brace
closes that block, and the dedent behind it the block of the opening brace. -/
theorem not_matchesKinds_sameLine :
    ∃ stream, (tokenize ⟨.permissive, 1024⟩ "\x7b\n a\n  b\x7d\nc").value = .ok stream ∧
      stream.BalancesBraces "\x7b\n a\n  b\x7d\nc" ∧ ¬ stream.MatchesKinds := by
  refine ⟨_, tokenize_eq_ok (by decide) _, ?_⟩
  rw [Session.lexemesFrom, Session.checkpointsFrom, Session.turns_eq_turnsWithin (n := 40) (by decide)]
  decide

end Offside
