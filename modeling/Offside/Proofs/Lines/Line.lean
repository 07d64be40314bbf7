import Offside.Proofs.Lines.Continuation
import Offside.Proofs.Place.Reads
import Offside.Stream

/-!
# The off-side rule, line by line

A text without braces, separators and quotes is a list of lines, and what the off-side rule makes of
it can be said at one stroke: the lines are gone through with the widths of the open blocks on a
stack. Main definition and statements:

* `Line.inserted` — the tokens that the rule inserts into a text.
* `Line.ascends_stackAfter` — the widths of the open blocks increase inwards.
* `Line.Ascends.length_takeWhile_lt` — so a dedent closes no more blocks than can be counted.
* `Line.foldl_extend` — a margin of spaces and tabs is as wide as the sum of its columns.
-/

namespace Offside

/-- The columns of an indentation: one for each space, and as many as a tab takes for each tab. -/
def columns : List Char → Nat
  | [] => 0
  | c :: rest => (if c = '\t' then Level.tabWidth else 1) + columns rest

/-- A piece of a line that nothing spelled out in the text can interrupt. -/
structure Plain (chars : List Char) : Prop where
  /-- Nothing is spelled like a brace, a separator or a quote. -/
  unspelled : ∀ c ∈ chars, c ∉ ['{', '}', ';', '"']
  /-- The blanks are spaces and tabs. -/
  spaced : ∀ c ∈ chars, Text.isBlank c = true → c = ' ' ∨ c = '\t'
  /-- The last character is visible. -/
  ends : ∀ c ∈ chars.getLast?, Text.isBlank c = false

namespace Plain

def check (chars : List Char) : Bool :=
  chars.all (fun c => !(['{', '}', ';', '"'].contains c)) &&
    chars.all (fun c => !Text.isBlank c || c == ' ' || c == '\t') &&
    chars.getLast?.all fun c => !Text.isBlank c

theorem check_iff {chars : List Char} : check chars = true ↔ Plain chars := by
  have blank_or (c : Char) : (!Text.isBlank c || c == ' ' || c == '\t') = true ↔
      (Text.isBlank c = true → c = ' ' ∨ c = '\t') := by
    cases Text.isBlank c <;> simp
  simp only [check, Bool.and_eq_true, List.all_eq_true, Option.all_eq_true, Bool.not_eq_true',
    blank_or, List.contains_eq_mem, decide_eq_false_iff_not]
  constructor
  · rintro ⟨⟨unspelled, spaced⟩, ends⟩
    exact ⟨unspelled, spaced, ends⟩
  · intro plain
    exact ⟨⟨plain.unspelled, plain.spaced⟩, plain.ends⟩

instance (chars : List Char) : Decidable (Plain chars) :=
  decidable_of_iff _ check_iff

end Plain

/-- An indented line that says something. -/
structure Line where
  indentation : List Char
  body : List Char
  /-- The line is indented with spaces and tabs. -/
  spaced : ∀ c ∈ indentation, c = ' ' ∨ c = '\t'
  /-- The columns of the indentation can be counted. -/
  narrow : columns indentation < UInt32.size
  /-- The body starts with a visible character, so there is one. -/
  starts : ∃ c ∈ body.head?, Text.isBlank c = false
  plain : Plain body

namespace Line

def text (line : Line) : List Char :=
  line.indentation ++ line.body

def width (line : Line) : Nat :=
  columns line.indentation

/-- The lines with line breaks between them. -/
def join (lines : List Line) : List Char :=
  ['\n'].intercalate (lines.map text)

/-- What follows a line: each later line with the line break in front of it. -/
def following (later : List Line) : List Char :=
  later.flatMap fun line => '\n' :: line.text

theorem join_cons (first : Line) (later : List Line) :
    join (first :: later) = first.text ++ following later := by
  -- Joining puts each line break between two lines, `following` in front of the second of them.
  induction later generalizing first with
  | nil => simp [join, following, List.intercalate]
  | cons second later ih =>
      have rest := ih second
      simp only [join, following, List.intercalate, List.map_cons, List.intersperse_cons_cons,
        List.flatten_cons, List.flatMap_cons] at rest ⊢
      rw [rest]
      simp

/-! ## The rule -/

/-- Closes `blocks` blocks. The separator behind the last of them is left out if the line goes on
with a statement. -/
def closings (blocks : Nat) (continues : Bool) : List External :=
  let tokens := (List.replicate blocks [External.closeBrace, .semicolon]).flatten
  if continues then tokens.dropLast else tokens

/-- The tokens at the head of a line of this width, innermost block first on the stack. Outside all
blocks statements start at column 0. -/
def tokensAt (stack : List Nat) (width : Nat) (continues : Bool) : List External :=
  if stack.headD 0 < width then
    if continues then [] else [.openBrace]
  else if width = stack.headD 0 then
    if continues then [] else [.semicolon]
  else
    .semicolon :: closings (stack.takeWhile (width < ·)).length continues

/-- The stack behind the head of a line. -/
def stackAfter (stack : List Nat) (width : Nat) (continues : Bool) : List Nat :=
  if stack.headD 0 < width then
    if continues then stack else width :: stack
  else
    stack.dropWhile (width < ·)

/-- The tokens that are inserted at `offset`, with their spans. -/
def insertedAt (offset : Nat) (tokens : List External) : List (External × Span) :=
  tokens.map fun token => (token, ⟨offset, offset⟩)

/-- The tokens that are inserted into the lines that follow byte `offset`, where the blocks of
`stack` are open, and the terminator behind the last line. -/
def inserted (stack : List Nat) (offset : Nat) : List Line → List (External × Span)
  | [] => insertedAt offset [.semicolon]
  | line :: later =>
      let head := offset + Text.byteLength ('\n' :: line.indentation)
      let continues := Lead.startsContinuation (line.body ++ following later)
      insertedAt head (tokensAt stack line.width continues) ++
        inserted (stackAfter stack line.width continues) (head + Text.byteLength line.body) later

/-! ## The stack -/

/-- The widths of open blocks, innermost first: each block lies to the right of those around it, and
none is wider than levels go. -/
structure Ascends (stack : List Nat) : Prop where
  inwards : stack.Pairwise (· > ·)
  narrow : ∀ width ∈ stack, width ≤ Level.widest

theorem ascends_nil : Ascends [] :=
  ⟨.nil, by simp⟩

theorem Ascends.le_head {stack : List Nat} (ascends : Ascends stack) :
    ∀ width ∈ stack, width ≤ stack.headD 0 := by
  intro width member
  rcases stack with _ | ⟨innermost, outer⟩
  · cases member
  · rcases List.mem_cons.1 member with rfl | further_out
    · exact Nat.le_refl _
    · exact Nat.le_of_lt ((List.pairwise_cons.1 ascends.inwards).1 width further_out)

theorem Ascends.head_le_widest {stack : List Nat} (ascends : Ascends stack) :
    stack.headD 0 ≤ Level.widest := by
  cases stack with
  | nil => exact Nat.zero_le _
  | cons innermost outer => exact ascends.narrow innermost (.head _)

theorem Ascends.cons {stack : List Nat} (ascends : Ascends stack) {width : Nat}
    (deeper : stack.headD 0 < width) (narrow : width ≤ Level.widest) :
    Ascends (width :: stack) := by
  refine ⟨List.pairwise_cons.2 ⟨?_, ascends.inwards⟩, ?_⟩
  · intro outer member
    exact Nat.lt_of_le_of_lt (ascends.le_head outer member) deeper
  · intro level member
    rcases List.mem_cons.1 member with rfl | further_out
    · exact narrow
    · exact ascends.narrow level further_out

theorem Ascends.dropWhile {stack : List Nat} (ascends : Ascends stack) (closes : Nat → Bool) :
    Ascends (stack.dropWhile closes) := by
  have part := List.dropWhile_suffix (l := stack) closes
  exact ⟨ascends.inwards.sublist part.sublist,
    fun width member => ascends.narrow width (part.subset member)⟩

/-- No block is to the right of a line at the column of the innermost one. -/
theorem dropWhile_eq_self {stack : List Nat} {width : Nat} (same : stack.headD 0 = width) :
    stack.dropWhile (width < ·) = stack := by
  cases stack with
  | nil => rfl
  | cons innermost outer =>
      have kept : ¬ width < innermost := by
        rw [← same]
        exact Nat.lt_irrefl _
      exact List.dropWhile_cons_of_neg (by simpa using kept)

theorem ascends_stackAfter {stack : List Nat} (ascends : Ascends stack) {width : Nat}
    (narrow : width ≤ Level.widest) (continues : Bool) :
    Ascends (stackAfter stack width continues) := by
  simp only [stackAfter]
  split
  next deeper =>
    split
    · exact ascends
    · exact ascends.cons deeper narrow
  · exact ascends.dropWhile _

theorem length_le_head_of_pairwise {stack : List Nat} (inwards : stack.Pairwise (· > ·))
    (positive : ∀ width ∈ stack, 0 < width) : stack.length ≤ stack.headD 0 := by
  induction stack with
  | nil => exact Nat.le_refl 0
  | cons innermost outer ih =>
      rcases List.pairwise_cons.1 inwards with ⟨right_of, outwards⟩
      -- The outer blocks are at most as many as the columns to the left of the innermost one.
      have fewer := ih outwards (fun width member => positive width (.tail _ member))
      have above : outer.headD 0 < innermost := by
        cases outer with
        | nil => exact positive innermost (.head _)
        | cons next _ => exact right_of next (.head _)
      exact Nat.succ_le_of_lt (Nat.lt_of_le_of_lt fewer above)

/-- No line closes more blocks than can be counted. -/
theorem Ascends.length_takeWhile_lt {stack : List Nat} (ascends : Ascends stack) (width : Nat) :
    (stack.takeWhile (width < ·)).length < UInt32.size := by
  -- Blocks to the right of `width` are not at column 0, and no two are at the same column.
  have part := List.takeWhile_sublist (l := stack) (width < ·)
  have above : ∀ level ∈ stack.takeWhile (width < ·), 0 < level := by
    intro level member
    have right_of := Place.forall_mem_takeWhile _ stack level member
    exact Nat.zero_lt_of_lt (of_decide_eq_true right_of)
  have few := length_le_head_of_pairwise (ascends.inwards.sublist part) above
  have closed : Ascends (stack.takeWhile (width < ·)) :=
    ⟨ascends.inwards.sublist part, fun level member => ascends.narrow level (part.subset member)⟩
  exact Nat.lt_of_le_of_lt (Nat.le_trans few closed.head_le_widest) (by decide)

/-! ## Measuring a line -/

theorem shift_ofColumn (column more : Nat) :
    (Level.ofColumn column).shift more = Level.ofColumn (column + more) := by
  refine UInt32.toNat_inj.1 ?_
  rw [Level.toNat_shift, Level.toNat_ofColumn, Level.toNat_ofColumn]
  omega

theorem foldl_extend {indentation : List Char} (spaced : ∀ c ∈ indentation, c = ' ' ∨ c = '\t')
    (crossesLine : Bool) (column : Nat) :
    indentation.foldl Margin.extend ⟨crossesLine, .ofColumn column⟩ =
      ⟨crossesLine, .ofColumn (column + columns indentation)⟩ := by
  induction indentation generalizing column with
  | nil => rfl
  | cons c rest ih =>
      have rest_spaced : ∀ d ∈ rest, d = ' ' ∨ d = '\t' := fun d member =>
        spaced d (.tail _ member)
      -- Measuring stops at the widest column, but it never falls back, so sums may be taken at once.
      rcases spaced c (.head _) with rfl | rfl
      · rw [List.foldl_cons, Margin.extend, if_pos rfl, shift_ofColumn, ih rest_spaced]
        simp [columns, Nat.add_assoc]
      · rw [List.foldl_cons, Margin.extend, if_neg (by decide), if_pos rfl, shift_ofColumn,
          ih rest_spaced]
        simp [columns, Nat.add_assoc]

end Line
end Offside
