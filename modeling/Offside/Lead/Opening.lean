import Offside.Lead
import Offside.Place.Order

/-!
# How lines open

The first character of a line says whether the line starts a statement or continues one, or else
leaves it open. An open question is decided by reading on, and only when it is asked. The answer is
kept, so that asking again reads nothing. Main statements:

* `ask_ask` — asking again gives the same answer and stays where it is.
* `reached_ask_of_not_isAmbiguous` — without an open question nothing is read.
-/

namespace Offside

inductive Opening
  | statement
  | continuation
  /-- The first character does not decide; `answer` is what reading on has shown. -/
  | ambiguous (answer : Option Bool)
  deriving DecidableEq, Repr

namespace Opening

def ofCertainty : Option Certainty → Opening
  | none => statement
  | some .immediate => continuation
  | some .ambiguous => ambiguous none

/-- How a line opens whose first character is the next one. -/
def ofPlace (head : Place) : Opening :=
  ofCertainty (head.lookahead.bind Certainty.ofChar?)

def isAmbiguous : Opening → Bool
  | ambiguous _ => true
  | _ => false

/-! ## Reading on -/

/-- The length of the keywords. -/
def keywordLength : Nat := 4

def isAscii (c : Char) : Bool :=
  c.toNat < 128

/-- Reads up to four ASCII characters and compares them with the keywords. A keyword counts only if
no character follows that would make it a longer word. -/
def resolveWord (head : Place) : Bool × Place :=
  let word := (head.after.take keywordLength).takeWhile isAscii
  let reached := head.advanceBy word.length
  (Lead.keywords.contains (String.ofList word) && !reached.lookahead.any Lead.isWordChar, reached)

/-- Whether a line that opens with an ambiguous lead continues a statement, and how far it has to be
read to see that. -/
def resolve (head : Place) : Bool × Place :=
  match head.after with
  | '>' :: '>' :: _ => (false, head.advance)
  | '>' :: '|' :: rest => (rest.head? != some '<', head.advance.advance)
  | '>' :: _ => (true, head.advance)
  | '<' :: rest => (rest.head? != some '<', head.advance)
  | 't' :: _ => resolveWord head
  | 'e' :: _ => resolveWord head
  | _ => (false, head)

/-! ## Asking -/

structure Answer where
  /-- Whether the line goes on with the statement of the line before it. -/
  continues : Bool
  /-- How far the text was read. -/
  reached : Place
  /-- The opening with its answer kept. -/
  opening : Opening

/-- Asks whether a line continues a statement; `here` is how far the line was read. -/
def ask (opening : Opening) (here : Place) : Answer :=
  match opening with
  | statement => ⟨false, here, statement⟩
  | continuation => ⟨true, here, continuation⟩
  | ambiguous (some answer) => ⟨answer, here, ambiguous (some answer)⟩
  | ambiguous none =>
      let (answer, reached) := resolve here
      ⟨answer, reached, ambiguous (some answer)⟩

theorem ask_ask (opening : Opening) (here : Place) :
    (opening.ask here).opening.ask (opening.ask here).reached = opening.ask here := by
  cases opening with
  | statement => rfl
  | continuation => rfl
  | ambiguous answer => cases answer <;> rfl

theorem isAmbiguous_ask (opening : Opening) (here : Place) :
    (opening.ask here).opening.isAmbiguous = opening.isAmbiguous := by
  cases opening with
  | statement => rfl
  | continuation => rfl
  | ambiguous answer => cases answer <;> rfl

theorem reached_ask_of_not_isAmbiguous {opening : Opening} (here : Place)
    (h : opening.isAmbiguous = false) : (opening.ask here).reached = here := by
  cases opening with
  | statement => rfl
  | continuation => rfl
  | ambiguous answer => cases h

theorem le_reached_resolve (head : Place) : head ≤ (resolve head).2 := by
  unfold resolve
  split
  · exact Place.le_advance head
  · exact Place.le_trans (Place.le_advance head) (Place.le_advance _)
  · exact Place.le_advance head
  · exact Place.le_advance head
  · exact Place.le_advanceBy head _
  · exact Place.le_advanceBy head _
  · exact Place.le_refl head

theorem le_reached_ask (opening : Opening) (here : Place) : here ≤ (opening.ask here).reached := by
  cases opening with
  | statement => exact Place.le_refl here
  | continuation => exact Place.le_refl here
  | ambiguous answer =>
      cases answer with
      | none => exact le_reached_resolve here
      | some _ => exact Place.le_refl here

end Opening

end Offside
