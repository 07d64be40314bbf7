import Offside.External

/-!
# Acceptance sets

Which external tokens the host's grammar can take next.
-/

namespace Offside

structure Acceptance where
  openBrace : Bool := false
  closeBrace : Bool := false
  semicolon : Bool := false
  rawString : Bool := false
  endContinuation : Bool := false
  deriving DecidableEq, Repr, Inhabited

namespace Acceptance

def accepts (set : Acceptance) : External → Bool
  | .openBrace => set.openBrace
  | .closeBrace => set.closeBrace
  | .semicolon => set.semicolon
  | .rawString => set.rawString
  | .endContinuation => set.endContinuation

def empty : Acceptance := {}

/-- Makes `token` acceptable or not, and leaves the other tokens as they are. -/
def update (set : Acceptance) (token : External) (acceptable : Bool) : Acceptance :=
  match token with
  | .openBrace => { set with openBrace := acceptable }
  | .closeBrace => { set with closeBrace := acceptable }
  | .semicolon => { set with semicolon := acceptable }
  | .rawString => { set with rawString := acceptable }
  | .endContinuation => { set with endContinuation := acceptable }

def insert (set : Acceptance) (token : External) : Acceptance :=
  set.update token true

def erase (set : Acceptance) (token : External) : Acceptance :=
  set.update token false

/-- Exactly the listed tokens. -/
def ofList (tokens : List External) : Acceptance :=
  tokens.foldl insert empty

/-- Every token that a scan can produce. -/
def producible : Acceptance :=
  ofList (External.all.filter External.isProduced)

/-- Reads a set by slots. Missing slots are not accepted, surplus ones are ignored. -/
def ofSlots (slots : List Bool) : Acceptance :=
  ofList (External.all.filter fun token => slots[token.slot]?.getD false)

def slots (set : Acceptance) : List Bool :=
  External.all.map set.accepts

/-- The accepted tokens, by slot. -/
def toList (set : Acceptance) : List External :=
  External.all.filter set.accepts

theorem accepts_update (set : Acceptance) (token other : External) (acceptable : Bool) :
    (set.update token acceptable).accepts other =
      if other = token then acceptable else set.accepts other := by
  cases token <;> cases other <;> rfl

theorem accepts_empty (token : External) : empty.accepts token = false := by
  cases token <;> rfl

end Acceptance

end Offside
