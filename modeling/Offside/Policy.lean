import Offside.Acceptance
import Offside.Place
import Offside.Text.Blank

/-!
# Acceptance policies

A host with a grammar knows from its parse state which external tokens it can take. A policy
approximates that from the text in front of the place.
-/

namespace Offside

inductive Policy
  /-- Every token, everywhere. -/
  | permissive
  /-- Every token, but behind an open bracket or a comma the line counts as unfinished. -/
  | heuristic
  deriving DecidableEq, Repr, Inhabited

namespace Policy

def name : Policy → String
  | permissive => "permissive"
  | heuristic => "heuristic"

def ofName? (name : String) : Option Policy :=
  [permissive, heuristic].find? fun policy => policy.name == name

/-- The name of the policy in the trace. -/
def title : Policy → String
  | permissive => "Permissive"
  | heuristic => "Heuristic"

/-- The characters behind which a line counts as unfinished. -/
def leavesLineOpen (c : Char) : Bool :=
  c == '(' || c == '[' || c == '<' || c == ','

/-- Whether the last character in front of the place that is not blank leaves its line open. -/
def isInsideContinuation (p : Place) : Bool :=
  (p.before.find? fun c => !Text.isBlank c).any leavesLineOpen

def acceptance (policy : Policy) (p : Place) : Acceptance :=
  match policy with
  | permissive => .producible
  | heuristic =>
      if isInsideContinuation p then
        Acceptance.producible.insert .endContinuation
      else
        .producible

/-- The policy at a byte offset. An offset that is no place of the text continues nothing. -/
def acceptanceAt (policy : Policy) (text : List Char) (offset : Nat) : Acceptance :=
  match Place.at? text offset with
  | some p => policy.acceptance p
  | none => .producible

end Policy

end Offside
