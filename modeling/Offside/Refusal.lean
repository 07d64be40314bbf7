import Offside.Diagnostic

/-!
# Refusals

Why a scan gives out no token. This is the normal way of saying that the place is not one for an
external token: the host goes back and reads the place in another way.
-/

namespace Offside

inductive Refusal
  | nothingApplies
  /-- The line at the innermost level goes on with the statement before it. -/
  | lineContinues
  | noRawString
  | openRawString (pounds : UInt32)
  /-- The level of the block before was never recorded. -/
  | levelOutstanding
  deriving DecidableEq, Repr

namespace Refusal

def message : Refusal → String
  | nothingApplies => "no external token applies at this position"
  | lineContinues => "line continues the previous statement"
  | noRawString => "`r` is not followed by `#`* and a quote"
  | openRawString pounds =>
      s!"raw string opened with {pounds} `#` is not terminated before end of input"
  | levelOutstanding =>
      "`\x7b` consumed while the layout push for a previous `\x7b` is still outstanding"

def code : Refusal → String
  | nothingApplies => "kokascan::scan::no_token"
  | lineContinues => "kokascan::scan::continuation_line"
  | noRawString => "kokascan::scan::not_raw_string"
  | openRawString _ => "kokascan::scan::unterminated_raw_string"
  | levelOutstanding => "kokascan::scan::pending_push_outstanding"

def help : Refusal → Option String
  | openRawString _ =>
      some ("close the literal with a quote followed by the same number of `#` it was opened " ++
        "with")
  | levelOutstanding => some "the host must run a scan between two explicit open braces"
  | _ => none

/-- Whether the host may read the place in another way and go on. -/
def isRecoverable (refusal : Refusal) : Bool :=
  refusal != levelOutstanding

def diagnostic (refusal : Refusal) : Diagnostic where
  message := refusal.message
  code := refusal.code
  help := refusal.help

end Refusal

end Offside
