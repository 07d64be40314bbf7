import Offside.External
import Offside.Levels
import Offside.Policy
import Offside.Refusal

/-!
# Notices

The trace of a session: what was decided, in the order of the decisions. Computations that leave a
trace return it beside their value.
-/

namespace Offside

inductive Severity
  | trace
  | debug
  | info
  | warn
  deriving DecidableEq, Repr

def Severity.name : Severity → String
  | trace => "TRACE"
  | debug => "DEBUG"
  | info => "INFO"
  | warn => "WARN"

inductive Notice
  /-- A session begins with a fresh state. -/
  | begins (sourceSize : Nat) (policy : Policy)
  /-- A session begins with a saved state. -/
  | resumes (offset depth : Nat)
  /-- A scan gave out a token; the counts describe the state after it. -/
  | produced (token : External) (depth : Nat) (closes separators : UInt32)
  | refused (refusal : Refusal)
  /-- A dedent left the enclosing block at another level than its own. -/
  | strayDedent (indent enclosing : Level)
  /-- A checkpoint has no room for all levels. -/
  | truncates (depth dropped capacity : Nat)
  /-- A session reached the end of its text. -/
  | completes (lexemes checkpoints : Nat)
  deriving DecidableEq, Repr

/-- The value of a field of a notice. -/
inductive Notice.Value
  | number (n : Nat)
  | text (s : String)
  deriving DecidableEq, Repr

namespace Notice

def severity : Notice → Severity
  | begins .. => .info
  | resumes .. => .debug
  | produced .. => .trace
  | refused .. => .trace
  | strayDedent .. => .debug
  | truncates .. => .warn
  | completes .. => .debug

def message : Notice → String
  | begins .. => "tokenize"
  | resumes .. => "resuming from checkpoint"
  | produced .. => "external token"
  | refused .. => "no external token"
  | strayDedent .. => "dedent to a column that matches no open block"
  | truncates .. => "layout stack exceeds checkpoint capacity; dropping outermost levels"
  | completes .. => "layout stream complete"

def fields : Notice → List (String × Value)
  | begins sourceSize policy =>
      [("source_len", .number sourceSize), ("policy", .text policy.title)]
  | resumes offset depth => [("offset", .number offset), ("depth", .number depth)]
  | produced token depth closes separators =>
      [("symbol", .text token.spelling), ("depth", .number depth),
       ("pending_close", .number closes.toNat), ("pending_semi", .number separators.toNat)]
  | refused refusal => [("error", .text refusal.message)]
  | strayDedent indent enclosing =>
      [("indent", .number indent.toNat), ("enclosing", .number enclosing.toNat)]
  | truncates depth dropped capacity =>
      [("depth", .number depth), ("dropped", .number dropped), ("capacity", .number capacity)]
  | completes lexemes checkpoints =>
      [("lexemes", .number lexemes), ("checkpoints", .number checkpoints)]

end Notice

/-- A value and the trace of finding it. -/
structure Logged (α : Type) where
  value : α
  notices : List Notice

end Offside
