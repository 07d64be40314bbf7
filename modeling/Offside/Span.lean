/-!
# Spans

A span is a range of bytes of a source text. A span whose ends coincide, or stand in the wrong
order, covers nothing.
-/

namespace Offside

structure Span where
  start : Nat
  stop : Nat
  deriving DecidableEq, Repr, Inhabited

namespace Span

def size (span : Span) : Nat :=
  span.stop - span.start

def isEmpty (span : Span) : Bool :=
  span.size == 0

@[simp]
theorem isEmpty_iff (span : Span) : span.isEmpty = true ↔ span.stop ≤ span.start := by
  simp [isEmpty, size, Nat.sub_eq_zero_iff_le]

end Span

end Offside
