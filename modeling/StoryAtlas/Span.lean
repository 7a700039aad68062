/-! Byte ranges of a source text.
A span is half open and never runs backwards: the order of its ends is part of the type.
-/

namespace StoryAtlas

/-- The bytes from `start` up to, and without, `stop`. -/
structure Span where
  start : Nat
  stop : Nat
  ordered : start ≤ stop
deriving DecidableEq

namespace Span

/-- The span between two offsets; one whose end lies before its start is empty at the start. -/
def between (start stop : Nat) : Span :=
  ⟨start, max stop start, Nat.le_max_right stop start⟩

/-- The empty span at an offset. -/
def point (offset : Nat) : Span :=
  ⟨offset, offset, Nat.le_refl offset⟩

/-- The number of bytes. -/
def length (span : Span) : Nat :=
  span.stop - span.start

def isEmpty (span : Span) : Bool :=
  span.start == span.stop

theorem start_add_length (span : Span) : span.start + span.length = span.stop :=
  Nat.add_sub_cancel' span.ordered

@[simp]
theorem length_point (offset : Nat) : (point offset).length = 0 := by
  simp [length, point]

end Span

end StoryAtlas
