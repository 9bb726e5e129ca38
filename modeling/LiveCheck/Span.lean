/-!
Byte ranges of a source text.

A span is a pair of byte offsets, start inclusive and stop exclusive. Nothing
forces `start ≤ stop`: a span read from outside may be inverted, and its length
is then zero.
-/

namespace LiveCheck

/-- A range of byte offsets, `start` inclusive and `stop` exclusive. -/
structure Span where
  start : Nat
  stop : Nat
deriving DecidableEq, Repr, Inhabited

namespace Span

/-- The span of no bytes at `offset`. -/
def empty (offset : Nat) : Span := ⟨offset, offset⟩

/-- Whether start and stop coincide. -/
def isEmpty (span : Span) : Bool :=
  span.start == span.stop

/-- The number of bytes covered; an inverted span covers none. -/
def length (span : Span) : Nat :=
  span.stop - span.start

/-- The least span that covers both. -/
def merge (a b : Span) : Span :=
  ⟨min a.start b.start, max a.stop b.stop⟩

/-- Whether the byte at `offset` is covered. -/
def contains (span : Span) (offset : Nat) : Bool :=
  span.start ≤ offset && offset < span.stop

/-- Whether a cursor at `offset` is inside the span or at one of its edges. -/
def touches (span : Span) (offset : Nat) : Bool :=
  span.start ≤ offset && offset ≤ span.stop

/-- Spans are ordered by start, then by stop. -/
def compare (a b : Span) : Ordering :=
  (Ord.compare a.start b.start).then (Ord.compare a.stop b.stop)

/-- Move a span to the right. -/
def shift (amount : Nat) (span : Span) : Span :=
  ⟨span.start + amount, span.stop + amount⟩

end Span

end LiveCheck
