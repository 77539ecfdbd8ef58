import Dust.Text.Utf8

/-!
# Spans

A span is a range of bytes of the source of a template.
-/

namespace Dust

/-- The bytes from a start up to a stop, which is not part of the span. -/
structure Span where
  /-- The first byte. -/
  start : Nat
  /-- The byte after the last one. -/
  stop : Nat
  deriving DecidableEq, Inhabited

namespace Span

/-- The least span that covers two spans. -/
def cover (a b : Span) : Span :=
  ⟨min a.start b.start, max a.stop b.stop⟩

/-- The text at a span, empty if the span is not in the source. -/
def textIn (span : Span) (source : List Char) : List Char :=
  (Text.slice? source span.start span.stop).getD []

end Span

end Dust
