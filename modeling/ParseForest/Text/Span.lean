import ParseForest.Text.Document

namespace ParseForest.Text

structure Span where
  start : Position := Position.origin
  stop : Position := Position.origin
  deriving DecidableEq, Repr

namespace Span

def point (here : Position) : Span := ⟨here,here⟩

-- The span between two offsets of a document.
def of (document : Document) (start stop : Nat) : Span :=
  ⟨document.position start,document.position stop⟩

def merge (first second : Span) : Span where
  start := if first.start.offset ≤ second.start.offset then first.start else second.start
  stop := if second.stop.offset ≤ first.stop.offset then first.stop else second.stop

end Span

end ParseForest.Text
