import SheetRecall.Value.Convert

/-!
# Relevance

A distance between 0 and 2 is a relevance between 1 and 0: what is closest is most relevant.
-/

namespace SheetRecall.Query

/-- The relevance of a distance. -/
def relevance (distance : Float) : Float := (2.0 - distance) / 2.0

/-- The relevance of a distance given as any number. -/
def relevanceOf : Value → Except Fault Float
  | .text _ => .error .wrongKind
  | v => v.toFloat.map relevance

end SheetRecall.Query
