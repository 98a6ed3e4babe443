/-!
# Notices

What an operation reports beside its answer.  Notices are values in the order in which they were
given, so that an operation stays a function.
-/

namespace SheetRecall

/-- How serious a notice is. -/
inductive Notice.Level where
  | debug
  | warning
  | error
  deriving Repr, DecidableEq

/-- A message for whoever runs the library. -/
structure Notice where
  level : Notice.Level
  message : String
  deriving Repr, DecidableEq

namespace Notice

/-- A notice of detail. -/
def debug (message : String) : Notice := ⟨.debug, message⟩

/-- A notice of something that was put right or left out. -/
def warning (message : String) : Notice := ⟨.warning, message⟩

/-- A notice of something that failed. -/
def error (message : String) : Notice := ⟨.error, message⟩

end Notice

end SheetRecall
