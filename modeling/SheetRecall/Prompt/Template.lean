import SheetRecall.Value.Display

/-!
# Templates

Texts with holes.  A hole is filled with the text of a variable, which is never read again: what
looks like a hole in it stays as it is.
-/

namespace SheetRecall.Prompt

/-- A piece of a template. -/
inductive Piece where
  | words (text : String)
  | hole (name : String)
  deriving Repr, DecidableEq

/-- A text with holes. -/
abbrev Template := List Piece

/-- The text of a piece, if its variable is given. -/
def Piece.fill? (values : Fields) : Piece → Option String
  | words text => some text
  | hole name => (values.get? name).map Value.display

/-- The text of a template whose variables are all given. -/
def Template.fill? (template : Template) (values : Fields) : Option String :=
  (template.mapM (Piece.fill? values)).map String.join

/-- Lines of words. -/
def lines (texts : List String) : Piece := .words ("\n".intercalate texts)

end SheetRecall.Prompt
