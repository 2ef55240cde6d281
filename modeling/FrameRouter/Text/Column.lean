/-!
# Columns

Texts filled up with blanks to the width of a report column.
-/

namespace FrameRouter.Column

/-- Blanks behind the text. -/
def left (width : Nat) (text : String) : String :=
  text ++ String.ofList (List.replicate (width - text.length) ' ')

/-- Blanks in front of the text. -/
def right (width : Nat) (text : String) : String :=
  String.ofList (List.replicate (width - text.length) ' ') ++ text

end FrameRouter.Column
