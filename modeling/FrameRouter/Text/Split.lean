/-!
# Splitting at a separator
-/

namespace FrameRouter.Split

/-- The parts between the separators; there is one more part than separators. -/
def parts (separator : Char) : List Char → List (List Char)
  | [] => [[]]
  | character :: rest =>
      if character = separator then
        [] :: parts separator rest
      else
        match parts separator rest with
        | [] => [[character]]
        | part :: others => (character :: part) :: others

/-- The text in front of the first separator and the text behind it. -/
def first? (separator : Char) : List Char → Option (List Char × List Char)
  | [] => none
  | character :: rest =>
      if character = separator then
        some ([], rest)
      else
        (first? separator rest).map fun sides => (character :: sides.1, sides.2)

end FrameRouter.Split
