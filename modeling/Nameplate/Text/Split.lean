/-!
# Splitting a text at a character
-/

namespace Nameplate.Text

/-- The parts of a text between the places where a character stands; there is always one. -/
def splitOn (sep : Char) : List Char → List (List Char)
  | [] => [[]]
  | c :: rest =>
    if c == sep then [] :: splitOn sep rest
    else match splitOn sep rest with
      | part :: parts => (c :: part) :: parts
      | [] => [[c]]

end Nameplate.Text
