/-!
# Splitting text

The parts of a text between separators. Two separators in a row have an empty part between them, and
so do a separator and the beginning or the end of the text.
-/

namespace LendingClient.Text

/-- The parts of a text between separators. -/
def split (separator : Char) : List Char → List (List Char)
  | [] => [[]]
  | c :: rest =>
    if c = separator then [] :: split separator rest
    else match split separator rest with
      | [] => [[c]]
      | part :: parts => (c :: part) :: parts

end LendingClient.Text
