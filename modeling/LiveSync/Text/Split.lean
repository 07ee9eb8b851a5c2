/-!
# Splitting text

The parts of a text between the occurrences of one character, and the text that such parts make.
-/

namespace LiveSync.Text

/-- The parts between the occurrences of a character; there is always one at least. -/
def splitOn (sep : Char) : List Char → List (List Char)
  | [] => [[]]
  | c :: cs =>
    match splitOn sep cs with
    | part :: parts => if c = sep then [] :: part :: parts else (c :: part) :: parts
    | [] => [[c]]

/-- The parts with a character between them. -/
def joinWith (sep : Char) : List (List Char) → List Char
  | [] => []
  | [part] => part
  | part :: parts => part ++ sep :: joinWith sep parts

end LiveSync.Text
