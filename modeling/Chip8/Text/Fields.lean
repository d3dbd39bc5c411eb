/-!
# Fields

A text cut at every occurrence of a separator. There is always at least one field.
-/

namespace Chip8.Fields

def split (separator : Char) : List Char → List (List Char)
  | [] => [[]]
  | c :: cs =>
    if c = separator then [] :: split separator cs
    else
      match split separator cs with
      | [] => [[c]]
      | field :: rest => (c :: field) :: rest

end Chip8.Fields
