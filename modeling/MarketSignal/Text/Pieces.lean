/-
Texts that are lists: pieces with a separator between them. A text without separators is one piece,
and so is the empty text.
-/
namespace MarketSignal.Text

/-- The pieces of a text between the occurrences of a separator. -/
def pieces (separator : Char) : List Char → List (List Char)
  | [] => [[]]
  | c :: rest =>
    if c = separator then [] :: pieces separator rest
    else
      match pieces separator rest with
      | [] => [[c]]
      | piece :: others => (c :: piece) :: others

end MarketSignal.Text
