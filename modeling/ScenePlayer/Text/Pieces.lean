/-!
Pieces of texts between separators. A text has one piece more than separators;
pieces can be empty.
-/

namespace ScenePlayer

/-- Put a character in front of the first piece. -/
def extendFirst (c : Char) : List (List Char) → List (List Char)
  | [] => [[c]]
  | piece :: pieces => (c :: piece) :: pieces

/-- The pieces between the separators. -/
def pieces (separator : Char) : List Char → List (List Char)
  | [] => [[]]
  | c :: rest =>
      if c = separator then [] :: pieces separator rest
      else extendFirst c (pieces separator rest)

/-- What stands before and behind the first separator. -/
def splitFirst (isSeparator : Char → Bool) : List Char → Option (List Char × List Char)
  | [] => none
  | c :: rest =>
      if isSeparator c then some ([], rest)
      else (splitFirst isSeparator rest).map fun halves => (c :: halves.1, halves.2)

end ScenePlayer
