/-!
Documents: what a text in a notation for values says. Of numbers only those are
told apart that are written as whole numbers, without a sign, fraction or exponent.
A text with half of a surrogate pair is well-formed, but has no characters.
-/

namespace ScenePlayer

inductive Document where
  | null
  | truth (value : Bool)
  /-- The value is missing for numbers written in any other way. -/
  | number (whole : Option Nat)
  /-- The text is missing if it has half of a surrogate pair. -/
  | string (text : Option String)
  | list (items : List Document)
  | record (members : List (Option String × Document))

/-- A reader of documents, for a notation. -/
abbrev DocumentReader : Type := String → Option Document

end ScenePlayer
