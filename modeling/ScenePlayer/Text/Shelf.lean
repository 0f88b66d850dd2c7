import ScenePlayer.Asset.Store
import ScenePlayer.Text.Face

/-!
The faces that a painter has loaded. A font is read when text is first drawn with it,
and again once the store holds another payload under its identifier. Text in a
font that is not there, or cannot be read, is drawn with a face loaded before.
-/

namespace ScenePlayer

/-- A face and the payload it was read from. -/
structure LoadedFace where
  id : String
  stamp : Nat
  face : Face
  deriving DecidableEq, Repr

structure FontShelf where
  /-- In the order in which they were loaded. -/
  loaded : List LoadedFace := []
  deriving DecidableEq, Repr

namespace FontShelf

def faces (shelf : FontShelf) : List Face := shelf.loaded.map LoadedFace.face

/-- All faces, the one given first. -/
def startingWith (face : LoadedFace) (shelf : FontShelf) : List Face :=
  face.face :: (shelf.loaded.filter fun other => other.id ≠ face.id).map LoadedFace.face

/-- Load a font under an identifier, in place of the face loaded before. The
answer is the faces to draw with, in order of preference. -/
def load (id : String) (font : Font) (shelf : FontShelf) : List Face × FontShelf :=
  let rest : FontShelf := ⟨shelf.loaded.filter fun face => face.id ≠ id⟩
  match Face.read? font.file.bytes with
  | none => (rest.faces, rest)
  | some face =>
      let entry : LoadedFace := ⟨id, font.stamp, face⟩
      (rest.startingWith entry, ⟨rest.loaded ++ [entry]⟩)

/-- The faces for text in the font `id`, whose stored payload is `font`. -/
def select (id : String) (font : Option Font) (shelf : FontShelf) : List Face × FontShelf :=
  match font with
  | none => (shelf.faces, shelf)
  | some font =>
      match shelf.loaded.find? fun face => face.id = id ∧ face.stamp = font.stamp with
      | some face => (shelf.startingWith face, shelf)
      | none => shelf.load id font

end FontShelf

end ScenePlayer
