import ScenePlayer.Colour
import ScenePlayer.Text.Blank
import ScenePlayer.Text.Pieces

/-!
Values as they are written in arguments and in the environment: whole numbers,
sizes such as `640x480` and colours such as `10, 20, 30`.
-/

namespace ScenePlayer

/-- The value of a decimal digit. -/
def digitValue (c : Char) : Option Nat :=
  if '0' ≤ c ∧ c ≤ '9' then some (c.toNat - '0'.toNat) else none

/-- Read digits behind a number that has been read so far. -/
def readDigits (sofar : Nat) : List Char → Option Nat
  | [] => some sofar
  | c :: rest => (digitValue c).bind fun digit => readDigits (10 * sofar + digit) rest

/-- Without a plus sign at the front. -/
def dropPlus : List Char → List Char
  | '+' :: rest => rest
  | text => text

/-- The number below `bound` that a text denotes: digits behind an optional plus
sign. -/
def literal (bound : Nat) (text : List Char) : Option Nat :=
  match dropPlus text with
  | [] => none
  | digits => (readDigits 0 digits).bind fun n => if n < bound then some n else none

/-- A literal with blanks around it. -/
def paddedLiteral (bound : Nat) (text : List Char) : Option Nat := literal bound (trimBlanks text)

/-- The width and the height in a text such as `640x480`, with blanks around
both. -/
def viewportLiteral (text : String) : Option (Nat × Nat) := do
  let (width, height) ← splitFirst (fun c => c == 'x' || c == 'X') (trimBlanks text.toList)
  return (← paddedLiteral UInt32.size width, ← paddedLiteral UInt32.size height)

/-- The colour with the given channels; without an alpha it is opaque. -/
def Colour.ofChannels : List UInt8 → Option Colour
  | [red, green, blue] => some ⟨red, green, blue, 255⟩
  | [red, green, blue, alpha] => some ⟨red, green, blue, alpha⟩
  | _ => none

/-- The colour in a text such as `10, 20, 30` or `10, 20, 30, 255`, with blanks
around each number. -/
def colourLiteral (text : String) : Option Colour := do
  let channels ← (pieces ',' text.toList).mapM (paddedLiteral UInt8.size)
  Colour.ofChannels (channels.map UInt8.ofNat)

end ScenePlayer
