import ScenePlayer.Bytes.Word

/-!
Faces: what is read of a TrueType font file. A glyph is taken as the box around
its outline. Sizes are in the units of the face, and heights count upwards from
the baseline.
-/

namespace ScenePlayer

/-- The box around the outline of a glyph. -/
structure GlyphBox where
  left : Int
  bottom : Int
  right : Int
  top : Int
  deriving DecidableEq, Repr

structure Glyph where
  /-- How far the next glyph is away. -/
  advance : Nat
  /-- Missing for a glyph without an outline. -/
  box : Option GlyphBox
  deriving DecidableEq, Repr, Inhabited

/-- A run of characters with consecutive codes. -/
structure CharacterRun where
  first : Nat
  last : Nat
  /-- Added to a code, or to a listed glyph, modulo 2^16. -/
  shift : Nat
  /-- The glyphs of the run, where they are listed, two bytes each. -/
  listed : Option Bytes
  deriving DecidableEq, Repr

structure Face where
  unitsPerEm : Nat
  ascender : Int
  /-- Negative if glyphs reach below the baseline. -/
  descender : Int
  /-- The first one stands for characters that the face does not have. -/
  glyphs : Array Glyph
  characters : List CharacterRun
  deriving DecidableEq, Repr

namespace Face

/-! ### Reading -/

/-- The 16-bit word at an offset. -/
def unsigned (bytes : Bytes) (offset : Nat) : Nat := (Bytes.front16 (bytes.drop offset)).toNat

/-- The 16-bit word at an offset, with a sign. -/
def signed (bytes : Bytes) (offset : Nat) : Int :=
  let n := unsigned bytes offset
  if n < 1 <<< 15 then n else (n : Int) - UInt16.size

/-- The 32-bit word at an offset. -/
def long (bytes : Bytes) (offset : Nat) : Nat := (Bytes.front32 (bytes.drop offset)).toNat

/-- The bytes of a file from the start of the table with the given tag on. -/
def table (file : Bytes) (tag : Bytes) : Option Bytes :=
  let entries := (List.range (unsigned file 4)).map fun i => file.drop (12 + 16 * i)
  (entries.find? fun entry => entry.take 4 == tag).map fun entry => file.drop (long entry 8)

/-- Tags are four characters. -/
def tag (name : String) : Bytes := name.toList.map fun c => UInt8.ofNat c.toNat

/-- One run of a table of character runs with `count` runs. -/
def characterRun (runs : Bytes) (count i : Nat) : CharacterRun :=
  let ranges := 16 + 6 * count + 2 * i
  let range := unsigned runs ranges
  { first := unsigned runs (16 + 2 * count + 2 * i)
    last := unsigned runs (14 + 2 * i)
    shift := unsigned runs (16 + 4 * count + 2 * i)
    listed := if range = 0 then none else some (runs.drop (ranges + range)) }

/-- The runs of the first map of characters that is a table of runs. -/
def characterRuns (maps : Bytes) : List CharacterRun :=
  let starts := (List.range (unsigned maps 2)).map fun i => maps.drop (long maps (8 + 8 * i))
  match starts.find? fun start => unsigned start 0 == 4 with
  | none => []
  | some runs =>
      let count := unsigned runs 6 / 2
      (List.range count).map (characterRun runs count)

/-- Where the outline of glyph `i` starts, from the table of locations. -/
def location (wide : Bool) (locations : Bytes) (i : Nat) : Nat :=
  if wide then long locations (4 * i) else 2 * unsigned locations (2 * i)

/-- The glyph `i` of a face whose table of metrics has `metrics` entries. -/
def glyph (wide : Bool) (metrics : Nat) (advances locations outlines : Bytes) (i : Nat) : Glyph :=
  let start := location wide locations i
  let outline := outlines.drop start
  { advance := unsigned advances (4 * min i (metrics - 1))
    box :=
      if location wide locations (i + 1) = start then none
      else some ⟨signed outline 2, signed outline 4, signed outline 6, signed outline 8⟩ }

/-- The face in a font file, if it is one. -/
def read? (file : Bytes) : Option Face :=
  if long file 0 ≠ 0x10000 then none
  else do
    let head ← table file (tag "head")
    let horizontal ← table file (tag "hhea")
    let advances ← table file (tag "hmtx")
    let profile ← table file (tag "maxp")
    let maps ← table file (tag "cmap")
    let locations ← table file (tag "loca")
    let outlines ← table file (tag "glyf")
    let wide := unsigned head 50 != 0
    let metrics := unsigned horizontal 34
    return {
      unitsPerEm := unsigned head 18
      ascender := signed horizontal 4
      descender := signed horizontal 6
      glyphs := ((List.range (unsigned profile 4)).map
        (glyph wide metrics advances locations outlines)).toArray
      characters := characterRuns maps }

/-! ### Characters -/

/-- The number of a character's glyph; 0 if the run does not have it. -/
def numberOf (run : CharacterRun) (code : Nat) : Nat :=
  match run.listed with
  | none => (code + run.shift) % UInt16.size
  | some listed =>
      let n := unsigned listed (2 * (code - run.first))
      if n = 0 then 0 else (n + run.shift) % UInt16.size

/-- The glyph of a character, if the face has one. -/
def glyph? (face : Face) (c : Char) : Option Glyph := do
  let run ← face.characters.find? fun run => run.first ≤ c.toNat && c.toNat ≤ run.last
  let n := numberOf run c.toNat
  if n = 0 then none else face.glyphs[n]?

/-- The glyph for characters that the face does not have. -/
def missing (face : Face) : Glyph := face.glyphs.getD 0 default

end Face

end ScenePlayer
