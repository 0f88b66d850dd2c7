import ScenePlayer.Asset.Picture

/-!
PNG files of the plainest kind: eight bits a channel, without a palette, without
interlacing, with rows that are not filtered and data that is stored rather
than compressed. Such files are written from straight RGBA bytes, and
`Png.decoder` reads them.
-/

namespace ScenePlayer

namespace Png

/-- The eight bytes with which every file starts. -/
def signature : Bytes := [0x89, 0x50, 0x4E, 0x47, 0x0D, 0x0A, 0x1A, 0x0A]

/-- One bit of the cyclic redundancy check. -/
def crcBit (c : UInt32) : UInt32 := if c % 2 = 1 then (c >>> 1) ^^^ 0xEDB88320 else c >>> 1

def crcByte (c : UInt32) (b : UInt8) : UInt32 :=
  (List.range 8).foldl (fun c _ => crcBit c) (c ^^^ b.toUInt32)

/-- The checksum of a chunk's type and data. -/
def crc (bytes : Bytes) : UInt32 := bytes.foldl crcByte 0xFFFFFFFF ^^^ 0xFFFFFFFF

/-- The checksum of the image data before it is packed. -/
def adler (bytes : Bytes) : UInt32 :=
  let (a, b) := bytes.foldl
    (fun (sums : Nat × Nat) byte =>
      let a := (sums.1 + byte.toNat) % 65521
      (a, (sums.2 + a) % 65521))
    (1, 0)
  UInt32.ofNat (b <<< 16 + a)

/-! ### Reading -/

structure Chunk where
  kind : Bytes
  data : Bytes

/-- The chunks of a file behind its signature, up to the end chunk. -/
def chunks : (fuel : Nat) → Bytes → Option (List Chunk)
  | 0, _ => none
  | fuel + 1, bytes => do
      let length := (Bytes.front32 bytes).toNat
      if bytes.length < length + 12 then none
      else
        let body := (bytes.drop 4).take (length + 4)
        if Bytes.front32 (bytes.drop (length + 8)) ≠ crc body then none
        else if body.take 4 = "IEND".toUTF8.data.toList then some []
        else
          let rest ← chunks fuel (bytes.drop (length + 12))
          return ⟨body.take 4, body.drop 4⟩ :: rest

/-- The bytes of a run of stored blocks. -/
def stored : (fuel : Nat) → Bytes → Option Bytes
  | 0, _ => none
  | fuel + 1, header :: a :: b :: c :: d :: rest => do
      let length := Bytes.join16 b a
      if 2 ≤ header.toNat ∨ length + Bytes.join16 d c ≠ 0xFFFF then none
      else if rest.length < length.toNat then none
      else if header = 1 then some (rest.take length.toNat)
      else return rest.take length.toNat ++ (← stored fuel (rest.drop length.toNat))
  | _ + 1, _ => none

/-- What the header chunk says. -/
structure Header where
  width : Nat
  height : Nat
  kind : UInt8

/-- The bytes a pixel of a colour type. -/
def channels : UInt8 → Option Nat
  | 0 => some 1
  | 2 => some 3
  | 4 => some 2
  | 6 => some 4
  | _ => none

/-- The straight colours of pixels of a colour type. -/
def colours : (kind : UInt8) → Bytes → List Colour
  | 0, l :: rest => ⟨l, l, l, 255⟩ :: colours 0 rest
  | 2, r :: g :: b :: rest => ⟨r, g, b, 255⟩ :: colours 2 rest
  | 4, l :: a :: rest => ⟨l, l, l, a⟩ :: colours 4 rest
  | 6, r :: g :: b :: a :: rest => ⟨r, g, b, a⟩ :: colours 6 rest
  | _, _ => []

def header (data : Bytes) : Option Header :=
  match data.drop 8 with
  | [8, kind, 0, 0, 0] =>
      some ⟨(Bytes.front32 data).toNat, (Bytes.front32 (data.drop 4)).toNat, kind⟩
  | _ => none

/-- The bytes of `count` rows of `stride` bytes, each behind a zero. -/
def rows (stride : Nat) : (count : Nat) → Bytes → Option Bytes
  | 0, _ => some []
  | count + 1, 0 :: bytes => do
      if bytes.length < stride then none
      else return bytes.take stride ++ (← rows stride count (bytes.drop stride))
  | _ + 1, _ => none

/-- The image in a file. -/
def read? (bytes : Bytes) : Option StraightImage := do
  if bytes.take 8 ≠ signature then none
  else
    match ← chunks (bytes.length + 1) (bytes.drop 8) with
    | first :: rest =>
        if first.kind ≠ "IHDR".toUTF8.data.toList then none
        else
          let head ← header first.data
          let packed := (rest.filter (·.kind = "IDAT".toUTF8.data.toList)).flatMap Chunk.data
          let unpacked ← stored (packed.length + 1) (packed.drop 2)
          let pixels ← rows (head.width * (← channels head.kind)) head.height unpacked
          let colours := (colours head.kind pixels).toArray
          if head.width = 0 ∨ head.height = 0 then none
          else if full : colours.size = head.width * head.height then
            return ⟨head.width, head.height, colours, full⟩
          else none
    | [] => none

/-- The decoder that reads such files and nothing else. -/
def decoder : ImageDecoder := fun bytes =>
  match read? bytes with
  | some image => .ok image
  | none => .error ["The image format could not be determined"]

/-! ### Writing -/

def chunk (kind : String) (data : Bytes) : Bytes :=
  let body := kind.toUTF8.data.toList ++ data
  Bytes.word32 (UInt32.ofNat data.length) ++ body ++ Bytes.word32 (crc body)

/-- Pack bytes into stored blocks of at most 65535 bytes. -/
def store : (fuel : Nat) → Bytes → Bytes
  | 0, _ => []
  | fuel + 1, bytes =>
      let block := bytes.take 65535
      let rest := bytes.drop 65535
      let length := UInt16.ofNat block.length
      (if rest.isEmpty then 1 else 0) :: (Bytes.word16 length).reverse ++
        (Bytes.word16 (0xFFFF - length)).reverse ++ block ++
        (if rest.isEmpty then [] else store fuel rest)

/-- Put a zero before each of `count` rows. -/
def unfiltered (stride : Nat) : (count : Nat) → Bytes → Bytes
  | 0, _ => []
  | count + 1, bytes => 0 :: (bytes.take stride ++ unfiltered stride count (bytes.drop stride))

/-- The file of a frame of straight RGBA bytes. -/
def write (width height : Nat) (rgba : Bytes) : Bytes :=
  let data := unfiltered (width * 4) height rgba
  signature ++
    chunk "IHDR" (Bytes.word32 (UInt32.ofNat width) ++ Bytes.word32 (UInt32.ofNat height) ++
      [8, 6, 0, 0, 0]) ++
    chunk "IDAT" ([0x78, 0x01] ++ store (data.length + 1) data ++ Bytes.word32 (adler data)) ++
    chunk "IEND" []

end Png

end ScenePlayer
