import ScenePlayer.Bytes.Hex
import ScenePlayer.Settings.Document

/-!
JSON. Reading is strict: a text is one value with blanks around it. Readers answer
with what they have read and the rest.
-/

namespace ScenePlayer

namespace Document

/-- The blanks of documents. -/
def isSpace (c : Char) : Bool := c == ' ' || c == '\n' || c == '\t' || c == '\r'

def skipSpaces (text : List Char) : List Char := text.dropWhile isSpace

/-! ### Numbers -/

def isDigit (c : Char) : Bool := decide ('0' ≤ c) && decide (c ≤ '9')

/-- The digits at the front, of which there has to be one. -/
def digits (text : List Char) : Option (List Char × List Char) :=
  match text.takeWhile isDigit with
  | [] => none
  | found => some (found, text.dropWhile isDigit)

/-- The digits of a whole number: no zero stands in front of others. -/
def wholeDigits : List Char → Option (List Char × List Char)
  | '0' :: rest => some (['0'], rest)
  | text => digits text

/-- The rest behind a fraction, and whether there was one. -/
def fraction : List Char → Option (Bool × List Char)
  | '.' :: rest => (digits rest).map fun found => (true, found.2)
  | text => some (false, text)

/-- Without a sign at the front. -/
def dropSign : List Char → List Char
  | '+' :: rest => rest
  | '-' :: rest => rest
  | text => text

/-- The rest behind an exponent, and whether there was one. -/
def exponent : List Char → Option (Bool × List Char)
  | 'e' :: rest => (digits (dropSign rest)).map fun found => (true, found.2)
  | 'E' :: rest => (digits (dropSign rest)).map fun found => (true, found.2)
  | text => some (false, text)

/-- The number that digits denote. -/
def valueOf (found : List Char) : Nat :=
  found.foldl (fun sofar c => 10 * sofar + (c.toNat - '0'.toNat)) 0

/-- A number behind its sign. -/
def magnitude (signed : Bool) (text : List Char) : Option (Document × List Char) := do
  let (found, rest) ← wholeDigits text
  let (hasFraction, rest) ← fraction rest
  let (hasExponent, rest) ← exponent rest
  return (.number (if signed || hasFraction || hasExponent then none else some (valueOf found)),
    rest)

/-! ### Texts -/

/-- The character that an escape of one letter stands for. -/
def escaped : Char → Option Char
  | '"' => some '"'
  | '\\' => some '\\'
  | '/' => some '/'
  | 'b' => some '\x08'
  | 'f' => some '\x0c'
  | 'n' => some '\n'
  | 'r' => some '\r'
  | 't' => some '\t'
  | _ => none

/-- The codes up to the closing quote; escapes by number can give halves of
surrogate pairs. -/
def codes : List Char → Option (List Nat × List Char)
  | [] => none
  | '"' :: rest => some ([], rest)
  | '\\' :: 'u' :: a :: b :: c :: d :: rest => do
      let digits ← [a, b, c, d].mapM Hex.value
      let (more, rest) ← codes rest
      return (digits.foldl (fun code digit => 16 * code + digit) 0 :: more, rest)
  | '\\' :: c :: rest => do
      let c ← escaped c
      let (more, rest) ← codes rest
      return (c.toNat :: more, rest)
  | c :: rest => do
      if c < ' ' then none
      else
        let (more, rest) ← codes rest
        return (c.toNat :: more, rest)

def isHighHalf (code : Nat) : Bool := decide (0xD800 ≤ code) && decide (code < 0xDC00)

def isLowHalf (code : Nat) : Bool := decide (0xDC00 ≤ code) && decide (code < 0xE000)

/-- The characters of codes, pairs put together; halves on their own have none. -/
def characters : List Nat → Option (List Char)
  | [] => some []
  | code :: rest =>
      if isLowHalf code then none
      else if isHighHalf code then
        match rest with
        | low :: rest =>
            if isLowHalf low then
              (characters rest).map
                (Char.ofNat (0x10000 + (code - 0xD800) * 0x400 + (low - 0xDC00)) :: ·)
            else none
        | [] => none
      else (characters rest).map (Char.ofNat code :: ·)

/-- A text behind its opening quote. -/
def quoted (text : List Char) : Option (Option String × List Char) :=
  (codes text).map fun found => ((characters found.1).map String.ofList, found.2)

/-! ### Values -/

/-- Read the given characters. -/
def word : List Char → List Char → Option (List Char)
  | [], text => some text
  | c :: rest, d :: text => if c = d then word rest text else none
  | _ :: _, [] => none

mutual

/-- A value behind blanks. Values are nested less deeply than `fuel`. -/
def value : (fuel : Nat) → List Char → Option (Document × List Char)
  | 0, _ => none
  | fuel + 1, text =>
      match skipSpaces text with
      | 'n' :: rest => (word ['u', 'l', 'l'] rest).map (.null, ·)
      | 't' :: rest => (word ['r', 'u', 'e'] rest).map (.truth true, ·)
      | 'f' :: rest => (word ['a', 'l', 's', 'e'] rest).map (.truth false, ·)
      | '"' :: rest => (quoted rest).map fun found => (.string found.1, found.2)
      | '-' :: rest => magnitude true rest
      | '[' :: rest =>
          match skipSpaces rest with
          | ']' :: rest => some (.list [], rest)
          | rest => (items fuel rest).map fun found => (.list found.1, found.2)
      | '\x7b' :: rest =>
          match skipSpaces rest with
          | '\x7d' :: rest => some (.record [], rest)
          | rest => (members fuel rest).map fun found => (.record found.1, found.2)
      | text => magnitude false text

/-- The values of a list up to its end. -/
def items : (fuel : Nat) → List Char → Option (List Document × List Char)
  | 0, _ => none
  | fuel + 1, text => do
      let (first, rest) ← value fuel text
      match skipSpaces rest with
      | ']' :: rest => return ([first], rest)
      | ',' :: rest => do
          let (more, rest) ← items fuel rest
          return (first :: more, rest)
      | _ => none

/-- The members of a record up to its end. -/
def members : (fuel : Nat) → List Char → Option (List (Option String × Document) × List Char)
  | 0, _ => none
  | fuel + 1, text => do
      match skipSpaces text with
      | '"' :: rest =>
          let (key, rest) ← quoted rest
          match skipSpaces rest with
          | ':' :: rest =>
              let (first, rest) ← value fuel rest
              match skipSpaces rest with
              | '\x7d' :: rest => return ([(key, first)], rest)
              | ',' :: rest => do
                  let (more, rest) ← members fuel rest
                  return ((key, first) :: more, rest)
              | _ => none
          | _ => none
      | _ => none

end

/-- The document that a text is. Each level of nesting takes up a character, so
the length of the text is fuel enough. -/
def read? (text : String) : Option Document :=
  let characters := text.toList
  match value (2 * characters.length + 2) characters with
  | some (document, rest) => if (skipSpaces rest).isEmpty then some document else none
  | none => none

end Document

end ScenePlayer
