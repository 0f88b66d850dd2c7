import ScenePlayer.Script.Decoder
import ScenePlayer.Table

/-!
The script store: decoded scripts by identifier, and which of them is the root.
Every stored version gets a generation greater than all before it, across
deletions and clears. Operations that can fail answer beside the store they
leave, which is the old one if they fail.
-/

namespace ScenePlayer

/-- A stored version of a script. -/
structure Script where
  id : String
  instructions : List Instruction
  generation : Nat
  deriving DecidableEq, Repr

/-- The well-known identifier of the script with which a frame starts. -/
def rootId : String := "_root_"

/-- Decode every entry of a batch; the first bad buffer fails it. -/
def decodeBatch : List (String × Bytes) → Except DecodeError (List (String × List Instruction))
  | [] => .ok []
  | (id, bytes) :: rest =>
      match decode bytes with
      | .error error => .error error
      | .ok instructions =>
          match decodeBatch rest with
          | .error error => .error error
          | .ok decoded => .ok ((id, instructions) :: decoded)

structure ScriptStore where
  scripts : Table String Script := ∅
  root : Option String := none
  /-- The generation given out last. -/
  generation : Nat := 0

namespace ScriptStore

/-- Replace the script under `id`. Storing the well-known root makes it root. -/
def put (id : String) (instructions : List Instruction) (store : ScriptStore) : ScriptStore :=
  let generation := store.generation + 1
  { scripts := store.scripts.insert id ⟨id, instructions, generation⟩
    root := if id = rootId then some id else store.root
    generation }

/-- Decode and store; the answer is the generation given. -/
def putEncoded (id : String) (bytes : Bytes) (store : ScriptStore) :
    Except DecodeError Nat × ScriptStore :=
  match decode bytes with
  | .error error => (.error error, store)
  | .ok instructions =>
      let after := store.put id instructions
      (.ok after.generation, after)

/-- Store decoded scripts in order. -/
def putBatch (entries : List (String × List Instruction)) (store : ScriptStore) : ScriptStore :=
  entries.foldl (fun store entry => store.put entry.1 entry.2) store

/-- Decode all entries and then store them; the answer is their number. -/
def putEncodedBatch (entries : List (String × Bytes)) (store : ScriptStore) :
    Except DecodeError Nat × ScriptStore :=
  match decodeBatch entries with
  | .error error => (.error error, store)
  | .ok decoded => (.ok decoded.length, store.putBatch decoded)

def find? (store : ScriptStore) (id : String) : Option Script := store.scripts.find? id

def contains (store : ScriptStore) (id : String) : Bool := store.scripts.contains id

/-- Remove a script; the answer is whether there was one. The root designation
goes if it names `id`. -/
def delete (id : String) (store : ScriptStore) : Bool × ScriptStore :=
  (store.contains id,
    { store with
      scripts := store.scripts.erase id
      root := if store.root = some id then none else store.root })

/-- Make `id` the root, stored or not. -/
def setRoot (id : String) (store : ScriptStore) : ScriptStore := { store with root := some id }

/-- The root script, if one is designated and stored. -/
def rootScript? (store : ScriptStore) : Option Script := store.root.bind store.find?

/-- Drop all scripts and the root designation; generations go on. -/
def clear (store : ScriptStore) : ScriptStore := { store with scripts := ∅, root := none }

def size (store : ScriptStore) : Nat := store.scripts.size

def isEmpty (store : ScriptStore) : Bool := store.scripts.isEmpty

def ids (store : ScriptStore) : List String := store.scripts.keys

end ScriptStore

end ScenePlayer
