import SqlSnippet.Yaml.Chars

/-!
# Loading a text

A text is loaded while it is read: its bytes are decoded in blocks, and its characters are checked
and handed over in portions, the first two of them at once.  So a byte or a character that a
text must not have is met only when its portion is wanted, and a fault in front of it comes first.
-/

namespace SqlSnippet.Yaml

/-- The number of bytes that are decoded together. -/
def blockSize : Nat := 8192

/-- The number of characters that are handed over together. -/
def portionSize : Nat := 4096

/-- The part of a text that is loaded before its fault, if it has one. -/
structure Loaded where
  text : Text
  fault : Option ReadError
deriving Repr

def decoded? (bytes : ByteArray) : Option Text := bytes.utf8Decode?.map Array.toList

/-- Some bytes begin a character of which more bytes are missing. -/
def beginsChar (bytes : ByteArray) : Bool :=
  let tails : List (List UInt8) :=
    [[0x80], [0x80, 0x80], [0x80, 0x80, 0x80], [0xA0], [0xA0, 0x80], [0xA0, 0x80, 0x80]]
  tails.any fun tail => (decoded? (bytes ++ ⟨tail.toArray⟩)).any fun t => t.length == 1

/-- The whole characters of some bytes that may break off inside a character. -/
def openText? (bytes : ByteArray) : Option Text :=
  [0, 1, 2, 3].findSome? fun left =>
    let cut := bytes.size - left
    if left = 0 ∨ beginsChar (bytes.extract cut bytes.size) then decoded? (bytes.extract 0 cut)
    else none

/-- The text of the blocks in front of the one that cannot be decoded. -/
def decodedBlocks (bytes : ByteArray) : Text :=
  let ends := (List.range (bytes.size / blockSize + 1)).map (blockSize * ·) ++ [bytes.size]
  (ends.reverse.findSome? fun stop => openText? (bytes.extract 0 stop)).getD []

/-- The number of characters that are handed over in front of one with a fault. -/
def loadedBefore (position : Nat) : Nat :=
  if position < 2 * portionSize then 0 else portionSize * (position / portionSize)

/-- The part of a text in front of the portion with the first character that it must not have. -/
def Loaded.checked (t : Text) (fault : Option ReadError) : Loaded :=
  match t.findIdx? fun c => !isAllowed c with
  | none => ⟨t, fault⟩
  | some position => ⟨t.take (loadedBefore position), some .malformed⟩

def Loaded.ofBytes (bytes : ByteArray) : Loaded :=
  match decoded? bytes with
  | some t => .checked t.unifyLines none
  | none =>
    let t := (decodedBlocks bytes).unifyLines
    .checked (t.take (loadedBefore t.length)) (some .undecodable)

end SqlSnippet.Yaml
