import BankReconciliation.Text.Blank

/-! Texts as bytes, and the cells of a statement file as text. Exports are written in UTF-8 or in
Latin-1 and do not say which, so a cell that is not valid UTF-8 is read as Latin-1. -/

namespace BankReconciliation.Text

abbrev Bytes := List UInt8

def encodeUtf8 (cs : List Char) : Bytes := cs.flatMap String.utf8EncodeChar

def decodeUtf8? (bytes : Bytes) : Option (List Char) :=
  (ByteArray.utf8Decode? bytes.toByteArray).map Array.toList

def byteLength (cs : List Char) : Nat := (encodeUtf8 cs).length

@[simp] theorem encodeUtf8_append (cs ds : List Char) :
    encodeUtf8 (cs ++ ds) = encodeUtf8 cs ++ encodeUtf8 ds := List.flatMap_append

def decodeLatin1 (bytes : Bytes) : List Char := bytes.map fun b => Char.ofNat b.toNat

/-- The Latin-1 form of a text, if it has no character past `U+00FF`. -/
def encodeLatin1? (cs : List Char) : Option Bytes :=
  cs.mapM fun c => if c.toNat < 256 then some (UInt8.ofNat c.toNat) else none

def byteOrderMark : Char := '\uFEFF'

/-- The text of a cell, trimmed; a UTF-8 cell also loses its leading byte order marks. -/
def decodeCell (bytes : Bytes) : List Char :=
  match decodeUtf8? bytes with
  | some cs => trim (cs.dropWhile (· == byteOrderMark))
  | none => trim (decodeLatin1 bytes)

end BankReconciliation.Text
