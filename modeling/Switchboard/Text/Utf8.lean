/-!
# Text as bytes

Lines come in and answers go out as UTF-8. Input that is no UTF-8 is not refused: each longest
start of a character that does not go on as one is read as one replacement character.
-/
namespace Switchboard.Text

/-- The bytes of a text. -/
def bytesOf (text : String) : List UInt8 := text.toList.flatMap String.utf8EncodeChar

/-- What stands for bytes that are no character. -/
def replacement : Char := '\ufffd'

/-- A character of which some bytes are read and at least one is missing. -/
structure Unfinished where
  /-- The number that the bytes read so far make. -/
  value : Nat
  /-- How many bytes are missing after the next one. -/
  later : Nat
  /-- The least byte that can come next. -/
  least : Nat
  /-- The greatest byte that can come next. -/
  greatest : Nat

/-- What a byte begins if it begins a character of several bytes. The second byte of some is
held to a narrower range, which keeps out longer spellings, surrogates and numbers too large. -/
def Unfinished.begin? (byte : UInt8) : Option Unfinished :=
  let code := byte.toNat
  if 0xc2 ≤ code && code ≤ 0xdf then some ⟨code - 0xc0, 0, 0x80, 0xbf⟩
  else if code == 0xe0 then some ⟨0, 1, 0xa0, 0xbf⟩
  else if code == 0xed then some ⟨0xd, 1, 0x80, 0x9f⟩
  else if 0xe1 ≤ code && code ≤ 0xef then some ⟨code - 0xe0, 1, 0x80, 0xbf⟩
  else if code == 0xf0 then some ⟨0, 2, 0x90, 0xbf⟩
  else if 0xf1 ≤ code && code ≤ 0xf3 then some ⟨code - 0xf0, 2, 0x80, 0xbf⟩
  else if code == 0xf4 then some ⟨4, 2, 0x80, 0x8f⟩
  else none

/-- The characters of the bytes that follow an unfinished character or none. -/
def decodeAfter : Option Unfinished → List UInt8 → List Char
  | none, [] => []
  | some _, [] => [replacement]
  | pending, byte :: rest =>
    match pending with
    | some unfinished =>
      if unfinished.least ≤ byte.toNat && byte.toNat ≤ unfinished.greatest then
        let value := unfinished.value * 64 + (byte.toNat - 0x80)
        match unfinished.later with
        | 0 => Char.ofNat value :: decodeAfter none rest
        | later + 1 => decodeAfter (some ⟨value, later, 0x80, 0xbf⟩) rest
      else if byte.toNat < 0x80 then
        replacement :: Char.ofNat byte.toNat :: decodeAfter none rest
      else match Unfinished.begin? byte with
        | some begun => replacement :: decodeAfter (some begun) rest
        | none => replacement :: replacement :: decodeAfter none rest
    | none =>
      if byte.toNat < 0x80 then Char.ofNat byte.toNat :: decodeAfter none rest
      else match Unfinished.begin? byte with
        | some begun => decodeAfter (some begun) rest
        | none => replacement :: decodeAfter none rest

/-- The text of a list of bytes. -/
def textOf (bytes : List UInt8) : String := String.ofList (decodeAfter none bytes)

end Switchboard.Text
