/-
# Bytes as text

Percent-encoded text arrives as bytes. Decoding never fails: each longest stretch of bytes that
begins a character but does not complete it, and each byte that begins none, becomes one
replacement character, and decoding goes on with the byte after it.
-/

namespace WatchParty.Text

/-- A character of several bytes that has begun. -/
structure PartialChar where
  /-- How many bytes are missing. -/
  missing : Nat
  /-- The bits read so far. -/
  bits : Nat
  /-- The least byte that may come next. -/
  least : Nat
  /-- The greatest byte that may come next. -/
  greatest : Nat

/-- The character that stands for bytes that are no text. -/
def replacement : Char := '\uFFFD'

/-- What a byte does where no character has begun. -/
def beginChar (byte : Nat) : List Char × Option PartialChar :=
  if byte < 0x80 then ([Char.ofNat byte], none)
  else if 0xC2 ≤ byte ∧ byte ≤ 0xDF then ([], some ⟨1, byte - 0xC0, 0x80, 0xBF⟩)
  else if 0xE0 ≤ byte ∧ byte ≤ 0xEF then
    ([], some ⟨2, byte - 0xE0, if byte = 0xE0 then 0xA0 else 0x80,
      if byte = 0xED then 0x9F else 0xBF⟩)
  else if 0xF0 ≤ byte ∧ byte ≤ 0xF4 then
    ([], some ⟨3, byte - 0xF0, if byte = 0xF0 then 0x90 else 0x80,
      if byte = 0xF4 then 0x8F else 0xBF⟩)
  else ([replacement], none)

/-- What a byte does after the start of a character. -/
def continueChar (begun : PartialChar) (byte : Nat) : List Char × Option PartialChar :=
  if begun.least ≤ byte ∧ byte ≤ begun.greatest then
    let bits := begun.bits * 64 + (byte - 0x80)
    if begun.missing ≤ 1 then ([Char.ofNat bits], none)
    else ([], some ⟨begun.missing - 1, bits, 0x80, 0xBF⟩)
  else
    let (chars, next) := beginChar byte
    (replacement :: chars, next)

/-- The characters of bytes, given the character that has begun before them. -/
def decodeFrom (begun : Option PartialChar) : List UInt8 → List Char
  | [] => if begun.isSome then [replacement] else []
  | byte :: rest =>
    let (chars, next) := match begun with
      | none => beginChar byte.toNat
      | some part => continueChar part byte.toNat
    chars ++ decodeFrom next rest

/-- The characters of bytes, replacement characters standing for what is not UTF-8. -/
def decodeUtf8 (bytes : List UInt8) : List Char := decodeFrom none bytes

/-- The UTF-8 bytes of characters. -/
def encodeUtf8 (chars : List Char) : List UInt8 := chars.flatMap String.utf8EncodeChar

end WatchParty.Text
