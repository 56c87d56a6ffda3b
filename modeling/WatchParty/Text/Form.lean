/-
# Percent-encoding and form data

Addresses hide bytes behind a percent sign and two hexadecimal digits, and query strings are lists
of such fields in the form `application/x-www-form-urlencoded`. Decoding accepts every text: a
percent sign without two digits after it stands for itself.
-/

import WatchParty.Text.Blank
import WatchParty.Text.Utf8

namespace WatchParty.Text

/-- The value of a hexadecimal digit given as a byte. -/
def hexValue? (byte : UInt8) : Option Nat :=
  if 0x30 ≤ byte ∧ byte ≤ 0x39 then some (byte.toNat - 0x30)
  else if 0x41 ≤ byte ∧ byte ≤ 0x46 then some (byte.toNat - 0x41 + 10)
  else if 0x61 ≤ byte ∧ byte ≤ 0x66 then some (byte.toNat - 0x61 + 10)
  else none

/-- Replace each percent sign and two hexadecimal digits by the byte they stand for. -/
def percentDecode : List UInt8 → List UInt8
  | [] => []
  | byte :: high :: low :: rest =>
    if byte = 0x25 then
      match hexValue? high, hexValue? low with
      | some h, some l => UInt8.ofNat (16 * h + l) :: percentDecode rest
      | _, _ => byte :: percentDecode (high :: low :: rest)
    else byte :: percentDecode (high :: low :: rest)
  | byte :: rest => byte :: percentDecode rest

/-- The text of a part of a path. -/
def decodePathPart (chars : List Char) : List Char :=
  decodeUtf8 (percentDecode (encodeUtf8 chars))

/-- The text of a name or value of a form, in which a plus sign stands for a space. -/
def decodeFormText (chars : List Char) : String :=
  String.ofList (decodePathPart (chars.map fun c => if c = '+' then ' ' else c))

/-- The name and the value of a field. A field without an equals sign has the empty value. -/
def formField (chars : List Char) : String × String :=
  (decodeFormText (chars.takeWhile (· ≠ '=')),
    decodeFormText ((chars.dropWhile (· ≠ '=')).drop 1))

/-- The fields of a query string in order, empty ones left out. -/
def formFields (query : List Char) : List (String × String) :=
  ((split '&' query).filter (!·.isEmpty)).map formField

end WatchParty.Text
