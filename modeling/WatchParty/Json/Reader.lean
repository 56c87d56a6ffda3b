/-
# Reading JSON text

The reader accepts the grammar of RFC 8259 and nothing besides, with three limits: text must not
hold an unpaired surrogate escape, a number must not be too large for binary64, and arrays and
objects are nested at most 127 deep. It can be asked for a text that is one value, or for the value
that a text begins with, whatever follows.
-/

import WatchParty.Json.Number

namespace WatchParty.Json

/-- Whether a character is white space between the parts of JSON text. -/
def isSpace (c : Char) : Bool := c = ' ' || c = '\t' || c = '\n' || c = '\r'

/-- A text without the white space it begins with. -/
def skipSpace (chars : List Char) : List Char := chars.dropWhile isSpace

/-- What follows a mark, which may have white space before it. -/
def afterMark? (mark : Char) (chars : List Char) : Option (List Char) :=
  match skipSpace chars with
  | c :: rest => if c = mark then some rest else none
  | [] => none

/-- The value of a hexadecimal digit. -/
def hexDigit? (c : Char) : Option Nat :=
  if '0' ≤ c ∧ c ≤ '9' then some (c.toNat - '0'.toNat)
  else if 'a' ≤ c ∧ c ≤ 'f' then some (c.toNat - 'a'.toNat + 10)
  else if 'A' ≤ c ∧ c ≤ 'F' then some (c.toNat - 'A'.toNat + 10)
  else none

/-- The code unit of four hexadecimal digits, and what follows them. -/
def takeUnit? : List Char → Option (Nat × List Char)
  | a :: b :: c :: d :: rest => do
    let high := 16 * (← hexDigit? a) + (← hexDigit? b)
    let low := 16 * (← hexDigit? c) + (← hexDigit? d)
    return (256 * high + low, rest)
  | _ => none

/-- The character of an escaped code unit. The first half of a surrogate pair needs the second. -/
def takeEscapedUnit? (chars : List Char) : Option (Char × List Char) := do
  let (unit, rest) ← takeUnit? chars
  if 0xDC00 ≤ unit ∧ unit ≤ 0xDFFF then none
  else if 0xD800 ≤ unit ∧ unit ≤ 0xDBFF then
    match rest with
    | '\\' :: 'u' :: rest =>
      let (second, rest) ← takeUnit? rest
      if 0xDC00 ≤ second ∧ second ≤ 0xDFFF then
        return (Char.ofNat (0x10000 + (unit - 0xD800) * 0x400 + (second - 0xDC00)), rest)
      else none
    | _ => none
  else return (Char.ofNat unit, rest)

/-- The character of an escape after its backslash, and what follows it. -/
def takeEscape? : List Char → Option (Char × List Char)
  | '"' :: rest => some ('"', rest)
  | '\\' :: rest => some ('\\', rest)
  | '/' :: rest => some ('/', rest)
  | 'b' :: rest => some ('\x08', rest)
  | 'f' :: rest => some ('\x0C', rest)
  | 'n' :: rest => some ('\n', rest)
  | 'r' :: rest => some ('\r', rest)
  | 't' :: rest => some ('\t', rest)
  | 'u' :: rest => takeEscapedUnit? rest
  | _ => none

/-- The characters of a string after its opening quote, and what follows the closing one. The fuel
bounds the number of characters. -/
def takeString? : Nat → List Char → Option (List Char × List Char)
  | 0, _ => none
  | _ + 1, [] => none
  | _ + 1, '"' :: rest => some ([], rest)
  | fuel + 1, '\\' :: rest => do
    let (c, rest) ← takeEscape? rest
    let (text, rest) ← takeString? fuel rest
    return (c :: text, rest)
  | fuel + 1, c :: rest => do
    if c.toNat < 0x20 then none
    let (text, rest) ← takeString? fuel rest
    return (c :: text, rest)

/-- A string after its opening quote, and what follows it. -/
def takeText? (chars : List Char) : Option (String × List Char) :=
  (takeString? (chars.length + 1) chars).map fun taken => (String.ofList taken.1, taken.2)

mutual

/-- The value that a text begins with, and what follows it. Arrays and objects may be nested as
deep as `depth` says. -/
def takeValue? : (fuel depth : Nat) → List Char → Option (Json × List Char)
  | 0, _, _ => none
  | fuel + 1, depth, chars =>
    match skipSpace chars with
    | 'n' :: 'u' :: 'l' :: 'l' :: rest => some (.null, rest)
    | 't' :: 'r' :: 'u' :: 'e' :: rest => some (.bool true, rest)
    | 'f' :: 'a' :: 'l' :: 's' :: 'e' :: rest => some (.bool false, rest)
    | '"' :: rest => (takeText? rest).map fun taken => (.string taken.1, taken.2)
    | '[' :: rest =>
      if depth = 0 then none
      else
        match skipSpace rest with
        | ']' :: rest => some (.array [], rest)
        | rest =>
          (takeItems? fuel (depth - 1) rest).map fun taken => (.array taken.1, taken.2)
    | '{' :: rest =>
      if depth = 0 then none
      else
        match skipSpace rest with
        | '}' :: rest => some (.object [], rest)
        | rest =>
          (takeFields? fuel (depth - 1) rest).map fun taken => (.object taken.1, taken.2)
    | chars => do
      let (number, rest) ← takeNumber? chars
      return (← number.value?, rest)

/-- The items of an array up to its closing bracket, of which there has to be at least one. -/
def takeItems? : (fuel depth : Nat) → List Char → Option (List Json × List Char)
  | 0, _, _ => none
  | fuel + 1, depth, chars => do
    let (item, rest) ← takeValue? fuel depth chars
    match skipSpace rest with
    | ',' :: rest =>
      let (items, rest) ← takeItems? fuel depth rest
      return (item :: items, rest)
    | ']' :: rest => return ([item], rest)
    | _ => none

/-- The fields of an object up to its closing brace, of which there has to be at least one. -/
def takeFields? : (fuel depth : Nat) → List Char → Option (List (String × Json) × List Char)
  | 0, _, _ => none
  | fuel + 1, depth, chars => do
    let (name, rest) ← takeText? (← afterMark? '"' chars)
    let (value, rest) ← takeValue? fuel depth (← afterMark? ':' rest)
    match skipSpace rest with
    | ',' :: rest =>
      let (fields, rest) ← takeFields? fuel depth rest
      return ((name, value) :: fields, rest)
    | '}' :: rest => return ([(name, value)], rest)
    | _ => none

end

/-- How deep arrays and objects may be nested. -/
def maxDepth : Nat := 127

/-- The value that a text begins with, and what follows it. -/
def readFirst? (text : String) : Option (Json × List Char) :=
  let chars := text.toList
  takeValue? (2 * chars.length + 2) maxDepth chars

/-- The value of a text that is one value, with nothing but white space around it. -/
def read? (text : String) : Option Json :=
  match readFirst? text with
  | some (value, rest) => if (skipSpace rest).isEmpty then some value else none
  | none => none

end WatchParty.Json
