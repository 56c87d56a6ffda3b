/-
# White space

Two notions of white space. Blank characters are those of the Unicode White_Space property and are
what is trimmed from names, messages, titles and tokens. Header words are separated by the ASCII
white space of the web standards, to which vertical tab does not belong.
-/

namespace WatchParty.Text

/-- The characters with the Unicode White_Space property. -/
def isBlank (c : Char) : Bool :=
  (0x09 ≤ c.toNat && c.toNat ≤ 0x0D) || c.toNat == 0x20 || c.toNat == 0x85 || c.toNat == 0xA0 ||
  c.toNat == 0x1680 || (0x2000 ≤ c.toNat && c.toNat ≤ 0x200A) || c.toNat == 0x2028 ||
  c.toNat == 0x2029 || c.toNat == 0x202F || c.toNat == 0x205F || c.toNat == 0x3000

/-- A list of characters without the blank ones at its end. -/
def trimEnd : List Char → List Char
  | [] => []
  | c :: rest =>
    match trimEnd rest with
    | [] => if isBlank c then [] else [c]
    | kept => c :: kept

/-- A list of characters without the blank ones at either end. -/
def trimChars (chars : List Char) : List Char := trimEnd (chars.dropWhile isBlank)

/-- A text without the blank characters at either end. -/
def trim (text : String) : String := String.ofList (trimChars text.toList)

/-- The characters that separate the words of a header: space, tab, line feed, form feed and
carriage return. -/
def isHeaderSpace (c : Char) : Bool :=
  c.toNat == 0x20 || c.toNat == 0x09 || c.toNat == 0x0A || c.toNat == 0x0C || c.toNat == 0x0D

/-- The words of a list of characters, read from the left; `current` holds the word begun so far. -/
def wordsFrom (current : List Char) : List Char → List (List Char)
  | [] => if current.isEmpty then [] else [current]
  | c :: rest =>
    if isHeaderSpace c then
      if current.isEmpty then wordsFrom [] rest else current :: wordsFrom [] rest
    else wordsFrom (current ++ [c]) rest

/-- The words of a text, in order: its longest stretches without header white space. -/
def headerWords (text : String) : List String := (wordsFrom [] text.toList).map String.ofList

/-- The fields of a list of characters between the occurrences of a separator. There is always one
field more than there are separators. -/
def split (separator : Char) : List Char → List (List Char)
  | [] => [[]]
  | c :: rest =>
    if c = separator then [] :: split separator rest
    else
      match split separator rest with
      | [] => [[c]]
      | field :: fields => (c :: field) :: fields

/-- Whether one list of characters occurs in another as an unbroken part. -/
def occursIn (part : List Char) : List Char → Bool
  | [] => part.isEmpty
  | c :: rest => part.isPrefixOf (c :: rest) || occursIn part rest

end WatchParty.Text
