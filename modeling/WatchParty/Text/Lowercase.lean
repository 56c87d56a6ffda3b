/-
# Lower case of whole texts

Titles are searched without regard to case by putting both sides into lower case with the full
Unicode mapping. Two characters depend on more than the table: dotted capital I becomes two
characters, and a capital sigma becomes the final form where it ends a word. Since the sigma looks
at its neighbours, the lower case of a part of a text need not be a part of its lower case.
-/

import WatchParty.Text.CaseTable

namespace WatchParty.Text

/-- Whether a code point lies in one of some inclusive ranges. -/
def inRanges (ranges : List (Nat × Nat)) (code : Nat) : Bool :=
  ranges.any fun range => range.1 ≤ code && code ≤ range.2

/-- Whether a character is upper case, lower case or title case. -/
def isCased (c : Char) : Bool := inRanges casedRanges c.toNat

/-- Whether case rules look past a character. -/
def isCaseIgnorable (c : Char) : Bool := inRanges caseIgnorableRanges c.toNat

/-- Whether a run maps a code point. -/
def CaseRun.covers (run : CaseRun) (code : Nat) : Bool :=
  run.first ≤ code && code ≤ run.last && (code - run.first) % run.step == 0

/-- The lower case of a character where it does not depend on its neighbours. -/
def lowercaseChar (c : Char) : List Char :=
  if c.toNat < 0x80 then [c.toLower]
  else if c.toNat = 0x130 then ['i', '\u0307']
  else
    match lowercaseRuns.find? (·.covers c.toNat) with
    | some run => [Char.ofNat (c.toNat + run.offset).toNat]
    | none => [c]

/-- Whether the first character that is not ignorable is a cased one. -/
def leadsToCased (chars : List Char) : Bool :=
  match chars.dropWhile isCaseIgnorable with
  | [] => false
  | c :: _ => isCased c

/-- The lower case of what remains of a text, given the characters before it in reverse. A capital
sigma takes its final form after a cased character unless another one follows. -/
def lowercaseAfter (before : List Char) : List Char → List Char
  | [] => []
  | c :: rest =>
    let lower :=
      if c = 'Σ' then
        if leadsToCased before && !leadsToCased rest then ['ς'] else ['σ']
      else lowercaseChar c
    lower ++ lowercaseAfter (c :: before) rest

/-- The lower case of a list of characters. -/
def lowercaseChars (chars : List Char) : List Char := lowercaseAfter [] chars

end WatchParty.Text
