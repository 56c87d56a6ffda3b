/-
# Media types

Whether the content type of a request announces JSON: an application type whose name before its
last plus sign, or after it, is `json`, in any case, with parameters or without. A content type that
is not well formed announces nothing.
-/

namespace WatchParty.Http.MediaType

/-- The characters of tokens. -/
def isToken (c : Char) : Bool :=
  c.isAlphanum || "!#$%&'*+-.^_`|~".toList.contains c

/-- The characters that a quoted parameter value may hold: all but the control characters. -/
def isQuoted (c : Char) : Bool := 0x20 ≤ c.toNat && c.toNat ≠ 0x7F

/-- Where the reading of parameters is. -/
inductive Place where
  /-- Before a parameter: only blanks so far. -/
  | start
  /-- In the name of a parameter. -/
  | name
  /-- At the first character of a value. -/
  | valueStart
  /-- In a value without quotes. -/
  | value
  /-- In a quoted value. -/
  | quoted (isEmpty : Bool)
  /-- After a quoted value. -/
  | afterQuoted
deriving DecidableEq, Repr

/-- Whether parameters are well formed, from a place on. -/
def parameters : Place → List Char → Bool
  | .start, [] => true
  | .start, c :: rest =>
    if c = ' ' then parameters .start rest
    else isToken c && parameters .name rest
  | .name, [] => false
  | .name, c :: rest =>
    if isToken c then parameters .name rest else c = '=' && parameters .valueStart rest
  | .valueStart, [] => true
  | .valueStart, c :: rest =>
    if c = '"' then parameters (.quoted true) rest else isToken c && parameters .value rest
  | .value, [] => true
  | .value, c :: rest =>
    if isToken c then parameters .value rest else c = ';' && parameters .start rest
  | .quoted _, [] => false
  | .quoted isEmpty, c :: rest =>
    if c = '"' && !isEmpty then parameters .afterQuoted rest
    else isQuoted c && parameters (.quoted false) rest
  | .afterQuoted, [] => true
  | .afterQuoted, c :: rest =>
    if c = ' ' then parameters .afterQuoted rest else c = ';' && parameters .start rest

/-- The name of a type below its top level: what stands before the last plus sign that does not
begin it, and what stands after that sign, if there is one. -/
def splitSuffix (subtype : List Char) : List Char × Option (List Char) :=
  let suffix := (subtype.reverse.takeWhile (· ≠ '+')).reverse
  let rest := subtype.length - suffix.length
  if 1 < rest then (subtype.take (rest - 1), some suffix) else (subtype, none)

/-- A list of ASCII characters in lower case. -/
def lower (chars : List Char) : List Char := chars.map Char.toLower

/-- Whether a name is `json`, in any case. -/
def isJson (name : List Char) : Bool := lower name = "json".toList

/-- Whether a content type announces JSON. -/
def announcesJson (contentType : String) : Bool :=
  let chars := contentType.toList
  let type := chars.takeWhile isToken
  match chars.dropWhile isToken with
  | '/' :: rest =>
    let (name, suffix) := splitSuffix (rest.takeWhile isToken)
    let wellFormed := match rest.dropWhile isToken with
      | [] => true
      | c :: rest => c = ';' && parameters .start rest
    lower type = "application".toList && wellFormed && (isJson name || suffix.any isJson)
  | _ => false

end WatchParty.Http.MediaType
