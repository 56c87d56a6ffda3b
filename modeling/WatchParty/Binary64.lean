/-
# Double precision numbers as ranks

Positions in a video are IEEE 754 binary64 numbers. Apart from NaN these numbers form a finite
increasing sequence, and the bits of a non-negative one are its place in that sequence. A number
is therefore kept as its *rank*: zero has rank zero, the negative numbers have negative ranks, and
the two infinities are the outermost ranks. Comparing numbers is comparing integers.

Arithmetic is exact integer arithmetic followed by one rounding to the nearest number, a tie going
to the even rank. Zero has no sign here, so the module makes no statement about negative zero.
-/

namespace WatchParty

/-- The rank of positive infinity: the bits of an exponent of all ones and an empty fraction. -/
def Binary64.infinityRank : Nat := 0x7FF0000000000000

/-- A binary64 number: not a number, or a place in the increasing sequence of all numbers. -/
inductive Binary64 where
  /-- The result of an operation without a value. -/
  | nan
  /-- The number of the given rank. -/
  | ofRank (rank : Int) (bounded : rank.natAbs ≤ Binary64.infinityRank)
deriving DecidableEq, Repr

namespace Binary64

/-- The number zero. -/
def zero : Binary64 := .ofRank 0 (by decide)

/-- Positive infinity. -/
def infinity : Binary64 := .ofRank infinityRank (by decide)

/-- Negative infinity. -/
def negInfinity : Binary64 := .ofRank (-infinityRank) (by decide)

instance : Inhabited Binary64 := ⟨zero⟩

/-- How many units of `2 ^ -1074` the number of a non-negative rank is worth. At the rank of
infinity the formula continues with `2 ^ 1024`, the value at which rounding overflows. -/
def units (rank : Nat) : Nat :=
  let binade := Nat.pow 2 52
  if rank < binade then rank else (binade + rank % binade) * Nat.pow 2 (rank / binade - 1)

/-- The largest rank worth at most the given number of units. -/
def floorRank (total : Nat) : Nat :=
  if total < Nat.pow 2 52 then total
  else
    let shift := total.log2 - 52
    shift * Nat.pow 2 52 + total / Nat.pow 2 shift

/-- The rank nearest to `numerator / denominator` units; a tie goes to the even rank, and all that
lies beyond the largest finite number becomes infinite. -/
def nearestRank (numerator denominator : Nat) : Nat :=
  let below := floorRank (numerator / denominator)
  let middle := (units below + units (below + 1)) * denominator
  let nearest :=
    if 2 * numerator < middle then below
    else if middle < 2 * numerator then below + 1
    else if below % 2 = 0 then below else below + 1
  min nearest infinityRank

/-- The number of a magnitude, with a sign. -/
def signed (negative : Bool) (magnitude : Nat) : Binary64 :=
  if h : magnitude ≤ infinityRank then
    .ofRank (if negative then -(magnitude : Int) else magnitude) (by split <;> omega)
  else .nan

/-- The number nearest to `numerator / denominator` units of `2 ^ -1074`. -/
def ofFraction (numerator : Int) (denominator : Nat) : Binary64 :=
  signed (numerator < 0) (nearestRank numerator.natAbs denominator)

/-- How many units make one. -/
def one : Nat := Nat.pow 2 1074

/-- The number nearest to an integer. -/
def ofInt (value : Int) : Binary64 := ofFraction (value * one) 1

/-- The number nearest to the decimal `digits * 10 ^ exponent`. -/
def ofDecimal (digits : Int) (exponent : Int) : Binary64 :=
  if 0 ≤ exponent then ofFraction (digits * (Nat.pow 10 exponent.toNat * one : Nat)) 1
  else ofFraction (digits * one) (Nat.pow 10 (-exponent).toNat)

/-- Whether a number is not a number. -/
def isNan : Binary64 → Bool
  | .nan => true
  | .ofRank _ _ => false

/-- Whether a number is neither infinite nor missing. -/
def isFinite : Binary64 → Bool
  | .nan => false
  | .ofRank rank _ => rank.natAbs < infinityRank

/-- The exact value of a finite number, in units of `2 ^ -1074`. -/
def exactUnits? : Binary64 → Option Int
  | .nan => none
  | .ofRank rank _ =>
    if rank.natAbs < infinityRank then some (rank.sign * units rank.natAbs) else none

/-- The order of the numbers; NaN stands in no relation to anything. -/
def le : Binary64 → Binary64 → Prop
  | .ofRank a _, .ofRank b _ => a ≤ b
  | _, _ => False

/-- The strict order of the numbers; NaN stands in no relation to anything. -/
def lt : Binary64 → Binary64 → Prop
  | .ofRank a _, .ofRank b _ => a < b
  | _, _ => False

instance : LE Binary64 := ⟨le⟩

instance : LT Binary64 := ⟨lt⟩

instance decidableLe : (a b : Binary64) → Decidable (a ≤ b)
  | .ofRank a _, .ofRank b _ => inferInstanceAs (Decidable (a ≤ b))
  | .nan, _ => isFalse id
  | .ofRank _ _, .nan => isFalse id

instance decidableLt : (a b : Binary64) → Decidable (a < b)
  | .ofRank a _, .ofRank b _ => inferInstanceAs (Decidable (a < b))
  | .nan, _ => isFalse id
  | .ofRank _ _, .nan => isFalse id

/-- The larger of two numbers. Where one is NaN the other is the answer. -/
def max : Binary64 → Binary64 → Binary64
  | .nan, b => b
  | a, .nan => a
  | .ofRank a ha, .ofRank b hb => if a ≤ b then .ofRank b hb else .ofRank a ha

/-- The smaller of two numbers. Where one is NaN the other is the answer. -/
def min : Binary64 → Binary64 → Binary64
  | .nan, b => b
  | a, .nan => a
  | .ofRank a ha, .ofRank b hb => if a ≤ b then .ofRank a ha else .ofRank b hb

/-- The sign of a number: that of its rank. -/
def sign : Binary64 → Int
  | .nan => 0
  | .ofRank rank _ => rank.sign

/-- The rounded sum. Infinities of opposite sign have none. -/
def add (a b : Binary64) : Binary64 :=
  match a.exactUnits?, b.exactUnits? with
  | some x, some y => ofFraction (x + y) 1
  | none, some _ => a
  | some _, none => b
  | none, none => if a = b then a else .nan

/-- The infinity of a sign; a zero sign has none. -/
def infinityOfSign (sign : Int) : Binary64 :=
  if sign = 0 then .nan else if 0 < sign then infinity else negInfinity

/-- The rounded product. -/
def mul (a b : Binary64) : Binary64 :=
  match a.exactUnits?, b.exactUnits? with
  | some x, some y => ofFraction (x * y) one
  | _, _ => if a.isNan || b.isNan then .nan else infinityOfSign (a.sign * b.sign)

/-- The rounded quotient. Zero divides a non-zero number into an infinity of that number's sign. -/
def div (a b : Binary64) : Binary64 :=
  match a.exactUnits?, b.exactUnits? with
  | some x, some y =>
    if y = 0 then infinityOfSign x.sign else ofFraction (x * y.sign * one) y.natAbs
  | some _, none => if b.isNan then .nan else zero
  | none, some y => if a.isNan then .nan else if y < 0 then infinityOfSign (-a.sign) else a
  | none, none => .nan

/-- The number with the opposite sign. -/
def neg : Binary64 → Binary64
  | .nan => .nan
  | .ofRank rank bounded => .ofRank (-rank) (by omega)

instance : Add Binary64 := ⟨add⟩

instance : Mul Binary64 := ⟨mul⟩

instance : Div Binary64 := ⟨div⟩

instance : Neg Binary64 := ⟨neg⟩

/-- The 64-bit word of a number. Every NaN has the word of the quiet one. -/
def toBits : Binary64 → Nat
  | .nan => 0x7FF8000000000000
  | .ofRank rank _ => if 0 ≤ rank then rank.toNat else Nat.pow 2 63 + rank.natAbs

/-- The number of a 64-bit word. The sign of a zero is forgotten. -/
def ofBits (word : Nat) : Binary64 :=
  signed (Nat.pow 2 63 ≤ word % Nat.pow 2 64) (word % Nat.pow 2 63)

end Binary64

end WatchParty
