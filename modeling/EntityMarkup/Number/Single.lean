/-
Numbers in single precision, with exact reading and writing. A finite
number is an integer times a power of two; the integer has at most 24
bits and the exponent is at least -149. Reading a decimal rounds its
exact value to the nearest such number, halfway cases to the even one.
Writing takes the fewest decimal digits that read back as the number, of
those the nearest (the upper one of two that are equally near), and
never uses an exponent. All arithmetic is on natural numbers.
-/

namespace EntityMarkup

/-- A number in single precision. -/
inductive Single where
  /-- The integer times two to the exponent, with a sign. -/
  | finite (negative : Bool) (integer : Nat) (exponent : Int)
  | infinite (negative : Bool)
  | nan
deriving DecidableEq, Repr

/-- A fraction of natural numbers, the second not zero. -/
structure Ratio where
  num : Nat
  den : Nat

namespace Ratio

/-- The integer times a power of a base. -/
def ofScaled (n base : Nat) (exponent : Int) : Ratio :=
  if 0 ≤ exponent then ⟨n * base.pow exponent.toNat, 1⟩
  else ⟨n, base.pow (-exponent).toNat⟩

/-- The fraction divided by a power of a base. -/
def unscale (r : Ratio) (base : Nat) (exponent : Int) : Ratio :=
  if 0 ≤ exponent then ⟨r.num, r.den * base.pow exponent.toNat⟩
  else ⟨r.num * base.pow (-exponent).toNat, r.den⟩

/-- The nearest integer, the even one of two. -/
def round (r : Ratio) : Nat :=
  let q := r.num / r.den
  let rest := 2 * (r.num % r.den)
  if rest < r.den then q
  else if r.den < rest then q + 1
  else q + q % 2

/-- The greatest exponent whose power of two is not above a fraction
greater than zero. -/
def log2 (r : Ratio) : Int :=
  let guess := (r.num.log2 : Int) - r.den.log2
  let scaled := r.unscale 2 guess
  if scaled.den ≤ scaled.num then guess else guess - 1

end Ratio

namespace Single

/-- How many bits the integer of a finite number has at most. -/
def precision : Nat := 24

/-- Integers of finite numbers are below this. -/
def limit : Nat := Nat.pow 2 precision

/-- Integers of finite numbers are not below this, unless the exponent is
the least. -/
def half : Nat := Nat.pow 2 (precision - 1)

/-- The least exponent of a finite number. -/
def minExponent : Int := -149

/-- The greatest exponent of a finite number. -/
def maxExponent : Int := 104

/-- Zero. -/
def zero : Single := .finite false 0 minExponent

/-- The nearest number to a fraction greater than zero. -/
def ofRatio (negative : Bool) (r : Ratio) : Single :=
  let exponent := max (r.log2 - (precision - 1)) minExponent
  let integer := (r.unscale 2 exponent).round
  let (integer, exponent) :=
    if integer = limit then (half, exponent + 1)
    else (integer, exponent)
  if maxExponent < exponent then .infinite negative
  else .finite negative integer exponent

/-- The nearest number to an integer times a power of ten. What is
certain to be too great or too small is not computed. -/
def ofDecimal (negative : Bool) (digits : Nat) (exponent : Int) : Single :=
  if digits = 0 then .finite negative 0 minExponent
  else
    let magnitude : Int := (Nat.toDigits 10 digits).length + exponent
    if 40 < magnitude then .infinite negative
    else if magnitude < -46 then .finite negative 0 minExponent
    else ofRatio negative (.ofScaled digits 10 exponent)

/-- Is zero, of either sign. -/
def isZero : Single → Bool
  | .finite _ integer _ => integer == 0
  | _ => false

/-- Is a number not below zero; zero is not below itself, whatever its
sign. -/
def isNonNegative : Single → Bool
  | .finite negative integer _ => !negative || integer == 0
  | .infinite negative => !negative
  | .nan => false

-- ============================================================== reading

/-- Why a text is no number. -/
inductive ReadError where
  | empty
  | invalid
deriving DecidableEq, Repr

/-- The error in words. -/
def ReadError.message : ReadError → String
  | .empty => "cannot parse float from empty string"
  | .invalid => "invalid float literal"

/-- The natural number that decimal digits stand for. -/
def digitsValue (digits : List Char) : Nat :=
  digits.foldl (fun n c => 10 * n + (c.toNat - '0'.toNat)) 0

/-- An exponent, up to the end of the text. -/
def readExponent? : List Char → Option Int
  | [] => some 0
  | mark :: rest =>
    if mark = 'e' ∨ mark = 'E' then
      let (negative, digits) := match rest with
        | '-' :: digits => (true, digits)
        | '+' :: digits => (false, digits)
        | digits => (false, digits)
      if digits.isEmpty || !digits.all Char.isDigit then none
      else
        let n : Int := digitsValue digits
        some (if negative then -n else n)
    else none

/-- Digits with at most one point among or beside them, and an optional
exponent, without a sign. -/
def readDecimal? (negative : Bool) (text : List Char) : Option Single :=
  let whole := text.takeWhile Char.isDigit
  let rest := text.dropWhile Char.isDigit
  let (fraction, rest) := match rest with
    | '.' :: rest =>
      (rest.takeWhile Char.isDigit, rest.dropWhile Char.isDigit)
    | rest => ([], rest)
  if whole.isEmpty && fraction.isEmpty then none
  else
    (readExponent? rest).map fun exponent =>
      ofDecimal negative (digitsValue (whole ++ fraction))
        (exponent - fraction.length)

/-- A number that is written as a word, in capital or small letters. -/
def readWord? (negative : Bool) (text : List Char) : Option Single :=
  let word := String.ofList (text.map Char.toLower)
  if word = "inf" ∨ word = "infinity" then some (.infinite negative)
  else if word = "nan" then some .nan
  else none

/-- Reads a number: a sign, if any, and digits or a word. -/
def read (text : String) : Except ReadError Single :=
  match text.toList with
  | [] => .error .empty
  | sign :: rest =>
    let unsigned := if sign = '-' ∨ sign = '+' then rest else sign :: rest
    let negative := sign == '-'
    match readDecimal? negative unsigned <|> readWord? negative unsigned with
    | some n => .ok n
    | none => .error .invalid

-- ============================================================== writing

/-- A decimal integer times a power of ten. -/
structure Decimal where
  digits : Nat
  exponent : Int

/-- The decimal on the grid of a power of ten that reads back as the
integer times the power of two, if there is one: the nearer one of the
value's two neighbours, as far as they lie between the halves of the
gaps to the next numbers below and above. The ends count if the integer
is even. -/
def onGrid? (integer : Nat) (exponent : Int) (grid : Int) :
    Option Decimal :=
  -- everything in quarters of the last place
  let value := 4 * integer
  let low :=
    if integer = half ∧ minExponent < exponent then value - 1
    else value - 2
  let high := value + 2
  let unit := (Ratio.ofScaled 1 2 (exponent - 2)).unscale 10 grid
  let below := value * unit.num / unit.den
  let rest := value * unit.num % unit.den
  let ends := integer % 2 = 0
  let isIn (digits : Nat) : Bool :=
    let n := digits * unit.den
    if ends then low * unit.num ≤ n && n ≤ high * unit.num
    else low * unit.num < n && n < high * unit.num
  let above := below + 1
  if isIn above && (!isIn below || unit.den ≤ 2 * rest) then
    some ⟨above, grid⟩
  else if isIn below then some ⟨below, grid⟩
  else none

/-- The grids that are tried, the coarsest first. On the last one, every
finite number lies itself. -/
def grids : List Int :=
  (List.range 190).map fun n : Nat => 40 - (n : Int)

/-- The decimal with the fewest digits that reads back as the integer
times the power of two. -/
def shortest (integer : Nat) (exponent : Int) : Decimal :=
  (grids.findSome? (onGrid? integer exponent)).getD ⟨0, 0⟩

/-- A decimal written without an exponent. -/
def Decimal.text (d : Decimal) : String :=
  let digits := Nat.toDigits 10 d.digits
  if 0 ≤ d.exponent then
    String.ofList (digits ++ List.replicate d.exponent.toNat '0')
  else
    let places := (-d.exponent).toNat
    let padded :=
      List.replicate (places + 1 - digits.length) '0' ++ digits
    let whole := padded.length - places
    String.ofList (padded.take whole ++ '.' :: padded.drop whole)

/-- The number in decimal digits. -/
def text : Single → String
  | .nan => "NaN"
  | .infinite negative => if negative then "-inf" else "inf"
  | .finite negative integer exponent =>
    (if negative then "-" else "")
      ++ (if integer = 0 then "0" else (shortest integer exponent).text)

end Single

end EntityMarkup
