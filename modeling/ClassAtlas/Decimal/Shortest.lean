/-
Shortest decimals of floating-point numbers. A number `m · 2^q` is the nearest to every decimal of
an interval around it; the decimal with the fewest digits in that interval stands for it, and of
several such the one nearest to it. For each number of digits only the two neighbours of the value
on that decimal grid can be in the interval and nearest, so only they are tried.
-/

namespace ClassAtlas

/-- A decimal: `digits · 10^exponent`. -/
structure Decimal where
  digits : Nat
  exponent : Int
  deriving DecidableEq, Repr

/-- A positive floating-point number `m · 2^q`. If `narrow`, the numbers below it are closer
together than those above. -/
structure Floating where
  m : Nat
  q : Int
  narrow : Bool
  deriving DecidableEq, Repr

namespace Floating

/-- Compares `a · 10^t` with a quarter of `b · 2^q`, both exact. -/
def compareQuarter (q : Int) (a : Nat) (t : Int) (b : Nat) : Ordering :=
  compare (4 * a * Nat.pow 10 t.toNat * Nat.pow 2 (-q).toNat)
    (b * Nat.pow 2 q.toNat * Nat.pow 10 (-t).toNat)

/-- Whether the number is the nearest one to `a · 10^t`; at the ends of the interval it is if its
own last bit is zero. -/
def isNearestTo (x : Floating) (a : Nat) (t : Int) : Bool :=
  let low := compareQuarter x.q a t (4 * x.m - if x.narrow then 1 else 2)
  let high := compareQuarter x.q a t (4 * x.m + 2)
  let even := x.m % 2 == 0
  (low == .gt || (low == .eq && even)) && (high == .lt || (high == .eq && even))

/-- The whole part of the number divided by `10^t`. -/
def below (x : Floating) (t : Int) : Nat :=
  x.m * Nat.pow 2 x.q.toNat * Nat.pow 10 (-t).toNat /
    (Nat.pow 2 (-x.q).toNat * Nat.pow 10 t.toNat)

/-- Whether `(a + 1) · 10^t` is nearer to the number than `a · 10^t`, which is not above it. On a
tie the even one of the two is taken. -/
def isNearerAbove (x : Floating) (a : Nat) (t : Int) : Bool :=
  match compareQuarter x.q (2 * a + 1) t (8 * x.m) with
  | .lt => true
  | .eq => a % 2 == 1
  | .gt => false

/-- The exponent of the leading decimal digit. -/
def magnitude (x : Floating) : Int :=
  if 0 < x.below 0 then
    (Nat.toDigits 10 (x.below 0)).length - 1
  else
    match (List.range 400).find? fun (k : Nat) => 0 < x.below (-(k : Int)) with
    | some k => -(k : Int)
    | none => -400

/-- The decimal on the grid of `10^t` that stands for the number, if there is one. -/
def onGrid (x : Floating) (t : Int) : Option Decimal :=
  let a := x.below t
  match x.isNearestTo a t && a != 0, x.isNearestTo (a + 1) t with
  | true, true => some ⟨if x.isNearerAbove a t then a + 1 else a, t⟩
  | true, false => some ⟨a, t⟩
  | false, true => some ⟨a + 1, t⟩
  | false, false => none

/-- The shortest decimal that stands for the number; seventeen digits are always enough. -/
def shortest (x : Floating) : Decimal :=
  let top := x.magnitude
  match (List.range 17).findSome? fun (n : Nat) => x.onGrid (top - n) with
  | some d => d
  | none => ⟨x.below (top - 16), top - 16⟩

end Floating

/-! ## Floating-point numbers of 64 bits -/

/-- The parts of a finite positive number of 64 bits; none for zero. -/
def Floating.ofBits (bits : UInt64) : Option Floating :=
  let fraction := bits.toNat % Nat.pow 2 52
  let exponent := bits.toNat / Nat.pow 2 52 % Nat.pow 2 11
  if exponent = 0 then
    if fraction = 0 then none else some ⟨fraction, -1074, false⟩
  else
    some ⟨Nat.pow 2 52 + fraction, Int.ofNat exponent - 1075, fraction == 0 && 1 < exponent⟩

/-! ## Text -/

namespace Decimal

/-- A decimal in positional notation, always with a point. -/
def positional (digits : List Char) (magnitude : Int) : List Char :=
  let whole := (magnitude + 1).toNat
  if magnitude < 0 then
    ['0', '.'] ++ List.replicate (-magnitude - 1).toNat '0' ++ digits
  else if whole < digits.length then
    digits.take whole ++ ['.'] ++ digits.drop whole
  else
    digits ++ List.replicate (whole - digits.length) '0' ++ ['.', '0']

/-- A decimal with one digit before the point, and the exponent with its sign. -/
def scientific (digits : List Char) (magnitude : Int) : List Char :=
  digits.take 1 ++ (if digits.length = 1 then [] else '.' :: digits.drop 1) ++
    ['e', if magnitude < 0 then '-' else '+'] ++ Nat.toDigits 10 magnitude.natAbs

/-- Digits without zeros at the end; the first digit stays. -/
def significant (digits : List Char) : List Char :=
  digits.take 1 ++ ((digits.drop 1).reverse.dropWhile (· = '0')).reverse

/-- The text of a decimal: positional from a hundred-thousandth up to sixteen digits before the
point. -/
def text (d : Decimal) : List Char :=
  let digits := Nat.toDigits 10 d.digits
  let magnitude := d.exponent + (digits.length - 1 : Nat)
  if -5 ≤ magnitude ∧ magnitude < 16 then positional (significant digits) magnitude
  else scientific (significant digits) magnitude

/-- The text of a finite floating-point number. -/
def floatText (x : Float) : String :=
  let sign := if x.toBits.toNat / Nat.pow 2 63 = 1 then ['-'] else []
  match Floating.ofBits x.toBits with
  | none => String.ofList (sign ++ ['0', '.', '0'])
  | some b => String.ofList (sign ++ b.shortest.text)

end Decimal

end ClassAtlas
