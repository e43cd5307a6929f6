import SearchQuery.Number.Digits

/-!
# Shortest decimals

The shortest decimal that reads back as a given double. A finite double is `m · 2^q`, and the
reals that round to it form an interval around it, whose ends belong to it iff `m` is even. Of the
decimal grids `10^k`, from coarse to fine, the first with a point in the interval wins; of two
points on it the one nearer to the double wins, and a `Tie` decides between equals.
-/

namespace SearchQuery.Number

/-- Which of two equally near decimals is taken. -/
inductive Tie where
  /-- The one further from zero. -/
  | away
  /-- The one with an even last digit. -/
  | even
deriving DecidableEq

/-- A decimal `digits · 10^exponent`. -/
structure DecimalDigits where
  digits : Nat
  exponent : Int
deriving DecidableEq

/-- A positive finite double `mantissa · 2^exponent`. -/
structure Binary where
  mantissa : Nat
  exponent : Int
deriving DecidableEq

namespace Binary

/-- Where the mantissas of doubles start that have an exponent of their own. -/
def leadingBit : Nat := 4503599627370496

/-- The magnitude of a finite double other than zero. -/
def ofFloat (x : Float) : Binary :=
  let bits := x.toBits.toNat
  let fraction : Nat := bits % leadingBit
  let biased : Nat := bits / leadingBit % 2048
  if biased = 0 then ⟨fraction, -1074⟩ else ⟨leadingBit + fraction, (biased : Int) - 1075⟩

/-- Quarters of a unit below the mantissa that still round to it: two, but one below a power of
two, where the doubles lie closer. -/
def lowerGap (b : Binary) : Nat := if b.mantissa = leadingBit && b.exponent > -1074 then 1 else 2

/-- Numerator and denominator of a quarter unit, measured in `10^k`. -/
def quarter (b : Binary) (k : Int) : Nat × Nat :=
  (Nat.pow 2 (b.exponent - 2).toNat * Nat.pow 10 (-k).toNat,
    Nat.pow 2 (2 - b.exponent).toNat * Nat.pow 10 k.toNat)

/-- Whether `digits · 10^k` rounds to the double. -/
def admits (b : Binary) (k : Int) (digits : Nat) : Bool :=
  let (num, den) := b.quarter k
  let low := (4 * b.mantissa - b.lowerGap) * num
  let high := (4 * b.mantissa + 2) * num
  if b.mantissa % 2 = 0 then low ≤ digits * den && digits * den ≤ high
  else low < digits * den && digits * den < high

/-- The point on the grid `10^k` that the double is read back from, if there is one. -/
def onGrid? (b : Binary) (tie : Tie) (k : Int) : Option Nat :=
  let (num, den) := b.quarter k
  let value := 4 * b.mantissa * num
  let below := value / den
  match b.admits k below, b.admits k (below + 1) with
  | false, false => none
  | true, false => some below
  | false, true => some (below + 1)
  | true, true =>
    let rest := 2 * (value % den)
    if rest < den then some below
    else if den < rest then some (below + 1)
    else
      match tie with
      | .away => some (below + 1)
      | .even => some (below + below % 2)

/-- The exponent of ten of the double's first digit, or one more. -/
def leadingExponent (b : Binary) : Int :=
  let top := (b.mantissa.log2 : Int) + b.exponent + 1
  top * 30103 / 100000 + 1

/-- The first hit among `count` grids from `10^k` on to finer ones. -/
def search (b : Binary) (tie : Tie) (k : Int) : Nat → DecimalDigits
  | 0 => ⟨b.mantissa, 0⟩
  | count + 1 =>
    match b.onGrid? tie k with
    | some digits => ⟨digits, k⟩
    | none => search b tie (k - 1) count

/-- A number without the zeros at its end, and how many there were; `fuel` bounds their count. -/
def dropZeros : (fuel n : Nat) → Nat × Nat
  | 0, n => (n, 0)
  | fuel + 1, n =>
    if n % 10 = 0 && n ≠ 0 then
      let (rest, count) := dropZeros fuel (n / 10)
      (rest, count + 1)
    else (n, 0)

/-- The shortest decimal that reads back as the double. -/
def shortest (b : Binary) (tie : Tie) : DecimalDigits :=
  let d := b.search tie b.leadingExponent 20
  let (digits, zeros) := dropZeros 20 d.digits
  ⟨digits, d.exponent + zeros⟩

end Binary

/-- A decimal without an exponent: zeros up to the point, and no point at the end. -/
def DecimalDigits.positional (d : DecimalDigits) : String :=
  let text := Nat.toDigits 10 d.digits
  if 0 ≤ d.exponent then String.ofList (text ++ List.replicate d.exponent.toNat '0')
  else
    let places := (-d.exponent).toNat
    let text := List.replicate (places + 1 - text.length) '0' ++ text
    String.ofList (text.take (text.length - places) ++ '.' :: text.drop (text.length - places))

/-- A decimal with one digit before the point and a signed exponent. -/
def DecimalDigits.scientific (d : DecimalDigits) : String :=
  let text := Nat.toDigits 10 d.digits
  let mantissa := match text with
    | [c] => [c]
    | c :: rest => c :: '.' :: rest
    | [] => []
  let exponent := d.exponent + (text.length - 1 : Nat)
  String.ofList mantissa ++ (if exponent < 0 then "e-" else "e+") ++ Number.digits exponent.natAbs

end SearchQuery.Number
