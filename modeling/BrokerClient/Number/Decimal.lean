import BrokerClient.Number.Binary64

/-!
# Decimal text of doubles

`shortest` finds the fewest decimal digits that read back as a double, and of these the nearest.
`Layout` holds the choices a format makes about such digits: which magnitudes are written
positionally and how wide an exponent is. `fixed` writes a double with a given number of places,
rounding its exact value, a tie going to the even neighbour.
-/

namespace BrokerClient.Number

/-- Digits and a decimal exponent: the number `digits · 10 ^ exponent`. -/
structure Decimal where
  digits : Nat
  exponent : Int
  deriving DecidableEq, Repr

/-- Moves trailing zeros of the digits into the exponent; `fuel` bounds their number. -/
def Decimal.strip : Nat → Decimal → Decimal
  | 0, d => d
  | fuel + 1, d =>
    if d.digits != 0 && d.digits % 10 == 0 then
      Decimal.strip fuel ⟨d.digits / 10, d.exponent + 1⟩
    else d

/-- The number of decimal digits of a natural, one for zero. -/
def digitCount (n : Nat) : Nat :=
  (Nat.toDigits 10 n).length

/-- The number of places after the point before the first digit of `num / den < 1` that is not
zero; `fuel` bounds it. -/
def leadingZeros (den : Nat) : Nat → Nat → Nat
  | 0, _ => 0
  | fuel + 1, num => if den ≤ num * 10 then 0 else leadingZeros den fuel (num * 10) + 1

/-- The power of ten just above a positive ratio: `10 ^ (p - 1) ≤ num / den < 10 ^ p`. -/
def pointPosition (num den : Nat) : Int :=
  if den ≤ num then Int.ofNat (digitCount (num / den))
  else -Int.ofNat (leadingZeros den 400 num)

/-- The interval of numbers that read back as one double, in units of `1 / den`. -/
structure Interval where
  value : Nat
  low : Nat
  high : Nat
  den : Nat
  closed : Bool

/-- Whether `n / d` lies in the interval. -/
def Interval.contains (i : Interval) (n d : Nat) : Bool :=
  if i.closed then i.low * d ≤ n * i.den && n * i.den ≤ i.high * d
  else i.low * d < n * i.den && n * i.den < i.high * d

/-- The interval of numbers that round to the double `mantissa · 2 ^ exponent`. Below a power of
two the doubles lie twice as dense. -/
def Interval.ofDouble (mantissa : Nat) (exponent : Int) : Interval :=
  let narrow := mantissa == Nat.pow 2 52 && exponent != -1074
  let s := Nat.pow 2 (exponent - 2).toNat
  { value := 4 * mantissa * s
    low := (4 * mantissa - (if narrow then 1 else 2)) * s
    high := (4 * mantissa + 2) * s
    den := Nat.pow 2 (2 - exponent).toNat
    closed := mantissa % 2 == 0 }

/-- The point of the decimal grid with the given step that lies in the interval nearest to its
value, if the interval has one. Only the value's two neighbours can be that point. -/
def Interval.gridPoint (i : Interval) (step : Int) : Option Decimal :=
  let up := Nat.pow 10 step.toNat
  let down := Nat.pow 10 (-step).toNat
  let num := i.value * down
  let den := i.den * up
  let f := num / den
  let lowIn := i.contains (f * up) down
  let highIn := i.contains ((f + 1) * up) down
  let rest := num % den
  if lowIn && highIn then
    let pickLow := 2 * rest < den || (2 * rest == den && f % 2 == 0)
    some ⟨if pickLow then f else f + 1, step⟩
  else if lowIn then some ⟨f, step⟩
  else if highIn then some ⟨f + 1, step⟩
  else none

/-- Tries grids of more and more digits; seventeen always suffice. -/
def Interval.search (i : Interval) (point : Int) : Nat → Nat → Decimal
  | 0, n =>
    let step := point - Int.ofNat n
    ⟨i.value * Nat.pow 10 (-step).toNat / (i.den * Nat.pow 10 step.toNat), step⟩
  | fuel + 1, n =>
    match i.gridPoint (point - Int.ofNat n) with
    | some d => d
    | none => Interval.search i point fuel (n + 1)

/-- The shortest decimal that reads back as the positive double `mantissa · 2 ^ exponent`. -/
def shortest (mantissa : Nat) (exponent : Int) : Decimal :=
  let i := Interval.ofDouble mantissa exponent
  (i.search (pointPosition i.value i.den) 17 1).strip 20

/-- How a format writes the digits of a double. A number is written positionally when its first
digit stands at most `after` places behind the point or `before` places in front of it. -/
structure Layout where
  /-- Zeros that may stand between the point and the first digit. -/
  after : Nat
  /-- Digits that may stand in front of the point. -/
  before : Nat
  /-- Digits that an exponent has at least. -/
  exponentWidth : Nat
  deriving Repr

/-- The layout in messages: positional from `1e-4` up to `1e16`, two digits in an exponent. -/
def Layout.message : Layout := ⟨3, 16, 2⟩

/-- The layout in JSON text: positional from `1e-5` up to `1e16`, exponents without padding. -/
def Layout.json : Layout := ⟨4, 16, 1⟩

/-- A natural with at least `width` digits. -/
def padded (width n : Nat) : String :=
  let ds := Nat.toDigits 10 n
  String.ofList (List.replicate (width - ds.length) '0' ++ ds)

/-- Writes digits in a layout. A whole number keeps `.0`. -/
def Layout.write (l : Layout) (d : Decimal) : String :=
  let ds := Nat.toDigits 10 d.digits
  let point : Int := Int.ofNat ds.length + d.exponent
  if -Int.ofNat l.after ≤ point && point ≤ Int.ofNat l.before then
    if point ≤ 0 then
      "0." ++ String.ofList (List.replicate (-point).toNat '0' ++ ds)
    else if ds.length ≤ point.toNat then
      String.ofList (ds ++ List.replicate (point.toNat - ds.length) '0') ++ ".0"
    else
      String.ofList (ds.take point.toNat) ++ "." ++ String.ofList (ds.drop point.toNat)
  else
    let e := point - 1
    let head := String.ofList (ds.take 1)
    let tail := if ds.length ≤ 1 then "" else "." ++ String.ofList (ds.drop 1)
    head ++ tail ++ "e" ++ (if e < 0 then "-" else "+") ++ padded l.exponentWidth e.natAbs

/-- The shortest text of a double in a layout; `inf`, `-inf` and `nan` for the rest. -/
def Layout.float (l : Layout) (x : Float) : String :=
  match decode x with
  | .nan => "nan"
  | .infinite negative => if negative then "-inf" else "inf"
  | .finite negative m e =>
    let body := if m == 0 then "0.0" else l.write (shortest m e)
    if negative then "-" ++ body else body

/-- The integer nearest to `num / den`, a tie going to the even one. -/
def roundHalfEven (num den : Nat) : Nat :=
  let q := num / den
  let r := num % den
  if den < 2 * r || (2 * r == den && q % 2 == 1) then q + 1 else q

/-- A double with exactly `places` digits behind the point. -/
def fixed (places : Nat) (x : Float) : String :=
  match decode x with
  | .nan => "nan"
  | .infinite negative => if negative then "-inf" else "inf"
  | .finite negative m e =>
    let r := ratio m e
    let scaled := roundHalfEven (r.1 * Nat.pow 10 places) r.2
    let body := toString (scaled / Nat.pow 10 places) ++
      (if places == 0 then "" else "." ++ padded places (scaled % Nat.pow 10 places))
    if negative then "-" ++ body else body

end BrokerClient.Number
