/-!
# Doubles as exact numbers

A finite double is `± mantissa · 2 ^ exponent`. `decode` reads these parts from the bits and
`ofRatio` goes back: it returns the double nearest to a ratio of naturals, a tie going to the even
mantissa. `below` is the step both share: the largest double that is at most the ratio.
-/

namespace BrokerClient.Number

/-- What a double stands for. -/
inductive Binary64
  | nan
  | infinite (negative : Bool)
  | finite (negative : Bool) (mantissa : Nat) (exponent : Int)
  deriving DecidableEq, Repr

/-- The parts of a double, read from its bits. -/
def decode (x : Float) : Binary64 :=
  let n := x.toBits.toNat
  let negative := n / Nat.pow 2 63 == 1
  let biased := n / Nat.pow 2 52 % 2048
  let fraction := n % Nat.pow 2 52
  if biased == 2047 then
    if fraction == 0 then .infinite negative else .nan
  else if biased == 0 then .finite negative fraction (-1074)
  else .finite negative (Nat.pow 2 52 + fraction) (Int.ofNat biased - 1075)

/-- The double with magnitude `mantissa · 2 ^ exponent`, for a mantissa of at most 53 bits, or
`2 ^ 53`, and an exponent of at least `-1074` that is `-1074` when the mantissa has fewer than
53 bits. A magnitude beyond the largest double is infinite. -/
def assemble (negative : Bool) (mantissa : Nat) (exponent : Int) : Float :=
  let magnitude := min ((exponent + 1074).toNat * Nat.pow 2 52 + mantissa) (2047 * Nat.pow 2 52)
  Float.ofBits ((if negative then Nat.pow 2 63 else 0) + magnitude).toUInt64

/-- The largest `mantissa · 2 ^ exponent` on the grid of doubles that is at most `num / den`,
with what is left over: `num / den = (mantissa + rest / unit) · 2 ^ exponent`. -/
structure Below where
  mantissa : Nat
  exponent : Int
  rest : Nat
  unit : Nat

/-- The double below a positive ratio. -/
def below (num den : Nat) : Below :=
  let scale := Int.ofNat num.log2 - Int.ofNat den.log2
  -- `2 ^ scale` is within a factor of two of the ratio; take the true binary logarithm
  let reaches : Bool :=
    if 0 ≤ scale then den * Nat.pow 2 scale.toNat ≤ num else den ≤ num * Nat.pow 2 (-scale).toNat
  let top := if reaches then scale else scale - 1
  let exponent := max (top - 52) (-1074)
  let up := num * Nat.pow 2 (-exponent).toNat
  let unit := den * Nat.pow 2 exponent.toNat
  ⟨up / unit, exponent, up % unit, unit⟩

/-- The double nearest to `num / den`; of two equally near ones the one with even mantissa. -/
def ofRatio (negative : Bool) (num den : Nat) : Float :=
  if num == 0 then assemble negative 0 (-1074)
  else
    let b := below num den
    let roundUp := b.unit < 2 * b.rest || (2 * b.rest == b.unit && b.mantissa % 2 == 1)
    assemble negative (if roundUp then b.mantissa + 1 else b.mantissa) b.exponent

/-- The magnitude of a finite double as a ratio of naturals. -/
def ratio (mantissa : Nat) (exponent : Int) : Nat × Nat :=
  (mantissa * Nat.pow 2 exponent.toNat, Nat.pow 2 (-exponent).toNat)

/-- The largest integer that is at most a finite double. -/
def floor? (x : Float) : Option Int :=
  match decode x with
  | .finite negative m e =>
    let r := ratio m e
    some (if negative then -Int.ofNat ((r.1 + r.2 - 1) / r.2) else Int.ofNat (r.1 / r.2))
  | _ => none

/-- The integer part of a finite double. -/
def truncate? (x : Float) : Option Int :=
  match decode x with
  | .finite negative m e =>
    let r := ratio m e
    let n := Int.ofNat (r.1 / r.2)
    some (if negative then -n else n)
  | _ => none

/-- The integer nearest to a finite double, a half going away from zero. -/
def round? (x : Float) : Option Int :=
  match decode x with
  | .finite negative m e =>
    let r := ratio m e
    let n := Int.ofNat ((2 * r.1 + r.2) / (2 * r.2))
    some (if negative then -n else n)
  | _ => none

/-- The integer that a finite double without a fraction is. -/
def exactInt? (x : Float) : Option Int :=
  match decode x with
  | .finite negative m e =>
    let r := ratio m e
    if r.1 % r.2 == 0 then
      let n := Int.ofNat (r.1 / r.2)
      some (if negative then -n else n)
    else none
  | _ => none

/-- Whether a double is neither infinite nor a NaN. -/
def isFinite (x : Float) : Bool :=
  match decode x with
  | .finite .. => true
  | _ => false

/-- Positive infinity. -/
def infinity : Float := Float.ofBits 0x7ff0000000000000

/-- A NaN. -/
def notANumber : Float := Float.ofBits 0x7ff8000000000000

end BrokerClient.Number
