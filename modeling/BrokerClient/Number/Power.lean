import BrokerClient.Number.Binary64

/-!
# Integer powers of doubles

`power b n` is a faithful rounding of `b ^ n`. A power that is a double is returned exactly. Any
other lies between two neighbouring doubles; the result is the one of these two that the
platform's power function names, and the nearer one if it names neither. So the result depends on
the platform only in its last bit, and whether a power overflows does not depend on it at all
up to exponents of `2 ^ 17`.
-/

namespace BrokerClient.Number

/-- Moves factors of two from the mantissa into the exponent; `fuel` bounds their number. -/
def oddPart : Nat → Nat → Int → Nat × Int
  | 0, m, e => (m, e)
  | fuel + 1, m, e => if m != 0 && m % 2 == 0 then oddPart fuel (m / 2) (e + 1) else (m, e)

/-- The largest exponent for which powers are formed exactly. -/
def exactPowerLimit : Nat := Nat.pow 2 17

/-- Which of two neighbouring doubles stands for a ratio between them: the one that `hint` is,
or the nearer one. -/
def faithful (hint : Float) (negative : Bool) (num den : Nat) : Float :=
  let b := below num den
  let lo := assemble negative b.mantissa b.exponent
  if b.rest == 0 then lo
  else
    let hi := assemble negative (b.mantissa + 1) b.exponent
    if hint == hi then hi
    else if hint == lo then lo
    else if b.unit < 2 * b.rest || (2 * b.rest == b.unit && b.mantissa % 2 == 1) then hi
    else lo

/-- The power of `mantissa · 2 ^ exponent`, for an odd mantissa above one. -/
def oddPower (hint : Float) (negative : Bool) (mantissa : Nat) (exponent n : Int) : Float :=
  let k := n.natAbs
  let top := Int.ofNat mantissa.log2 + exponent
  if (0 < top && 1024 ≤ n) || (top + 1 < 0 && n ≤ -1024) then assemble negative 0 2000
  else if k ≤ exactPowerLimit then
    let m := Nat.pow mantissa k
    let e := exponent * Int.ofNat k
    let num := m * Nat.pow 2 e.toNat
    let den := Nat.pow 2 (-e).toNat
    if 0 ≤ n then faithful hint negative num den else faithful hint negative den num
  else if 0 ≤ top && 0 ≤ n && !(1 ≤ hint) then 1
  else hint

/-- The double `± 2 ^ e`; infinite when `e` is too large and zero when it is too small. -/
def powerOfTwo (negative : Bool) (e : Int) : Float :=
  if 1024 ≤ e then assemble negative 0 2000
  else if e < -1074 then assemble negative 0 (-1074)
  else if e < -1022 then assemble negative (Nat.pow 2 (e + 1074).toNat) (-1074)
  else assemble negative (Nat.pow 2 52) (e - 52)

/-- The power of a double to an integer; infinite when it is too large. -/
def power (b : Float) (n : Int) : Float :=
  if n == 0 then 1
  else
    match decode b with
    | .nan => b
    | .infinite negative =>
      let odd := negative && n % 2 == 1
      if 0 < n then assemble odd 0 2000 else assemble odd 0 (-1074)
    | .finite negative m e =>
      let odd := negative && n % 2 == 1
      if m == 0 then
        if 0 < n then assemble odd 0 (-1074) else assemble odd 0 2000
      else
        let p := oddPart 53 m e
        if p.1 == 1 then powerOfTwo odd (p.2 * n)
        else oddPower (Float.pow b (Float.ofInt n)) odd p.1 p.2 n

/-- Whether an integer is too large for a double: it is rounded beyond the largest one. -/
@[irreducible]
def exceedsDouble (n : Int) : Bool :=
  Nat.pow 2 1024 - Nat.pow 2 970 ≤ n.natAbs

/-- Whether a power of finite operands is too large for a double. -/
def powerOverflows (b : Float) (n : Int) : Bool :=
  isFinite b && !isFinite (power b n)

end BrokerClient.Number
