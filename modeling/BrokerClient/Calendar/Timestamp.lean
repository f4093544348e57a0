import BrokerClient.Calendar.Instant
import BrokerClient.Json.Reader

/-!
# Reading timestamps

A timestamp is written as a civil date and time with an optional fraction and an optional offset
from UTC, as a date alone, which is its midnight, or as a number. A number of magnitude at most
`2 · 10 ^ 10` counts seconds from 1970 and a larger one milliseconds. Without an offset a civil time
is in UTC; a fraction is cut after six digits.
-/

namespace BrokerClient.Calendar.Timestamp

/-- Why a timestamp is refused. -/
inductive Fault
  /-- The text is no timestamp. -/
  | malformed
  /-- The number or the written year lies outside the calendar. -/
  | outOfRange
  /-- The moment leaves the calendar when it is moved to UTC. -/
  | beyondCalendar
  deriving DecidableEq, Repr

/-- A civil date and time as it is written; the offset is in minutes. -/
structure Civil where
  date : Date
  /-- The time of the day in microseconds. -/
  timeOfDay : Nat
  offset : Option Int
  deriving DecidableEq, Repr

/-- The value of a digit. -/
def digit? (c : Char) : Option Nat :=
  if Json.isDigit c then some (c.toNat - 48) else none

/-- Two digits. -/
def twoDigits : List Char → Option (Nat × List Char)
  | a :: b :: rest => do
    let x ← digit? a
    let y ← digit? b
    return (10 * x + y, rest)
  | _ => none

/-- A date of ten characters, with what follows it. -/
def datePart (cs : List Char) : Option (Date × List Char) := do
  let (century, rest) ← twoDigits cs
  let (year, rest) ← twoDigits rest
  match rest with
  | '-' :: rest => do
    let (month, rest) ← twoDigits rest
    match rest with
    | '-' :: rest => do
      let (day, rest) ← twoDigits rest
      let d : Date := ⟨100 * century + year, month, day⟩
      if d.isValid then some (d, rest) else none
    | _ => none
  | _ => none

/-- The microseconds of a fraction: its first six digits, filled up with zeros. -/
def fractionMicros (digits : List Char) : Nat :=
  let ds := digits.take 6
  Json.digitsValue ds * Nat.pow 10 (6 - ds.length)

/-- The seconds and the fraction behind hours and minutes, in microseconds; both may be absent. -/
def secondsPart (cs : List Char) : Option (Nat × List Char) :=
  match cs with
  | ':' :: rest => do
    let (s, rest) ← twoDigits rest
    if 59 < s then none
    else
      match rest with
      | c :: r =>
        if c == '.' || c == ',' then
          let ds := r.takeWhile Json.isDigit
          if ds.isEmpty then none
          else some (s * 1000000 + fractionMicros ds, r.dropWhile Json.isDigit)
        else some (s * 1000000, rest)
      | [] => some (s * 1000000, [])
  | _ => some (0, cs)

/-- A time of the day in microseconds, with what follows it. -/
def timePart (cs : List Char) : Option (Nat × List Char) := do
  let (h, rest) ← twoDigits cs
  match rest with
  | ':' :: rest => do
    let (m, rest) ← twoDigits rest
    if 23 < h || 59 < m then none
    else
      let (s, rest) ← secondsPart rest
      return ((h * 3600 + m * 60) * 1000000 + s, rest)
  | _ => none

/-- Hours and minutes of an offset, with or without a colon, up to the end of the text. -/
def offsetMinutes (cs : List Char) : Option Nat := do
  let (h, rest) ← twoDigits cs
  let (m, rest) ← twoDigits (match rest with
    | ':' :: r => r
    | r => r)
  if rest.isEmpty && m < 60 && h < 24 then some (60 * h + m) else none

/-- The offset that ends a text: none, `Z`, or a sign with hours and minutes. -/
def offsetPart : List Char → Option (Option Int)
  | [] => some none
  | ['Z'] => some (some 0)
  | ['z'] => some (some 0)
  | '+' :: rest => (offsetMinutes rest).map fun m => some (Int.ofNat m)
  | '-' :: rest => (offsetMinutes rest).map fun m => some (-Int.ofNat m)
  | '\u2212' :: rest => (offsetMinutes rest).map fun m => some (-Int.ofNat m)
  | _ => none

/-- Whether a character may stand between a date and a time. -/
def isSeparator (c : Char) : Bool :=
  c == 'T' || c == 't' || c == ' ' || c == '_'

/-- A whole text that is a civil date and time. -/
def civil? (cs : List Char) : Option Civil := do
  let (d, rest) ← datePart cs
  match rest with
  | c :: rest =>
    if isSeparator c then do
      let (time, rest) ← timePart rest
      let offset ← offsetPart rest
      return ⟨d, time, offset⟩
    else none
  | [] => none

/-- A whole text that is a date. -/
def dateOnly? (cs : List Char) : Option Date := do
  let (d, rest) ← datePart cs
  if rest.isEmpty then some d else none

/-- The instant of a civil date and time. -/
def Civil.instant (c : Civil) : Except Fault Instant :=
  if c.date.year == 0 then .error .outOfRange
  else
    let minutes := c.offset.getD 0
    match Instant.ofMicros? (Instant.civilMicros c.date c.timeOfDay - minutes * 60000000) with
    | some t => .ok t
    | none => .error .beyondCalendar

/-- The largest magnitude that counts seconds. -/
def secondsLimit : Nat := 20000000000

/-- The microseconds that an integer timestamp stands for. -/
def intMicros (n : Int) : Int :=
  if n.natAbs ≤ secondsLimit then n * 1000000 else n * 1000

/-- The microseconds that a double stands for: whole seconds rounded down and the rest rounded to
the nearest microsecond, a half going up. -/
def floatMicros? (x : Float) : Option Int := do
  let seconds := if x.abs ≤ 2e10 then x else x / 1000
  let whole ← Number.floor? seconds
  let rest ← Number.round? ((seconds - Float.ofInt whole) * 1000000)
  return whole * 1000000 + rest

/-- The instant that a number stands for. -/
def ofMicros (n : Option Int) : Except Fault Instant :=
  match n.bind Instant.ofMicros? with
  | some t => .ok t
  | none => .error .outOfRange

/-- The instant of an integer timestamp. -/
def ofInt (n : Int) : Except Fault Instant :=
  ofMicros (some (intMicros n))

/-- The instant of a timestamp that is a double. -/
def ofFloat (x : Float) : Except Fault Instant :=
  ofMicros (floatMicros? x)

/-- A number without an exponent: digits with an optional sign, and perhaps a point with or
without digits after it. -/
def number? (cs : List Char) : Option (Int ⊕ Float) :=
  let signed : Bool × List Char := match cs with
    | '-' :: r => (true, r)
    | '+' :: r => (false, r)
    | r => (false, r)
  let whole := signed.2.takeWhile Json.isDigit
  if whole.isEmpty then none
  else
    match signed.2.dropWhile Json.isDigit with
    | [] =>
      let n := Int.ofNat (Json.digitsValue whole)
      some (.inl (if signed.1 then -n else n))
    | '.' :: fraction =>
      if fraction.all Json.isDigit then
        some (.inr (Json.decimalValue signed.1 (Json.digitsValue (whole ++ fraction))
          (-Int.ofNat fraction.length)))
      else none
    | _ => none

/-- The first microsecond of the year 0, which can be written but is no year of the calendar. -/
def yearZeroMicro : Int := firstMicro - 366 * microsPerDay

/-- The instant of a number that is written as text. Outside the years that can be written it is
no timestamp at all. -/
def ofWrittenMicros (n : Option Int) : Except Fault Instant :=
  match n with
  | some n =>
    if yearZeroMicro ≤ n && n < firstMicro then .error .outOfRange
    else
      match Instant.ofMicros? n with
      | some t => .ok t
      | none => .error .malformed
  | none => .error .malformed

/-- The instant that a text stands for. -/
def ofText (s : String) : Except Fault Instant :=
  let cs := s.toList
  match civil? cs with
  | some c => c.instant
  | none =>
    match number? cs with
    | some (.inl n) => ofWrittenMicros (some (intMicros n))
    | some (.inr x) => ofWrittenMicros (floatMicros? x)
    | none =>
      match dateOnly? cs with
      | some d => Civil.instant ⟨d, 0, none⟩
      | none => .error .malformed

end BrokerClient.Calendar.Timestamp
