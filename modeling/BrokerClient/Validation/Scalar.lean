import BrokerClient.Json.Basic
import BrokerClient.Json.Reader
import BrokerClient.Calendar.Timestamp
import BrokerClient.Text.Blank
import BrokerClient.Error

/-!
# Lenient readings of scalar inputs

Each function reads a JSON value as a field of one type and gives either the field or the reason
for refusing it. Numbers are also taken from texts, integers from doubles without a fraction and
from truth values, and truth values from a few words.
-/

namespace BrokerClient.Validation

/-- A reading of a value, or why it is refused. -/
abbrev Reading (α : Type) := Except Reason α

/-- A text. -/
def string : Json → Reading String
  | .str s => .ok s
  | _ => .error .stringType

/-- A text that is not empty. -/
def nonEmptyString (v : Json) : Reading String := do
  let s ← string v
  if s.isEmpty then .error .stringTooShort else .ok s

/-- The digits of a numeral without its single underscores. Underscores at an end or side by side
are refused. -/
def dropUnderscores? (cs : List Char) : Option (List Char) :=
  let doubled := (cs.zip (cs.drop 1)).any fun p => p.1 == '_' && p.2 == '_'
  if cs.head? == some '_' || cs.getLast? == some '_' || doubled then none
  else some (cs.filter (· != '_'))

/-- Drops zeros, and underscores among them, in front of the first other digit. A text of zeros
keeps its last character, and a zero before a point stays. -/
def dropLeadingZeros? : List Char → Option (List Char)
  | '0' :: rest =>
    match rest.dropWhile fun c => c == '0' || c == '_' with
    | [] => some [('0' :: rest).getLast?.getD '0']
    | '.' :: r =>
      some ((('0' :: rest).takeWhile (· != '.')).getLast?.getD '0' :: '.' :: r)
    | c :: r => if Json.isDigit c then some (c :: r) else none
  | c :: rest => if Json.isDigit c then some (c :: rest) else none
  | [] => none

/-- Drops a point that is followed by zeros alone, of which there is at least one. -/
def dropZeroFraction (cs : List Char) : List Char :=
  let fraction := (cs.dropWhile (· != '.')).drop 1
  if !fraction.isEmpty && fraction.all (· == '0') then cs.takeWhile (· != '.') else cs

/-- The integer that a text spells: white space at the ends, a sign, leading zeros, single
underscores between digits and a fraction of zeros are allowed. -/
def intOfText (s : String) : Reading Int :=
  let cs := Text.trimBy Text.isWhiteSpace s.toList
  let signed : Bool × List Char := match cs with
    | '-' :: r => (true, r)
    | '+' :: r => (false, r)
    | r => (false, r)
  match (dropLeadingZeros? signed.2).bind fun ds => dropUnderscores? (dropZeroFraction ds) with
  | some ds =>
    if ds.isEmpty || !ds.all Json.isDigit then .error .intParsing
    else if 4300 < ds.length then .error .intParsingSize
    else
      let n := Int.ofNat (Json.digitsValue ds)
      .ok (if signed.1 then -n else n)
  | none => .error .intParsing

/-- The integer that a double without a fraction is, within 64 bits. -/
def intOfFloat (x : Float) : Reading Int :=
  if !Number.isFinite x then .error .finiteNumber
  else
    match Number.exactInt? x with
    | some n => if n.natAbs < Nat.pow 2 63 then .ok n else .error .intParsingSize
    | none => .error .intFromFloat

/-- An integer. -/
def int : Json → Reading Int
  | .int n => .ok n
  | .bool b => .ok (if b then 1 else 0)
  | .float x => intOfFloat x
  | .str s => intOfText s
  | _ => .error .intType

/-- An integer of at least a bound. -/
def intFrom (low : Int) (v : Json) : Reading Int := do
  let n ← int v
  if n < low then .error (.atLeast low) else .ok n

/-- An integer between two bounds. -/
def intWithin (low high : Int) (v : Json) : Reading Int := do
  let n ← int v
  if n < low then .error (.atLeast low)
  else if high < n then .error (.atMost high)
  else .ok n

/-- A truth value of a whole number: zero or one. -/
def boolOfInt (n : Int) : Reading Bool :=
  if n == 0 then .ok false
  else if n == 1 then .ok true
  else if n.natAbs < Nat.pow 2 63 then .error .boolParsing
  else .error .boolType

/-- A truth value: given as such, as zero or one, or by a word in any case. -/
def bool : Json → Reading Bool
  | .bool b => .ok b
  | .int n => boolOfInt n
  | .float x => match Number.exactInt? x with
    | some n => boolOfInt n
    | none => .error .boolType
  | .str s =>
    let word := s.toLower
    if ["1", "true", "t", "yes", "y", "on"].contains word then .ok true
    else if ["0", "false", "f", "no", "n", "off"].contains word then .ok false
    else .error .boolParsing
  | _ => .error .boolType

/-- Drops a word from the front, in any case. -/
def dropWord? (word : String) (cs : List Char) : Bool :=
  cs.map Char.toLower == word.toList

/-- The double that a plain decimal spells: digits before or after a point and an exponent. -/
def plainDecimal? (negative : Bool) (cs : List Char) : Option Float := do
  let whole := cs.takeWhile Json.isDigit
  let rest := cs.dropWhile Json.isDigit
  let pointed : List Char × List Char := match rest with
    | '.' :: r => (r.takeWhile Json.isDigit, r.dropWhile Json.isDigit)
    | r => ([], r)
  if whole.isEmpty && pointed.1.isEmpty then none
  else do
    let (_, exponent, rest) ← Json.exponentPart pointed.2
    if rest.isEmpty then
      some (Json.decimalValue negative (Json.digitsValue (whole ++ pointed.1))
        (exponent - Int.ofNat pointed.1.length))
    else none

/-- The double that a text spells: a sign, then a decimal or a word for infinity or NaN. -/
def floatOfChars? (cs : List Char) : Option Float :=
  let signed : Bool × List Char := match cs with
    | '-' :: r => (true, r)
    | '+' :: r => (false, r)
    | r => (false, r)
  if dropWord? "inf" signed.2 || dropWord? "infinity" signed.2 then
    some (if signed.1 then -Number.infinity else Number.infinity)
  else if dropWord? "nan" signed.2 then some Number.notANumber
  else plainDecimal? signed.1 signed.2

/-- The double that a text spells, with white space at the ends or with underscores. -/
def floatOfText (s : String) : Reading Float :=
  match floatOfChars? (Text.trimBy Text.isWhiteSpace s.toList) with
  | some x => .ok x
  | none =>
    match (dropUnderscores? s.toList).bind floatOfChars? with
    | some x => .ok x
    | none => .error .floatParsing

/-- A double. -/
def float : Json → Reading Float
  | .float x => .ok x
  | .int n =>
    let x := Json.decimalValue (n < 0) n.natAbs 0
    if Number.isFinite x then .ok x else .error .floatType
  | .bool b => .ok (if b then 1 else 0)
  | .str s => floatOfText s
  | _ => .error .floatType

/-- A double above zero. -/
def positiveFloat (v : Json) : Reading Float := do
  let x ← float v
  if 0 < x then .ok x else .error (.above 0)

/-- One of a few words. -/
def oneOf {α : Type} (words : List (String × α)) (v : Json) : Reading α :=
  match v with
  | .str s => match words.lookup s with
    | some a => .ok a
    | none => .error (.literal (words.map (·.1)))
  | _ => .error (.literal (words.map (·.1)))

/-- An object with any members. -/
def object (origin : Origin) : Json → Reading (List (String × Json))
  | .obj members => .ok members
  | _ => .error (.dictType origin)

/-- A field that may also be null. -/
def optional {α : Type} (read : Json → Reading α) : Json → Reading (Option α)
  | .null => .ok none
  | v => (read v).map some

end BrokerClient.Validation
