import BrokerClient.Json.Basic
import BrokerClient.Number.Decimal
import BrokerClient.Text.Percent

/-!
# Reading JSON text

The reader is strict, with two allowances and two limits. It also takes the words `NaN`,
`Infinity` and `-Infinity`; a container that is not empty may not lie deeper than
`Limits.depth`, and an integer may not have more digits than `Limits.digits`. A name that is given
twice in an object has the last value at the place of the first.

`ofText?` reads a whole text and `ofBytes?` the UTF-8 form of one. A byte order mark is no white
space, so a text that begins with one is refused.

## Main definitions

* `Json.Limits` — how deep and how long a text may be.
* `Json.ofText?`, `Json.ofBytes?` — the value of a text, if it is a JSON text.
-/

namespace BrokerClient.Json

/-- What a reader puts up with. -/
structure Limits where
  /-- How deep containers that are not empty may be nested, the outermost counted. -/
  depth : Nat
  /-- How many digits an integer may have. -/
  digits : Nat

/-- The limits on message bodies. -/
def Limits.standard : Limits := ⟨200, 4300⟩

/-- The white space of JSON. -/
def isSpace (c : Char) : Bool :=
  c == ' ' || c == '\n' || c == '\t' || c == '\r'

/-- Drops white space in front. -/
def skipSpace (cs : List Char) : List Char :=
  cs.dropWhile isSpace

/-- A decimal digit. -/
def isDigit (c : Char) : Bool :=
  '0' ≤ c && c ≤ '9'

/-- The natural number that a list of digits spells. -/
def digitsValue (cs : List Char) : Nat :=
  cs.foldl (fun n c => 10 * n + (c.toNat - 48)) 0

/-- The double nearest to `± digits · 10 ^ exponent`. A decimal too large or too small for any
double is decided by its length, so that its power of ten is never formed. -/
def decimalValue (negative : Bool) (digits : Nat) (exponent : Int) : Float :=
  let size := Int.ofNat (Number.digitCount digits) + exponent
  if digits == 0 || size < -400 then Number.ofRatio negative 0 1
  else if 400 < size then Number.assemble negative 0 2000
  else
    Number.ofRatio negative (digits * Nat.pow 10 exponent.toNat) (Nat.pow 10 (-exponent).toNat)

/-- The exponent at the front of a text: its value and what follows, or nothing when an `e` is
not followed by digits. A text without an exponent has the exponent zero. -/
def exponentPart (cs : List Char) : Option (Bool × Int × List Char) :=
  match cs with
  | c :: rest =>
    if c == 'e' || c == 'E' then
      let signed : Bool × List Char := match rest with
        | '-' :: r => (true, r)
        | '+' :: r => (false, r)
        | r => (false, r)
      let ds := signed.2.takeWhile isDigit
      if ds.isEmpty then none
      else
        let n := Int.ofNat (digitsValue ds)
        some (true, if signed.1 then -n else n, signed.2.dropWhile isDigit)
    else some (false, 0, cs)
  | [] => some (false, 0, [])

/-- The fraction at the front of a text: whether there is one, its digits and what follows. -/
def fractionPart (cs : List Char) : Option (Bool × List Char × List Char) :=
  match cs with
  | '.' :: rest =>
    let ds := rest.takeWhile isDigit
    if ds.isEmpty then none else some (true, ds, rest.dropWhile isDigit)
  | _ => some (false, [], cs)

/-- A number without its sign. -/
def unsigned (limits : Limits) (negative : Bool) (cs : List Char) : Option (Json × List Char) :=
  let whole := cs.takeWhile isDigit
  let leadingZero := whole.head? == some '0' && whole.length != 1
  if whole.isEmpty || leadingZero then none
  else do
    let (hasFraction, fraction, afterFraction) ← fractionPart (cs.dropWhile isDigit)
    let (hasExponent, exponent, rest) ← exponentPart afterFraction
    if hasFraction || hasExponent then
      let x := decimalValue negative (digitsValue (whole ++ fraction))
        (exponent - Int.ofNat fraction.length)
      return (.float x, rest)
    else if limits.digits < whole.length then none
    else
      let n := Int.ofNat (digitsValue whole)
      return (.int (if negative then -n else n), rest)

/-- Drops a word in front of a text. -/
def expect (word cs : List Char) : Option (List Char) :=
  if word.isPrefixOf cs then some (cs.drop word.length) else none

/-- A number, or one of the words for doubles that are no numbers. -/
def number (limits : Limits) : List Char → Option (Json × List Char)
  | '-' :: 'I' :: rest =>
    (expect "nfinity".toList rest).map fun r => (.float (-Number.infinity), r)
  | '-' :: rest => unsigned limits true rest
  | 'I' :: rest => (expect "nfinity".toList rest).map fun r => (.float Number.infinity, r)
  | 'N' :: rest => (expect "aN".toList rest).map fun r => (.float Number.notANumber, r)
  | cs => unsigned limits false cs

/-- The number that four hexadecimal digits spell, with what follows them. -/
def hexQuad : List Char → Option (Nat × List Char)
  | a :: b :: c :: d :: rest => do
    let a ← Text.Percent.hexValue? a
    let b ← Text.Percent.hexValue? b
    let c ← Text.Percent.hexValue? c
    let d ← Text.Percent.hexValue? d
    return (((a * 16 + b) * 16 + c) * 16 + d, rest)
  | _ => none

/-- The character of a `\u` escape. A high surrogate needs the escape of a low one after it. -/
def unicodeEscape (cs : List Char) : Option (Char × List Char) := do
  let (n, rest) ← hexQuad cs
  if 0xd800 ≤ n && n < 0xdc00 then
    match rest with
    | '\\' :: 'u' :: r => do
      let (low, r) ← hexQuad r
      if 0xdc00 ≤ low && low < 0xe000 then
        return (Char.ofNat (0x10000 + (n - 0xd800) * 0x400 + (low - 0xdc00)), r)
      else none
    | _ => none
  else if 0xdc00 ≤ n && n < 0xe000 then none
  else return (Char.ofNat n, rest)

/-- The character of an escape after its backslash. -/
def escape : List Char → Option (Char × List Char)
  | '"' :: r => some ('"', r)
  | '\\' :: r => some ('\\', r)
  | '/' :: r => some ('/', r)
  | 'b' :: r => some ('\x08', r)
  | 'f' :: r => some ('\x0c', r)
  | 'n' :: r => some ('\n', r)
  | 'r' :: r => some ('\r', r)
  | 't' :: r => some ('\t', r)
  | 'u' :: r => unicodeEscape r
  | _ => none

/-- The characters of a string up to its closing quote. `seen` holds those read so far, the last
one first; `fuel` bounds the characters left. -/
def stringBody : Nat → List Char → List Char → Option (String × List Char)
  | 0, _, _ => none
  | fuel + 1, seen, cs =>
    match cs with
    | [] => none
    | '"' :: rest => some (String.ofList seen.reverse, rest)
    | '\\' :: rest => do
      let (c, r) ← escape rest
      stringBody fuel (c :: seen) r
    | c :: rest => if c.toNat < 0x20 then none else stringBody fuel (c :: seen) rest

mutual

/-- A value at the front of a text. `depth` counts the containers that may still be opened. -/
def value (limits : Limits) : Nat → Nat → List Char → Option (Json × List Char)
  | 0, _, _ => none
  | fuel + 1, depth, cs =>
    match cs with
    | '[' :: rest =>
      match skipSpace rest, depth with
      | ']' :: r, _ => some (.arr [], r)
      | _, 0 => none
      | r, d + 1 => (items limits fuel d r).map fun (xs, r) => (.arr xs, r)
    | '{' :: rest =>
      match skipSpace rest, depth with
      | '}' :: r, _ => some (.obj [], r)
      | _, 0 => none
      | r, d + 1 => (members limits fuel d [] r).map fun (ms, r) => (.obj ms, r)
    | '"' :: rest => (stringBody (rest.length + 1) [] rest).map fun (s, r) => (.str s, r)
    | 't' :: rest => (expect "rue".toList rest).map fun r => (.bool true, r)
    | 'f' :: rest => (expect "alse".toList rest).map fun r => (.bool false, r)
    | 'n' :: rest => (expect "ull".toList rest).map fun r => (.null, r)
    | cs => number limits cs

/-- The items of a list that is not empty, up to its closing bracket. -/
def items (limits : Limits) : Nat → Nat → List Char → Option (List Json × List Char)
  | 0, _, _ => none
  | fuel + 1, depth, cs => do
    let (v, rest) ← value limits fuel depth (skipSpace cs)
    match skipSpace rest with
    | ',' :: r => do
      let (vs, r) ← items limits fuel depth r
      return (v :: vs, r)
    | ']' :: r => return ([v], r)
    | _ => none

/-- The members of an object that is not empty, up to its closing brace, added to `seen`. -/
def members (limits : Limits) :
    Nat → Nat → List (String × Json) → List Char → Option (List (String × Json) × List Char)
  | 0, _, _, _ => none
  | fuel + 1, depth, seen, cs =>
    match skipSpace cs with
    | '"' :: rest => do
      let (name, rest) ← stringBody (rest.length + 1) [] rest
      match skipSpace rest with
      | ':' :: rest => do
        let (v, rest) ← value limits fuel depth (skipSpace rest)
        let seen := setMember name v seen
        match skipSpace rest with
        | ',' :: r => members limits fuel depth seen r
        | '}' :: r => return (seen, r)
        | _ => none
      | _ => none
    | _ => none

end

/-- Reads a text that holds one value and white space around it. -/
def ofChars? (limits : Limits) (cs : List Char) : Option Json := do
  let (v, rest) ← value limits (cs.length + 1) limits.depth (skipSpace cs)
  if (skipSpace rest).isEmpty then some v else none

/-- Reads a text that holds one value and white space around it. -/
def ofText? (limits : Limits) (s : String) : Option Json :=
  ofChars? limits s.toList

/-- Reads the UTF-8 form of a text. -/
def ofBytes? (limits : Limits) (bytes : ByteArray) : Option Json :=
  (String.fromUTF8? bytes).bind (ofText? limits)

end BrokerClient.Json
