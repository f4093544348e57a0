/-!
# Percent-encoding

`encode` writes every byte of a text's UTF-8 form that is not allowed to stand alone as `%` and
two upper-case hexadecimal digits. `decode` reads such a text back to bytes.
-/

namespace BrokerClient.Text.Percent

/-- The characters that never need encoding: letters, digits and `_.-~`. -/
def isUnreserved (b : UInt8) : Bool :=
  let c := Char.ofNat b.toNat
  b < 128 && (c.isAlphanum || c == '_' || c == '.' || c == '-' || c == '~')

/-- The upper-case hexadecimal digit of a number below 16. -/
def hexDigit (n : Nat) : Char :=
  if n < 10 then Char.ofNat (48 + n) else Char.ofNat (55 + n)

/-- The value of a hexadecimal digit of either case. -/
def hexValue? (c : Char) : Option Nat :=
  if '0' ≤ c && c ≤ '9' then some (c.toNat - 48)
  else if 'A' ≤ c && c ≤ 'F' then some (c.toNat - 55)
  else if 'a' ≤ c && c ≤ 'f' then some (c.toNat - 87)
  else none

/-- One byte, written as itself when `keep` allows it. -/
def encodeByte (keep : UInt8 → Bool) (b : UInt8) : List Char :=
  if keep b then [Char.ofNat b.toNat]
  else ['%', hexDigit (b.toNat / 16), hexDigit (b.toNat % 16)]

/-- Encodes a text; the bytes that `keep` allows stand for themselves. -/
def encodeWith (keep : UInt8 → Bool) (s : String) : String :=
  String.ofList (s.toUTF8.toList.flatMap (encodeByte keep))

/-- Encodes all but the unreserved characters. -/
def encode (s : String) : String :=
  encodeWith isUnreserved s

/-- Encodes all but the unreserved characters and `*`. -/
def encodeKeepingStar (s : String) : String :=
  encodeWith (fun b => isUnreserved b || b == 42) s

/-- The bytes that an encoded text stands for. A `%` has to be followed by two digits, and
all other characters have to be ASCII. -/
def decodeBytes : List Char → Option (List UInt8)
  | [] => some []
  | '%' :: hi :: lo :: rest => do
    let h ← hexValue? hi
    let l ← hexValue? lo
    let bytes ← decodeBytes rest
    return (16 * h + l).toUInt8 :: bytes
  | c :: rest =>
    if c == '%' || 128 ≤ c.toNat then none
    else (decodeBytes rest).map (c.toNat.toUInt8 :: ·)

/-- Reads an encoded text back; `none` when a `%` stands alone or the bytes are no UTF-8. -/
def decode (s : String) : Option String := do
  let bytes ← decodeBytes s.toList
  String.fromUTF8? ⟨bytes.toArray⟩

end BrokerClient.Text.Percent
