import BrokerClient.Text.Printable

/-!
# Quoted literals

`quote` writes a text as a literal for messages. Single quotes are used unless the text has
single quotes and no double ones. The backslash and the quote in use are escaped, as are all
characters without a glyph: by `\t`, `\n`, `\r`, or by two, four or eight hexadecimal digits.
-/

namespace BrokerClient.Text

/-- The last `width` hexadecimal digits of a number, in lower case. -/
def hexDigits (width n : Nat) : List Char :=
  (List.range width).reverse.map fun i => Nat.digitChar (n / Nat.pow 16 i % 16)

/-- The escape of a character without a glyph. -/
def escapeCode (n : Nat) : List Char :=
  if n < 0x100 then '\\' :: 'x' :: hexDigits 2 n
  else if n < 0x10000 then '\\' :: 'u' :: hexDigits 4 n
  else '\\' :: 'U' :: hexDigits 8 n

/-- One character of a literal that is delimited by `delimiter`. -/
def quoteChar (delimiter c : Char) : List Char :=
  if c == delimiter || c == '\\' then ['\\', c]
  else if c == '\t' then ['\\', 't']
  else if c == '\n' then ['\\', 'n']
  else if c == '\r' then ['\\', 'r']
  else if isPrintable c then [c]
  else escapeCode c.toNat

/-- The quote that delimits the literal of a text. -/
def delimiterFor (cs : List Char) : Char :=
  if cs.contains '\'' && !cs.contains '"' then '"' else '\''

/-- The literal of a text. -/
def quote (s : String) : String :=
  let cs := s.toList
  let d := delimiterFor cs
  String.ofList (d :: (cs.flatMap (quoteChar d) ++ [d]))

end BrokerClient.Text
