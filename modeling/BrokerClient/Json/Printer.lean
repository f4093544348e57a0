import BrokerClient.Json.Basic
import BrokerClient.Number.Decimal
import BrokerClient.Text.Quoted

/-!
# Writing JSON values

`Json.text` is the compact JSON text of a value. Only what JSON requires is escaped, and a double
that is no number is written `null`. `Json.inspect` is the form of a value in messages.
-/

namespace BrokerClient.Json

/-- One character of a JSON string. -/
def escapeChar (c : Char) : List Char :=
  if c == '"' then ['\\', '"']
  else if c == '\\' then ['\\', '\\']
  else if c == '\n' then ['\\', 'n']
  else if c == '\r' then ['\\', 'r']
  else if c == '\t' then ['\\', 't']
  else if c == '\x08' then ['\\', 'b']
  else if c == '\x0c' then ['\\', 'f']
  else if c.toNat < 0x20 then '\\' :: 'u' :: Text.hexDigits 4 c.toNat
  else [c]

/-- The characters of a JSON string with its quotes. -/
def stringChars (s : String) : List Char :=
  '"' :: (s.toList.flatMap escapeChar ++ ['"'])

/-- The text of a double: the shortest digits, or null. -/
def floatText (x : Float) : String :=
  if Number.isFinite x then Number.Layout.json.float x else "null"

mutual

/-- The characters of the compact text of a value. -/
def chars : Json → List Char
  | .null => "null".toList
  | .bool b => if b then "true".toList else "false".toList
  | .int n => (toString n).toList
  | .float x => (floatText x).toList
  | .str s => stringChars s
  | .arr items => '[' :: itemChars items
  | .obj members => '{' :: memberChars members

/-- The rest of a list after its opening bracket. -/
def itemChars : List Json → List Char
  | [] => [']']
  | [v] => chars v ++ [']']
  | v :: rest => chars v ++ ',' :: itemChars rest

/-- The rest of an object after its opening brace. -/
def memberChars : List (String × Json) → List Char
  | [] => ['}']
  | [(name, v)] => stringChars name ++ ':' :: (chars v ++ ['}'])
  | (name, v) :: rest => stringChars name ++ ':' :: (chars v ++ ',' :: memberChars rest)

end

/-- The compact text of a value. -/
def text (v : Json) : String :=
  String.ofList v.chars

mutual

/-- The form of a value in messages. -/
def inspect : Json → String
  | .null => "None"
  | .bool b => if b then "True" else "False"
  | .int n => toString n
  | .float x => Number.Layout.message.float x
  | .str s => Text.quote s
  | .arr items => "[" ++ String.intercalate ", " (inspectItems items) ++ "]"
  | .obj members => "\x7b" ++ String.intercalate ", " (inspectMembers members) ++ "\x7d"

/-- The forms of the items of a list. -/
def inspectItems : List Json → List String
  | [] => []
  | v :: rest => inspect v :: inspectItems rest

/-- The forms of the members of an object. -/
def inspectMembers : List (String × Json) → List String
  | [] => []
  | (name, v) :: rest => (Text.quote name ++ ": " ++ inspect v) :: inspectMembers rest

end

end BrokerClient.Json
