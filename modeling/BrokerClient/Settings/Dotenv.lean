import BrokerClient.Table
import BrokerClient.Text.Blank

/-!
# Files of variables

`Dotenv.bindings` reads a text of lines `NAME=VALUE`. A line may begin with `export`; spaces around
the equals sign and at the ends of a value are dropped; a line that begins with `#` and the part of
a value from a `#` after a space on are comments. A value in single or double quotes keeps its
spaces and may run over lines. A line of another shape is skipped. A name may stand without a value,
which takes away the value of an earlier line.

A value may refer to other variables: `${NAME}` stands for the value of `NAME` in the lines before,
or else in the environment, and `${NAME:-DEFAULT}` for the default if the name is not known.
-/

namespace BrokerClient.Settings.Dotenv

open BrokerClient.Text

/-- The end of a line. -/
def isLineEnd (c : Char) : Bool :=
  c == '\n' || c == '\r'

/-- White space within a line. -/
def isLineSpace (c : Char) : Bool :=
  isBlank c && !isLineEnd c

/-- Drops white space within a line. -/
def skipLineSpace (cs : List Char) : List Char :=
  cs.dropWhile isLineSpace

/-- What follows the end of the line. -/
def nextLine (cs : List Char) : List Char :=
  match cs.dropWhile fun c => !isLineEnd c with
  | '\r' :: '\n' :: rest => rest
  | _ :: rest => rest
  | [] => []

/-- Drops a comment and the end of a line; nothing when the line goes on. -/
def lineEnd? (cs : List Char) : Option (List Char) :=
  match skipLineSpace cs with
  | [] => some []
  | '#' :: rest => some (nextLine rest)
  | c :: rest => if isLineEnd c then some (nextLine (c :: rest)) else none

/-- The characters up to a closing quote, with what follows it. A backslash before a quote keeps
the quote from closing, unless no other quote closes. `seen` holds the characters read so far, the
last one first. -/
def quotedBody (quote : Char) : List Char → List Char → Option (List Char × List Char)
  | _, [] => none
  | seen, '\\' :: c :: rest =>
    if c == quote then
      (quotedBody quote (c :: '\\' :: seen) rest).orElse fun _ =>
        some (('\\' :: seen).reverse, rest)
    else quotedBody quote ('\\' :: seen) (c :: rest)
  | seen, c :: rest =>
    if c == quote then some (seen.reverse, rest) else quotedBody quote (c :: seen) rest
termination_by _ cs => cs.length

/-- Resolves the escapes of a quoted value: `escapes` maps the letter after a backslash. -/
def unescape (escapes : Char → Option Char) : List Char → List Char
  | [] => []
  | '\\' :: c :: rest =>
    match escapes c with
    | some r => r :: unescape escapes rest
    | none => '\\' :: unescape escapes (c :: rest)
  | c :: rest => c :: unescape escapes rest
termination_by cs => cs.length

/-- The escapes between single quotes. -/
def singleEscape (c : Char) : Option Char :=
  if c == '\\' || c == '\'' then some c else none

/-- The escapes between double quotes. -/
def doubleEscape (c : Char) : Option Char :=
  match c with
  | '\\' => some '\\'
  | '\'' => some '\''
  | '"' => some '"'
  | 'a' => some '\x07'
  | 'b' => some '\x08'
  | 'f' => some '\x0c'
  | 'n' => some '\n'
  | 'r' => some '\r'
  | 't' => some '\t'
  | 'v' => some '\x0b'
  | _ => none

/-- Cuts a value without quotes at the first comment: white space and a `#` after it. -/
def cutComment : List Char → List Char
  | [] => []
  | c :: rest =>
    if isBlank c && (rest.dropWhile isBlank).head? == some '#' then []
    else c :: cutComment rest

/-- A value, with what follows it. -/
def readValue (cs : List Char) : Option (List Char × List Char) :=
  match cs with
  | '\'' :: rest => (quotedBody '\'' [] rest).map fun (v, r) => (unescape singleEscape v, r)
  | '"' :: rest => (quotedBody '"' [] rest).map fun (v, r) => (unescape doubleEscape v, r)
  | _ =>
    let line := cs.takeWhile fun c => !isLineEnd c
    some (((cutComment line).reverse.dropWhile isBlank).reverse,
      cs.dropWhile fun c => !isLineEnd c)

/-- Drops the word `export` and the white space after it. -/
def skipExport (cs : List Char) : List Char :=
  if "export".toList.isPrefixOf cs then
    match cs.drop 6 with
    | c :: rest => if isLineSpace c then skipLineSpace rest else cs
    | [] => cs
  else cs

/-- A name, with what follows it. -/
def readName (cs : List Char) : Option (List Char × List Char) :=
  match cs with
  | '\'' :: rest =>
    let name := rest.takeWhile (· != '\'')
    match rest.drop name.length with
    | _ :: r => if name.isEmpty then none else some (name, r)
    | [] => none
  | _ =>
    let isName (c : Char) : Bool := c != '=' && c != '#' && !isBlank c
    let name := cs.takeWhile isName
    if name.isEmpty then none else some (name, cs.dropWhile isName)

/-- Reads a line that has a name, and its value if it has one. Gives nothing when the line is of
another shape, and where the reading stopped. -/
def readLine (cs : List Char) : Option (String × Option String) × List Char :=
  let start := skipExport cs
  match readName start with
  | none => (none, nextLine start)
  | some (name, rest) =>
    let ended (value : Option (List Char)) (rest : List Char) :
        Option (String × Option String) × List Char :=
      match lineEnd? rest with
      | some rest => (some (String.ofList name, value.map String.ofList), rest)
      | none => (none, nextLine rest)
    match skipLineSpace rest with
    | '=' :: rest =>
      let rest := skipLineSpace rest
      match readValue rest with
      | some (value, rest) => ended (some value) rest
      | none => (none, nextLine rest)
    | rest => ended none rest

/-- The names and values of a text line by line; `fuel` bounds the lines. -/
def readLines : Nat → List Char → List (String × Option String)
  | 0, _ => []
  | fuel + 1, cs =>
    match cs.dropWhile isBlank with
    | [] => []
    | rest =>
      let (line, rest) := readLine rest
      line.toList ++ readLines fuel rest

/-- A reference to a variable after its opening: the name, the default, and what follows. -/
def reference? (cs : List Char) : Option ((String × String) × List Char) :=
  let name := cs.takeWhile fun c => c != '\x7d' && c != ':'
  match cs.drop name.length with
  | '\x7d' :: rest => some ((String.ofList name, ""), rest)
  | ':' :: '-' :: rest =>
    let default := rest.takeWhile (· != '\x7d')
    match rest.drop default.length with
    | _ :: rest => some ((String.ofList name, String.ofList default), rest)
    | [] => none
  | _ => none

/-- Replaces the references in a value by what they stand for; `fuel` bounds the steps. -/
def expand (value : String → String → String) : Nat → List Char → List Char
  | 0, cs => cs
  | _, [] => []
  | fuel + 1, '$' :: '\x7b' :: rest =>
    match reference? rest with
    | some ((name, default), rest) => (value name default).toList ++ expand value fuel rest
    | none => '$' :: expand value fuel ('\x7b' :: rest)
  | fuel + 1, c :: rest => c :: expand value fuel rest

/-- What a reference stands for: the value of a line before, or of the environment. A name without
a value stands for nothing. -/
def resolve (known : List (String × Option String)) (environment : List (String × String))
    (name default : String) : String :=
  match known.lookup name with
  | some value => value.getD ""
  | none => (environment.lookup name).getD default

/-- The variables of a text in the order of their first lines, each with the value of its last. -/
def bindings (environment : List (String × String)) (s : String) :
    List (String × Option String) :=
  (readLines (s.toList.length + 1) s.toList).foldl (fun known (name, value) =>
    let expanded := value.map fun v =>
      String.ofList (expand (resolve known environment) (v.toList.length + 1) v.toList)
    Table.set name expanded known) []

end BrokerClient.Settings.Dotenv
