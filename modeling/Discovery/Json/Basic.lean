import Discovery.Text.Quoted

/-!
# JSON values

A JSON value, and how it is written: without blanks, the fields of an object in their order, numbers
by their digits as given. In a string the quotation mark, the backslash and the controls are escaped,
five controls by a letter and the others by their number; all else stands as it is.
-/

namespace Discovery

/-- A JSON value. -/
inductive Json where
  | null
  | bool (value : Bool)
  /-- A number, by the characters that write it. -/
  | number (digits : List Char)
  | string (words : String)
  /-- A string, or an object with a key, in which an escape leaves half a character: it is written as
  the grammar asks, and yet holds no text. -/
  | broken
  | array (items : List Json)
  /-- An object with its fields in order, which may repeat a key. -/
  | object (fields : List (String × Json))

namespace Json

/-- A whole number. -/
def ofNat (n : Nat) : Json :=
  .number (Nat.toDigits 10 n)

/-- A list of strings. -/
def strings (values : List String) : Json :=
  .array (values.map .string)

/-- A value that may be missing, null in its place. -/
def optional {α : Type} (write : α → Json) : Option α → Json
  | some a => write a
  | none => .null

/-! ## Writing -/

/-- Four hexadecimal digits. -/
def fourDigits (n : Nat) : List Char :=
  let digits := Text.hexDigits n
  List.replicate (4 - digits.length) '0' ++ digits

/-- A character as it stands in a string. -/
def escape (c : Char) : List Char :=
  if c = '\x22' then ['\\', '\x22']
  else if c = '\\' then ['\\', '\\']
  else if c = '\x08' then ['\\', 'b']
  else if c = '\x0c' then ['\\', 'f']
  else if c = '\n' then ['\\', 'n']
  else if c = '\r' then ['\\', 'r']
  else if c = '\t' then ['\\', 't']
  else if c < ' ' then ['\\', 'u'] ++ fourDigits c.toNat
  else [c]

/-- A string between its quotation marks. -/
def renderString (words : String) : List Char :=
  '\x22' :: words.toList.flatMap escape ++ ['\x22']

mutual

/-- A value as it is written. -/
def render : Json → List Char
  | .null => ['n', 'u', 'l', 'l']
  | .bool true => ['t', 'r', 'u', 'e']
  | .bool false => ['f', 'a', 'l', 's', 'e']
  | .number digits => digits
  | .string words => renderString words
  | .broken => ['\x22', '\x22']
  | .array items => '[' :: renderItems items ++ [']']
  | .object fields => '\x7b' :: renderFields fields ++ ['\x7d']

/-- Items with commas between them. -/
def renderItems : List Json → List Char
  | [] => []
  | [item] => render item
  | item :: rest => render item ++ ',' :: renderItems rest

/-- Fields with commas between them. -/
def renderFields : List (String × Json) → List Char
  | [] => []
  | [(key, value)] => renderString key ++ ':' :: render value
  | (key, value) :: rest => renderString key ++ ':' :: render value ++ ',' :: renderFields rest

end

/-- The text of a value. -/
def text (value : Json) : String :=
  String.ofList value.render

end Json

end Discovery
