import Discovery.Text.GraphemeExtend
import Discovery.Text.Unprintable

/-!
# Quoted texts

The form in which messages to people show a text: between quotation marks, with everything escaped
that could not be told apart by eye. A text stands between double quotes, a single character
between single quotes, and only the mark in use is escaped.

| character | written as |
|---|---|
| the mark in use, the backslash | a backslash before it |
| NUL, tab, line feed, carriage return | backslash with `0`, `t`, `n`, `r` |
| one that joins the character before it, or leaves no mark | its number: a backslash, `u` and the hexadecimal digits in braces |
| any other | itself |
-/

namespace Discovery.Text

/-- The digits of a number in base sixteen, in lower case. -/
def hexDigits (n : Nat) : List Char :=
  Nat.toDigits 16 n

/-- A character by its number: its hexadecimal digits in braces. -/
def numbered (c : Char) : List Char :=
  ['\\', 'u', '\x7b'] ++ hexDigits c.toNat ++ ['\x7d']

/-- A character as it stands between two of the given quotation marks. -/
def escapeFor (mark c : Char) : List Char :=
  if c = mark ∨ c = '\\' then ['\\', c]
  else if c = '\x00' then ['\\', '0']
  else if c = '\t' then ['\\', 't']
  else if c = '\n' then ['\\', 'n']
  else if c = '\r' then ['\\', 'r']
  else if joinsPrevious c || isUnprintable c then numbered c
  else [c]

/-- Characters between two quotation marks. -/
def quoteWith (mark : Char) (cs : List Char) : String :=
  String.ofList (mark :: cs.flatMap (escapeFor mark) ++ [mark])

/-- A text between double quotes. -/
def quoted (s : String) : String :=
  quoteWith '\x22' s.toList

/-- A character between single quotes. -/
def quotedChar (c : Char) : String :=
  quoteWith '\x27' [c]

end Discovery.Text
