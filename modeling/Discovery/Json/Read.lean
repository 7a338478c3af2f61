import Discovery.Json.Basic
import Discovery.Text.Numeral

/-!
# Reading JSON

`Json.parse?` reads a text as one JSON value with blanks around it. Nothing is accepted beyond the
grammar: no control characters in strings, no zeros before a number, no comma at the end of a list.
A string in which half a character is left over is within the grammar, and its value is broken: it
does no harm in a value that nobody asks for.

A value takes at least one character, so the readers are given as many steps as the text has
characters, and one more; that is always enough.
-/

namespace Discovery.Json

/-- Passes over blanks. -/
def skipBlanks (cs : List Char) : List Char :=
  cs.dropWhile fun c => c = ' ' || c = '\n' || c = '\t' || c = '\r'

/-- Reads given characters. -/
def readWord? : (word cs : List Char) → Option (List Char)
  | [], cs => some cs
  | _ :: _, [] => none
  | w :: word, c :: cs => if w = c then readWord? word cs else none

/-! ## Strings -/

/-- Reads four hexadecimal digits. -/
def readUnit? : List Char → Option (Nat × List Char)
  | a :: b :: c :: d :: rest => do
    let a ← Text.digit? 16 a
    let b ← Text.digit? 16 b
    let c ← Text.digit? 16 c
    let d ← Text.digit? 16 d
    return (((a * 16 + b) * 16 + c) * 16 + d, rest)
  | _ => none

/-- What an escape with a single letter stands for. -/
def escaped? (c : Char) : Option Char :=
  if c = '\x22' ∨ c = '\\' ∨ c = '/' then some c
  else if c = 'b' then some '\x08'
  else if c = 'f' then some '\x0c'
  else if c = 'n' then some '\n'
  else if c = 'r' then some '\r'
  else if c = 't' then some '\t'
  else none

/-- A unit of a string: a character, or half of one. -/
abbrev Unit16 := Char ⊕ Nat

/-- Reads the rest of a string: its units in order. -/
def readUnits? : Nat → List Char → Option (List Unit16 × List Char)
  | 0, _ => none
  | _ + 1, [] => none
  | _ + 1, '\x22' :: rest => some ([], rest)
  | steps + 1, '\\' :: 'u' :: rest => do
    let (code, rest) ← readUnit? rest
    let (units, rest) ← readUnits? steps rest
    -- halves are joined once all units of the string are read
    let first : Unit16 :=
      if 0xD800 ≤ code ∧ code < 0xE000 then .inr code else .inl (Char.ofNat code)
    return (first :: units, rest)
  | steps + 1, '\\' :: c :: rest => do
    let meant ← escaped? c
    let (units, rest) ← readUnits? steps rest
    return (.inl meant :: units, rest)
  | steps + 1, c :: rest =>
    if c < ' ' ∨ c = '\\' then none
    else do
      let (units, rest) ← readUnits? steps rest
      return (.inl c :: units, rest)

/-- Joins halves to characters; none if one is left over. -/
def joinUnits? : List Unit16 → Option (List Char)
  | [] => some []
  | .inl c :: rest => (joinUnits? rest).map (c :: ·)
  -- the upper half comes first, and only the lower half can follow it
  | .inr high :: .inr low :: rest =>
    if high < 0xDC00 ∧ 0xDC00 ≤ low then
      (joinUnits? rest).map (Char.ofNat (0x10000 + (high - 0xD800) * 0x400 + (low - 0xDC00)) :: ·)
    else none
  | .inr _ :: _ => none

/-- Reads the rest of a string: its text, which is missing where half a character is left over. -/
def readText? (cs : List Char) : Option (Option String × List Char) := do
  let (units, rest) ← readUnits? (cs.length + 1) cs
  return ((joinUnits? units).map String.ofList, rest)

/-- The value of a string, given its text. -/
def ofText : Option String → Json
  | some words => .string words
  | none => .broken

/-! ## Numbers -/

/-- Splits off digits, at least one. -/
def readDigits? (cs : List Char) : Option (List Char × List Char) :=
  let digits := cs.takeWhile Char.isDigit
  if digits = [] then none else some (digits, cs.dropWhile Char.isDigit)

/-- Splits off the part of a number before its point: a zero alone, or digits that begin with
another. -/
def readWhole? : List Char → Option (List Char × List Char)
  | '0' :: c :: rest => if c.isDigit then none else some (['0'], c :: rest)
  | cs => readDigits? cs

/-- Splits off a point and the digits after it, if there is a point. -/
def readPlaces? : List Char → Option (List Char × List Char)
  | '.' :: rest => (readDigits? rest).map fun (digits, rest) => ('.' :: digits, rest)
  | rest => some ([], rest)

/-- Splits off an exponent, if there is one. -/
def readExponent? : List Char → Option (List Char × List Char)
  | [] => some ([], [])
  | mark :: rest =>
    if mark = 'e' ∨ mark = 'E' then
      match rest with
      | '+' :: rest => (readDigits? rest).map fun (digits, rest) => (mark :: '+' :: digits, rest)
      | '-' :: rest => (readDigits? rest).map fun (digits, rest) => (mark :: '-' :: digits, rest)
      | rest => (readDigits? rest).map fun (digits, rest) => (mark :: digits, rest)
    else some ([], mark :: rest)

/-- Splits off a minus, if there is one. -/
def readMinus : List Char → List Char × List Char
  | '-' :: rest => (['-'], rest)
  | rest => ([], rest)

def readNumber? (cs : List Char) : Option (Json × List Char) := do
  let (minus, cs) := readMinus cs
  let (whole, cs) ← readWhole? cs
  let (places, cs) ← readPlaces? cs
  let (exponent, cs) ← readExponent? cs
  return (.number (minus ++ whole ++ places ++ exponent), cs)

/-! ## Values -/

/-- The value of an object, given its fields with the texts of their keys. -/
def ofFields (fields : List (Option String × Json)) : Json :=
  match fields.mapM fun (key, value) => key.map (·, value) with
  | some fields => .object fields
  | none => .broken

mutual

def readValue? : Nat → List Char → Option (Json × List Char)
  | 0, _ => none
  | steps + 1, cs =>
    match skipBlanks cs with
    | [] => none
    | '\x22' :: rest => (readText? rest).map fun (words, rest) => (ofText words, rest)
    | '[' :: rest =>
      match skipBlanks rest with
      | ']' :: rest => some (.array [], rest)
      | rest => (readItems? steps rest).map fun (items, rest) => (.array items, rest)
    | '\x7b' :: rest =>
      match skipBlanks rest with
      | '\x7d' :: rest => some (.object [], rest)
      | rest => (readFields? steps rest).map fun (fields, rest) => (ofFields fields, rest)
    | 'n' :: rest => (readWord? ['u', 'l', 'l'] rest).map fun rest => (.null, rest)
    | 't' :: rest => (readWord? ['r', 'u', 'e'] rest).map fun rest => (.bool true, rest)
    | 'f' :: rest => (readWord? ['a', 'l', 's', 'e'] rest).map fun rest => (.bool false, rest)
    -- whatever else begins a value can only begin a number
    | rest => readNumber? rest

/-- Reads the items of an array and its end. -/
def readItems? : Nat → List Char → Option (List Json × List Char)
  | 0, _ => none
  | steps + 1, cs => do
    let (item, cs) ← readValue? steps cs
    match skipBlanks cs with
    | ']' :: rest => return ([item], rest)
    | ',' :: rest =>
      let (items, rest) ← readItems? steps rest
      return (item :: items, rest)
    | _ => none

/-- Reads the fields of an object and its end. -/
def readFields? : Nat → List Char → Option (List (Option String × Json) × List Char)
  | 0, _ => none
  | steps + 1, cs => do
    let (key, cs) ← match skipBlanks cs with
      | '\x22' :: rest => readText? rest
      | _ => none
    let (value, cs) ← match skipBlanks cs with
      | ':' :: rest => readValue? steps rest
      | _ => none
    match skipBlanks cs with
    | '\x7d' :: rest => return ([(key, value)], rest)
    | ',' :: rest =>
      let (fields, rest) ← readFields? steps rest
      -- a key that comes twice is kept here; it is for the reader of the object to refuse it
      return ((key, value) :: fields, rest)
    | _ => none

end

/-- The value that a text writes. -/
def parse? (s : String) : Option Json := do
  let cs := s.toList
  let (value, rest) ← readValue? (cs.length + 1) cs
  if skipBlanks rest = [] then some value else none

/-! ## Reading out of values -/

/-- A whole number below the bound, written by digits alone. -/
def nat? (bound : Nat) : Json → Option Nat
  | .number digits =>
    if digits.all Char.isDigit then
      let n := Text.digitsValue digits
      if n < bound then some n else none
    else none
  | _ => none

def string? : Json → Option String
  | .string words => some words
  | _ => none

/-- The values of the given keys in an object, each at most once, or in the order of an array that
has as many. -/
def fields? (keys : List String) : Json → Option (List (Option Json))
  | .array items => if items.length = keys.length then some (items.map some) else none
  | .object fields =>
    keys.mapM fun key =>
      match fields.filter (·.1 = key) with
      | [] => some none
      -- a key that comes twice is refused
      | [(_, value)] => some (some value)
      | _ => none
  | _ => none

end Discovery.Json
