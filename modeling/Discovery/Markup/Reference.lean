import Discovery.Markup.Character
import Discovery.Text.Cut
import Discovery.Text.Numeral

/-!
# References

In character data and in attribute values an ampersand begins a reference, which a semicolon ends.
It names one of five characters, or gives a character of a document by its number: `#` and decimal
digits, or `#x` and hexadecimal digits.
-/

namespace Discovery.Markup

/-- The character of the five that have a name. -/
def namedReference? : List Char → Option Char
  | ['a', 'm', 'p'] => some '&'
  | ['l', 't'] => some '<'
  | ['g', 't'] => some '>'
  | ['q', 'u', 'o', 't'] => some '\x22'
  | ['a', 'p', 'o', 's'] => some '\x27'
  | _ => none

/-- The character of a code point, if it is one and may stand in a document. -/
def charOfCode? (code : Nat) : Option Char :=
  if valid : code.isValidChar then some (Char.ofNatAux code valid) |>.filter isMarkupChar else none

/-- The character that a reference gives by its number. -/
def numberedReference? : List Char → Option Char
  | '#' :: 'x' :: digits => read 16 digits
  | '#' :: 'X' :: digits => read 16 digits
  | '#' :: digits => read 10 digits
  | _ => none
where
  /-- Reads the number and looks its character up. -/
  read (radix : Nat) (digits : List Char) : Option Char :=
    match Text.readNumeral radix UInt32.size digits with
    | .ok code => charOfCode? code
    | .error _ => none

/-- The character that stands for what is written between the ampersand and the semicolon. -/
def reference? (name : List Char) : Option Char :=
  (namedReference? name).or (numberedReference? name)

/-- A text with every reference in its character's place. The error is the first reference that
means nothing; one that no semicolon ends is given by the eight characters after its ampersand. -/
def resolve (cs : List Char) : Except String (List Char) :=
  match cs with
  | [] => .ok []
  | c :: rest =>
    if c = '&' then
      match _found : Text.cutAt [';'] rest with
      -- without a semicolon there is no name to report, so the beginning of the text stands for it
      | none => .error (String.ofList (rest.take 8))
      | some (name, after) =>
        match reference? name with
        | none => .error (String.ofList name)
        | some meant => (resolve after).map (meant :: ·)
    else (resolve rest).map (c :: ·)
termination_by cs.length
decreasing_by
  · have := Text.length_after_cutAt _found
    simp only [List.length_cons] at this ⊢
    omega
  · simp

end Discovery.Markup
