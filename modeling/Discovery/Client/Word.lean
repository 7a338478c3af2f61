import Discovery.Text.Cut

/-!
# Words of a command line

A word that begins with two hyphens names an option and may carry its value after an equals sign; one
that begins with a single hyphen asks by a letter; two hyphens alone end the options. Every other
word, a lone hyphen among them, stands for itself.
-/

namespace Discovery.Client

/-- What a word of a command line is. -/
inductive Word where
  /-- Two hyphens: only operands follow. -/
  | separator
  /-- An option by its name, with a value after an equals sign perhaps. -/
  | long (name : String) (value : Option String)
  /-- Letters after a hyphen, of which the first one decides. -/
  | short (letter : Char)
  | plain (text : String)
deriving Repr, DecidableEq

def Word.ofString (s : String) : Word :=
  match s.toList with
  | ['-', '-'] => .separator
  | '-' :: '-' :: rest =>
    match Text.cutAt ['='] rest with
    | some (name, value) => .long (String.ofList name) (some (String.ofList value))
    | none => .long (String.ofList rest) none
  | '-' :: letter :: _ => .short letter
  | _ => .plain s

end Discovery.Client
