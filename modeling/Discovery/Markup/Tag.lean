import Discovery.Markup.Fault
import Discovery.Markup.Reference
import Discovery.Text.Alphabetic
import Discovery.Text.Numeric
import Discovery.Text.WhiteSpace
import Discovery.Tree.Basic

/-!
# Names, attributes and tags

The readers of what stands in a tag. Each takes the text to read and gives back what it read and the
text that follows, or a fault.

* `readAttribute_shorter`, `readStartTag_shorter`, `readEndTag_shorter`: what follows is shorter than
  what there was, which is why reading one attribute after another comes to an end.
-/

namespace Discovery.Markup

/-! ## Names -/

/-- May a name begin with the character? -/
def isNameStart (c : Char) : Bool :=
  Text.isAlphabetic c || c = '_' || c = ':'

/-- May a name go on with the character? -/
def isNameChar (c : Char) : Bool :=
  Text.isAlphabetic c || Text.isNumeric c || c = '_' || c = ':' || c = '-' || c = '.'

/-- Reads a name, as far as it goes. -/
def readName : List Char → Except Fault (String × List Char)
  | [] => .error (.malformed .expectedName [])
  | c :: rest =>
    if isNameStart c then
      .ok (String.ofList (c :: rest.takeWhile isNameChar), rest.dropWhile isNameChar)
    else .error (.malformed .expectedName (c :: rest))

theorem readName_shorter {cs rest : List Char} {name : String}
    (h : readName cs = .ok (name, rest)) : rest.length < cs.length := by
  cases cs with
  | nil => simp [readName] at h
  | cons c more =>
    rw [readName] at h
    split at h
    · simp only [Except.ok.injEq, Prod.mk.injEq] at h
      obtain ⟨_, rfl⟩ := h
      exact Nat.lt_succ_of_le (List.dropWhile_sublist _).length_le
    · cases h

/-! ## Parts that a mark ends -/

/-- Reads up to a mark: what stands before it and what follows it. -/
def readUntil (mark : List Char) (part : Enclosed) (cs : List Char) :
    Except Fault (List Char × List Char) :=
  match Text.cutAt mark cs with
  | some parts => .ok parts
  | none => .error (.malformed (.unterminated part) cs)

theorem readUntil_eq_ok {mark : List Char} {part : Enclosed} {cs before after : List Char}
    (h : readUntil mark part cs = .ok (before, after)) :
    Text.cutAt mark cs = some (before, after) := by
  rw [readUntil] at h
  split at h
  · next found => rw [found, Except.ok.inj h]
  · cases h

theorem readUntil_shorter {mark : List Char} {part : Enclosed} {cs before after : List Char}
    (h : readUntil mark part cs = .ok (before, after)) :
    after.length + mark.length ≤ cs.length :=
  Text.length_after_cutAt (readUntil_eq_ok h)

/-- Accepts characters of a document only; `after` is the text that follows them. -/
def checkChars (cs after : List Char) : Except Fault Unit :=
  match cs.dropWhile isMarkupChar with
  | [] => .ok ()
  | bad :: more => .error (.malformed (.invalidCharacter bad) (bad :: more ++ after))

/-- Resolves the references of a text. -/
def readReferences (cs : List Char) : Except Fault String :=
  match resolve cs with
  | .ok meant => .ok (String.ofList meant)
  | .error name => .error (.unknownReference name)

/-! ## Attributes -/

/-- Reads an attribute value and its closing quote, the opening one having been read. -/
def readValue (key : String) (quote : Char) (cs : List Char) :
    Except Fault (String × List Char) :=
  match readUntil [quote] .attributeValue cs with
  | .error fault => .error fault
  | .ok (raw, rest) =>
    if raw.contains '<' then .error (.malformed (.lessThanInValue key) rest)
    else
      -- characters are checked as they are written, before references are resolved
      match checkChars raw (quote :: rest) with
      | .error fault => .error fault
      | .ok () =>
        match readReferences raw with
        | .error fault => .error fault
        | .ok value => .ok (value, rest)

theorem readValue_shorter {key value : String} {quote : Char} {cs rest : List Char}
    (h : readValue key quote cs = .ok (value, rest)) : rest.length < cs.length := by
  rw [readValue] at h
  split at h
  · cases h
  · next raw after found =>
    have shorter := readUntil_shorter found
    simp only [List.length_cons, List.length_nil] at shorter
    split at h
    · cases h
    · split at h
      · cases h
      · split at h
        · cases h
        · cases h
          omega

/-- Reads the value of an attribute between quotes of either kind. -/
def readQuoted (key : String) : List Char → Except Fault (String × List Char)
  | '\x22' :: rest => readValue key '\x22' rest
  | '\x27' :: rest => readValue key '\x27' rest
  | rest => .error (.malformed (.unquotedValue key) rest)

theorem readQuoted_shorter {key value : String} {cs rest : List Char}
    (h : readQuoted key cs = .ok (value, rest)) : rest.length < cs.length := by
  rw [readQuoted.eq_def] at h
  split at h
  · exact Nat.lt_succ_of_lt (readValue_shorter h)
  · exact Nat.lt_succ_of_lt (readValue_shorter h)
  · cases h

/-- Reads what follows the name of an attribute: an equals sign and a quoted value. -/
def readAssigned (key : String) : List Char → Except Fault (String × List Char)
  | '=' :: rest => readQuoted key (Text.skipSpace rest)
  | rest => .error (.malformed (.missingValue key) rest)

theorem readAssigned_shorter {key value : String} {cs rest : List Char}
    (h : readAssigned key cs = .ok (value, rest)) : rest.length < cs.length := by
  rw [readAssigned.eq_def] at h
  split at h
  · next more =>
    have := readQuoted_shorter h
    have := Text.length_skipSpace_le more
    simp only [List.length_cons]
    omega
  · cases h

/-- Reads an attribute: its key and its value. -/
def readAttribute (cs : List Char) : Except Fault (String × String × List Char) :=
  match readName cs with
  | .error fault => .error fault
  | .ok (key, rest) =>
    match readAssigned key (Text.skipSpace rest) with
    | .error fault => .error fault
    | .ok (value, rest) => .ok (key, value, rest)

theorem readAttribute_shorter {cs rest : List Char} {key value : String}
    (h : readAttribute cs = .ok (key, value, rest)) : rest.length < cs.length := by
  rw [readAttribute] at h
  split at h
  · cases h
  · next key' afterName named =>
    split at h
    · cases h
    · next assigned =>
      cases h
      have := readName_shorter named
      have := readAssigned_shorter assigned
      have := Text.length_skipSpace_le afterName
      omega

/-! ## Tags -/

/-- May the text follow an attribute: white space, the end of the tag, or nothing at all? -/
def separates : List Char → Bool
  | [] => true
  | '>' :: _ => true
  | '/' :: '>' :: _ => true
  | c :: _ => Text.isWhiteSpace c

/-- What a start tag says. -/
structure StartTag where
  name : String
  attributes : Attributes
  /-- Is the tag its own closing tag? -/
  selfClosing : Bool
deriving DecidableEq

/-- Reads the attributes of a start tag and its end, some attributes having been read. -/
def readAttributes (name : String) (attributes : Attributes) (cs : List Char) :
    Except Fault (StartTag × List Char) :=
  match _begins : Text.skipSpace cs with
  | [] => .error (.malformed (.unterminatedTag name) [])
  | '>' :: rest => .ok (⟨name, attributes, false⟩, rest)
  | '/' :: '>' :: rest => .ok (⟨name, attributes, true⟩, rest)
  | start =>
    match _found : readAttribute start with
    | .error fault => .error fault
    | .ok (key, value, rest) =>
      -- what is wrong inside the value has been found before its key is looked at
      if attributes.contains key then .error (.malformed (.duplicateAttribute key) rest)
      else if separates rest then readAttributes name (attributes.insert key value) rest
      else .error (.malformed (.missingSpaceAfter key) rest)
termination_by cs.length
decreasing_by
  exact Nat.lt_of_lt_of_le (readAttribute_shorter _found) (_begins ▸ Text.length_skipSpace_le cs)

theorem readAttributes_shorter {name : String} {attributes : Attributes} {tag : StartTag}
    {cs rest : List Char} (h : readAttributes name attributes cs = .ok (tag, rest)) :
    rest.length < cs.length := by
  fun_induction readAttributes name attributes cs with
  | case1 => cases h
  | case2 _ cs _ begins =>
    cases h
    have skipped := Text.length_skipSpace_le cs
    rw [begins] at skipped
    simp only [List.length_cons] at skipped
    omega
  | case3 _ cs _ begins =>
    cases h
    have skipped := Text.length_skipSpace_le cs
    rw [begins] at skipped
    simp only [List.length_cons] at skipped
    omega
  | case4 => cases h
  | case5 => cases h
  | case6 _ cs _ _ _ _ _ _ _ _ found ih =>
    -- one attribute is read, and the induction hypothesis speaks of what follows it
    have := ih h
    have := readAttribute_shorter found
    have := Text.length_skipSpace_le cs
    omega
  | case7 => cases h

/-- Reads a start tag, its first character having been read. -/
def readStartTag (cs : List Char) : Except Fault (StartTag × List Char) :=
  match readName cs with
  | .error fault => .error fault
  | .ok (name, rest) => readAttributes name .empty rest

theorem readStartTag_shorter {tag : StartTag} {cs rest : List Char}
    (h : readStartTag cs = .ok (tag, rest)) : rest.length < cs.length := by
  rw [readStartTag] at h
  split at h
  · cases h
  · next named => exact Nat.lt_trans (readAttributes_shorter h) (readName_shorter named)

/-- Reads the end of a closing tag. -/
def readTagEnd (name : String) : List Char → Except Fault (List Char)
  | '>' :: rest => .ok rest
  | rest => .error (.malformed (.unterminatedClosingTag name) rest)

/-- Reads a closing tag, its first two characters having been read. -/
def readEndTag (cs : List Char) : Except Fault (String × List Char) :=
  match readName cs with
  | .error fault => .error fault
  | .ok (name, rest) => (readTagEnd name (Text.skipSpace rest)).map fun rest => (name, rest)

theorem readEndTag_shorter {name : String} {cs rest : List Char}
    (h : readEndTag cs = .ok (name, rest)) : rest.length < cs.length := by
  rw [readEndTag] at h
  split at h
  · cases h
  · next afterName named =>
    rw [readTagEnd.eq_def] at h
    split at h
    · next begins =>
      cases h
      have skipped := Text.length_skipSpace_le afterName
      rw [begins] at skipped
      exact Nat.lt_of_lt_of_le (Nat.lt_of_succ_le skipped) (Nat.le_of_lt (readName_shorter named))
    · cases h

end Discovery.Markup
