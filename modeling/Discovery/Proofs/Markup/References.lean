import Discovery.Proofs.Markup.Traversed
import Discovery.Proofs.Markup.Grammar
import Discovery.Proofs.Text.Digits

/-!
# What references mean

A reference names one of five characters, or gives a character of a document by its number, in decimal or in
hexadecimal digits, with as many zeros in front as one likes. The reader of numbers takes a plus sign in front
of the digits, which the grammar of references does not know; apart from that it resolves what the grammar
has, and nothing else.

* `Denotes`: the grammar of references, with what may stand in front of the digits;
* `reference?_eq_some_iff`: what is resolved;
* `resolve_around`: a text with a reference in it;
* `references_resolved`: a reference in a text, in an element and in an attribute;
* `signed_reference_resolved`: a reference that is resolved and is not in the grammar.
-/

namespace Discovery

open Markup

namespace Markup

/-! ## The grammar -/

def predefined : List (String × Char) :=
  [("amp", '&'), ("lt", '<'), ("gt", '>'), ("quot", '\x22'), ("apos", '\x27')]

/-- What stands between the ampersand and the semicolon of a reference, and the character that it denotes: a
name, or the number of a character of a document. The sign stands in front of the digits; references have
none. -/
inductive Denotes (sign : List Char) : List Char → Char → Prop
  | named {name : String} {c : Char} : (name, c) ∈ predefined → Denotes sign name.toList c
  | decimal {digits : List Char} {c : Char} :
    Text.IsNumeral 10 digits c.toNat → isMarkupChar c = true → Denotes sign ('#' :: (sign ++ digits)) c
  | hexadecimal {x : Char} {digits : List Char} {c : Char} :
    x = 'x' ∨ x = 'X' → Text.IsNumeral 16 digits c.toNat → isMarkupChar c = true →
      Denotes sign ('#' :: x :: (sign ++ digits)) c

/-- What is resolved: references, and numbers with a plus sign. -/
def Resolves (name : List Char) (c : Char) : Prop :=
  Denotes [] name c ∨ Denotes ['+'] name c

variable {name digits : List Char} {c : Char} {radix code : Nat}

theorem namedReference?_eq_some_iff :
    namedReference? name = some c ↔ ∃ known : String, (known, c) ∈ predefined ∧ name = known.toList := by
  constructor
  · intro means
    unfold namedReference? at means
    split at means
    · exact ⟨"amp", by cases means; decide, rfl⟩
    · exact ⟨"lt", by cases means; decide, rfl⟩
    · exact ⟨"gt", by cases means; decide, rfl⟩
    · exact ⟨"quot", by cases means; decide, rfl⟩
    · exact ⟨"apos", by cases means; decide, rfl⟩
    · cases means
  · rintro ⟨known, mem, rfl⟩
    simp only [predefined, List.mem_cons, Prod.mk.injEq, List.not_mem_nil, or_false] at mem
    rcases mem with ⟨rfl, rfl⟩ | ⟨rfl, rfl⟩ | ⟨rfl, rfl⟩ | ⟨rfl, rfl⟩ | ⟨rfl, rfl⟩
    all_goals rfl

theorem charOfCode?_eq_some_iff :
    charOfCode? code = some c ↔ c.toNat = code ∧ isMarkupChar c = true := by
  unfold charOfCode?
  constructor
  · intro means
    by_cases valid : code.isValidChar
    · rw [dif_pos valid] at means
      obtain ⟨same, markup⟩ := Option.filter_eq_some_iff.mp means
      cases same
      exact ⟨rfl, markup⟩
    · rw [dif_neg valid] at means
      cases means
  · rintro ⟨rfl, markup⟩
    have valid : c.toNat.isValidChar := c.valid
    rw [dif_pos valid]
    have same : Char.ofNatAux c.toNat valid = c := Char.ext (UInt32.toNat_inj.mp rfl)
    exact Option.filter_eq_some_iff.mpr ⟨congrArg some same, markup⟩

/-- The number of a character is read, with a sign or without one. -/
theorem read_eq_some_iff :
    numberedReference?.read radix digits = some c ↔
      ∃ sign numeral, (sign = [] ∨ sign = ['+']) ∧ digits = sign ++ numeral ∧
        Text.IsNumeral radix numeral c.toNat ∧ isMarkupChar c = true := by
  -- the number of a character has thirty-two bits, so the bound of the reader shuts out none
  have below : c.toNat < UInt32.size := c.val.toNat_lt
  unfold numberedReference?.read
  constructor
  · intro means
    split at means
    · next code found =>
      obtain ⟨rfl, markup⟩ := charOfCode?_eq_some_iff.mp means
      obtain ⟨sign, numeral, signed, split, isNumeral, -⟩ :=
        (Text.readNumeral_eq_ok_iff (by decide)).mp found
      exact ⟨sign, numeral, signed, split, isNumeral, markup⟩
    · cases means
  · rintro ⟨sign, numeral, signed, split, isNumeral, markup⟩
    have found : Text.readNumeral radix UInt32.size digits = .ok c.toNat :=
      (Text.readNumeral_eq_ok_iff (by decide)).mpr ⟨sign, numeral, signed, split, isNumeral, below⟩
    rw [found]
    exact charOfCode?_eq_some_iff.mpr ⟨rfl, markup⟩

/-- The digits of a decimal number do not begin with the mark of a hexadecimal one. -/
theorem numberedReference?_decimal {n : Nat} (numeral : Text.IsNumeral 10 digits n) :
    numberedReference? ('#' :: digits) = numberedReference?.read 10 digits := by
  have noLetter : ∀ x ∈ ['x', 'X'], ∀ rest, digits ≠ x :: rest := by
    rintro x mem rest rfl
    obtain ⟨value, small, ⟨-, code⟩ | ⟨large, -⟩⟩ := numeral.head_isDigit
    · have codes : ∀ x ∈ ['x', 'X'], '0'.toNat + 10 ≤ x.toNat :=
        List.forall_mem_cons.mpr ⟨by decide, List.forall_mem_singleton.mpr (by decide)⟩
      have := codes x mem
      omega
    · omega
  unfold numberedReference?
  split
  · next rest eq => exact absurd (List.cons.inj eq).2 (noLetter 'x' (by decide) rest)
  · next rest eq => exact absurd (List.cons.inj eq).2 (noLetter 'X' (by decide) rest)
  · next rest _ _ eq => rw [(List.cons.inj eq).2]
  · next noNumber => exact absurd rfl (noNumber digits)

/-- What is resolved is a reference, or a number with a plus sign. -/
theorem reference?_eq_some_iff : reference? name = some c ↔ Resolves name c := by
  rw [reference?, Option.or_eq_some_iff]
  constructor
  · rintro (named | ⟨-, numbered⟩)
    · obtain ⟨known, mem, rfl⟩ := namedReference?_eq_some_iff.mp named
      exact .inl (.named mem)
    · unfold numberedReference? at numbered
      split at numbered
      · obtain ⟨sign, numeral, rfl | rfl, rfl, isNumeral, markup⟩ := read_eq_some_iff.mp numbered
        · exact .inl (.hexadecimal (.inl rfl) isNumeral markup)
        · exact .inr (.hexadecimal (.inl rfl) isNumeral markup)
      · obtain ⟨sign, numeral, rfl | rfl, rfl, isNumeral, markup⟩ := read_eq_some_iff.mp numbered
        · exact .inl (.hexadecimal (.inr rfl) isNumeral markup)
        · exact .inr (.hexadecimal (.inr rfl) isNumeral markup)
      · obtain ⟨sign, numeral, rfl | rfl, rfl, isNumeral, markup⟩ := read_eq_some_iff.mp numbered
        · exact .inl (.decimal isNumeral markup)
        · exact .inr (.decimal isNumeral markup)
      · cases numbered
  · -- once for references with a plus sign and for those without one
    have ofSign : ∀ sign : List Char, sign = [] ∨ sign = ['+'] → Denotes sign name c →
        namedReference? name = some c ∨ namedReference? name = none ∧ numberedReference? name = some c := by
      intro sign signed denotes
      cases denotes with
      | named mem => exact .inl (namedReference?_eq_some_iff.mpr ⟨_, mem, rfl⟩)
      | @decimal digits _ numeral markup =>
        refine .inr ⟨rfl, ?_⟩
        have means : numberedReference?.read 10 (sign ++ digits) = some c :=
          read_eq_some_iff.mpr ⟨sign, digits, signed, rfl, numeral, markup⟩
        rcases signed with rfl | rfl
        · rw [List.nil_append, numberedReference?_decimal numeral]
          exact means
        · exact means
      | @hexadecimal x digits _ isMark numeral markup =>
        refine .inr ⟨rfl, ?_⟩
        have means : numberedReference?.read 16 (sign ++ digits) = some c :=
          read_eq_some_iff.mpr ⟨sign, digits, signed, rfl, numeral, markup⟩
        rcases isMark with rfl | rfl
        · exact means
        · exact means
    rintro (denotes | denotes)
    · exact ofSign [] (.inl rfl) denotes
    · exact ofSign ['+'] (.inr rfl) denotes

/-! ## Texts with references -/

/-- Up to the first ampersand a text stands for itself. -/
theorem resolve_append {before : List Char} (plain : '&' ∉ before) (rest : List Char) :
    resolve (before ++ rest) = (resolve rest).map (before ++ ·) := by
  induction before with
  | nil => cases h : resolve rest <;> rw [List.nil_append, h] <;> rfl
  | cons first before ih =>
    obtain ⟨here, later⟩ := not_or.mp (List.mem_cons.not.mp plain)
    rw [List.cons_append, resolve_cons_of_ne (Ne.symm here), ih later]
    cases resolve rest with
    | error name => rfl
    | ok meant => rfl

/-- A reference that means nothing is the error. -/
theorem resolve_unknown (ends : ';' ∉ name) (unknown : reference? name = none) (rest : List Char) :
    resolve ('&' :: (name ++ ';' :: rest)) = .error (String.ofList name) := by
  rw [resolve, if_pos rfl]
  split
  · next missing =>
    rw [Text.cutAt_append ends rest] at missing
    cases missing
  · next name' after found =>
    rw [Text.cutAt_append ends rest] at found
    cases found
    rw [unknown]

/-- A text with one reference in it. -/
theorem resolve_around {before after : List Char} (plainBefore : '&' ∉ before) (plainAfter : '&' ∉ after)
    (ends : ';' ∉ name) :
    resolve (before ++ '&' :: (name ++ ';' :: after)) =
      match reference? name with
      | some c => .ok (before ++ c :: after)
      | none => .error (String.ofList name) := by
  rw [resolve_append plainBefore]
  cases means : reference? name with
  | none =>
    rw [resolve_unknown ends means]
    rfl
  | some c =>
    -- what follows the reference holds no further one
    have alone : resolve after = .ok after := by
      have whole := resolve_append plainAfter []
      rwa [List.append_nil, resolve, Except.map, List.append_nil] at whole
    have known := resolve_reference ends means after
    rw [List.append_assoc, List.singleton_append] at known
    rw [known, alone]
    rfl

/-! ## Readers -/

/-- The answer has the character of the reference in it, or is the error that the reference is unknown. -/
def AnswersTo (name : List Char) {ε α : Type} (answer : Except ε α) (known : Char → α) (unknown : ε) : Prop :=
  (∀ c, Resolves name c → answer = .ok (known c)) ∧
    ((¬ ∃ c, Resolves name c) → answer = .error unknown)

theorem AnswersTo.map {ε α β : Type} {answer : Except ε α} {known : Char → α} {unknown : ε}
    (answers : AnswersTo name answer known unknown) (f : α → β) :
    AnswersTo name (answer.map f) (fun c => f (known c)) unknown := by
  constructor
  · intro c resolves
    rw [answers.1 c resolves]
    rfl
  · intro none
    rw [answers.2 none]
    rfl

theorem answersTo_of_reference? {ε α : Type} {answer : Except ε α} {known : Char → α} {unknown : ε}
    (resolved : ∀ c, reference? name = some c → answer = .ok (known c))
    (failed : reference? name = none → answer = .error unknown) : AnswersTo name answer known unknown := by
  constructor
  · intro c resolves
    exact resolved c (reference?_eq_some_iff.mpr resolves)
  · intro none
    apply failed
    cases means : reference? name with
    | none => rfl
    | some c => exact absurd ⟨c, reference?_eq_some_iff.mp means⟩ none

def around (before name after : List Char) : List Char :=
  before ++ '&' :: (name ++ ';' :: after)

section around

variable {before after rest : List Char}

/-- White space around the text is trimmed, and does not reach beyond the reference. -/
theorem trimChars_around :
    Text.trimChars (around before name after) =
      around (Text.skipSpace before) name (Text.skipSpaceEnd after) := by
  have split : ∀ cs more : List Char, cs ++ '&' :: (name ++ ';' :: more) = (cs ++ '&' :: name) ++ ';' :: more := by
    intro cs more
    rw [List.append_assoc, List.cons_append]
  -- trimming stops at the ampersand and at the semicolon
  rw [Text.trimChars, around, Text.skipSpace_append_cons (by decide), split, Text.skipSpaceEnd_append_cons (by decide),
    ← split]
  rfl

theorem resolve_answers (plainBefore : '&' ∉ before) (plainAfter : '&' ∉ after) (ends : ';' ∉ name) :
    AnswersTo name (resolve (around before name after)) (fun c => before ++ c :: after) (String.ofList name) := by
  have whole := resolve_around plainBefore plainAfter ends
  apply answersTo_of_reference?
  · intro c means
    rw [around, whole, means]
  · intro none
    rw [around, whole, none]

theorem readReferences_answers (plainBefore : '&' ∉ before) (plainAfter : '&' ∉ after) (ends : ';' ∉ name) :
    AnswersTo name (readReferences (around before name after)) (fun c => String.ofList (before ++ c :: after))
      (.unknownReference (String.ofList name)) := by
  obtain ⟨known, unknown⟩ := resolve_answers plainBefore plainAfter ends
  constructor
  · intro c resolves
    rw [readReferences, known c resolves]
  · intro none
    rw [readReferences, unknown none]

/-- In a run of characters, wherever it stands. -/
theorem readCharacters_answers (plainBefore : '&' ∉ before) (plainAfter : '&' ∉ after) (ends : ';' ∉ name)
    (noTag : '<' ∉ around before name after) (markup : ∀ c ∈ around before name after, isMarkupChar c = true)
    (stops : ∀ c ∈ rest.head?, c = '<') :
    AnswersTo name (readCharacters (around before name after ++ rest))
      (fun c => (.characters (String.ofList (Text.skipSpace before ++ c :: Text.skipSpaceEnd after)), rest))
      (.unknownReference (String.ofList name)) := by
  obtain ⟨run, left⟩ := span_run noTag stops
  have read : readCharacters (around before name after ++ rest) =
      (readReferences (around (Text.skipSpace before) name (Text.skipSpaceEnd after))).map
        fun words => (.characters words, rest) := by
    simp only [readCharacters, run, left, checkChars_eq_ok markup, trimChars_around]
  have subsetFront : '&' ∉ Text.skipSpace before :=
    fun mem => plainBefore ((List.dropWhile_sublist _).subset mem)
  have subsetBack : '&' ∉ Text.skipSpaceEnd after := by
    intro mem
    have back := (List.dropWhile_sublist Text.isWhiteSpace).subset (List.mem_reverse.mp mem)
    exact plainAfter (List.mem_reverse.mp back)
  rw [read]
  exact (readReferences_answers subsetFront subsetBack ends).map _

/-- In the value of an attribute, wherever it stands. -/
theorem readValue_answers (key : String) {quote : Char} (plainBefore : '&' ∉ before) (plainAfter : '&' ∉ after)
    (ends : ';' ∉ name) (closed : quote ∉ around before name after) (noTag : '<' ∉ around before name after)
    (markup : ∀ c ∈ around before name after, isMarkupChar c = true) (rest : List Char) :
    AnswersTo name (readValue key quote (around before name after ++ quote :: rest))
      (fun c => (String.ofList (before ++ c :: after), rest)) (.unknownReference (String.ofList name)) := by
  have found : readUntil [quote] .attributeValue (around before name after ++ quote :: rest) =
      .ok (around before name after, rest) :=
    (readUntil_eq_ok_iff (List.cons_ne_nil _ _)).mpr
      ⟨by simp, Text.onlyAtEnd_singleton_iff.mpr closed⟩
  have none : (around before name after).contains '<' = false := by simpa using noTag
  have read : readValue key quote (around before name after ++ quote :: rest) =
      (readReferences (around before name after)).map fun value => (value, rest) := by
    rw [readValue, found]
    simp only [none, checkChars_eq_ok markup]
    cases readReferences (around before name after) <;> rfl
  rw [read]
  exact (readReferences_answers plainBefore plainAfter ends).map _

end around

/-- An attribute without white space in it is read as its value is. -/
theorem readAttribute_quoted {key : String} (legal : IsLegalName key) {quote : Char}
    (isQuote : quote = '\x22' ∨ quote = '\x27') (cs : List Char) :
    readAttribute (key.toList ++ '=' :: quote :: cs) =
      (readValue key quote cs).map fun (value, rest) => (key, value, rest) := by
  have plain : Text.skipSpace (quote :: cs) = quote :: cs := by
    rcases isQuote with rfl | rfl
    · exact Text.skipSpace_cons_of_not (by decide) cs
    · exact Text.skipSpace_cons_of_not (by decide) cs
  have quoted : readQuoted key (quote :: cs) = readValue key quote cs := by
    rcases isQuote with rfl | rfl <;> rfl
  rw [readAttribute, readName_written legal (by decide)]
  simp only [Text.skipSpace_cons_of_not (show Text.isWhiteSpace '=' = false by decide), readAssigned, plain,
    quoted]
  cases readValue key quote cs <;> rfl

end Markup

/-! ## Documents -/

namespace Tree

variable {before after name : List Char} {element : String}

def textDocument (element : String) (words : List Char) : List Char :=
  '<' :: (element.toList ++ '>' :: (words ++ '<' :: '/' :: (element.toList ++ ['>'])))

def attributeDocument (element key : String) (quote : Char) (value : List Char) : List Char :=
  '<' :: (element.toList ++ ' ' :: (key.toList ++ '=' :: quote :: (value ++ quote :: ['/', '>'])))

/-- A reference in the text of an element. -/
theorem decode_textDocument (legal : IsLegalName element) (plainBefore : '&' ∉ before)
    (plainAfter : '&' ∉ after) (ends : ';' ∉ name) (noTag : '<' ∉ around before name after)
    (markup : ∀ c ∈ around before name after, isMarkupChar c = true) :
    AnswersTo name (decode (String.ofList (textDocument element (around before name after))))
      (fun c => ofText element (String.ofList (Text.skipSpace before ++ c :: Text.skipSpaceEnd after)))
      (.unknownReference (String.ofList name)) := by
  have stops : ∀ c ∈ ('<' :: '/' :: (element.toList ++ ['>'])).head?, c = '<' := by simp
  obtain ⟨known, unknown⟩ := readCharacters_answers plainBefore plainAfter ends noTag markup stops
  -- the run begins with no tag
  obtain ⟨first, more, begins⟩ : ∃ first more, around before name after = first :: more := by
    unfold around
    cases before with
    | nil => exact ⟨_, _, rfl⟩
    | cons first more => exact ⟨_, _, rfl⟩
  have plain : first ≠ '<' := by
    rintro rfl
    exact noTag (by rw [begins]; exact List.mem_cons_self ..)
  have opened : readSegment (textDocument element (around before name after)) =
      .ok (.startTag ⟨element, .empty, false⟩,
        around before name after ++ '<' :: '/' :: (element.toList ++ ['>'])) := by
    have noKeys : ∀ key ∈ (SortedMap.empty : Attributes).keys, IsLegalName key := List.forall_mem_nil _
    have noValues : ∀ value ∈ (SortedMap.empty : Attributes).values, IsMarkupText value := List.forall_mem_nil _
    exact readSegment_startTag_written legal noKeys noValues false _
  have closed : readSegment ('<' :: '/' :: (element.toList ++ ['>'])) = .ok (.endTag element, []) :=
    readSegment_endTag_written legal []
  rw [begins, List.cons_append] at opened known unknown
  constructor
  · intro c resolves
    have run := known c resolves
    rw [← readSegment_characters plain] at run
    -- the resolved character itself is never trimmed, so the text is not empty
    have filled : String.ofList (Text.skipSpace before ++ c :: Text.skipSpaceEnd after) ≠ "" := by
      intro none
      have empty := congrArg String.toList none
      simp at empty
    have worded : Segment.event? (.characters (String.ofList (Text.skipSpace before ++ c :: Text.skipSpaceEnd after))) =
        some (.text (String.ofList (Text.skipSpace before ++ c :: Text.skipSpaceEnd after))) :=
      if_neg fun empty => filled (String.isEmpty_iff.mp empty)
    apply (Grown.pushText _ (.named element)).decode_of_saidBy
    refine ⟨[.startTag ⟨element, .empty, false⟩,
      .text (String.ofList (Text.skipSpace before ++ c :: Text.skipSpaceEnd after)), .endTag element], ?_, ?_⟩
    · rw [String.toList_ofList, begins, textDocument, drain_of_event opened rfl,
        drain_of_event run worded, drain_of_event closed rfl, Cursor.drain_start, nextEvent]
      rfl
    · have one : (named element).pushText _ = .node element .empty [.text _] :=
        congrArg (Tree.node element .empty) (Content.appendText_eq_concat filled (by rintro content ⟨⟩))
      rw [one]
      rfl
  · intro none
    have run := unknown none
    rw [← readSegment_characters plain] at run
    have said : (Cursor.start (textDocument element (first :: more))).drain =
        [.ok (.startTag ⟨element, .empty, false⟩), .error (.unknownReference (String.ofList name))] := by
      rw [textDocument, drain_of_event opened rfl, drain_of_fault run]
    rw [decode, String.toList_ofList, begins, decodeChars, said]
    rfl

/-- A reference in the value of an attribute. -/
theorem decode_attributeDocument (legal : IsLegalName element) {key : String} (legalKey : IsLegalName key)
    {quote : Char} (isQuote : quote = '\x22' ∨ quote = '\x27') (plainBefore : '&' ∉ before)
    (plainAfter : '&' ∉ after) (ends : ';' ∉ name) (closed : quote ∉ around before name after)
    (noTag : '<' ∉ around before name after) (markup : ∀ c ∈ around before name after, isMarkupChar c = true) :
    AnswersTo name (decode (String.ofList (attributeDocument element key quote (around before name after))))
      (fun c => (named element).setAttribute key (String.ofList (before ++ c :: after)))
      (.unknownReference (String.ofList name)) := by
  obtain ⟨known, unknown⟩ := readValue_answers key plainBefore plainAfter ends closed noTag markup ['/', '>']
  have read := readAttribute_quoted legalKey isQuote (around before name after ++ quote :: ['/', '>'])
  obtain ⟨first, more, begins, start, skipped⟩ :=
    legalKey.append_eq ('=' :: quote :: (around before name after ++ quote :: ['/', '>']))
  rw [begins] at read
  -- the blank in front of the key is skipped
  have lead : Text.skipSpace (' ' :: first :: more) = first :: more := by
    rw [Text.skipSpace, List.dropWhile_cons_of_pos (by decide), ← begins]
    exact skipped
  obtain ⟨head, tail, beginsName, startName, -⟩ := legal.append_eq (' ' :: first :: more)
  have document : attributeDocument element key quote (around before name after) = '<' :: head :: tail := by
    rw [attributeDocument, begins, beginsName]
  have segment : readSegment ('<' :: head :: tail) =
      (readAttributes element .empty (' ' :: first :: more)).map fun found => (.startTag found.1, found.2) := by
    rw [readSegment_startTag startName, ← beginsName, readStartTag, readName_written legal (by decide)]
  constructor
  · intro c resolves
    rw [known c resolves] at read
    -- the tag ends behind the attribute, and with it the document
    have ended : readAttributes element (SortedMap.empty.insert key (String.ofList (before ++ c :: after)))
        ['/', '>'] = .ok (⟨element, SortedMap.empty.insert key (String.ofList (before ++ c :: after)), true⟩, []) :=
      readAttributes_selfClosing (by decide)
    rw [readAttributes_attribute lead start read rfl rfl, ended] at segment
    apply (Grown.setAttribute _ _ (.named element)).decode_of_saidBy
    refine ⟨[.startTag ⟨element, SortedMap.empty.insert key (String.ofList (before ++ c :: after)), true⟩], ?_, rfl⟩
    rw [String.toList_ofList, document, drain_of_event segment rfl, Cursor.drain_start, nextEvent]
    rfl
  · intro none
    rw [unknown none] at read
    rw [readAttributes_further lead start, read] at segment
    rw [decode, String.toList_ofList, document, decodeChars, drain_of_fault segment]
    rfl

/-- A reference between texts without ampersands is resolved if it is one of the grammar, or would be one
without the plus sign in front of its digits; the texts around it stay as they are. Every other is the error.
This decides on the text of an element, where the white space at its ends is trimmed, and on the value of an
attribute. -/
theorem references_resolved {before after name : List Char} (plainBefore : '&' ∉ before)
    (plainAfter : '&' ∉ after) (ends : ';' ∉ name) :
    AnswersTo name (resolve (around before name after)) (fun c => before ++ c :: after) (String.ofList name) ∧
      ('<' ∉ around before name after → (∀ c ∈ around before name after, isMarkupChar c = true) →
        (∀ rest, (∀ c ∈ rest.head?, c = '<') →
          AnswersTo name (readCharacters (around before name after ++ rest))
            (fun c => (.characters (String.ofList (Text.skipSpace before ++ c :: Text.skipSpaceEnd after)), rest))
            (.unknownReference (String.ofList name))) ∧
        (∀ key quote rest, quote ∉ around before name after →
          AnswersTo name (readValue key quote (around before name after ++ quote :: rest))
            (fun c => (String.ofList (before ++ c :: after), rest)) (.unknownReference (String.ofList name))) ∧
        ∀ element, IsLegalName element →
          AnswersTo name (decode (String.ofList (textDocument element (around before name after))))
            (fun c => ofText element (String.ofList (Text.skipSpace before ++ c :: Text.skipSpaceEnd after)))
            (.unknownReference (String.ofList name)) ∧
          ∀ key quote, IsLegalName key → quote = '\x22' ∨ quote = '\x27' → quote ∉ around before name after →
            AnswersTo name (decode (String.ofList (attributeDocument element key quote (around before name after))))
              (fun c => (named element).setAttribute key (String.ofList (before ++ c :: after)))
              (.unknownReference (String.ofList name))) := by
  refine ⟨resolve_answers plainBefore plainAfter ends, ?_⟩
  intro noTag markup
  refine ⟨?_, ?_, ?_⟩
  · intro rest stops
    exact readCharacters_answers plainBefore plainAfter ends noTag markup stops
  · intro key quote rest closed
    exact readValue_answers key plainBefore plainAfter ends closed noTag markup rest
  · intro element legal
    refine ⟨decode_textDocument legal plainBefore plainAfter ends noTag markup, ?_⟩
    intro key quote legalKey isQuote closed
    exact decode_attributeDocument legal legalKey isQuote plainBefore plainAfter ends closed noTag markup

/-- A number with zeros in front in the text of an element, and one whose digits are none in the value of an
attribute. -/
theorem references_resolved_leading_zeros :
    '&' ∉ [' ', '1'] ∧ '&' ∉ ['\n'] ∧ ';' ∉ "#x000000000041".toList ∧ ';' ∉ "#xg1".toList ∧
      decode (String.ofList (textDocument "t" (around [' ', '1'] "#x000000000041".toList ['\n']))) =
        .ok (ofText "t" (String.ofList ['1', 'A'])) ∧
      decode (String.ofList (attributeDocument "t" "k" '\x27' (around [' ', '1'] "#xg1".toList ['\n']))) =
        .error (.unknownReference (String.ofList "#xg1".toList)) := by
  have plain : '&' ∉ [' ', '1'] ∧ '&' ∉ ['\n'] := by decide
  have ends : ';' ∉ "#x000000000041".toList ∧ ';' ∉ "#xg1".toList := by decide
  have resolves : Resolves "#x000000000041".toList 'A' := reference?_eq_some_iff.mp (by decide +kernel)
  have unknown : ¬ ∃ c, Resolves "#xg1".toList c := by
    rintro ⟨c, resolves⟩
    have none : reference? "#xg1".toList = none := by decide +kernel
    rw [reference?_eq_some_iff.mpr resolves] at none
    cases none
  obtain ⟨-, -, inText⟩ :=
    (references_resolved plain.1 plain.2 ends.1).2 (by decide) (List.all_eq_true.mp (by decide))
  obtain ⟨-, -, inValue⟩ :=
    (references_resolved plain.1 plain.2 ends.2).2 (by decide) (List.all_eq_true.mp (by decide))
  have legal : IsLegalName "t" ∧ IsLegalName "k" := by decide +kernel
  refine ⟨plain.1, plain.2, ends.1, ends.2, ?_, ?_⟩
  · exact (inText "t" legal.1).1.1 'A' resolves
  · exact ((inValue "t" legal.1).2 "k" '\x27' legal.2 (.inr rfl) (by decide)).2 unknown

/-- A plus sign in front of the digits is read with the number, although no reference has one. -/
theorem signed_reference_resolved :
    (¬ ∃ c, Denotes [] "#+65".toList c) ∧ resolve "&#+65;".toList = .ok ['A'] ∧
      decode "<t>&#+65;</t>" = .ok (ofText "t" "A") := by
  refine ⟨?_, by decide +kernel, by decide +kernel⟩
  rintro ⟨c, denotes⟩
  generalize written : "#+65".toList = name at denotes
  cases denotes with
  | named mem =>
    have names : ∀ known ∈ predefined, known.1.toList ≠ "#+65".toList := by decide
    exact names _ mem written.symm
  | decimal numeral _ =>
    obtain rfl := (List.cons.inj written).2
    exact numeral.no_sign rfl
  | hexadecimal isMark _ _ =>
    have mark := (List.cons.inj (List.cons.inj written).2).1
    rcases isMark with rfl | rfl <;> exact absurd mark (by decide)

end Tree

end Discovery
