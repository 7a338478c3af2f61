import Discovery.Proofs.Markup.Read
import Discovery.Proofs.Text.FirstMark

/-!
# What segments are made of

Every reader takes a piece off the front of a text, and the piece alone decides whether it can be read
and what it says. Here the pieces are described by what they are made of, reader by reader.

* `AttributesText`, `IsStartTag`: the text of a start tag;
* `readStartTag_eq_ok_iff`, `readEndTag_eq_ok_iff`, `readCharacters_eq_ok_iff`: what is read as a tag or as a
  run of characters;
* `SegmentText`, `SegmentText.read`, `segmentText_of_read`: a segment is read where its text stands, whatever follows it, except
  that a run of characters goes on as far as it can.
-/

namespace Discovery.Markup

/-! ## Names -/

/-- White space does not go on a name. -/
theorem isNameChar_of_isWhiteSpace {c : Char} (space : Text.isWhiteSpace c = true) :
    isNameChar c = false := by
  have others : ∀ mark ∈ ['_', ':', '-', '.'], c ≠ mark := by
    rintro mark mem rfl
    revert space
    simp only [List.mem_cons, List.not_mem_nil, or_false] at mem
    rcases mem with rfl | rfl | rfl | rfl <;> decide
  simp only [List.forall_mem_cons, List.not_mem_nil, false_implies, implies_true, and_true] at others
  simp [isNameChar, Text.isAlphabetic_of_isWhiteSpace space, Text.isNumeric_of_isWhiteSpace space, others]

/-- What begins a name goes on one. -/
theorem isNameChar_of_isNameStart {c : Char} (start : isNameStart c = true) : isNameChar c = true := by
  simp only [isNameStart, Bool.or_eq_true, decide_eq_true_eq] at start
  simp only [isNameChar, Bool.or_eq_true, decide_eq_true_eq]
  tauto

/-- A name is read as far as it goes. -/
theorem readName_eq_ok_iff {name : String} {cs rest : List Char} :
    readName cs = .ok (name, rest) ↔
      IsLegalName name ∧ cs = name.toList ++ rest ∧ ∀ c ∈ rest.head?, isNameChar c = false := by
  constructor
  · intro read
    refine ⟨readName_legal read, ?_⟩
    cases cs with
    | nil => cases read
    | cons first more =>
      rw [readName] at read
      split at read
      · cases read
        refine ⟨?_, ?_⟩
        · rw [String.toList_ofList, List.cons_append, List.takeWhile_append_dropWhile]
        · intro c mem
          have stopped := List.head?_dropWhile_not isNameChar more
          rw [Option.mem_def.mp mem] at stopped
          simpa using stopped
      · cases read
  · rintro ⟨legal, rfl, stops⟩
    cases rest with
    | nil =>
      -- nothing stops the name but the end of the text
      obtain ⟨first, more, eq, start, goesOn⟩ := legal
      have all : more.takeWhile isNameChar = more := List.takeWhile_eq_self_iff.mpr goesOn
      have none : more.dropWhile isNameChar = [] := List.dropWhile_eq_nil_iff.mpr goesOn
      rw [List.append_nil, eq, readName, if_pos start, all, none, ← eq, String.ofList_toList]
    | cons stop more => exact readName_written legal (stops stop rfl) more

/-- A name ends in front of white space, and of a character that it does not go on with. -/
theorem stops_of_blank {blank : List Char} (space : Text.IsBlank blank) {c : Char}
    (stop : isNameChar c = false) (rest : List Char) :
    ∀ d ∈ (blank ++ c :: rest).head?, isNameChar d = false := by
  intro d mem
  cases blank with
  | nil =>
    cases mem
    exact stop
  | cons first more =>
    cases mem
    exact isNameChar_of_isWhiteSpace (space _ (List.mem_cons_self ..))

/-! ## Values -/

theorem readUntil_eq_ok_iff {mark : List Char} (some : mark ≠ []) {part : Enclosed}
    {cs before after : List Char} :
    readUntil mark part cs = .ok (before, after) ↔
      cs = before ++ mark ++ after ∧ Text.OnlyAtEnd mark (before ++ mark) := by
  rw [← Text.cutAt_eq_some_iff some]
  constructor
  · exact readUntil_eq_ok
  · intro found
    rw [readUntil, found]

/-- What stands between quotes: neither the quote nor the beginning of a tag, characters of a document
only, and references that mean something. -/
structure IsRawValue (quote : Char) (raw : List Char) (value : String) : Prop where
  closed : quote ∉ raw
  noTag : '<' ∉ raw
  markup : ∀ c ∈ raw, isMarkupChar c = true
  means : readReferences raw = .ok value

theorem readValue_eq_ok_iff {key value : String} {quote : Char} {cs rest : List Char} :
    readValue key quote cs = .ok (value, rest) ↔
      ∃ raw, cs = raw ++ quote :: rest ∧ IsRawValue quote raw value := by
  constructor
  · intro read
    rw [readValue] at read
    split at read
    · cases read
    · next raw after found =>
      -- every check that the value passes is a part of `IsRawValue`
      obtain ⟨split, only⟩ := (readUntil_eq_ok_iff (List.cons_ne_nil _ _)).mp found
      split at read
      · cases read
      · next noTag =>
        split at read
        · cases read
        · next checked =>
          split at read
          · cases read
          · next means =>
            cases read
            refine ⟨raw, by simpa using split, ?_⟩
            exact ⟨Text.onlyAtEnd_singleton_iff.mp only, by simpa using noTag,
              isMarkupChar_of_checkChars checked, means⟩
  · rintro ⟨raw, rfl, ⟨closed, noTag, markup, means⟩⟩
    have found : readUntil [quote] .attributeValue (raw ++ quote :: rest) = .ok (raw, rest) :=
      (readUntil_eq_ok_iff (List.cons_ne_nil _ _)).mpr
        ⟨by simp, Text.onlyAtEnd_singleton_iff.mpr closed⟩
    have none : raw.contains '<' = false := by simpa using noTag
    rw [readValue, found]
    simp only [none, checkChars_eq_ok markup, means]
    rfl

theorem readQuoted_eq_ok_iff {key value : String} {cs rest : List Char} :
    readQuoted key cs = .ok (value, rest) ↔
      ∃ quote raw, (quote = '\x22' ∨ quote = '\x27') ∧ cs = quote :: (raw ++ quote :: rest) ∧
        IsRawValue quote raw value := by
  constructor
  · intro read
    unfold readQuoted at read
    split at read
    · rcases readValue_eq_ok_iff.mp read with ⟨raw, rfl, means⟩
      exact ⟨_, raw, .inl rfl, rfl, means⟩
    · rcases readValue_eq_ok_iff.mp read with ⟨raw, rfl, means⟩
      exact ⟨_, raw, .inr rfl, rfl, means⟩
    · cases read
  · rintro ⟨quote, raw, rfl | rfl, rfl, means⟩
    · exact readValue_eq_ok_iff.mpr ⟨raw, rfl, means⟩
    · exact readValue_eq_ok_iff.mpr ⟨raw, rfl, means⟩

/-- A key, an equals sign and a quoted value, with white space around the sign. -/
def IsAttribute (piece : List Char) (key value : String) : Prop :=
  ∃ (before after : List Char) (quote : Char) (raw : List Char), IsLegalName key ∧ Text.IsBlank before ∧
    Text.IsBlank after ∧ (quote = '\x22' ∨ quote = '\x27') ∧ IsRawValue quote raw value ∧
    piece = key.toList ++ (before ++ '=' :: (after ++ quote :: (raw ++ [quote])))

theorem skipSpace_blank_append {blank : List Char} (space : Text.IsBlank blank) {c : Char}
    (plain : Text.isWhiteSpace c = false) (rest : List Char) :
    Text.skipSpace (blank ++ c :: rest) = c :: rest := by
  rw [Text.skipSpace_append space, Text.skipSpace_cons_of_not plain]

theorem readAttribute_eq_ok_iff {key value : String} {cs rest : List Char} :
    readAttribute cs = .ok (key, value, rest) ↔
      ∃ piece, cs = piece ++ rest ∧ IsAttribute piece key value := by
  constructor
  · intro read
    rw [readAttribute] at read
    split at read
    · cases read
    · next name afterName named =>
      obtain ⟨legal, rfl, -⟩ := readName_eq_ok_iff.mp named
      split at read
      · cases read
      · next assigned =>
        cases read
        -- the white space that is dropped is given a name, so that the piece can be put together again
        obtain ⟨before, spaceBefore, skippedBefore⟩ := Text.exists_blank afterName
        unfold readAssigned at assigned
        split at assigned
        · next more begins =>
          obtain ⟨after, spaceAfter, skippedAfter⟩ := Text.exists_blank more
          obtain ⟨quote, raw, isQuote, quoted, means⟩ := readQuoted_eq_ok_iff.mp assigned
          rw [quoted] at skippedAfter
          refine ⟨_, ?_, before, after, quote, raw, legal, spaceBefore, spaceAfter, isQuote, means, rfl⟩
          rw [skippedBefore, begins, skippedAfter]
          simp
        · cases assigned
  · rintro ⟨piece, rfl, before, after, quote, raw, legal, spaceBefore, spaceAfter, isQuote, means, rfl⟩
    have plainQuote : Text.isWhiteSpace quote = false := by
      rcases isQuote with rfl | rfl <;> decide
    -- the name ends in front of the white space or the equals sign
    have stops := stops_of_blank spaceBefore (show isNameChar '=' = false by decide)
      (after ++ quote :: (raw ++ quote :: rest))
    have named := readName_eq_ok_iff.mpr ⟨legal, rfl, stops⟩
    have assigned : readAssigned key ('=' :: (after ++ quote :: (raw ++ quote :: rest))) =
        .ok (value, rest) := by
      rw [readAssigned, skipSpace_blank_append spaceAfter plainQuote]
      exact readQuoted_eq_ok_iff.mpr ⟨quote, raw, isQuote, rfl, means⟩
    have written : key.toList ++ (before ++ '=' :: (after ++ quote :: (raw ++ [quote]))) ++ rest =
        key.toList ++ (before ++ '=' :: (after ++ quote :: (raw ++ quote :: rest))) := by simp
    rw [written, readAttribute, named]
    simp only [skipSpace_blank_append spaceBefore (show Text.isWhiteSpace '=' = false by decide), assigned]

theorem IsAttribute.begins {piece : List Char} {key value : String} (isAttribute : IsAttribute piece key value) :
    IsLegalName key ∧ ∃ assigned, piece = key.toList ++ assigned := by
  obtain ⟨_, _, _, _, legal, -, -, -, -, eq⟩ := isAttribute
  exact ⟨legal, _, eq⟩

/-! ## Start tags -/

/-- The rest of a start tag after its name and some attributes: further attributes, each after white space
and with a key of its own, then white space and the end of the tag. -/
inductive AttributesText (name : String) : Attributes → List Char → StartTag → Prop
  | ending {known : Attributes} {blank : List Char} (selfClosing : Bool) :
    Text.IsBlank blank →
      AttributesText name known (blank ++ tagEnd selfClosing) ⟨name, known, selfClosing⟩
  | further {known : Attributes} {lead piece more : List Char} {key value : String} {tag : StartTag} :
    lead ≠ [] → Text.IsBlank lead → IsAttribute piece key value → known.contains key = false →
      AttributesText name (known.insert key value) more tag →
        AttributesText name known (lead ++ (piece ++ more)) tag

variable {name : String} {known : Attributes} {piece cs rest : List Char} {tag : StartTag}

theorem AttributesText.name_eq (text : AttributesText name known piece tag) : tag.name = name := by
  induction text with
  | ending => rfl
  | further _ _ _ _ _ ih => exact ih

/-- What follows a name or an attribute is set apart from it. -/
theorem AttributesText.separates (text : AttributesText name known piece tag) (rest : List Char) :
    separates (piece ++ rest) = true ∧ ∀ c ∈ (piece ++ rest).head?, isNameChar c = false := by
  -- white space ends a name and sets an attribute apart
  have ofSpace : ∀ (c : Char) (more : List Char), Text.isWhiteSpace c = true →
      Markup.separates (c :: more) = true ∧ ∀ d ∈ (c :: more).head?, isNameChar d = false := by
    intro c more space
    constructor
    · rw [Markup.separates.eq_def]
      split
      all_goals simp_all
    · rintro d ⟨⟩
      exact isNameChar_of_isWhiteSpace space
  cases text with
  | @ending _ blank selfClosing space =>
    -- without white space the end of the tag itself is what follows
    cases blank with
    | nil =>
      cases selfClosing with
      | false => exact ⟨rfl, by rintro c ⟨⟩; decide⟩
      | true => exact ⟨rfl, by rintro c ⟨⟩; decide⟩
    | cons first more => exact ofSpace first _ (space first (List.mem_cons_self ..))
  | @further _ lead _ _ _ _ _ some space _ _ _ =>
    cases lead with
    | nil => exact absurd rfl some
    | cons first more => exact ofSpace first _ (space first (List.mem_cons_self ..))

/-- The attributes and the end of a tag are read off their text. -/
theorem AttributesText.read (text : AttributesText name known piece tag) (rest : List Char) :
    readAttributes name known (piece ++ rest) = .ok (tag, rest) := by
  -- along the attributes, as `readAttributes` takes them off one by one
  induction text with
  | @ending known blank selfClosing space =>
    rw [List.append_assoc]
    cases selfClosing with
    | false => exact readAttributes_end (skipSpace_blank_append space (by decide) rest)
    | true => exact readAttributes_selfClosing (skipSpace_blank_append space (by decide) ('>' :: rest))
  | @further known lead piece more key value tag _ space isAttribute fresh text ih =>
    have found : readAttribute (piece ++ (more ++ rest)) = .ok (key, value, more ++ rest) :=
      readAttribute_eq_ok_iff.mpr ⟨piece, rfl, isAttribute⟩
    obtain ⟨legal, assigned, rfl⟩ := isAttribute.begins
    obtain ⟨first, tail, eq, start, skipped⟩ := legal.append_eq (assigned ++ (more ++ rest))
    rw [List.append_assoc, eq] at found
    have begins : Text.skipSpace (lead ++ (key.toList ++ (assigned ++ (more ++ rest)))) = first :: tail := by
      rw [Text.skipSpace_append space, skipped, eq]
    have step : readAttributes name known _ = _ :=
      readAttributes_attribute begins start found fresh (text.separates rest).1
    rw [List.append_assoc, List.append_assoc, List.append_assoc, step, ih]

/-- White space is read in front of a name where a name could not begin at once. -/
theorem blank_ne_nil {blank begins : List Char} {c : Char}
    (stops : ∀ d ∈ (blank ++ c :: begins).head?, isNameStart d = false) (start : isNameStart c = true) :
    blank ≠ [] := by
  rintro rfl
  rw [stops c rfl] at start
  cases start

/-- Nothing that is set apart from an attribute begins a name. -/
theorem isNameStart_of_separates (apart : separates cs = true) :
    ∀ c ∈ cs.head?, isNameStart c = false := by
  intro c mem
  cases cs with
  | nil => cases mem
  | cons first more =>
    cases mem
    rw [separates.eq_def] at apart
    split at apart
    · next eq => cases eq
    · next eq =>
      cases eq
      decide
    · next eq =>
      cases eq
      decide
    · next eq =>
      cases eq
      exact isNameStart_of_isWhiteSpace apart

/-- What is read as attributes and the end of a tag has their text. -/
theorem attributesText_of_read (stops : ∀ c ∈ cs.head?, isNameStart c = false)
    (read : readAttributes name known cs = .ok (tag, rest)) :
    ∃ piece, cs = piece ++ rest ∧ AttributesText name known piece tag := by
  fun_induction readAttributes name known cs with
  | case1 => cases read
  | case2 known cs more begins =>
    cases read
    obtain ⟨blank, space, skipped⟩ := Text.exists_blank cs
    refine ⟨_, ?_, .ending false space⟩
    rw [skipped, begins]
    simp [tagEnd]
  | case3 known cs more begins =>
    cases read
    obtain ⟨blank, space, skipped⟩ := Text.exists_blank cs
    refine ⟨_, ?_, .ending true space⟩
    rw [skipped, begins]
    simp [tagEnd]
  | case4 => cases read
  | case5 => cases read
  | case6 known cs key value after fresh apart _ _ _ found ih =>
    -- another attribute: no name goes on in front of what follows it
    obtain ⟨more, rfl, text⟩ := ih (isNameStart_of_separates apart) read
    obtain ⟨blank, space, skipped⟩ := Text.exists_blank cs
    obtain ⟨piece, split, isAttribute⟩ := readAttribute_eq_ok_iff.mp found
    have starts : ∃ c begins, Text.skipSpace cs = c :: begins ∧ isNameStart c = true := by
      obtain ⟨legal, assigned, eq⟩ := isAttribute.begins
      obtain ⟨c, tail, name, start, -⟩ := legal
      exact ⟨c, _, by rw [split, eq, name]; rfl, start⟩
    obtain ⟨c, begins, skippedTo, start⟩ := starts
    -- a name begins after what was skipped, and none could have begun before it
    have lead : blank ≠ [] := by
      rw [skipped, skippedTo] at stops
      exact blank_ne_nil stops start
    refine ⟨_, ?_, .further lead space isAttribute (by simpa using fresh) text⟩
    rw [skipped, split]
    simp
  | case7 => cases read

/-- The text of a start tag after its first character: a name, attributes and the end. -/
def IsStartTag (piece : List Char) (tag : StartTag) : Prop :=
  ∃ run, IsLegalName tag.name ∧ AttributesText tag.name .empty run tag ∧ piece = tag.name.toList ++ run

/-- A start tag is read off its text, and nothing else is read as one. -/
theorem readStartTag_eq_ok_iff :
    readStartTag cs = .ok (tag, rest) ↔ ∃ piece, cs = piece ++ rest ∧ IsStartTag piece tag := by
  constructor
  · intro read
    rw [readStartTag] at read
    split at read
    · cases read
    · next name afterName named =>
      obtain ⟨legal, rfl, stops⟩ := readName_eq_ok_iff.mp named
      -- the name was read as far as it goes, so no attribute begins without white space
      have noStart : ∀ c ∈ afterName.head?, isNameStart c = false := by
        intro c mem
        rw [Bool.eq_false_iff]
        intro start
        have goesOn := isNameChar_of_isNameStart start
        rw [stops c mem] at goesOn
        cases goesOn
      obtain ⟨run, rfl, text⟩ := attributesText_of_read noStart read
      obtain rfl := text.name_eq
      exact ⟨_, (List.append_assoc ..).symm, run, legal, text, rfl⟩
  · rintro ⟨piece, rfl, run, legal, text, rfl⟩
    have named := readName_eq_ok_iff.mpr ⟨legal, rfl, (text.separates rest).2⟩
    rw [List.append_assoc, readStartTag, named]
    exact text.read rest

/-- A closing tag is read off a name, white space and the end. -/
theorem readEndTag_eq_ok_iff :
    readEndTag cs = .ok (name, rest) ↔
      ∃ blank, IsLegalName name ∧ Text.IsBlank blank ∧ cs = name.toList ++ (blank ++ '>' :: rest) := by
  constructor
  · intro read
    rw [readEndTag] at read
    split at read
    · cases read
    · next afterName named =>
      obtain ⟨legal, rfl, -⟩ := readName_eq_ok_iff.mp named
      obtain ⟨blank, space, skipped⟩ := Text.exists_blank afterName
      obtain ⟨after, ended, eq⟩ := map_eq_ok read
      cases eq
      unfold readTagEnd at ended
      split at ended
      · next begins =>
        cases ended
        exact ⟨blank, legal, space, by rw [← begins, ← skipped]⟩
      · cases ended
  · rintro ⟨blank, legal, space, rfl⟩
    have stops := stops_of_blank space (show isNameChar '>' = false by decide) rest
    rw [readEndTag, readName_eq_ok_iff.mpr ⟨legal, rfl, stops⟩]
    simp only [skipSpace_blank_append space (show Text.isWhiteSpace '>' = false by decide), readTagEnd]
    rfl

/-! ## Runs of characters -/

/-- The text of a run: no tag begins in it, it is made of characters of a document, and its references, between
its first and its last plain character, mean something. -/
structure IsRun (run : List Char) (words : String) : Prop where
  noTag : '<' ∉ run
  markup : ∀ c ∈ run, isMarkupChar c = true
  means : readReferences (Text.trimChars run) = .ok words

/-- A run of characters is read as far as it goes. -/
theorem readCharacters_eq_ok_iff {segment : Segment} :
    readCharacters cs = .ok (segment, rest) ↔
      ∃ run words, cs = run ++ rest ∧ (∀ c ∈ rest.head?, c = '<') ∧ IsRun run words ∧
        segment = .characters words := by
  constructor
  · intro read
    simp only [readCharacters] at read
    split at read
    · cases read
    · next checked =>
      obtain ⟨words, means, eq⟩ := map_eq_ok read
      cases eq
      -- the run ends in front of the first tag, and no tag begins in it
      refine ⟨_, words, List.takeWhile_append_dropWhile.symm, ?_, ⟨?_, ?_, means⟩, rfl⟩
      · intro c mem
        have stopped := List.head?_dropWhile_not (fun c => decide (c ≠ '<')) cs
        rw [Option.mem_def.mp mem] at stopped
        simpa using stopped
      · intro mem
        have goesOn := List.mem_takeWhile_imp mem
        simp at goesOn
      · exact isMarkupChar_of_checkChars checked
  · rintro ⟨run, words, rfl, stops, ⟨noTag, markup, means⟩, rfl⟩
    obtain ⟨before, after⟩ := span_run noTag stops
    simp only [readCharacters, before, after, checkChars_eq_ok markup, means]
    rfl

/-! ## Segments -/

/-- The text of a segment. The beginning of an instruction and its end may share their question mark. -/
inductive SegmentText : Segment → List Char → Prop
  | instruction {piece : List Char} :
    ['<', '?'] <+: piece → ['?', '>'] <:+ piece → Text.OnlyAtEnd ['?', '>'] piece →
      SegmentText .instruction piece
  | comment {body : List Char} :
    Text.OnlyAtEnd ['-', '-', '>'] (body ++ ['-', '-', '>']) →
      SegmentText .comment (['<', '!', '-', '-'] ++ (body ++ ['-', '-', '>']))
  | cdata {words : List Char} :
    Text.OnlyAtEnd [']', ']', '>'] (words ++ [']', ']', '>']) → (∀ c ∈ words, isMarkupChar c = true) →
      SegmentText (.cdata words) (['<', '!', '[', 'C', 'D', 'A', 'T', 'A', '['] ++ (words ++ [']', ']', '>']))
  | declaration {body : List Char} :
    '>' ∉ body → ¬ ['-', '-'] <+: body → ¬ ['[', 'C', 'D', 'A', 'T', 'A', '['] <+: body →
      SegmentText .declaration (['<', '!'] ++ (body ++ ['>']))
  | startTag {piece : List Char} {tag : StartTag} :
    IsStartTag piece tag → SegmentText (.startTag tag) ('<' :: piece)
  | endTag {name : String} {blank : List Char} :
    IsLegalName name → Text.IsBlank blank →
      SegmentText (.endTag name) (['<', '/'] ++ (name.toList ++ (blank ++ ['>'])))
  | characters {run : List Char} {words : String} :
    run ≠ [] → IsRun run words → SegmentText (.characters words) run

def Segment.isRun : Segment → Bool
  | .characters _ => true
  | _ => false

/-- A mark that stands before the first `>` of a text stands in what comes before it. -/
theorem prefix_of_prefix_append {mark body rest : List Char} (free : '>' ∉ mark)
    (starts : mark <+: body ++ '>' :: rest) : mark <+: body := by
  rcases List.prefix_or_prefix_of_prefix starts (List.prefix_append body ('>' :: rest)) with
    inside | ⟨more, rfl⟩
  · exact inside
  · -- a mark that went on beyond the body would hold the character after it
    cases more with
    | nil => exact ⟨[], by simp⟩
    | cons first more =>
      have begins := (List.prefix_append_right_inj body).mp starts
      obtain ⟨rfl, -⟩ := List.cons_prefix_cons.mp begins
      exact absurd (List.mem_append_right _ (List.mem_cons_self ..)) free

/-- What begins as a declaration and neither as a comment nor as a section is one. -/
theorem readSegment_declaration {more : List Char} (noComment : ¬ ['-', '-'] <+: more)
    (noSection : ¬ ['[', 'C', 'D', 'A', 'T', 'A', '['] <+: more) :
    readSegment ('<' :: '!' :: more) =
      (readUntil ['>'] .declaration ('<' :: '!' :: more)).map fun (_, rest) => (.declaration, rest) := by
  rw [readSegment]
  · rintro rest rfl
    exact noComment ⟨rest, rfl⟩
  · rintro rest rfl
    exact noSection ⟨rest, rfl⟩

/-- A segment is read off its text. -/
theorem SegmentText.read {segment : Segment} (text : SegmentText segment piece)
    (stops : segment.isRun = true → ∀ c ∈ rest.head?, c = '<') :
    readSegment (piece ++ rest) = .ok (segment, rest) := by
  cases text with
  | instruction starts ends only =>
    obtain ⟨before, rfl⟩ := ends
    have found : readUntil ['?', '>'] .instruction (before ++ ['?', '>'] ++ rest) = .ok (before, rest) :=
      (readUntil_eq_ok_iff (List.cons_ne_nil _ _)).mpr ⟨rfl, only⟩
    obtain ⟨more, eq⟩ := starts
    rw [← eq] at found ⊢
    simp only [List.cons_append, List.nil_append] at found ⊢
    rw [readSegment, found]
    rfl
  | @comment body only =>
    have found : readUntil ['-', '-', '>'] .comment (body ++ ['-', '-', '>'] ++ rest) = .ok (body, rest) :=
      (readUntil_eq_ok_iff (List.cons_ne_nil _ _)).mpr ⟨rfl, only⟩
    rw [List.append_assoc]
    simp only [List.cons_append, List.nil_append]
    rw [readSegment, found]
    rfl
  | @cdata words only markup =>
    have found : readUntil [']', ']', '>'] .cdata (words ++ [']', ']', '>'] ++ rest) = .ok (words, rest) :=
      (readUntil_eq_ok_iff (List.cons_ne_nil _ _)).mpr ⟨rfl, only⟩
    rw [List.append_assoc]
    simp only [List.cons_append, List.nil_append]
    rw [readSegment, readCdata, found]
    simp only [checkChars_eq_ok markup]
    rfl
  | @declaration body only noComment noSection =>
    have found : readUntil ['>'] .declaration ('<' :: '!' :: body ++ ['>'] ++ rest) =
        .ok ('<' :: '!' :: body, rest) :=
      (readUntil_eq_ok_iff (List.cons_ne_nil _ _)).mpr
        ⟨rfl, Text.onlyAtEnd_singleton_iff.mpr (by simpa using only)⟩
    -- that this is no comment and no section is what the hypotheses say of the body
    have split : ['<', '!'] ++ (body ++ ['>']) ++ rest = '<' :: '!' :: (body ++ '>' :: rest) := by simp
    rw [split, readSegment_declaration]
    · have same : '<' :: '!' :: body ++ ['>'] ++ rest = '<' :: '!' :: (body ++ '>' :: rest) := by simp
      rw [← same, found]
      rfl
    · exact fun starts => noComment (prefix_of_prefix_append (by decide) starts)
    · exact fun starts => noSection (prefix_of_prefix_append (by decide) starts)
  | @startTag piece tag isTag =>
    have found : readStartTag (piece ++ rest) = .ok (tag, rest) :=
      readStartTag_eq_ok_iff.mpr ⟨piece, rfl, isTag⟩
    obtain ⟨run, legal, -, rfl⟩ := isTag
    -- the tag's name begins like a name, so that `readSegment` takes it for no other segment
    obtain ⟨first, more, eq, start, -⟩ := legal.append_eq (run ++ rest)
    rw [List.append_assoc, eq] at found
    rw [List.cons_append, List.append_assoc, eq, readSegment_startTag start, found]
    rfl
  | @endTag name blank legal space =>
    have found : readEndTag (name.toList ++ (blank ++ '>' :: rest)) = .ok (name, rest) :=
      readEndTag_eq_ok_iff.mpr ⟨blank, legal, space, rfl⟩
    have split : ['<', '/'] ++ (name.toList ++ (blank ++ ['>'])) ++ rest =
        '<' :: '/' :: (name.toList ++ (blank ++ '>' :: rest)) := by simp
    rw [split, readSegment, found]
    rfl
  | @characters _ words some isRun =>
    have found := readCharacters_eq_ok_iff.mpr ⟨piece, words, rfl, stops rfl, isRun, rfl⟩
    cases piece with
    | nil => exact absurd rfl some
    | cons first more =>
      have plain : first ≠ '<' := fun same => isRun.noTag (same ▸ List.mem_cons_self ..)
      rw [List.cons_append] at found ⊢
      rw [readSegment_characters plain, found]

/-- Only a run of characters has to end where a tag begins. -/
theorem Segment.stops_of_not_isRun {segment : Segment} (noRun : segment.isRun = false) (rest : List Char) :
    segment.isRun = true → ∀ c ∈ rest.head?, c = '<' := by
  intro run
  rw [noRun] at run
  cases run

/-- What is read as a segment has its text. -/
theorem segmentText_of_read {segment : Segment} (some : cs ≠ [])
    (read : readSegment cs = .ok (segment, rest)) :
    ∃ piece, cs = piece ++ rest ∧ SegmentText segment piece ∧
      (segment.isRun = true → ∀ c ∈ rest.head?, c = '<') := by
  rw [readSegment.eq_def] at read
  split at read
  · -- an instruction
    obtain ⟨⟨before, _⟩, found, eq⟩ := map_eq_ok read
    cases eq
    obtain ⟨split, only⟩ := (readUntil_eq_ok_iff (List.cons_ne_nil _ _)).mp found
    refine ⟨before ++ ['?', '>'], split, .instruction ?_ (List.suffix_append _ _) only, Segment.stops_of_not_isRun rfl _⟩
    -- the text found begins with the two characters, since the search begins with them
    have front : ['<', '?'] <+: before ++ ['?', '>'] ++ rest := ⟨_, split⟩
    exact List.prefix_of_prefix_length_le front (List.prefix_append _ _) (by simp)
  · -- a comment
    obtain ⟨⟨body, _⟩, found, eq⟩ := map_eq_ok read
    cases eq
    obtain ⟨rfl, only⟩ := (readUntil_eq_ok_iff (List.cons_ne_nil _ _)).mp found
    exact ⟨_, by simp, .comment only, Segment.stops_of_not_isRun rfl _⟩
  · -- a section
    rw [readCdata] at read
    split at read
    · cases read
    · next words _ found =>
      obtain ⟨_, checked, eq⟩ := map_eq_ok read
      cases eq
      obtain ⟨rfl, only⟩ := (readUntil_eq_ok_iff (List.cons_ne_nil _ _)).mp found
      exact ⟨_, by simp, .cdata only (isMarkupChar_of_checkChars checked), Segment.stops_of_not_isRun rfl _⟩
  · next more noComment noSection =>
    obtain ⟨⟨before, _⟩, found, eq⟩ := map_eq_ok read
    cases eq
    obtain ⟨split, only⟩ := (readUntil_eq_ok_iff (List.cons_ne_nil _ _)).mp found
    -- the end is searched for from the first character on, and does not stand in the first two
    have front : ['<', '!'] <+: before := by
      apply prefix_of_prefix_append (by decide)
      exact ⟨more, by simpa using split⟩
    obtain ⟨body, rfl⟩ := front
    obtain rfl : more = body ++ '>' :: rest := by simpa using split
    refine ⟨['<', '!'] ++ (body ++ ['>']), by simp, .declaration ?_ ?_ ?_, Segment.stops_of_not_isRun rfl _⟩
    · have free := Text.onlyAtEnd_singleton_iff.mp only
      exact fun mem => free (List.mem_append_right _ mem)
    · rintro ⟨later, rfl⟩
      exact noComment _ rfl
    · rintro ⟨later, rfl⟩
      exact noSection _ rfl
  · -- a closing tag
    obtain ⟨⟨name, _⟩, found, eq⟩ := map_eq_ok read
    cases eq
    obtain ⟨blank, legal, space, rfl⟩ := readEndTag_eq_ok_iff.mp found
    exact ⟨_, by simp, .endTag legal space, Segment.stops_of_not_isRun rfl _⟩
  · -- a start tag
    obtain ⟨⟨tag, _⟩, found, eq⟩ := map_eq_ok read
    cases eq
    obtain ⟨piece, rfl, isTag⟩ := readStartTag_eq_ok_iff.mp found
    exact ⟨_, rfl, .startTag isTag, Segment.stops_of_not_isRun rfl _⟩
  · next noTag =>
    obtain ⟨run, words, rfl, stops, isRun, rfl⟩ := readCharacters_eq_ok_iff.mp read
    refine ⟨run, rfl, .characters ?_ isRun, fun _ => stops⟩
    rintro rfl
    -- an empty run would end at a tag, which is read as one
    cases rest with
    | nil => exact some rfl
    | cons first more =>
      obtain rfl := stops first rfl
      exact noTag more rfl

end Discovery.Markup
