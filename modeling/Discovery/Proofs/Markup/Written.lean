import Discovery.Markup.Encode
import Discovery.Markup.Segment
import Discovery.Proofs.Text.Trimmed
import Mathlib.Data.List.TakeWhile

/-!
# Reading what was written

The readers of tags, values and character runs, on the pieces that `Tree.render` is made of. A piece
is read back as what it was written from, whatever follows it.

* `Escapes`: characters are written as they are, or as a reference by name. Such a text resolves to
  what was written (`resolve_flatMap`), keeps its white space (`Escapes.keepsSpace`) and is free of
  the characters that are reserved (`Escapes.free`).
* `readStartTag_written`, `readEndTag_written`, `readCharacters_written`: tags with legal names and
  runs of document characters are read back.
-/

namespace Discovery.Markup

/-! ## Escaping -/

def escapeNames : List (List Char) := [['a', 'm', 'p'], ['l', 't'], ['g', 't'], ['q', 'u', 'o', 't']]

/-- Characters are written as they are or as a reference by name, the reserved ones never as they
are. -/
def Escapes (reserved : List Char) (written : Char → List Char) : Prop :=
  ∀ c, (c ∉ reserved ∧ written c = [c]) ∨
    ∃ name ∈ escapeNames, namedReference? name = some c ∧ written c = '&' :: (name ++ [';'])

theorem escapes_inText : Escapes ['&', '<'] escapeInText := by
  intro c
  by_cases amp : c = '&'
  · exact .inr ⟨['a', 'm', 'p'], by decide, by rw [amp]; rfl, by rw [amp]; rfl⟩
  by_cases less : c = '<'
  · exact .inr ⟨['l', 't'], by decide, by rw [less]; rfl, by rw [less]; rfl⟩
  by_cases greater : c = '>'
  · exact .inr ⟨['g', 't'], by decide, by rw [greater]; rfl, by rw [greater]; rfl⟩
  exact .inl ⟨by simp [amp, less], by simp [escapeInText, amp, less, greater]⟩

theorem escapes_inValue : Escapes ['&', '<', '\x22'] escapeInValue := by
  intro c
  by_cases quote : c = '\x22'
  · exact .inr ⟨['q', 'u', 'o', 't'], by decide, by rw [quote]; rfl, by rw [quote]; rfl⟩
  have same : escapeInValue c = escapeInText c := if_neg quote
  rw [same]
  rcases escapes_inText c with ⟨plain, eq⟩ | named
  · exact .inl ⟨by simpa [quote] using plain, eq⟩
  · exact .inr named

namespace Escapes

variable {reserved : List Char} {written : Char → List Char}

/-- What is reserved does not occur in what is written, unless references are made of it. -/
theorem free (escapes : Escapes reserved written) {mark : Char} (isReserved : mark ∈ reserved)
    (other : ∀ name ∈ escapeNames, mark ∉ '&' :: (name ++ [';'])) (cs : List Char) :
    mark ∉ cs.flatMap written := by
  intro mem
  obtain ⟨c, _, here⟩ := List.mem_flatMap.mp mem
  rcases escapes c with ⟨plain, eq⟩ | ⟨name, isName, _, eq⟩
  · rw [eq, List.mem_singleton] at here
    exact plain (here ▸ isReserved)
  · rw [eq] at here
    exact other name isName here

/-- Characters of a document are written in characters of a document. -/
theorem isMarkupChar_of_mem (escapes : Escapes reserved written) {cs : List Char}
    (valid : ∀ c ∈ cs, isMarkupChar c = true) : ∀ c ∈ cs.flatMap written, isMarkupChar c = true := by
  intro d mem
  obtain ⟨c, here, inPiece⟩ := List.mem_flatMap.mp mem
  rcases escapes c with ⟨_, eq⟩ | ⟨name, isName, _, eq⟩
  · rw [eq, List.mem_singleton] at inPiece
    exact inPiece ▸ valid c here
  · have names : (escapeNames.all fun name => ('&' :: (name ++ [';'])).all isMarkupChar) = true := by
      decide
    exact List.all_eq_true.mp (List.all_eq_true.mp names name isName) d (eq ▸ inPiece)

/-- No white space has to be written by name. -/
theorem written_space (escapes : Escapes reserved written) {c : Char}
    (space : Text.isWhiteSpace c = true) : written c = [c] := by
  rcases escapes c with ⟨_, eq⟩ | ⟨name, isName, means, _⟩
  · exact eq
  · have names : (escapeNames.all fun name =>
        (namedReference? name).all fun c => !Text.isWhiteSpace c) = true := by decide
    have noSpace := List.all_eq_true.mp names name isName
    rw [means, Option.all_some, space] at noSpace
    cases noSpace

theorem keepsSpace (escapes : Escapes reserved written) : Text.KeepsSpace written := by
  intro c
  split
  · next space => exact escapes.written_space space
  · next plain =>
    rcases escapes c with ⟨_, eq⟩ | ⟨name, _, _, eq⟩
    · exact ⟨c, [], eq, by simpa using plain⟩
    · exact ⟨'&', name ++ [';'], eq, by decide⟩

theorem keepsSpaceEnd (escapes : Escapes reserved written) :
    Text.KeepsSpace fun c => (written c).reverse := by
  intro c
  split
  · next space => simp [escapes.written_space space]
  · next plain =>
    rcases escapes c with ⟨_, eq⟩ | ⟨name, _, _, eq⟩
    · exact ⟨c, [], by simp [eq], by simpa using plain⟩
    · exact ⟨';', name.reverse ++ ['&'], by simp [eq], by decide⟩

end Escapes

/-! ## References -/

theorem resolve_cons_of_ne {c : Char} (plain : c ≠ '&') (rest : List Char) :
    resolve (c :: rest) = (resolve rest).map (c :: ·) := by
  rw [resolve, if_neg plain]

/-- A reference stands for its character, whatever follows it. -/
theorem resolve_reference {name : List Char} (ends : ';' ∉ name) {c : Char}
    (means : reference? name = some c) (rest : List Char) :
    resolve ('&' :: (name ++ [';'] ++ rest)) = (resolve rest).map (c :: ·) := by
  have found : Text.cutAt [';'] (name ++ [';'] ++ rest) = some (name, rest) := by
    rw [List.append_assoc]
    exact Text.cutAt_append ends rest
  rw [resolve, if_pos rfl]
  split
  · next missing =>
    rw [found] at missing
    cases missing
  · next name' after found' =>
    rw [found] at found'
    cases found'
    rw [means]

/-- What is written resolves to what it was written from. -/
theorem resolve_flatMap {reserved : List Char} {written : Char → List Char}
    (escapes : Escapes reserved written) (amp : '&' ∈ reserved) (cs : List Char) :
    resolve (cs.flatMap written) = .ok cs := by
  induction cs with
  | nil => rw [List.flatMap_nil, resolve]
  | cons c rest ih =>
    rw [List.flatMap_cons]
    rcases escapes c with ⟨plain, eq⟩ | ⟨name, isName, means, eq⟩
    · -- the ampersand is reserved, so that it is not written as it is
      have notAmp : c ≠ '&' := fun same => plain (same ▸ amp)
      rw [eq, List.singleton_append, resolve_cons_of_ne notAmp, ih]
      rfl
    · have names : ∀ name ∈ escapeNames, ';' ∉ name := by decide
      have named : reference? name = some c := by rw [reference?, means, Option.some_or]
      rw [eq, List.cons_append, resolve_reference (names name isName) named, ih]
      rfl

theorem readReferences_flatMap {reserved : List Char} {written : Char → List Char}
    (escapes : Escapes reserved written) (amp : '&' ∈ reserved) (cs : List Char) :
    readReferences (cs.flatMap written) = .ok (String.ofList cs) := by
  rw [readReferences, resolve_flatMap escapes amp]

theorem checkChars_eq_ok {cs : List Char} (valid : ∀ c ∈ cs, isMarkupChar c = true)
    (after : List Char) : checkChars cs after = .ok () := by
  have none : cs.dropWhile isMarkupChar = [] := List.dropWhile_eq_nil_iff.mpr valid
  rw [checkChars, none]

/-! ## Names -/

/-- A name that a tag can begin with: it begins like a name and goes on like one. -/
def IsLegalName (name : String) : Prop :=
  ∃ first rest, name.toList = first :: rest ∧ isNameStart first = true ∧
    ∀ c ∈ rest, isNameChar c = true

instance (name : String) : Decidable (IsLegalName name) :=
  match eq : name.toList with
  | [] => .isFalse fun ⟨_, _, eq', _⟩ => by rw [eq] at eq'; cases eq'
  | first :: rest =>
    decidable_of_iff (isNameStart first = true ∧ rest.all isNameChar = true)
      ⟨fun ⟨start, goesOn⟩ => ⟨first, rest, eq, start, List.all_eq_true.mp goesOn⟩,
        fun ⟨_, _, eq', start, goesOn⟩ => by
          rw [eq] at eq'
          cases eq'
          exact ⟨start, List.all_eq_true.mpr goesOn⟩⟩

theorem IsLegalName.ne_empty {name : String} (legal : IsLegalName name) : name ≠ "" := by
  rintro rfl
  obtain ⟨first, rest, eq, _⟩ := legal
  cases eq

/-- No white space begins a name. -/
theorem isNameStart_of_isWhiteSpace {c : Char} (space : Text.isWhiteSpace c = true) :
    isNameStart c = false := by
  have notLine : c ≠ '_' := by
    rintro rfl
    exact absurd space (by decide)
  have notColon : c ≠ ':' := by
    rintro rfl
    exact absurd space (by decide)
  simp [isNameStart, Text.isAlphabetic_of_isWhiteSpace space, notLine, notColon]

theorem not_space_of_isNameStart {c : Char} (start : isNameStart c = true) :
    Text.isWhiteSpace c = false := by
  rw [Bool.eq_false_iff]
  intro space
  rw [isNameStart_of_isWhiteSpace space] at start
  cases start

/-- A legal name is read as far as it goes, if what follows does not go on like a name. -/
theorem readName_written {name : String} (legal : IsLegalName name) {stop : Char}
    (ends : isNameChar stop = false) (rest : List Char) :
    readName (name.toList ++ stop :: rest) = .ok (name, stop :: rest) := by
  obtain ⟨first, more, eq, start, goesOn⟩ := legal
  have stops : ¬ isNameChar stop = true := by simp [ends]
  rw [eq, List.cons_append, readName, if_pos start, List.takeWhile_append_of_pos goesOn,
    List.dropWhile_append_of_pos goesOn, List.takeWhile_cons_of_neg stops,
    List.dropWhile_cons_of_neg stops, List.append_nil, ← eq, String.ofList_toList]

/-- What begins with a legal name begins with no white space, nor with the end of a tag. -/
theorem IsLegalName.append_eq {name : String} (legal : IsLegalName name) (rest : List Char) :
    ∃ first more, name.toList ++ rest = first :: more ∧ isNameStart first = true ∧
      Text.skipSpace (name.toList ++ rest) = name.toList ++ rest := by
  obtain ⟨first, more, eq, start, _⟩ := legal
  refine ⟨first, more ++ rest, by rw [eq, List.cons_append], start, ?_⟩
  rw [eq, List.cons_append, Text.skipSpace_cons_of_not (not_space_of_isNameStart start)]

/-! ## Attributes -/

/-- Every character of the text may stand in a document. -/
def IsMarkupText (words : String) : Prop :=
  ∀ c ∈ words.toList, isMarkupChar c = true

instance (words : String) : Decidable (IsMarkupText words) :=
  decidable_of_iff (words.toList.all isMarkupChar = true) List.all_eq_true

/-- What stands after the name of an attribute that is written, with what follows it. -/
def assignment (value : String) (rest : List Char) : List Char :=
  '=' :: '\x22' :: (value.toList.flatMap escapeInValue ++ '\x22' :: rest)

/-- Attributes that are written, with what follows them. -/
def attributeRun (entries : List (String × String)) (rest : List Char) : List Char :=
  entries.flatMap (fun entry => Tree.renderAttribute entry.1 entry.2) ++ rest

/-- The first attribute stands after a blank and before the others. -/
theorem attributeRun_cons (key value : String) (more : List (String × String))
    (rest : List Char) :
    attributeRun ((key, value) :: more) rest =
      ' ' :: (key.toList ++ assignment value (attributeRun more rest)) := by
  simp [attributeRun, Tree.renderAttribute, assignment]

theorem readValue_written (key : String) {value : String} (valid : IsMarkupText value)
    (rest : List Char) :
    readValue key '\x22' (value.toList.flatMap escapeInValue ++ '\x22' :: rest) =
      .ok (value, rest) := by
  have noQuote : '\x22' ∉ value.toList.flatMap escapeInValue :=
    escapes_inValue.free (by decide) (by decide) _
  have noTag : (value.toList.flatMap escapeInValue).contains '<' = false := by
    simpa using escapes_inValue.free (by decide) (by decide) value.toList
  have checked := checkChars_eq_ok (escapes_inValue.isMarkupChar_of_mem valid) ('\x22' :: rest)
  have found : readUntil ['\x22'] .attributeValue
      (value.toList.flatMap escapeInValue ++ '\x22' :: rest) =
        .ok (value.toList.flatMap escapeInValue, rest) := by
    rw [readUntil, Text.cutAt_append noQuote]
  rw [readValue, found]
  simp only [noTag, checked, readReferences_flatMap escapes_inValue (by decide),
    String.ofList_toList]
  rfl

theorem readAssigned_written (key : String) {value : String} (valid : IsMarkupText value)
    (rest : List Char) :
    readAssigned key (Text.skipSpace (assignment value rest)) = .ok (value, rest) := by
  rw [assignment, Text.skipSpace_cons_of_not (by decide), readAssigned,
    Text.skipSpace_cons_of_not (by decide), readQuoted, readValue_written key valid]

/-- An attribute is read back from what is written of it after the blank. -/
theorem readAttribute_written {key value : String} (legal : IsLegalName key)
    (valid : IsMarkupText value) (rest : List Char) :
    readAttribute (key.toList ++ assignment value rest) = .ok (key, value, rest) := by
  have named : readName (key.toList ++ assignment value rest) = .ok (key, assignment value rest) :=
    readName_written legal (by decide) _
  rw [readAttribute, named]
  simp only [readAssigned_written key valid]

/-! ## Tags -/

def tagEnd (selfClosing : Bool) : List Char :=
  if selfClosing then ['/', '>'] else ['>']

/-- What follows an attribute that is written may follow one. -/
theorem separates_written (entries : List (String × String)) (selfClosing : Bool)
    (rest : List Char) : separates (attributeRun entries (tagEnd selfClosing ++ rest)) = true := by
  cases entries with
  | nil => cases selfClosing <;> rfl
  | cons entry more =>
    rw [attributeRun_cons, separates]
    · rfl
    all_goals simp

theorem readAttributes_end {name : String} {attributes : Attributes} {cs rest : List Char}
    (begins : Text.skipSpace cs = '>' :: rest) :
    readAttributes name attributes cs = .ok (⟨name, attributes, false⟩, rest) := by
  unfold readAttributes
  split <;> simp_all

theorem readAttributes_selfClosing {name : String} {attributes : Attributes} {cs rest : List Char}
    (begins : Text.skipSpace cs = '/' :: '>' :: rest) :
    readAttributes name attributes cs = .ok (⟨name, attributes, true⟩, rest) := by
  unfold readAttributes
  split <;> simp_all

/-- Where a name begins neither the end of the tag nor the end of the text comes first: an attribute is read. -/
theorem readAttributes_further {name : String} {attributes : Attributes} {cs more : List Char} {first : Char}
    (begins : Text.skipSpace cs = first :: more) (start : isNameStart first = true) :
    readAttributes name attributes cs =
      match readAttribute (first :: more) with
      | .error fault => .error fault
      | .ok (key, value, rest) =>
        if attributes.contains key then .error (.malformed (.duplicateAttribute key) rest)
        else if separates rest then readAttributes name (attributes.insert key value) rest
        else .error (.malformed (.missingSpaceAfter key) rest) := by
  -- what begins a name is no end of the tag
  have notEnd : first ≠ '>' := by
    rintro rfl
    exact absurd start (by decide)
  have notSlash : first ≠ '/' := by
    rintro rfl
    exact absurd start (by decide)
  conv => lhs; unfold readAttributes
  split
  · next none =>
    rw [begins] at none
    cases none
  · next ends =>
    rw [begins] at ends
    exact absurd (List.cons.inj ends).1 notEnd
  · next ends =>
    rw [begins] at ends
    exact absurd (List.cons.inj ends).1 notSlash
  · rw [← begins]
    split
    · next failed => rw [failed]
    · next found => rw [found]

/-- An attribute that is set apart, and has a key of its own, is added to those that are known. -/
theorem readAttributes_attribute {name key value : String} {attributes : Attributes}
    {cs rest : List Char} {first : Char} {more : List Char}
    (begins : Text.skipSpace cs = first :: more) (start : isNameStart first = true)
    (found : readAttribute (first :: more) = .ok (key, value, rest))
    (fresh : attributes.contains key = false) (apart : separates rest = true) :
    readAttributes name attributes cs =
      readAttributes name (attributes.insert key value) rest := by
  rw [readAttributes_further begins start, found]
  dsimp only
  rw [fresh, apart]
  rfl

/-- Attributes are read back one after another, after those that are known, up to the end of the
tag. -/
theorem readAttributes_written (name : String) {attributes : Attributes} (selfClosing : Bool)
    (rest : List Char) {known : Attributes} {entries : List (String × String)}
    (all : attributes.entries = known.entries ++ entries)
    (legal : ∀ entry ∈ entries, IsLegalName entry.1)
    (valid : ∀ entry ∈ entries, IsMarkupText entry.2) :
    readAttributes name known (attributeRun entries (tagEnd selfClosing ++ rest)) =
      .ok (⟨name, attributes, selfClosing⟩, rest) := by
  induction entries generalizing known with
  | nil =>
    have same : known = attributes := SortedMap.eq_of_entries (by rw [all, List.append_nil])
    subst same
    cases selfClosing with
    | false => exact readAttributes_end (Text.skipSpace_cons_of_not (by decide) rest)
    | true => exact readAttributes_selfClosing (Text.skipSpace_cons_of_not (by decide) _)
  | cons entry more ih =>
    obtain ⟨key, value⟩ := entry
    obtain ⟨legalKey, legalMore⟩ := List.forall_mem_cons.mp legal
    obtain ⟨validValue, validMore⟩ := List.forall_mem_cons.mp valid
    -- the entries ascend, so every key that is known lies below this one
    have above : ∀ entry ∈ known.entries, entry.1 < key := by
      intro entry mem
      have sorted := attributes.ascending
      rw [all] at sorted
      exact (List.pairwise_append.mp sorted).2.2 entry mem (key, value) (List.mem_cons_self ..)
    have fresh : known.contains key = false := by
      rw [Bool.eq_false_iff]
      intro held
      obtain ⟨old, held⟩ := SortedMap.contains_iff.mp held
      exact KeyOrder.irrefl _ (above _ (SortedMap.mem_entries_iff.mpr held))
    rw [attributeRun_cons]
    generalize following : attributeRun more (tagEnd selfClosing ++ rest) = after
    obtain ⟨first, tail, eq, start, skipped⟩ := legalKey.append_eq (assignment value after)
    have begins : Text.skipSpace (' ' :: (key.toList ++ assignment value after)) = first :: tail :=
      (Text.skipSpace_append (List.forall_mem_singleton.mpr (by decide)) _).trans (skipped.trans eq)
    have found := readAttribute_written legalKey validValue after
    have apart : separates after = true := following ▸ separates_written more selfClosing rest
    rw [readAttributes_attribute begins start (eq ▸ found) fresh apart, ← following]
    refine ih ?_ legalMore validMore
    rw [SortedMap.entries_insert_of_above above, all, List.append_assoc, List.singleton_append]

/-- A start tag is read back from what is written of it after its first character. -/
theorem readStartTag_written {name : String} {attributes : Attributes} (legal : IsLegalName name)
    (legalKeys : ∀ key ∈ attributes.keys, IsLegalName key)
    (valid : ∀ value ∈ attributes.values, IsMarkupText value) (selfClosing : Bool)
    (rest : List Char) :
    readStartTag (name.toList ++ attributeRun attributes.entries (tagEnd selfClosing ++ rest)) =
      .ok (⟨name, attributes, selfClosing⟩, rest) := by
  have read : readAttributes name .empty
      (attributeRun attributes.entries (tagEnd selfClosing ++ rest)) = _ :=
    readAttributes_written name selfClosing rest (List.nil_append _).symm
      (fun entry mem => legalKeys _ (List.mem_map_of_mem mem))
      (fun entry mem => valid _ (List.mem_map_of_mem mem))
  -- a blank follows the name, or the end of the tag where there are no attributes
  have stops : ∃ stop more, attributeRun attributes.entries (tagEnd selfClosing ++ rest) =
      stop :: more ∧ isNameChar stop = false := by
    cases attributes.entries with
    | nil =>
      cases selfClosing with
      | false => exact ⟨'>', rest, rfl, by decide⟩
      | true => exact ⟨'/', '>' :: rest, rfl, by decide⟩
    | cons entry more => exact ⟨' ', _, attributeRun_cons .., by decide⟩
  obtain ⟨stop, more, eq, ends⟩ := stops
  rw [eq] at read
  rw [readStartTag, eq, readName_written legal ends]
  exact read

/-- A closing tag is read back from what is written of it after its first two characters. -/
theorem readEndTag_written {name : String} (legal : IsLegalName name) (rest : List Char) :
    readEndTag (name.toList ++ '>' :: rest) = .ok (name, rest) := by
  rw [readEndTag, readName_written legal (by decide)]
  simp only [Text.skipSpace_cons_of_not (show Text.isWhiteSpace '>' = false by decide), readTagEnd]
  rfl

/-! ## Segments -/

/-- A start tag is read where a name begins after the first character. -/
theorem readSegment_startTag {first : Char} (start : isNameStart first = true) (more : List Char) :
    readSegment ('<' :: first :: more) =
      (readStartTag (first :: more)).map fun (tag, rest) => (.startTag tag, rest) := by
  have notQuestion : first ≠ '?' := by
    rintro rfl
    exact absurd start (by decide)
  have notBang : first ≠ '!' := by
    rintro rfl
    exact absurd start (by decide)
  have notSlash : first ≠ '/' := by
    rintro rfl
    exact absurd start (by decide)
  rw [readSegment]
  all_goals simp_all

theorem readSegment_startTag_written {name : String} {attributes : Attributes}
    (legal : IsLegalName name) (legalKeys : ∀ key ∈ attributes.keys, IsLegalName key)
    (valid : ∀ value ∈ attributes.values, IsMarkupText value) (selfClosing : Bool)
    (rest : List Char) :
    readSegment ('<' :: (name.toList ++
        attributeRun attributes.entries (tagEnd selfClosing ++ rest))) =
      .ok (.startTag ⟨name, attributes, selfClosing⟩, rest) := by
  have tag := readStartTag_written legal legalKeys valid selfClosing rest
  obtain ⟨first, more, eq, start, _⟩ :=
    legal.append_eq (attributeRun attributes.entries (tagEnd selfClosing ++ rest))
  rw [eq] at tag ⊢
  rw [readSegment_startTag start, tag]
  rfl

theorem readSegment_endTag_written {name : String} (legal : IsLegalName name) (rest : List Char) :
    readSegment ('<' :: '/' :: (name.toList ++ '>' :: rest)) = .ok (.endTag name, rest) := by
  rw [readSegment, readEndTag_written legal]
  rfl

theorem readSegment_characters {first : Char} (plain : first ≠ '<') (more : List Char) :
    readSegment (first :: more) = readCharacters (first :: more) := by
  rw [readSegment]
  all_goals simp_all

/-- No tag begins in white space and a text after it. -/
theorem not_mem_run {blank : List Char} (space : ∀ c ∈ blank, Text.isWhiteSpace c = true)
    (words : String) : '<' ∉ blank ++ words.toList.flatMap escapeInText := by
  intro mem
  rcases List.mem_append.mp mem with before | inText
  · exact absurd (space _ before) (by decide)
  · exact escapes_inText.free (by decide) (by decide) _ inText

/-- What stands before the first tag is cut off where it begins. -/
theorem span_run {run rest : List Char} (noTag : '<' ∉ run) (stops : ∀ c ∈ rest.head?, c = '<') :
    (run ++ rest).takeWhile (· ≠ '<') = run ∧ (run ++ rest).dropWhile (· ≠ '<') = rest := by
  have plain : ∀ c ∈ run, decide (c ≠ '<') = true := by
    intro c mem
    rw [decide_eq_true_iff]
    rintro rfl
    exact noTag mem
  -- the run cannot go on, since a tag or nothing follows
  have ends : rest.takeWhile (· ≠ '<') = [] ∧ rest.dropWhile (· ≠ '<') = rest := by
    cases rest with
    | nil => exact ⟨rfl, rfl⟩
    | cons c more => simp [stops c rfl]
  constructor
  · rw [List.takeWhile_append_of_pos plain, ends.1, List.append_nil]
  · rw [List.dropWhile_append_of_pos plain, ends.2]

/-- White space and a text after it, up to a tag or to the end, are read back as the trimmed
text. -/
theorem readCharacters_written {blank : List Char}
    (space : ∀ c ∈ blank, Text.isWhiteSpace c = true)
    (validBlank : ∀ c ∈ blank, isMarkupChar c = true) {words : String}
    (valid : IsMarkupText words) {after : List Char} (stops : ∀ c ∈ after.head?, c = '<') :
    readCharacters (blank ++ (words.toList.flatMap escapeInText ++ after)) =
      .ok (.characters (Text.trim words), after) := by
  have validRun : ∀ c ∈ blank ++ words.toList.flatMap escapeInText, isMarkupChar c = true := by
    intro c mem
    rcases List.mem_append.mp mem with before | inText
    · exact validBlank c before
    · exact escapes_inText.isMarkupChar_of_mem valid c inText
  -- escaping leaves white space alone, so that trimming and escaping commute
  have trimmed : Text.trimChars (blank ++ words.toList.flatMap escapeInText) =
      (Text.trimChars words.toList).flatMap escapeInText := by
    rw [Text.trimChars_append space,
      Text.trimChars_flatMap escapes_inText.keepsSpace escapes_inText.keepsSpaceEnd]
  obtain ⟨run, rest⟩ := span_run (not_mem_run space words) stops
  rw [← List.append_assoc]
  simp only [readCharacters, run, rest, checkChars_eq_ok validRun, trimmed,
    readReferences_flatMap escapes_inText (by decide), Except.map, Text.trim]

end Discovery.Markup
