import Discovery.Proofs.Markup.Writable

/-!
# What reading lets through

A document may be written in many ways: with sections, comments and references, and with quotes of
either kind. Every reader checks what it takes, so that in the end names are legal and texts and
values are made of characters of a document, whichever way they were written.

* `isMarkupChar_of_resolve`: references bring in characters of a document only;
* `readAttributes_writable`, `readSegment_writable`: tags and segments, reader by reader;
* `Cursor.drain_writable`: everything that a document says can be written again.
-/

namespace Discovery

open Markup

namespace Text

/-- Trimming adds nothing. -/
theorem mem_of_mem_trimChars {c : Char} {cs : List Char} (mem : c ∈ trimChars cs) : c ∈ cs := by
  have inside : c ∈ skipSpace cs := by
    have back := (List.dropWhile_sublist isWhiteSpace).subset (List.mem_reverse.mp mem)
    exact List.mem_reverse.mp back
  exact (List.dropWhile_sublist isWhiteSpace).subset inside

end Text

namespace Markup

/-! ## Names and characters -/

/-- What is read as a name is a legal name. -/
theorem readName_legal {cs rest : List Char} {name : String}
    (read : readName cs = .ok (name, rest)) : IsLegalName name := by
  cases cs with
  | nil => cases read
  | cons c more =>
    rw [readName] at read
    split at read
    · next start =>
      cases read
      refine ⟨c, more.takeWhile isNameChar, String.toList_ofList, start, ?_⟩
      intro c mem
      exact List.mem_takeWhile_imp mem
    · cases read

/-- Characters that are accepted may stand in a document. -/
theorem isMarkupChar_of_checkChars {cs after : List Char} (accepted : checkChars cs after = .ok ()) :
    ∀ c ∈ cs, isMarkupChar c = true := by
  rw [checkChars] at accepted
  split at accepted
  · next none => exact List.dropWhile_eq_nil_iff.mp none
  · cases accepted

theorem isMarkupChar_of_named {name : List Char} {c : Char} (means : namedReference? name = some c) :
    isMarkupChar c = true := by
  unfold namedReference? at means
  split at means
  all_goals cases means
  all_goals decide

theorem isMarkupChar_of_code {code : Nat} {c : Char} (means : charOfCode? code = some c) :
    isMarkupChar c = true := by
  rw [charOfCode?] at means
  by_cases valid : code.isValidChar
  · rw [dif_pos valid] at means
    exact (Option.filter_eq_some_iff.mp means).2
  · rw [dif_neg valid] at means
    cases means

theorem isMarkupChar_of_read {radix : Nat} {digits : List Char} {c : Char}
    (means : numberedReference?.read radix digits = some c) : isMarkupChar c = true := by
  unfold numberedReference?.read at means
  split at means
  · exact isMarkupChar_of_code means
  · cases means

theorem isMarkupChar_of_numbered {name : List Char} {c : Char}
    (means : numberedReference? name = some c) : isMarkupChar c = true := by
  unfold numberedReference? at means
  split at means
  · exact isMarkupChar_of_read means
  · exact isMarkupChar_of_read means
  · exact isMarkupChar_of_read means
  · cases means

/-- A reference stands for a character of a document. -/
theorem isMarkupChar_of_reference {name : List Char} {c : Char} (means : reference? name = some c) :
    isMarkupChar c = true := by
  rcases Option.or_eq_some_iff.mp means with named | ⟨-, numbered⟩
  · exact isMarkupChar_of_named named
  · exact isMarkupChar_of_numbered numbered

/-- Resolving references leaves a text in characters of a document. -/
theorem isMarkupChar_of_resolve {cs meant : List Char} (valid : ∀ c ∈ cs, isMarkupChar c = true)
    (resolved : resolve cs = .ok meant) : ∀ c ∈ meant, isMarkupChar c = true := by
  -- along the text: a character that stays is valid before, one that is put in is checked
  fun_induction resolve cs generalizing meant with
  | case1 =>
    cases resolved
    exact valid
  | case2 => cases resolved
  | case3 => cases resolved
  | case4 rest name after found c means ih =>
    obtain ⟨later, resolvedLater, rfl⟩ := map_eq_ok resolved
    have split : rest = name ++ [';'] ++ after := Text.cutAt_eq_some found
    have validAfter : ∀ c ∈ after, isMarkupChar c = true := by
      intro c mem
      apply valid
      rw [split]
      exact List.mem_cons_of_mem _ (List.mem_append_right _ mem)
    exact List.forall_mem_cons.mpr ⟨isMarkupChar_of_reference means, ih validAfter resolvedLater⟩
  | case5 c rest plain ih =>
    obtain ⟨later, resolvedLater, rfl⟩ := map_eq_ok resolved
    obtain ⟨here, validRest⟩ := List.forall_mem_cons.mp valid
    exact List.forall_mem_cons.mpr ⟨here, ih validRest resolvedLater⟩

theorem readReferences_markup {cs : List Char} {words : String}
    (valid : ∀ c ∈ cs, isMarkupChar c = true) (read : readReferences cs = .ok words) :
    IsMarkupText words := by
  rw [readReferences] at read
  split at read
  · next meant resolved =>
    cases read
    intro c mem
    rw [String.toList_ofList] at mem
    exact isMarkupChar_of_resolve valid resolved c mem
  · cases read

/-! ## Attributes -/

theorem readValue_markup {key value : String} {quote : Char} {cs rest : List Char}
    (read : readValue key quote cs = .ok (value, rest)) : IsMarkupText value := by
  rw [readValue] at read
  split at read
  · cases read
  · split at read
    · cases read
    · split at read
      · cases read
      · next accepted =>
        split at read
        · cases read
        · next resolved =>
          cases read
          exact readReferences_markup (isMarkupChar_of_checkChars accepted) resolved

theorem readQuoted_markup {key value : String} {cs rest : List Char}
    (read : readQuoted key cs = .ok (value, rest)) : IsMarkupText value := by
  unfold readQuoted at read
  split at read
  · exact readValue_markup read
  · exact readValue_markup read
  · cases read

/-- An attribute that is read has a legal key and a value in characters of a document. -/
theorem readAttribute_writable {key value : String} {cs rest : List Char}
    (read : readAttribute cs = .ok (key, value, rest)) : IsLegalName key ∧ IsMarkupText value := by
  rw [readAttribute] at read
  split at read
  · cases read
  · next named =>
    split at read
    · cases read
    · next assigned =>
      cases read
      unfold readAssigned at assigned
      split at assigned
      · exact ⟨readName_legal named, readQuoted_markup assigned⟩
      · cases assigned

/-- Reading on, attribute after attribute, keeps what has been read writable. -/
theorem readAttributes_writable {name : String} {attributes : Attributes} {tag : StartTag}
    {cs rest : List Char} (writable : WritableAttributes attributes)
    (read : readAttributes name attributes cs = .ok (tag, rest)) :
    tag.name = name ∧ WritableAttributes tag.attributes := by
  fun_induction readAttributes name attributes cs with
  | case1 => cases read
  | case2 =>
    cases read
    exact ⟨rfl, writable⟩
  | case3 =>
    cases read
    exact ⟨rfl, writable⟩
  | case4 => cases read
  | case5 => cases read
  | case6 _ _ _ _ _ _ _ _ _ _ found ih =>
    -- the attributes known so far stay writable with one more
    obtain ⟨legal, markup⟩ := readAttribute_writable found
    exact ih (writable.insert legal markup) read
  | case7 => cases read

/-! ## Segments -/

/-- Can the event be said again by markup that is written? -/
def Event.IsWritable : Event → Prop
  | .startTag tag => IsLegalName tag.name ∧ WritableAttributes tag.attributes
  | .endTag _ => True
  | .text words => IsMarkupText words

theorem readStartTag_writable {tag : StartTag} {cs rest : List Char}
    (read : readStartTag cs = .ok (tag, rest)) : (Event.startTag tag).IsWritable := by
  rw [readStartTag] at read
  split at read
  · cases read
  · next named =>
    rcases readAttributes_writable writableAttributes_empty read with ⟨same, writable⟩
    have legal : IsLegalName tag.name := same ▸ readName_legal named
    exact ⟨legal, writable⟩

/-- The characters of a section are checked as they stand. -/
theorem readCdata_markup {segment : Segment} {cs rest : List Char}
    (read : readCdata cs = .ok (segment, rest)) :
    ∃ words, segment = .cdata words ∧ ∀ c ∈ words, isMarkupChar c = true := by
  rw [readCdata] at read
  split at read
  · cases read
  · next words after _ =>
    obtain ⟨_, accepted, eq⟩ := map_eq_ok read
    cases eq
    exact ⟨words, rfl, isMarkupChar_of_checkChars accepted⟩

/-- The characters of a run are checked before it is trimmed and its references are resolved. -/
theorem readCharacters_markup {segment : Segment} {cs rest : List Char}
    (read : readCharacters cs = .ok (segment, rest)) :
    ∃ words, segment = .characters words ∧ IsMarkupText words := by
  simp only [readCharacters] at read
  split at read
  · cases read
  · next accepted =>
    obtain ⟨words, resolved, eq⟩ := map_eq_ok read
    cases eq
    refine ⟨words, rfl, readReferences_markup ?_ resolved⟩
    intro c mem
    exact isMarkupChar_of_checkChars accepted c (Text.mem_of_mem_trimChars mem)

/-- What a segment says can be written again. -/
theorem readSegment_writable {segment : Segment} {cs rest : List Char}
    (read : readSegment cs = .ok (segment, rest)) :
    ∀ event ∈ segment.event?, event.IsWritable := by
  -- instructions, comments and declarations are no events
  have silent : ∀ {segment : Segment}, segment.event? = none →
      ∀ event ∈ segment.event?, event.IsWritable := by
    intro segment none event some
    rw [none] at some
    cases some
  rw [readSegment.eq_def] at read
  split at read
  · obtain ⟨_, _, eq⟩ := map_eq_ok read
    cases eq
    exact silent rfl
  · obtain ⟨_, _, eq⟩ := map_eq_ok read
    cases eq
    exact silent rfl
  · -- a section: its characters were checked, and stand as they are
    obtain ⟨words, rfl, valid⟩ := readCdata_markup read
    intro event said
    rw [Segment.event?] at said
    split at said
    · cases said
    · cases said
      intro c mem
      rw [String.toList_ofList] at mem
      exact valid c mem
  · obtain ⟨_, _, eq⟩ := map_eq_ok read
    cases eq
    exact silent rfl
  · obtain ⟨_, _, eq⟩ := map_eq_ok read
    cases eq
    intro event said
    cases said
    exact trivial
  · obtain ⟨_, found, eq⟩ := map_eq_ok read
    cases eq
    intro event said
    cases said
    exact readStartTag_writable found
  · -- a run: its references were resolved to characters of a document
    obtain ⟨words, rfl, valid⟩ := readCharacters_markup read
    intro event said
    rw [Segment.event?] at said
    split at said
    · cases said
    · cases said
      exact valid

/-! ## Documents -/

/-- Only what was read as a segment is said. -/
theorem exists_segment_of_nextEvent {event : Event} {cs rest : List Char}
    (next : nextEvent cs = .ok (some (event, rest))) :
    ∃ start segment rest, readSegment start = .ok (segment, rest) ∧ segment.event? = some event := by
  fun_induction nextEvent cs with
  | case1 => cases next
  | case2 => cases next
  | case3 _ _ _ _ read _ said =>
    cases next
    exact ⟨_, _, _, read, said⟩
  | case4 _ _ _ _ _ _ ih => exact ih next

theorem Cursor.exists_segment_of_mem_drain {cursor : Cursor} {event : Event}
    (mem : .ok event ∈ cursor.drain) :
    ∃ start segment rest, readSegment start = .ok (segment, rest) ∧ segment.event? = some event := by
  fun_induction drain cursor with
  | case1 => cases mem
  | case2 cursor said later next ih =>
    rcases List.mem_cons.mp mem with rfl | after
    · rw [next?] at next
      split at next
      · cases next
      · split at next
        · cases next
        · cases next
        · next found =>
          cases next
          exact exists_segment_of_nextEvent found
    · exact ih after

/-- Everything that a cursor says can be written again. -/
theorem Cursor.drain_writable {cursor : Cursor} {event : Event} (mem : .ok event ∈ cursor.drain) :
    event.IsWritable := by
  rcases exists_segment_of_mem_drain mem with ⟨_, segment, _, read, said⟩
  exact readSegment_writable read event said

end Markup

end Discovery
