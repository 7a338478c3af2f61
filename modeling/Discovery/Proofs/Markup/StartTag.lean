import Discovery.Proofs.Markup.Grammar
import Discovery.Proofs.Markup.RoundTrip

/-!
# The grammar of start tags

A start tag is a name, attributes in any number, each after white space and each with a key of its own, and the
end of the tag, in front of which white space may stand. Exactly these texts are read where a tag begins; the
text that is read ends where the tag ends, so that there is only one.

* `WrittenAttribute`: an attribute as it stands in a tag; `IsTagText`: the text of a start tag;
* `isTagText_iff`: the tags of the grammar are those that are read attribute by attribute;
* `IsTagText.unique`: a text begins with one start tag at the most;
* `start_tag_exact`: what is read where a tag begins.
-/

namespace Discovery

namespace Markup

/-! ## The grammar -/

/-- An attribute as it is written: white space, a key, an equals sign and a value between quotes, with white
space around the sign. -/
structure WrittenAttribute where
  lead : List Char
  key : String
  before : List Char
  after : List Char
  quote : Char
  raw : List Char
  /-- What the value means. -/
  value : String

namespace WrittenAttribute

/-- The attribute without the white space in front of it. -/
def assignment (a : WrittenAttribute) : List Char :=
  a.key.toList ++ (a.before ++ '=' :: (a.after ++ a.quote :: (a.raw ++ [a.quote])))

def text (a : WrittenAttribute) : List Char :=
  a.lead ++ a.assignment

/-- Is the attribute set apart from what stands before it, is its key a name, and does its value mean what it
should? -/
structure IsWellFormed (a : WrittenAttribute) : Prop where
  apart : a.lead ≠ []
  spaceLead : Text.IsBlank a.lead
  legal : IsLegalName a.key
  spaceBefore : Text.IsBlank a.before
  spaceAfter : Text.IsBlank a.after
  isQuote : a.quote = '\x22' ∨ a.quote = '\x27'
  means : IsRawValue a.quote a.raw a.value

end WrittenAttribute

/-- The text of a start tag, from the character on with which it begins. -/
def IsTagText (piece : List Char) (tag : StartTag) : Prop :=
  ∃ (written : List WrittenAttribute) (blank : List Char),
    piece = '<' :: (tag.name.toList ++ (written.flatMap (·.text) ++
      (blank ++ if tag.selfClosing then ['/', '>'] else ['>']))) ∧
    IsLegalName tag.name ∧ (∀ a ∈ written, a.IsWellFormed) ∧ (written.map (·.key)).Nodup ∧ Text.IsBlank blank ∧
    ∀ key value, tag.attributes.get? key = some value ↔ ∃ a ∈ written, a.key = key ∧ a.value = value

/-! ## The attributes of a tag -/

def insertAll (known : Attributes) (written : List WrittenAttribute) : Attributes :=
  written.foldl (fun attributes a => attributes.insert a.key a.value) known

variable {name : String} {known : Attributes} {piece cs rest : List Char} {tag : StartTag}
  {written : List WrittenAttribute}

theorem contains_eq_false_iff {key : String} : known.contains key = false ↔ known.get? key = none := by
  rw [← Bool.not_eq_true]
  exact SortedMap.not_contains_iff

/-- Keys are free after an attribute if they were before and are not its key. -/
theorem free_insert_iff {key value : String} :
    (∀ a ∈ written, (known.insert key value).get? a.key = none) ↔
      key ∉ written.map (·.key) ∧ ∀ a ∈ written, known.get? a.key = none := by
  constructor
  · intro free
    have each : ∀ a ∈ written, key ≠ a.key ∧ known.get? a.key = none := by
      intro a mem
      have none := free a mem
      rw [SortedMap.get?_insert] at none
      split at none
      · cases none
      · next differ => exact ⟨differ, none⟩
    refine ⟨?_, fun a mem => (each a mem).2⟩
    intro mem
    obtain ⟨a, inWritten, same⟩ := List.mem_map.mp mem
    exact (each a inWritten).1 same.symm
  · rintro ⟨notThere, free⟩ a mem
    have differ : key ≠ a.key := by
      rintro rfl
      exact notThere (List.mem_map_of_mem (f := (·.key)) mem)
    rw [SortedMap.get?_insert, if_neg differ, free a mem]

theorem get?_insertAll (distinct : (written.map (·.key)).Nodup)
    (free : ∀ a ∈ written, known.get? a.key = none) (key value : String) :
    (insertAll known written).get? key = some value ↔
      known.get? key = some value ∨ ∃ a ∈ written, a.key = key ∧ a.value = value := by
  -- along the list; the first attribute belongs to the map that the others are put into
  induction written generalizing known with
  | nil => simp [insertAll]
  | cons first more ih =>
    obtain ⟨notLater, distinctLater⟩ := List.nodup_cons.mp distinct
    obtain ⟨freeFirst, freeMore⟩ := List.forall_mem_cons.mp free
    show (insertAll (known.insert first.key first.value) more).get? key = some value ↔ _
    rw [ih distinctLater (free_insert_iff.mpr ⟨notLater, freeMore⟩), SortedMap.get?_insert,
      List.exists_mem_cons_iff, ← or_assoc]
    refine or_congr_left ?_
    by_cases here : first.key = key
    · rw [if_pos here, ← here, freeFirst]
      simp
    · rw [if_neg here]
      simp [here]

/-- The rest of a tag is read attribute by attribute as it is written. -/
theorem attributesText_iff :
    AttributesText name known piece tag ↔ ∃ (written : List WrittenAttribute) (blank : List Char) (selfClosing : Bool),
      piece = written.flatMap (·.text) ++ (blank ++ tagEnd selfClosing) ∧ (∀ a ∈ written, a.IsWellFormed) ∧
      (written.map (·.key)).Nodup ∧ Text.IsBlank blank ∧ (∀ a ∈ written, known.get? a.key = none) ∧
      tag = ⟨name, insertAll known written, selfClosing⟩ := by
  constructor
  · intro text
    -- the attributes are gathered from the last one back
    induction text with
    | @ending known blank selfClosing space =>
      exact ⟨[], blank, selfClosing, rfl, nofun, .nil, space, nofun, rfl⟩
    | @further known lead piece more key value tag apart space isAttribute fresh _ ih =>
      obtain ⟨written, blank, selfClosing, rfl, wellFormed, distinct, spaceEnd, freeLater, rfl⟩ := ih
      obtain ⟨before, after, quote, raw, legal, spaceBefore, spaceAfter, isQuote, means, rfl⟩ := isAttribute
      obtain ⟨notLater, free⟩ := free_insert_iff.mp freeLater
      refine ⟨⟨lead, key, before, after, quote, raw, value⟩ :: written, blank, selfClosing, ?_, ?_,
        List.nodup_cons.mpr ⟨notLater, distinct⟩, spaceEnd, ?_, rfl⟩
      · simp [WrittenAttribute.text, WrittenAttribute.assignment]
      · exact List.forall_mem_cons.mpr
          ⟨⟨apart, space, legal, spaceBefore, spaceAfter, isQuote, means⟩, wellFormed⟩
      · exact List.forall_mem_cons.mpr ⟨contains_eq_false_iff.mp fresh, free⟩
  · rintro ⟨written, blank, selfClosing, rfl, wellFormed, distinct, space, free, rfl⟩
    induction written generalizing known with
    | nil => exact .ending selfClosing space
    | cons first more ih =>
      obtain ⟨⟨apart, spaceLead, legal, spaceBefore, spaceAfter, isQuote, means⟩, wellFormedMore⟩ :=
        List.forall_mem_cons.mp wellFormed
      obtain ⟨freeFirst, freeMore⟩ := List.forall_mem_cons.mp free
      obtain ⟨notLater, distinctMore⟩ := List.nodup_cons.mp distinct
      have isAttribute : IsAttribute first.assignment first.key first.value :=
        ⟨_, _, _, _, legal, spaceBefore, spaceAfter, isQuote, means, rfl⟩
      have freeLater : ∀ a ∈ more, (known.insert first.key first.value).get? a.key = none :=
        free_insert_iff.mpr ⟨notLater, freeMore⟩
      have later := ih wellFormedMore distinctMore freeLater
      have split : (first :: more).flatMap (·.text) ++ (blank ++ tagEnd selfClosing) =
          first.lead ++ (first.assignment ++ (more.flatMap (·.text) ++ (blank ++ tagEnd selfClosing))) := by
        simp [WrittenAttribute.text]
      rw [split]
      exact .further apart spaceLead isAttribute (contains_eq_false_iff.mpr freeFirst) later

/-- The tags of the grammar are those that are read attribute by attribute. -/
theorem isTagText_iff : IsTagText ('<' :: piece) tag ↔ IsStartTag piece tag := by
  rcases tag with ⟨name, attributes, selfClosing⟩
  constructor
  · rintro ⟨written, blank, eq, legal, wellFormed, distinct, space, map⟩
    obtain rfl := (List.cons.inj eq).2
    -- the map of the tag holds what the written attributes say, and so does the one that is read
    have same : attributes = insertAll .empty written := by
      apply SortedMap.ext_get?
      intro key
      apply Option.ext
      intro value
      rw [map, get?_insertAll distinct (fun _ _ => rfl), SortedMap.get?_empty]
      simp
    refine ⟨_, legal, attributesText_iff.mpr ?_, rfl⟩
    exact ⟨written, blank, selfClosing, rfl, wellFormed, distinct, space, fun _ _ => rfl, by rw [same]⟩
  · rintro ⟨run, legal, text, rfl⟩
    obtain ⟨written, blank, closing, rfl, wellFormed, distinct, space, -, eq⟩ := attributesText_iff.mp text
    cases eq
    refine ⟨written, blank, rfl, legal, wellFormed, distinct, space, ?_⟩
    intro key value
    rw [get?_insertAll distinct (fun _ _ => rfl), SortedMap.get?_empty]
    simp

/-- Where a tag begins, a start tag is read off its text. -/
theorem readStartTag_eq_ok_iff_isTagText :
    readStartTag cs = .ok (tag, rest) ↔ ∃ piece, IsTagText piece tag ∧ '<' :: cs = piece ++ rest := by
  rw [readStartTag_eq_ok_iff]
  constructor
  · rintro ⟨piece, rfl, isTag⟩
    exact ⟨'<' :: piece, isTagText_iff.mpr isTag, rfl⟩
  · rintro ⟨piece, isTag, split⟩
    obtain ⟨_, _, rfl, -⟩ := id isTag
    obtain rfl := (List.cons.inj split).2
    exact ⟨_, rfl, isTagText_iff.mp isTag⟩

/-- A text begins with one start tag at the most. -/
theorem IsTagText.unique {piece' : List Char} {tag' : StartTag} (isTag : IsTagText piece tag)
    (isTag' : IsTagText piece' tag') (begins : piece <+: '<' :: cs) (begins' : piece' <+: '<' :: cs) :
    piece = piece' ∧ tag = tag' := by
  obtain ⟨rest, split⟩ := begins
  obtain ⟨rest', split'⟩ := begins'
  have read := readStartTag_eq_ok_iff_isTagText.mpr ⟨piece, isTag, split.symm⟩
  have read' := readStartTag_eq_ok_iff_isTagText.mpr ⟨piece', isTag', split'.symm⟩
  rw [read] at read'
  cases read'
  exact ⟨List.append_cancel_right (split.trans split'.symm), rfl⟩

/-! ## The end of a tag -/

theorem getLast?_append_ne {c : Char} {before after : List Char} (noBefore : before.getLast? ≠ some c)
    (noAfter : after.getLast? ≠ some c) : (before ++ after).getLast? ≠ some c := by
  rw [List.getLast?_append]
  cases last : after.getLast? with
  | none => exact noBefore
  | some d => rwa [last] at noAfter

/-- A slash in front of the end of a tag belongs to the end: no name, value or white space ends with one. -/
theorem IsTagText.selfClosing_iff (isTag : IsTagText piece tag) :
    tag.selfClosing = true ↔ ['/', '>'] <:+ piece := by
  obtain ⟨written, blank, rfl, ⟨first, goesOn, name, start, chars⟩, wellFormed, -, space, -⟩ := isTag
  -- the character before the closing bracket is none of the name's, the values' or the white space's
  have plainName : tag.name.toList.getLast? ≠ some '/' := by
    intro last
    have mem := List.mem_of_getLast? last
    rw [name] at mem
    rcases List.mem_cons.mp mem with rfl | later
    · exact absurd start (by decide)
    · exact absurd (chars _ later) (by decide)
  have plainAttributes : (written.flatMap (·.text)).getLast? ≠ some '/' := by
    -- each attribute ends with a quote
    clear chars
    induction written with
    | nil => simp
    | cons a more ih =>
      obtain ⟨here, later⟩ := List.forall_mem_cons.mp wellFormed
      have quoted : a.text.getLast? = some a.quote := by
        simp [WrittenAttribute.text, WrittenAttribute.assignment, List.getLast?_append, List.getLast?_cons]
      have noSlash : a.quote ≠ '/' := by
        rcases here.isQuote with isQuote | isQuote <;> rw [isQuote] <;> decide
      exact getLast?_append_ne (by simpa [quoted] using noSlash) (ih later)
  have plainBlank : blank.getLast? ≠ some '/' := by
    intro last
    exact absurd (space _ (List.mem_of_getLast? last)) (by decide)
  cases tag.selfClosing with
  | true =>
    refine iff_of_true rfl ⟨'<' :: (tag.name.toList ++ (written.flatMap (·.text) ++ blank)), ?_⟩
    simp
  | false =>
    refine iff_of_false Bool.false_ne_true ?_
    rintro ⟨front, ends⟩
    -- what stands in front of the bracket would have to end with the slash
    have shorter : front ++ ['/'] = ['<'] ++ (tag.name.toList ++ (written.flatMap (·.text) ++ blank)) := by
      apply List.append_cancel_right
      simpa using ends
    have plainSign : ['<'].getLast? ≠ some '/' := by decide
    have last := getLast?_append_ne plainSign
      (getLast?_append_ne plainName (getLast?_append_ne plainAttributes plainBlank))
    rw [← shorter] at last
    simp at last

/-! ## Where a tag begins -/

/-- A start tag is read where neither an instruction, nor a comment, a section or a declaration, nor a closing
tag begins. -/
theorem readSegment_tag (plain : ∀ c ∈ cs.head?, c ∉ ['?', '!', '/']) :
    readSegment ('<' :: cs) = (readStartTag cs).map fun (tag, rest) => (.startTag tag, rest) := by
  cases cs with
  | nil => rfl
  | cons first more =>
    have other := plain first rfl
    rw [readSegment]
    all_goals simp_all

/-- Segments that say nothing lead from a text to a later place in it. -/
inductive PassesTo : List Char → List Char → Prop
  | here (cs : List Char) : PassesTo cs cs
  | silent {c : Char} {more rest after : List Char} {segment : Segment} :
    readSegment (c :: more) = .ok (segment, rest) → segment.event? = none → PassesTo rest after →
      PassesTo (c :: more) after

theorem PassesTo.nextEvent_eq {after : List Char} (passes : PassesTo cs after) : nextEvent cs = nextEvent after := by
  induction passes with
  | here => rfl
  | silent read none _ ih =>
    rw [nextEvent_cons, read]
    simpa only [none] using ih

/-- Where a start tag can begin, a cursor says the one that is read there, and then stands behind it; if none is
read it stops. -/
theorem next?_tag {text : List Char} (meets : PassesTo text ('<' :: cs))
    (plain : ∀ c ∈ cs.head?, c ∉ ['?', '!', '/']) :
    (Cursor.start text).next? =
      match readStartTag cs with
      | .error fault => some (.error fault, ⟨text, true⟩)
      | .ok (tag, rest) => some (.ok (.startTag tag), ⟨rest, false⟩) := by
  have next : nextEvent text = (readStartTag cs).map fun (tag, rest) => some (.startTag tag, rest) := by
    rw [meets.nextEvent_eq, nextEvent_cons, readSegment_tag plain]
    cases readStartTag cs <;> rfl
  rw [Cursor.next?, if_neg (show ¬(Cursor.start text).failed = true from Bool.false_ne_true),
    show (Cursor.start text).rest = text from rfl, next]
  cases readStartTag cs <;> rfl

/-- Where the text, after segments that say nothing, goes on as a start tag can begin, a start tag is read
exactly if one stands there. There is one at the most; a cursor moves past it, and says its name, its attributes
by their keys and whether it ends with a slash. Where there is none the cursor stops at a fault. -/
theorem start_tag_exact {text : List Char} (meets : PassesTo text ('<' :: cs))
    (plain : ∀ c ∈ cs.head?, c ∉ ['?', '!', '/']) :
    (∀ tag rest, readStartTag cs = .ok (tag, rest) ↔ ∃ piece, IsTagText piece tag ∧ '<' :: cs = piece ++ rest) ∧
    (∀ piece tag piece' tag', IsTagText piece tag → IsTagText piece' tag' →
      piece <+: '<' :: cs → piece' <+: '<' :: cs → piece = piece' ∧ tag = tag') ∧
    (∀ event later, (Cursor.start text).next? = some (.ok event, later) ↔
      ∃ piece tag, IsTagText piece tag ∧ '<' :: cs = piece ++ later.rest ∧ later.failed = false ∧
        event = .startTag tag) ∧
    (∀ piece tag, IsTagText piece tag → (tag.selfClosing = true ↔ ['/', '>'] <:+ piece)) ∧
    ((∃ fault, (Cursor.start text).next? = some (.error fault, ⟨text, true⟩)) ↔
      ¬ ∃ piece tag, IsTagText piece tag ∧ piece <+: '<' :: cs) := by
  refine ⟨fun _ _ => readStartTag_eq_ok_iff_isTagText, fun _ _ _ _ => IsTagText.unique, ?_,
    fun _ _ => IsTagText.selfClosing_iff, ?_⟩
  · rintro event ⟨rest, failed⟩
    -- the cursor passes the segments before the tag and then reads it
    rw [next?_tag meets plain]
    constructor
    · intro said
      split at said
      · cases said
      · next read =>
        cases said
        obtain ⟨piece, isTag, split⟩ := readStartTag_eq_ok_iff_isTagText.mp read
        exact ⟨piece, _, isTag, split, rfl, rfl⟩
    · rintro ⟨piece, tag, isTag, split, rfl, rfl⟩
      rw [readStartTag_eq_ok_iff_isTagText.mpr ⟨piece, isTag, split⟩]
  · rw [next?_tag meets plain]
    cases read : readStartTag cs with
    | error fault =>
      refine iff_of_true ⟨fault, rfl⟩ ?_
      rintro ⟨piece, tag, isTag, rest, split⟩
      rw [readStartTag_eq_ok_iff_isTagText.mpr ⟨piece, isTag, split.symm⟩] at read
      cases read
    | ok found =>
      obtain ⟨tag, rest⟩ := found
      obtain ⟨piece, isTag, split⟩ := readStartTag_eq_ok_iff_isTagText.mp read
      refine iff_of_false (by simp) (not_not_intro ?_)
      exact ⟨piece, tag, isTag, rest, split.symm⟩

/-- A tag behind a comment, with quotes of both kinds, white space around a sign and a reference. -/
theorem start_tag_two_quotes :
    PassesTo "<!--c--><a k = \x22v\x22\tl=\x27\x22&amp;\x27/>t".toList
      ('<' :: "a k = \x22v\x22\tl=\x27\x22&amp;\x27/>t".toList) ∧
    (∀ c ∈ "a k = \x22v\x22\tl=\x27\x22&amp;\x27/>t".toList.head?, c ∉ ['?', '!', '/']) ∧
    IsTagText "<a k = \x22v\x22\tl=\x27\x22&amp;\x27/>".toList
      ⟨"a", (SortedMap.empty.insert "k" "v").insert "l" "\x22&", true⟩ ∧
    (Cursor.start "<!--c--><a k = \x22v\x22\tl=\x27\x22&amp;\x27/>t".toList).next? =
      some (.ok (.startTag ⟨"a", (SortedMap.empty.insert "k" "v").insert "l" "\x22&", true⟩), ⟨['t'], false⟩) := by
  have meets : PassesTo "<!--c--><a k = \x22v\x22\tl=\x27\x22&amp;\x27/>t".toList
      ('<' :: "a k = \x22v\x22\tl=\x27\x22&amp;\x27/>t".toList) :=
    .silent (show _ = Except.ok (Segment.comment, _) by decide +kernel) rfl (.here _)
  have plain : ∀ c ∈ "a k = \x22v\x22\tl=\x27\x22&amp;\x27/>t".toList.head?, c ∉ ['?', '!', '/'] := by
    rintro c ⟨⟩
    decide
  obtain ⟨tags, -, events, -, -⟩ := start_tag_exact meets plain
  obtain ⟨piece, isTag, split⟩ :=
    (tags ⟨"a", (SortedMap.empty.insert "k" "v").insert "l" "\x22&", true⟩ ['t']).mp (by decide +kernel)
  obtain rfl : piece = "<a k = \x22v\x22\tl=\x27\x22&amp;\x27/>".toList := by
    apply List.append_cancel_right
    exact split.symm.trans (by decide)
  exact ⟨meets, plain, isTag, (events _ ⟨['t'], false⟩).mpr ⟨_, _, isTag, split, rfl, rfl⟩⟩

end Markup

end Discovery
