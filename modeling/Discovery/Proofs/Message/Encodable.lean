import Discovery.Message.Registration
import Discovery.Message.Search
import Discovery.Proofs.Markup.Forwarded
import Discovery.Proofs.Text.Numeral

/-!
# Replies can be written

Numbers and dates are written with characters of a document, so that a message of these alone can always
be written. A message with texts can be written if the texts are made of such characters, as every text
is that was read from a document.

* `isMarkupText_toString`, `isMarkupText_toMessage`: numbers and dates;
* `RegistrationReply.toTree_writable`, `Match.toTree_writable`: leases and matches as trees;
* `Registration.id_markup`: an id that was received can be sent.
-/

namespace Discovery

open Markup

/-! ## Numbers and dates -/

namespace Markup

/-- What is printable in seven bits may stand in a document. -/
theorem isMarkupChar_of_printable {c : Char} (above : ' ' ≤ c) (below : c ≤ '~') :
    isMarkupChar c = true := by
  have notFirst : c ≠ '\ufffe' := by
    rintro rfl
    exact absurd below (by decide)
  have notSecond : c ≠ '\uffff' := by
    rintro rfl
    exact absurd below (by decide)
  simp [isMarkupChar, above, notFirst, notSecond]

theorem isMarkupChar_of_isDigit {c : Char} (digit : c.isDigit = true) : isMarkupChar c = true := by
  rcases Text.range_of_isDigit digit with ⟨fromZero, upToNine⟩
  exact isMarkupChar_of_printable (Char.le_trans (by decide) fromZero)
    (Char.le_trans upToNine (by decide))

theorem isMarkupChar_of_mem_toDigits {n : Nat} {c : Char} (mem : c ∈ Nat.toDigits 10 n) :
    isMarkupChar c = true :=
  isMarkupChar_of_isDigit (Nat.isDigit_of_mem_toDigits (by decide) (by decide) mem)

theorem isMarkupText_toString (n : Nat) : IsMarkupText (toString n) := by
  intro c mem
  exact isMarkupChar_of_isDigit (Text.isDigit_of_mem_toString mem)

end Markup

namespace Instant

theorem isMarkupChar_of_mem_padded {width n : Nat} {c : Char} (mem : c ∈ padded width n) :
    isMarkupChar c = true := by
  rcases List.mem_append.mp mem with zero | digit
  · cases List.eq_of_mem_replicate zero
    rfl
  · exact isMarkupChar_of_mem_toDigits digit

theorem isMarkupChar_of_mem_yearDigits {year : Int} {c : Char} (mem : c ∈ yearDigits year) :
    isMarkupChar c = true := by
  unfold yearDigits at mem
  split at mem
  · exact isMarkupChar_of_mem_padded mem
  · rcases List.mem_cons.mp mem with rfl | digit
    · split <;> rfl
    · exact isMarkupChar_of_mem_padded digit

theorem isMarkupChar_of_mem_fractionDigits {nanos : Nat} {c : Char}
    (mem : c ∈ fractionDigits nanos) : isMarkupChar c = true := by
  have behindPoint : ∀ {width n}, c ∈ '.' :: padded width n → isMarkupChar c = true := by
    intro width n mem
    rcases List.mem_cons.mp mem with rfl | digit
    · rfl
    · exact isMarkupChar_of_mem_padded digit
  unfold fractionDigits at mem
  split at mem
  · cases mem
  · split at mem
    · exact behindPoint mem
    · split at mem
      · exact behindPoint mem
      · exact behindPoint mem

/-- Every date can be written, also far from our time. -/
theorem isMarkupText_toMessage (t : Instant) : IsMarkupText t.toMessage := by
  intro c mem
  rw [toMessage, String.toList_ofList] at mem
  simp only [dateTimeDigits, List.mem_append, List.mem_cons, List.not_mem_nil, or_false] at mem
  -- digits of the year, of the fraction or of a field, or what separates them
  rcases mem with ((((((year | rfl | field) | rfl | field) | rfl | field) | rfl | field) | rfl |
    field) | fraction) | rfl | rfl | rfl | rfl | rfl | rfl
  case inl.inl.inl.inl.inl.inl.inl => exact isMarkupChar_of_mem_yearDigits year
  case inl.inr => exact isMarkupChar_of_mem_fractionDigits fraction
  all_goals first | rfl | exact isMarkupChar_of_mem_padded field

end Instant

/-! ## Replies as trees -/

theorem Lease.toTree_writable (lease : Lease) : lease.toTree.Writable := by
  have numbered : (((Tree.named "lease").setAttribute "componentIndex"
      (toString lease.index.toNat)).setAttribute "durationSlots"
      (toString lease.slots.toNat)).Writable :=
    ((Tree.Writable.named (by decide)).setAttribute (by decide)
      (isMarkupText_toString _)).setAttribute (by decide) (isMarkupText_toString _)
  unfold toTree
  cases lease.start with
  | none => exact numbered
  | some start => exact numbered.setAttribute (by decide) start.isMarkupText_toMessage

theorem RegistrationReply.toTree_writable (reply : RegistrationReply) : reply.toTree.Writable :=
  ((Tree.Writable.named (by decide)).setAttribute (by decide)
    (isMarkupText_toString _)).pushChild reply.lease.toTree_writable

theorem Match.toTree_writable {found : Match} (markup : IsMarkupText found.id) :
    found.toTree.Writable :=
  (Tree.Writable.ofText (by decide) markup).setAttribute (by decide) (isMarkupText_toString _)

/-- The text of a message on the wire is the document of its tree. -/
theorem Message.toWire_eq_ok_iff {α : Type} [Message α] {message : α} {wire : String} :
    Message.toWire message = .ok wire ↔ (Message.toTree message).encodeDocument = .ok wire := by
  rw [Message.toWire]
  cases (Message.toTree message).encodeDocument with
  | error error => exact iff_of_false nofun nofun
  | ok text => rw [Except.mapError, Except.ok.injEq, Except.ok.injEq]

/-- A message has no text on the wire if something stands in the way of writing its tree. -/
theorem Message.toWire_eq_error_iff {α : Type} [Message α] {message : α} :
    (∃ error, Message.toWire message = .error error) ↔ (Message.toTree message).obstacle? ≠ none := by
  rw [Message.toWire, Tree.encodeDocument, Tree.encode]
  cases (Message.toTree message).obstacle? with
  | none =>
    refine iff_of_false ?_ (not_not_intro rfl)
    rintro ⟨error, failed⟩
    cases failed
  | some obstacle => exact iff_of_true ⟨.encode obstacle, rfl⟩ (Option.some_ne_none obstacle)

/-- From its text on the wire a message is read as from the normal form of its tree. -/
theorem Message.exists_wire {α : Type} [Message α] {message : α}
    (writable : (Message.toTree message).Writable) :
    ∃ text, Message.toWire message = .ok text ∧
      (Message.ofWire text : Except MessageError α) = Message.ofTree (Message.toTree message).norm := by
  have written := writable.encodeDocument_eq
  refine ⟨_, Message.toWire_eq_ok_iff.mpr written, ?_⟩
  rw [Message.ofWire, writable.decode_written (.inr written)]

/-! ## What was received -/

/-- Reading one thing after another succeeds if each reading does. -/
theorem Message.bind_eq_ok_iff {α β : Type} {first : Except MessageError α}
    {later : α → Except MessageError β} {value : β} :
    (first >>= later) = .ok value ↔ ∃ part, first = .ok part ∧ later part = .ok value := by
  cases first with
  | error error =>
    constructor
    · intro read
      cases read
    · rintro ⟨part, read, -⟩
      cases read
  | ok part =>
    constructor
    · intro read
      exact ⟨part, rfl, read⟩
    · rintro ⟨part, read, rest⟩
      cases read
      exact rest

/-- The text of a part of a writable tree can be written. -/
theorem isMarkupText_of_partText? {tree : Tree} (writable : tree.Writable) {name words : String}
    (read : Message.partText? tree name = some words) : IsMarkupText words := by
  rcases Option.bind_eq_some_iff.mp read with ⟨part, found, leading⟩
  rcases Option.bind_eq_some_iff.mp leading with ⟨content, first, isText⟩
  have mem : part ∈ tree.contents.filterMap Content.child? := List.mem_of_find?_eq_some found
  rcases List.mem_filterMap.mp mem with ⟨holder, inTree, isChild⟩
  -- a content that has a child is that child, and one that has a text is that text
  cases holder with
  | text => cases isChild
  | child tree =>
    cases isChild
    cases content with
    | child => cases isText
    | text words =>
      cases isText
      have writablePart := (Tree.writable_iff.mp (writable.child inTree)).1
      exact (Tree.isWritable_iff.mp writablePart).2.2.1 words (List.mem_of_head? first)

/-- The id of a registration is the text of the part of that name, and its lists are those of the tree. -/
theorem Registration.texts_of_ofTree {tree : Tree} {r : Registration} (read : ofTree tree = .ok r) :
    Message.partText? tree "id" = some r.id ∧
      r.attributes = Message.listTexts tree "attributes" "attribute" ∧
      r.callbacks = Message.listTexts tree "callbacks" "callback" ∧
      r.services = Message.listTexts tree "services" "service" := by
  unfold ofTree at read
  rcases Message.bind_eq_ok_iff.mp read with ⟨-, -, read⟩
  cases found : Message.partText? tree "id" with
  | none =>
    rw [found] at read
    cases read
  | some id =>
    rw [found] at read
    -- what else is read concerns no text
    rcases Message.bind_eq_ok_iff.mp read with ⟨id', same, read⟩
    rcases Message.bind_eq_ok_iff.mp read with ⟨port, -, read⟩
    rcases Message.bind_eq_ok_iff.mp read with ⟨slots, -, read⟩
    cases same
    cases read
    exact ⟨rfl, rfl, rfl, rfl⟩

/-- An id that was received with a registration can be written. -/
theorem Registration.id_markup {text : String} {r : Registration}
    (read : Message.ofWire text = .ok r) : IsMarkupText r.id := by
  unfold Message.ofWire at read
  split at read
  · cases read
  · next tree decoded =>
    exact isMarkupText_of_partText? (Tree.decode_writable decoded)
      (texts_of_ofTree read).1

end Discovery
