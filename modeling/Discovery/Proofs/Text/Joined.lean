/-!
# Texts among other items

The contents of a tree, the events of a document and the calls of a builder are sequences, some items of which
are texts. Texts that are neighbours say the same as their concatenation does, and an empty text says nothing.
What follows is said once for all such sequences.

* `joinTexts`, `condensed`: a sequence with neighbouring texts joined, and without the empty ones;
* `joinTexts_append_congr`: what stands in front does not matter for how later texts are joined;
* `joinTexts_pair`: two texts and their concatenation are joined alike;
* `map_joinTexts`: sequences that have the same texts at the same places are joined alike.
-/

namespace Discovery

/-- A type of items some of which are texts, one item for each text. -/
class Textual (α : Type) where
  words? : α → Option String
  ofWords : String → α
  words?_eq_some_iff : ∀ {item : α} {words : String}, words? item = some words ↔ item = ofWords words

namespace Textual

variable {α β : Type} [Textual α] [Textual β] {item : α}

@[simp] theorem words?_ofWords (words : String) : words? (ofWords words : α) = some words :=
  words?_eq_some_iff.mpr rfl

/-! ## Joining -/

/-- Items with another in front of them. Two texts that meet are joined. -/
def joinOnto (item : α) (later : List α) : List α :=
  match words? item, later.head?.bind words? with
  | some words, some more => ofWords (words ++ more) :: later.tail
  | _, _ => item :: later

/-- Items with neighbouring texts joined. -/
def joinTexts (items : List α) : List α :=
  items.foldr joinOnto []

def withoutEmpty (items : List α) : List α :=
  items.filter fun item => words? item ≠ some ""

/-- Items without empty texts, and with every run of neighbouring texts joined into one. -/
def condensed (items : List α) : List α :=
  joinTexts (withoutEmpty items)

@[simp] theorem joinTexts_nil : joinTexts ([] : List α) = [] := rfl

theorem joinTexts_cons (item : α) (later : List α) : joinTexts (item :: later) = joinOnto item (joinTexts later) :=
  rfl

/-- What is put in front of a sequence that begins with no text is not joined to it. -/
theorem joinOnto_of_free {later : List α} (free : ∀ next ∈ later.head?, words? next = none) (item : α) :
    joinOnto item later = item :: later := by
  have alone : later.head?.bind words? = none := Option.bind_eq_none_iff.mpr free
  rw [joinOnto, alone]
  cases words? item <;> rfl

theorem joinOnto_ofWords_ofWords (words more : String) (later : List α) :
    joinOnto (ofWords words) (ofWords more :: later) = ofWords (words ++ more) :: later := by
  simp [joinOnto]

/-- What stands in front does not matter for how the later texts are joined. -/
theorem joinTexts_append_congr {later later' : List α} (same : joinTexts later = joinTexts later') (items : List α) :
    joinTexts (items ++ later) = joinTexts (items ++ later') := by
  induction items with
  | nil => exact same
  | cons item items ih => rw [List.cons_append, List.cons_append, joinTexts_cons, joinTexts_cons, ih]

/-- Two texts and their concatenation are joined alike. -/
theorem joinTexts_pair (words more : String) (later : List α) :
    joinTexts (ofWords words :: ofWords more :: later) = joinTexts (ofWords (words ++ more) :: later) := by
  rw [joinTexts_cons, joinTexts_cons, joinTexts_cons]
  generalize joinTexts later = joined
  by_cases free : ∀ next ∈ joined.head?, words? next = none
  · rw [joinOnto_of_free free, joinOnto_of_free free, joinOnto_ofWords_ofWords]
  · cases joined with
    | nil => exact absurd (by simp) free
    | cons next rest =>
      -- three texts in a row: it does not matter which two of them are joined first
      obtain ⟨last, text⟩ : ∃ last, words? next = some last := by
        simpa [Option.ne_none_iff_exists'] using free
      obtain rfl := words?_eq_some_iff.mp text
      rw [joinOnto_ofWords_ofWords, joinOnto_ofWords_ofWords, joinOnto_ofWords_ofWords, String.append_assoc]

/-! ## The same texts among other items -/

section Map

variable {f : α → β} (same : ∀ item, words? (f item) = words? item)

include same

theorem map_joinOnto (item : α) (later : List α) : (joinOnto item later).map f = joinOnto (f item) (later.map f) := by
  have texts : ∀ words, f (ofWords words) = ofWords words := by
    intro words
    rw [← words?_eq_some_iff, same, words?_ofWords]
  have first : (later.map f).head?.bind words? = later.head?.bind words? := by
    cases later with
    | nil => rfl
    | cons next later => exact same next
  rw [joinOnto, joinOnto, same, first]
  split
  · rw [List.map_cons, texts, List.map_tail]
  · rw [List.map_cons]

theorem map_joinTexts (items : List α) : (joinTexts items).map f = joinTexts (items.map f) := by
  induction items with
  | nil => rfl
  | cons item items ih => rw [joinTexts_cons, map_joinOnto same, ih, List.map_cons, joinTexts_cons]

end Map

/-! ## The condensed form -/

theorem withoutEmpty_append (items more : List α) :
    withoutEmpty (items ++ more) = withoutEmpty items ++ withoutEmpty more :=
  List.filter_append ..

theorem withoutEmpty_empty (items : List α) : withoutEmpty (ofWords "" :: items) = withoutEmpty items := by
  rw [withoutEmpty, List.filter_cons_of_neg (by simp), withoutEmpty]

theorem withoutEmpty_cons (filled : item ≠ ofWords "") (items : List α) :
    withoutEmpty (item :: items) = item :: withoutEmpty items := by
  have filled : words? item ≠ some "" := mt words?_eq_some_iff.mp filled
  rw [withoutEmpty, List.filter_cons_of_pos (by simpa using filled), withoutEmpty]

theorem condensed_empty (items : List α) : condensed (ofWords "" :: items) = condensed items := by
  rw [condensed, withoutEmpty_empty, condensed]

theorem condensed_cons (filled : item ≠ ofWords "") (items : List α) :
    condensed (item :: items) = joinOnto item (condensed items) := by
  rw [condensed, withoutEmpty_cons filled, joinTexts_cons, condensed]

end Textual

end Discovery
