import Discovery.Markup.Decode

/-!
# Building from events

An event that a builder takes opens an element, closes one, does both, or adds a text. What holds of all the
trees that are being built, and is kept when a tree grows, holds of the tree that is finished.

* `Builder.taken_of_take`: what an event does to a builder that takes it;
* `Builder.takeAll_induction`: what every event keeps is kept by all of them;
* `Builder.Everywhere.take`: what an event keeps of the trees;
* `Tree.exists_builder_of_decodeChars`: every tree that is read has been built.
-/

namespace Discovery

open Markup

namespace Builder

variable {b b' : Builder} {name : String}

/-! ## The open element -/

theorem current?_of_openElement {attributes : Attributes} (done : b.openElement name attributes = .ok b') :
    b'.current? = some name := by
  unfold openElement at done
  split at done
  · cases done
  · cases done
    rfl

theorem current?_of_closeElement (done : b.closeElement = .ok (name, b')) : b.current? = some name := by
  rcases b with ⟨stack, root⟩
  cases stack with
  | nil => cases done
  | cons top below =>
    cases below with
    | nil =>
      cases done
      rfl
    | cons parent below =>
      cases done
      rfl

/-- The tree that is finished is the root. -/
theorem root_of_finish {tree : Tree} (done : b.finish = .ok tree) : b.root = some tree := by
  unfold finish at done
  split at done
  · split at done
    · next root =>
      cases done
      exact root
    · cases done
  · cases done

/-! ## Events -/

/-- What an event does to a builder that takes it. -/
inductive Taken (b b' : Builder) : Event → Prop
  | opened {tag : StartTag} :
    tag.selfClosing = false → b.openElement tag.name tag.attributes = .ok b' → Taken b b' (.startTag tag)
  | openedAndClosed {tag : StartTag} {opened : Builder} :
    tag.selfClosing = true → b.openElement tag.name tag.attributes = .ok opened →
      opened.closeElement = .ok (tag.name, b') → Taken b b' (.startTag tag)
  | closed {name : String} : b.closeElement = .ok (name, b') → Taken b b' (.endTag name)
  | added {words : String} : b.addText words = .ok b' → Taken b b' (.text words)

theorem taken_of_take {event : Event} (done : b.take event = .ok b') : Taken b b' event := by
  cases event with
  | startTag tag =>
    rw [take] at done
    split at done
    · cases done
    · next opened openDone =>
      split at done
      · next selfClosing =>
        split at done
        · cases done
        · next closedName closed closeDone =>
          cases done
          -- what is closed is what has just been opened
          have current := current?_of_openElement openDone
          rw [current?_of_closeElement closeDone] at current
          cases current
          exact .openedAndClosed selfClosing openDone closeDone
      · next noSelfClosing =>
        cases done
        exact .opened (Bool.eq_false_iff.mpr noSelfClosing) openDone
  | endTag name =>
    rw [take] at done
    split at done
    · next named =>
      split at done
      · cases done
      · next closedName closed closeDone =>
        cases done
        rw [current?_of_closeElement closeDone] at named
        cases named
        exact .closed closeDone
    · cases done
  | text words =>
    rw [take] at done
    split at done
    · cases done
    · next added =>
      cases done
      exact .added added

/-- Without a fault it does not matter in which document a builder would have placed one. -/
theorem takeAll_map_ok (b : Builder) (document other : List Char) (events : List Event) :
    b.takeAll document (events.map .ok) = b.takeAll other (events.map .ok) := by
  induction events generalizing b with
  | nil => rfl
  | cons event events ih =>
    rw [List.map_cons, takeAll, takeAll]
    cases b.take event with
    | error error => rfl
    | ok after => exact ih after

/-- What every event keeps that is taken is kept by all of them. -/
theorem takeAll_induction {Keeps : Builder → Prop} {document : List Char} {said : List (Except Fault Event)}
    (step : ∀ event b b', .ok event ∈ said → Keeps b → b.take event = .ok b' → Keeps b') (start : Keeps b)
    (done : b.takeAll document said = .ok b') : Keeps b' := by
  -- along what is said, for the builder so far
  induction said generalizing b with
  | nil =>
    cases done
    exact start
  | cons first later ih =>
    cases first with
    | error fault => cases done
    | ok event =>
      rw [takeAll] at done
      split at done
      · cases done
      · next after taken =>
        have keptHere : Keeps after := step event b after (List.mem_cons_self ..) start taken
        refine ih ?_ keptHere done
        intro event b b' mem
        exact step event b b' (List.mem_cons_of_mem _ mem)

/-! ## The trees -/

/-- Every tree that is being built or has been built satisfies the property. -/
def Everywhere (P : Tree → Prop) (b : Builder) : Prop :=
  (∀ tree ∈ b.stack, P tree) ∧ ∀ tree ∈ b.root, P tree

variable {P : Tree → Prop}

theorem everywhere_new : Everywhere P new := by
  constructor
  · intro tree mem
    cases mem
  · intro tree mem
    cases mem

theorem Everywhere.openElement (everywhere : b.Everywhere P) {attributes : Attributes}
    (leaf : P (.node name attributes [])) (done : b.openElement name attributes = .ok b') :
    b'.Everywhere P := by
  unfold Builder.openElement at done
  split at done
  · cases done
  · cases done
    exact ⟨List.forall_mem_cons.mpr ⟨leaf, everywhere.1⟩, everywhere.2⟩

theorem Everywhere.addText (everywhere : b.Everywhere P) {words : String}
    (grows : ∀ tree, P tree → P (tree.pushText words)) (done : b.addText words = .ok b') :
    b'.Everywhere P := by
  rcases b with ⟨stack, root⟩
  cases stack with
  | nil => cases done
  | cons top below =>
    cases done
    rcases List.forall_mem_cons.mp everywhere.1 with ⟨atTop, atBelow⟩
    exact ⟨List.forall_mem_cons.mpr ⟨grows top atTop, atBelow⟩, everywhere.2⟩

/-- The element on top becomes the root or goes to its parent. -/
theorem Everywhere.closeElement (everywhere : b.Everywhere P)
    (grows : ∀ tree child, P tree → P child → P (tree.pushChild child))
    (done : b.closeElement = .ok (name, b')) : b'.Everywhere P := by
  rcases b with ⟨stack, root⟩
  cases stack with
  | nil => cases done
  | cons top below =>
    rcases List.forall_mem_cons.mp everywhere.1 with ⟨atTop, atBelow⟩
    -- the element becomes the root, or a child of the one that is open around it
    cases below with
    | nil =>
      cases done
      refine ⟨atBelow, ?_⟩
      rintro tree ⟨⟩
      exact atTop
    | cons parent below =>
      cases done
      rcases List.forall_mem_cons.mp atBelow with ⟨atParent, atRest⟩
      exact ⟨List.forall_mem_cons.mpr ⟨grows parent top atParent atTop, atRest⟩, everywhere.2⟩

/-- An event keeps what holds of an element with its tag alone, and stays true when its text or an element that is
closed is added. -/
theorem Everywhere.take (everywhere : b.Everywhere P) {event : Event}
    (leaf : ∀ tag, event = .startTag tag → P (.node tag.name tag.attributes []))
    (growsByText : ∀ words, event = .text words → ∀ tree, P tree → P (tree.pushText words))
    (growsByChild : ∀ tree child, P tree → P child → P (tree.pushChild child))
    (done : b.take event = .ok b') : b'.Everywhere P := by
  cases taken_of_take done with
  | opened _ openDone => exact everywhere.openElement (leaf _ rfl) openDone
  | openedAndClosed _ openDone closeDone =>
    exact (everywhere.openElement (leaf _ rfl) openDone).closeElement growsByChild closeDone
  | closed closeDone => exact everywhere.closeElement growsByChild closeDone
  | added addDone => exact everywhere.addText (growsByText _ rfl) addDone

end Builder

/-- Every tree that is read from a document has been built by all that the document says. -/
theorem Tree.exists_builder_of_decodeChars {document : List Char} {tree : Tree}
    (read : decodeChars document = .ok tree) :
    ∃ b, Builder.new.takeAll document (Cursor.start document).drain = .ok b ∧ b.finish = .ok tree := by
  rw [decodeChars] at read
  split at read
  · cases read
  · next b built =>
    split at read
    · cases read
    · next finished =>
      cases read
      exact ⟨b, built, finished⟩

end Discovery
