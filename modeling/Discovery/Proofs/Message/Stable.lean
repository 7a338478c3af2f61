import Discovery.Proofs.Message.Registration
import Discovery.Proofs.Message.Renewal
import Discovery.Proofs.Message.Search

/-!
# Messages that were read are read again

A peer may send any tree. What is read from it takes some fields by name and passes over the rest, and a message
can have come from many trees. The tree that is made of the message is one of them: from it the same message is
read.

For the most part this holds of every message, whether it was read or not. A registration is the exception: one
without an id is not read again, nor are empty entries of its lists. No tree holds an empty text, however, so
neither is ever read.

* `Registration.ofTree_toTree_of_read`: of registrations that were read;
* `Message.reading_stable`: of the messages that a peer sends.
-/

namespace Discovery

namespace Tree

variable {tree part : Tree} {name item words : String}

/-! ## Texts in trees -/

/-- A tree below a tidy one is tidy. -/
theorem Tidy.child (tidy : tree.Tidy) (below : part ∈ tree.children) : part.Tidy := by
  rcases List.mem_filterMap.mp below with ⟨content, mem, here⟩
  cases content with
  | text words => cases here
  | child inner =>
    cases here
    rcases List.append_of_mem mem with ⟨before, after, split⟩
    have deeper := (tidy_iff.mp tidy).2
    rw [split, nodesIn_append, nodesIn] at deeper
    exact fun node inside => deeper node (List.mem_append_right _ (List.mem_append_left _ inside))

/-- A tidy tree begins with no empty text. -/
theorem Tidy.leadingText?_ne_empty (tidy : tree.Tidy) (leads : tree.leadingText? = some words) : words ≠ "" := by
  rcases Option.bind_eq_some_iff.mp leads with ⟨content, first, isText⟩
  cases content with
  | child inner => cases isText
  | text here =>
    cases isText
    exact (tidy_iff.mp tidy).1.nonempty words (List.mem_of_head? first)

/-- The text of a part is not empty. -/
theorem Tidy.partText?_ne_empty (tidy : tree.Tidy) (read : Message.partText? tree name = some words) :
    words ≠ "" := by
  rcases Option.bind_eq_some_iff.mp read with ⟨part, found, leads⟩
  exact (tidy.child (List.mem_of_find?_eq_some found)).leadingText?_ne_empty leads

/-- The entries of a list are not empty. -/
theorem Tidy.filter_listTexts (tidy : tree.Tidy) (name item : String) :
    (Message.listTexts tree name item).filter (· ≠ "") = Message.listTexts tree name item := by
  rw [List.filter_eq_self]
  intro words mem
  unfold Message.listTexts at mem
  cases found : tree.child? name with
  | none =>
    rw [found] at mem
    cases mem
  | some part =>
    rw [found] at mem
    rcases List.mem_filterMap.mp mem with ⟨entry, inList, leads⟩
    -- the item's text is one of a tree at some depth, and no text is empty there
    have below := tidy.child (List.mem_of_find?_eq_some found)
    simpa using (below.child (List.mem_filter.mp inList).1).leadingText?_ne_empty leads

end Tree

/-! ## Registrations -/

namespace Registration

variable {tree : Tree} {r : Registration}

/-- A registration that was read from a tidy tree has an id and no empty entries. -/
theorem withoutEmpty_of_ofTree (tidy : tree.Tidy) (read : ofTree tree = .ok r) :
    r.id ≠ "" ∧ r.withoutEmpty = r := by
  obtain ⟨id, attributes, callbacks, services⟩ := texts_of_ofTree read
  refine ⟨tidy.partText?_ne_empty id, ?_⟩
  rw [withoutEmpty, attributes, callbacks, services, tidy.filter_listTexts, tidy.filter_listTexts,
    tidy.filter_listTexts, ← attributes, ← callbacks, ← services]

/-- The tree of a registration that was read is read as the registration. -/
theorem ofTree_toTree_of_read (tidy : tree.Tidy) (read : ofTree tree = .ok r) : ofTree r.toTree = .ok r := by
  obtain ⟨filled, same⟩ := withoutEmpty_of_ofTree tidy read
  rw [ofTree_toTree, if_neg filled, same]

end Registration

/-! ## Messages from a peer -/

namespace Message

/-- What is read from the tree as a message of the kind is read again from the message's own tree. -/
def IsReadStably (α : Type) [Message α] (tree : Tree) : Prop :=
  ∀ message : α, ofTree tree = .ok message → ofTree (toTree message) = .ok message

/-- Whatever tree a peer may send, the message that is read from it is read again from its own tree. -/
theorem reading_stable {tree : Tree} (grown : tree.Grown) :
    IsReadStably Registration tree ∧ IsReadStably Heartbeat tree ∧ IsReadStably Deregistration tree ∧
      IsReadStably QueryRequest tree ∧ IsReadStably QueryReply tree := by
  refine ⟨?_, ?_, ?_, ?_, ?_⟩
  · intro r read
    exact Registration.ofTree_toTree_of_read grown.tidy read
  · intro h _
    exact h.ofTree_toTree
  · intro d _
    exact d.ofTree_toTree
  · intro request _
    exact request.ofTree_toTree
  · intro reply _
    exact reply.ofTree_toTree

def oddList : Tree :=
  (((Tree.named "attributes").pushChild (Tree.ofText "attribute" " a ")).pushChild
    (Tree.named "attribute")).pushChild (Tree.ofText "item" "b")

/-- A registration with texts between its parts, a part that comes twice, one that holds a tree in front of its
text, and padded numbers. -/
def odd : Tree :=
  ((((((((Tree.named "registration").setAttribute "leaseSlots" " 7 ").pushText "x").pushChild
    (Tree.ofText "id" "\t")).pushChild (Tree.ofText "id" "second")).pushText "y").pushChild
    (((Tree.named "hostname").pushChild (Tree.named "name")).pushText "h")).pushChild
    (Tree.ofText "port" "0080")).pushChild oddList

def oddRead : Registration where
  id := "\t"
  hostname := ""
  port := 80
  type := ""
  attributes := [" a "]
  callbacks := []
  services := []
  slots := some 7

theorem reading_stable_odd :
    odd.Grown ∧ ofTree odd = .ok oddRead ∧ ofTree (toTree oddRead) = .ok oddRead := by
  have text : ∀ name words, (Tree.ofText name words).Grown := fun name words => .pushText words (.named name)
  have list : oddList.Grown :=
    .pushChild (.pushChild (.pushChild (.named _) (text _ _)) (.named _)) (text _ _)
  have begun : (((Tree.named "registration").setAttribute "leaseSlots" " 7 ").pushText "x").Grown :=
    .pushText _ (.setAttribute _ _ (.named _))
  have host : (((Tree.named "hostname").pushChild (Tree.named "name")).pushText "h").Grown :=
    .pushText _ (.pushChild (.named _) (.named _))
  have grown : odd.Grown :=
    .pushChild (.pushChild (.pushChild (.pushText _ (.pushChild (.pushChild begun (text _ _)) (text _ _))) host)
      (text _ _)) list
  have read : ofTree odd = .ok oddRead := by decide +kernel
  exact ⟨grown, read, (reading_stable grown).1 oddRead read⟩

end Message

end Discovery
