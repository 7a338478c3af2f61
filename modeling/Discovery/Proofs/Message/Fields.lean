import Discovery.Message.Basic
import Discovery.Proofs.Markup.Writable
import Discovery.Proofs.Message.Encodable

/-!
# Fields of messages

A message is written as a tree of parts: texts under their names, lists of texts, and numbers as attributes.
What becomes of a part when the tree is written and read does not depend on the other parts.

* `Tree.ofParts`, `Tree.ofText`: what the normal form of such trees is, what stands in the way of writing
  them, and what is read from them;
* `Message.listTree_eq`, `Message.listTexts_of_child?`: lists are read as their filled entries;
* `Message.readIndex_of_attribute?`, `Message.readOptionalAttribute_set`: a number is read back.
-/

namespace Discovery

open Markup

namespace Tree

variable {name : String} {attributes : Attributes} {parts : List Tree}

/-! ## Trees of parts -/

/-- The tree with the given trees directly below it, and no text between them. -/
def ofParts (name : String) (attributes : Attributes) (parts : List Tree) : Tree :=
  .node name attributes (parts.map .child)

@[simp] theorem name_ofParts : (ofParts name attributes parts).name = name := rfl

@[simp] theorem children_ofParts : (ofParts name attributes parts).children = parts := by
  have undone : Content.child? ∘ Content.child = some := rfl
  rw [children, ofParts, contents_node, List.filterMap_map, undone, List.filterMap_some]

theorem named_eq_ofParts (name : String) : named name = ofParts name .empty [] := rfl

@[simp] theorem pushChild_ofParts (child : Tree) :
    (ofParts name attributes parts).pushChild child = ofParts name attributes (parts ++ [child]) := by
  rw [ofParts, pushChild, push, ofParts, List.map_append]
  rfl

/-- Parts that are pushed one after another stand in their order. -/
theorem foldl_pushChild {α : Type} (toTree : α → Tree) (values : List α) :
    values.foldl (fun tree value => tree.pushChild (toTree value)) (ofParts name attributes parts) =
      ofParts name attributes (parts ++ values.map toTree) := by
  induction values generalizing parts with
  | nil => rw [List.foldl_nil, List.map_nil, List.append_nil]
  | cons first rest ih =>
    rw [List.foldl_cons, pushChild_ofParts, ih, List.append_assoc, List.map_cons, List.singleton_append]

/-- The normal form of a tree of parts is made of the normal forms of the parts. -/
@[simp] theorem norm_ofParts :
    (ofParts name attributes parts).norm = ofParts name attributes (parts.map norm) := by
  have inside : normContents (parts.map .child) = (parts.map norm).map .child := by
    induction parts with
    | nil => rfl
    | cons first rest ih => rw [List.map_cons, normContents, ih, List.map_cons, List.map_cons]
  rw [ofParts, norm, inside]
  rfl

/-- What stands in the way of writing a tree of parts stands in its attributes or in the first part that cannot
be written. -/
theorem obstacle?_ofParts (filled : name ≠ "") :
    (ofParts name attributes parts).obstacle? = (invalidValue? attributes).or (parts.findSome? obstacle?) := by
  have some : name.isEmpty = false := by simpa using filled
  have inside : contentsObstacle? (parts.map .child) = parts.findSome? obstacle? := by
    induction parts with
    | nil => rfl
    | cons first rest ih =>
      rw [List.map_cons, contentsObstacle?, ih, List.findSome?_cons]
      cases first.obstacle? <;> rfl
  rw [ofParts, obstacle?, inside, some]
  rfl

theorem invalidValue?_empty : invalidValue? .empty = none := rfl

/-- Without attributes it is the parts alone that can stand in the way. -/
theorem obstacle?_ofParts_plain (filled : name ≠ "") :
    (ofParts name .empty parts).obstacle? = parts.findSome? obstacle? := by
  rw [obstacle?_ofParts filled, invalidValue?_empty, Option.none_or]

/-- What is in a tree is written out. -/
theorem length_renderContents_le (tree : Tree) : (renderContents tree.contents).length ≤ tree.render.length := by
  rcases tree with ⟨name, attributes, contents⟩
  rw [contents_node]
  cases contents with
  | nil => exact Nat.zero_le _
  | cons first rest =>
    simp only [render, List.length_append]
    omega

/-- The parts are written out one after another. -/
theorem length_flatMap_render_le :
    (parts.flatMap render).length ≤ (ofParts name attributes parts).render.length := by
  have inside : renderContents (parts.map .child) = parts.flatMap render := by
    induction parts with
    | nil => rfl
    | cons first rest ih => rw [List.map_cons, renderContents, ih, List.flatMap_cons]
  have within := length_renderContents_le (ofParts name attributes parts)
  rwa [ofParts, contents_node, inside] at within

theorem Writable.ofParts (legal : IsLegalName name) (writable : WritableAttributes attributes)
    (writableParts : ∀ part ∈ parts, part.Writable) : (ofParts name attributes parts).Writable := by
  -- the parts are pushed one after another, so the last one is taken off
  induction parts using List.reverseRecOn with
  | nil => exact writable_leaf legal writable
  | append_singleton before last ih =>
    rcases List.forall_mem_append.mp writableParts with ⟨writableBefore, writableLast⟩
    rw [← pushChild_ofParts]
    exact (ih writableBefore).pushChild (writableLast last (List.mem_singleton_self last))

/-! ## Names and attributes -/

/-- A tree is found at its own root. -/
theorem find?_of_name {tree : Tree} (filled : name ≠ "") (root : tree.name = name) :
    tree.find? name = some tree := by
  rcases tree with ⟨here, attributes, contents⟩
  have some : ¬ name.isEmpty = true := by simpa using filled
  rw [name_node] at root
  rw [find?, if_neg some, search, if_pos root]

theorem attribute?_named (name key : String) : (named name).attribute? key = none := rfl

/-- Setting an attribute changes this attribute only. -/
theorem attribute?_setAttribute (tree : Tree) (key key' value : String) :
    (tree.setAttribute key value).attribute? key' = if key = key' then some value else tree.attribute? key' :=
  SortedMap.get?_insert ..

/-! ## Texts -/

variable {words : String}

theorem ofText_eq (name words : String) :
    ofText name words = .node name .empty (if words = "" then [] else [.text words]) := by
  by_cases empty : words = ""
  · rw [empty]
    rfl
  · have filled : ¬ words.isEmpty = true := by simpa using empty
    rw [ofText, named, pushText, push, contents_node, Content.append, Content.appendText, if_neg filled,
      if_neg empty]
    rfl

@[simp] theorem name_ofText : (ofText name words).name = name := rfl

/-- An empty text is not there. -/
theorem leadingText?_ofText : (ofText name words).leadingText? = if words = "" then none else some words := by
  rw [leadingText?, ofText_eq, contents_node]
  split
  · rfl
  · rfl

theorem getD_leadingText?_ofText : (ofText name words).leadingText?.getD "" = words := by
  rw [leadingText?_ofText]
  split
  · next empty => rw [empty, Option.getD_none]
  · rfl

/-- The normal form of a text is the trimmed text. -/
@[simp] theorem norm_ofText : (ofText name words).norm = ofText name (Text.trim words) := by
  rw [ofText_eq, ofText_eq, norm]
  split
  · next empty =>
    have trimmed : Text.trim words = "" := by
      rw [empty]
      rfl
    rw [normContents, if_pos trimmed]
  · rw [normContents, normContents]

theorem obstacle?_ofText (filled : name ≠ "") : (ofText name words).obstacle? = invalidChar? words := by
  have some : name.isEmpty = false := by simpa using filled
  have inside : contentsObstacle? (if words = "" then [] else [.text words]) = invalidChar? words := by
    split
    · next empty =>
      rw [empty]
      rfl
    · rw [contentsObstacle?, contentsObstacle?, Option.or_none]
  rw [ofText_eq, obstacle?, some, invalidValue?_empty, inside]
  rfl

theorem renderContents_ofText :
    renderContents (ofText name words).contents = words.toList.flatMap escapeInText := by
  rw [ofText_eq, contents_node]
  split
  · next empty =>
    rw [empty]
    rfl
  · rw [renderContents, renderContents, List.append_nil]

end Tree

namespace Message

open Discovery.Tree

theorem expectRoot_of_name {name : String} {tree : Tree} (named : tree.name = name) :
    expectRoot name tree = .ok () := if_pos named

/-! ## Lists -/

variable {name item : String} {values : List String}

theorem listTree_eq : listTree name item values = ofParts name .empty (values.map (ofText item)) := by
  rw [listTree, named_eq_ofParts, foldl_pushChild, List.nil_append]

@[simp] theorem name_listTree : (listTree name item values).name = name := by
  rw [listTree_eq, name_ofParts]

/-- The normal form of a list has every entry trimmed. -/
@[simp] theorem norm_listTree :
    (listTree name item values).norm = listTree name item (values.map Text.trim) := by
  have entry : norm ∘ ofText item = ofText item ∘ Text.trim := by
    funext value
    exact norm_ofText
  rw [listTree_eq, listTree_eq, norm_ofParts, List.map_map, List.map_map, entry]

theorem obstacle?_listTree (filled : name ≠ "") (filledItem : item ≠ "") :
    (listTree name item values).obstacle? = values.findSome? invalidChar? := by
  have entry : obstacle? ∘ ofText item = invalidChar? := by
    funext value
    exact obstacle?_ofText filledItem
  rw [listTree_eq, obstacle?_ofParts_plain filled, List.findSome?_map, entry]

theorem listTree_writable (legal : IsLegalName name) (legalItem : IsLegalName item)
    (markup : ∀ value ∈ values, IsMarkupText value) : (listTree name item values).Writable := by
  rw [listTree_eq]
  apply Writable.ofParts legal writableAttributes_empty
  intro part mem
  rcases List.mem_map.mp mem with ⟨value, here, rfl⟩
  exact Writable.ofText legalItem (markup value here)

/-- The entries of a list are read if they are not empty. -/
theorem listTexts_of_child? {tree : Tree} (found : tree.child? name = some (listTree name item values)) :
    listTexts tree name item = values.filter (· ≠ "") := by
  have filled : ∀ values : List String,
      ((values.map (ofText item)).filter (·.name = item)).filterMap leadingText? = values.filter (· ≠ "") := by
    intro values
    induction values with
    | nil => rfl
    | cons first rest ih =>
      rw [List.map_cons, List.filter_cons_of_pos (by simp), List.filterMap_cons, leadingText?_ofText, ih]
      -- an empty entry is an element with nothing in it
      by_cases empty : first = ""
      · rw [if_pos empty, List.filter_cons_of_neg (by simpa using empty)]
      · rw [if_neg empty, List.filter_cons_of_pos (by simpa using empty)]
  rw [listTexts, found, listTree_eq]
  simp only [children_ofParts]
  exact filled values

/-! ## Numbers as attributes -/

variable {tree : Tree} {key : String} {n : Option UInt32}

/-- An index that was written is read back. -/
theorem readIndex_of_attribute? {index : ComponentIndex}
    (written : tree.attribute? key = some (toString index.toNat)) :
    readAttribute ComponentIndex.read key tree = .ok index := by
  rw [readAttribute, written]
  simp only [ComponentIndex.read, Text.trim_toString, Text.readUInt32_toString]
  rfl

/-- A number that was written is read back. -/
theorem readNumber_of_attribute? {n : UInt32} (written : tree.attribute? key = some (toString n.toNat)) :
    readAttribute Text.readUInt32 key tree = .ok n := by
  rw [readAttribute, written]
  simp only [Text.trim_toString, Text.readUInt32_toString]
  rfl

@[simp] theorem name_setOptionalAttribute : (setOptionalAttribute tree key n).name = tree.name := by
  cases n <;> rfl

@[simp] theorem children_setOptionalAttribute :
    (setOptionalAttribute tree key n).children = tree.children := by
  cases n <;> rfl

theorem attribute?_setOptionalAttribute {key' : String} (differ : key ≠ key') :
    (setOptionalAttribute tree key n).attribute? key' = tree.attribute? key' := by
  cases n with
  | none => rfl
  | some n => rw [setOptionalAttribute, attribute?_setAttribute, if_neg differ]

/-- Attributes are in their normal form. -/
@[simp] theorem norm_setOptionalAttribute :
    (setOptionalAttribute tree key n).norm = setOptionalAttribute tree.norm key n := by
  rcases tree with ⟨name, attributes, contents⟩
  cases n <;> rfl

/-- A number does not stand in the way of writing. -/
theorem obstacle?_setOptionalAttribute {parts : List Tree} (filled : name ≠ "") :
    (setOptionalAttribute (ofParts name .empty parts) key n).obstacle? = parts.findSome? obstacle? := by
  cases n with
  | none => rw [setOptionalAttribute, obstacle?_ofParts_plain filled]
  | some n =>
    have valid : invalidValue? (SortedMap.empty.insert key (toString n.toNat)) = none := by
      apply invalidValue?_eq_none_iff.mpr
      intro value mem
      cases List.mem_singleton.mp mem
      exact isMarkupText_toString _
    show (ofParts name (SortedMap.empty.insert key (toString n.toNat)) parts).obstacle? = _
    rw [obstacle?_ofParts filled, valid, Option.none_or]

theorem setOptionalAttribute_writable (writable : tree.Writable) (legal : IsLegalName key) :
    (setOptionalAttribute tree key n).Writable := by
  cases n with
  | none => exact writable
  | some n => exact writable.setAttribute legal (isMarkupText_toString _)

/-- A number that was written, or none, is read back. -/
theorem readOptionalAttribute_set (free : tree.attribute? key = none) :
    readOptionalAttribute Text.readUInt32 key (setOptionalAttribute tree key n) = .ok n := by
  cases n with
  | none => rw [setOptionalAttribute, readOptionalAttribute, free]
  | some n =>
    have written : (setOptionalAttribute tree key (some n)).attribute? key = some (toString n.toNat) := by
      rw [setOptionalAttribute, attribute?_setAttribute, if_pos rfl]
    rw [readOptionalAttribute, written]
    simp only [readNumber_of_attribute? written]
    rfl

end Message

end Discovery
