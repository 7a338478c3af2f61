import Discovery.Proofs.Markup.RoundTrip

/-!
# Trees that can be written

A tree is writable if every node in it has legal names, characters of a document only, and no empty
and no neighbouring texts. Writing such a tree succeeds, and what is written is read back in the normal
form of the tree.

* `Writable.named`, `Writable.setAttribute`, `Writable.pushText`, `Writable.pushChild`: growing a tree
  keeps it writable, so that a message is writable if its parts are;
* `Writable.encode_eq`, `Writable.decode_written`: what becomes of a writable tree.
-/

namespace Discovery

open Markup

namespace Markup

/-! ## Texts and attributes -/

theorem IsMarkupText.append {words more : String} (markup : IsMarkupText words)
    (markupMore : IsMarkupText more) : IsMarkupText (words ++ more) := by
  intro c mem
  rw [String.toList_append] at mem
  rcases List.mem_append.mp mem with before | after
  · exact markup c before
  · exact markupMore c after

/-- Can the attributes be written and read back? -/
def WritableAttributes (attributes : Attributes) : Prop :=
  ∀ entry ∈ attributes.entries, IsLegalName entry.1 ∧ IsMarkupText entry.2

theorem writableAttributes_empty : WritableAttributes .empty := by
  intro entry mem
  cases mem

theorem WritableAttributes.insert {attributes : Attributes} (writable : WritableAttributes attributes)
    {key value : String} (legal : IsLegalName key) (markup : IsMarkupText value) :
    WritableAttributes (attributes.insert key value) := by
  intro entry mem
  rcases SortedMap.mem_insertEntry mem with rfl | before
  · exact ⟨legal, markup⟩
  · exact writable entry before

/-- A text that is appended brings in its own characters only. -/
theorem isMarkupText_of_mem_appendText {words : String} (markup : IsMarkupText words)
    {contents : List Content} (valid : ∀ words, .text words ∈ contents → IsMarkupText words) :
    ∀ words', .text words' ∈ Content.appendText words contents → IsMarkupText words' := by
  intro words' mem
  fun_induction Content.appendText words contents with
  | case1 => cases mem
  | case2 =>
    cases List.mem_singleton.mp mem
    exact markup
  | case3 before =>
    cases List.mem_singleton.mp mem
    -- the text joins the one that ends the contents
    exact (valid before (List.mem_cons_self ..)).append markup
  | case4 first rest notText ih =>
    rcases List.mem_cons.mp mem with rfl | later
    · exact valid words' (List.mem_cons_self ..)
    · refine ih ?_ later
      intro words mem
      exact valid words (List.mem_cons_of_mem _ mem)

end Markup

namespace Tree

/-! ## Nodes -/

theorem isWritable_iff {tree : Tree} :
    tree.IsWritable ↔ IsLegalName tree.name ∧ WritableAttributes tree.attributes ∧
      (∀ words, .text words ∈ tree.contents → IsMarkupText words) ∧ Content.Tidy tree.contents := by
  constructor
  · rintro ⟨⟨legal, keys⟩, ⟨texts, values⟩, tidy⟩
    refine ⟨legal, ?_, texts, tidy⟩
    intro entry mem
    exact ⟨keys _ (List.mem_map_of_mem mem), values _ (List.mem_map_of_mem mem)⟩
  · rintro ⟨legal, writable, texts, tidy⟩
    refine ⟨⟨legal, ?_⟩, ⟨texts, ?_⟩, tidy⟩
    · intro key mem
      rcases List.mem_map.mp mem with ⟨entry, here, rfl⟩
      exact (writable entry here).1
    · intro value mem
      rcases List.mem_map.mp mem with ⟨entry, here, rfl⟩
      exact (writable entry here).2

/-- Every node of the tree can be written and read back. -/
def Writable (tree : Tree) : Prop :=
  ∀ node ∈ tree.nodes, node.IsWritable

theorem writable_iff {tree : Tree} :
    tree.Writable ↔ tree.IsWritable ∧ ∀ node ∈ nodesIn tree.contents, node.IsWritable := by
  rw [Writable, nodes_eq, List.forall_mem_cons]

/-- A tree below a writable tree is writable. -/
theorem Writable.child {tree child : Tree} (writable : tree.Writable)
    (mem : .child child ∈ tree.contents) : child.Writable := by
  intro node inChild
  refine (writable_iff.mp writable).2 node ?_
  rcases List.append_of_mem mem with ⟨before, after, eq⟩
  rw [eq, nodesIn_append, nodesIn]
  exact List.mem_append_right _ (List.mem_append_left _ inChild)

/-! ## Growing -/

/-- An element with nothing in it is writable if its tag is. -/
theorem writable_leaf {name : String} {attributes : Attributes} (legal : IsLegalName name)
    (writable : WritableAttributes attributes) : (node name attributes []).Writable := by
  refine writable_iff.mpr ⟨isWritable_iff.mpr ⟨legal, writable, ?_, Content.tidy_nil⟩, ?_⟩
  · intro words mem
    cases mem
  · intro node mem
    cases mem

theorem Writable.named {name : String} (legal : IsLegalName name) : (named name).Writable :=
  writable_leaf legal writableAttributes_empty

theorem Writable.setAttribute {tree : Tree} (writable : tree.Writable) {key value : String}
    (legal : IsLegalName key) (markup : IsMarkupText value) :
    (tree.setAttribute key value).Writable := by
  rcases writable_iff.mp writable with ⟨here, below⟩
  rcases isWritable_iff.mp here with ⟨legalName, attributes, texts, tidy⟩
  exact writable_iff.mpr
    ⟨isWritable_iff.mpr ⟨legalName, attributes.insert legal markup, texts, tidy⟩, below⟩

theorem Writable.pushText {tree : Tree} (writable : tree.Writable) {words : String}
    (markup : IsMarkupText words) : (tree.pushText words).Writable := by
  rcases writable_iff.mp writable with ⟨here, below⟩
  rcases isWritable_iff.mp here with ⟨legal, attributes, texts, tidy⟩
  refine writable_iff.mpr ⟨isWritable_iff.mpr ⟨legal, attributes, ?_, tidy.appendText words⟩, ?_⟩
  · exact isMarkupText_of_mem_appendText markup texts
  · show ∀ node ∈ nodesIn (Content.appendText words tree.contents), node.IsWritable
    rw [nodesIn_appendText]
    exact below

theorem Writable.pushChild {tree child : Tree} (writable : tree.Writable)
    (writableChild : child.Writable) : (tree.pushChild child).Writable := by
  rcases writable_iff.mp writable with ⟨here, below⟩
  rcases isWritable_iff.mp here with ⟨legal, attributes, texts, tidy⟩
  refine writable_iff.mpr ⟨isWritable_iff.mpr ⟨legal, attributes, ?_, ?_⟩, ?_⟩
  · intro words mem
    rcases List.mem_append.mp mem with before | last
    · exact texts words before
    · cases List.mem_singleton.mp last
  · exact tidy.concat (by simp) (fun _ _ => .inr rfl)
  · show ∀ node ∈ nodesIn (tree.contents ++ [.child child]), node.IsWritable
    rw [nodesIn_append, nodesIn, nodesIn, List.append_nil]
    exact List.forall_mem_append.mpr ⟨below, writableChild⟩

theorem Writable.ofText {name words : String} (legal : IsLegalName name)
    (markup : IsMarkupText words) : (ofText name words).Writable :=
  (Writable.named legal).pushText markup

/-! ## Writing -/

theorem Writable.tidy {tree : Tree} (writable : tree.Writable) : tree.Tidy :=
  fun node mem => (writable node mem).tidy

/-- Nothing stands in the way of writing a writable tree. -/
theorem Writable.encode_eq {tree : Tree} (writable : tree.Writable) :
    tree.encode = .ok (String.ofList tree.render) := by
  refine encode_eq_ok_iff.mpr ⟨?_, rfl⟩
  refine (obstacle?_eq_none_of_legal fun node mem => (writable node mem).legal).mpr ?_
  intro node mem
  exact (writable node mem).markup

theorem Writable.encodeDocument_eq {tree : Tree} (writable : tree.Writable) :
    tree.encodeDocument = .ok (header ++ "\n" ++ String.ofList tree.render) :=
  encodeDocument_eq_ok_iff.mpr ⟨_, writable.encode_eq, rfl⟩

/-- What is written of a writable tree is read back as its normal form. -/
theorem Writable.decode_written {tree : Tree} (writable : tree.Writable) {text : String}
    (written : tree.encode = .ok text ∨ tree.encodeDocument = .ok text) :
    decode text = .ok tree.norm :=
  Tree.decode_written writable.tidy (fun node mem => (writable node mem).legal) written

end Tree

end Discovery
