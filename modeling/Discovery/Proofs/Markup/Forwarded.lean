import Discovery.Proofs.Markup.Read
import Discovery.Proofs.Tree.Building

/-!
# Forwarding what was read

A tree that was read from a document can be written again. Whether it arrives unchanged depends on its
texts alone: a run of characters is trimmed before its references are resolved, and a CDATA section is
not trimmed at all, so both can bring in white space at the ends of a text, which the next reader drops.

* `decode_writable`: what is read from a document is writable;
* `forwarded_iff_trimmed`: when what is read survives being written and read again.
-/

namespace Discovery

open Markup

/-! ## Building from a document -/

namespace Builder

/-- Can everything that was built so far be written? -/
def Writable (b : Builder) : Prop :=
  (∀ tree ∈ b.stack, tree.Writable) ∧ ∀ tree ∈ b.root, tree.Writable

variable {b b' : Builder}

/-- An event that can be said again keeps what is built writable. -/
theorem Writable.take (writable : b.Writable) {event : Event} (sayable : event.IsWritable)
    (done : b.take event = .ok b') : b'.Writable := by
  apply Everywhere.take writable _ _ _ done
  · rintro tag rfl
    exact Tree.writable_leaf sayable.1 sayable.2
  · rintro words rfl tree writableTree
    exact writableTree.pushText sayable
  · intro tree child writableTree writableChild
    exact writableTree.pushChild writableChild

end Builder

/-! ## Reading, writing, reading -/

namespace Tree

theorem decodeChars_writable {document : List Char} {tree : Tree}
    (read : decodeChars document = .ok tree) : tree.Writable := by
  rcases exists_builder_of_decodeChars read with ⟨b, built, finished⟩
  have writable : b.Writable := by
    refine Builder.takeAll_induction ?_ Builder.everywhere_new built
    intro event b b' mem writable done
    exact writable.take (Cursor.drain_writable mem) done
  exact writable.2 tree (Builder.root_of_finish finished)

/-- What is read from a document is writable. -/
theorem decode_writable {document : String} {tree : Tree} (read : decode document = .ok tree) :
    tree.Writable :=
  decodeChars_writable read

/-- A tree that was read from a document can be written, as an element and as a document. Both are read
as the normal form of the tree, and so as the same tree if and only if no text in it begins or ends with
white space. -/
theorem forwarded_iff_trimmed {document : String} {tree : Tree} (read : decode document = .ok tree) :
    (∃ element, tree.encode = .ok element) ∧ (∃ document, tree.encodeDocument = .ok document) ∧
      ∀ text, tree.encode = .ok text ∨ tree.encodeDocument = .ok text →
        decode text = .ok tree.norm ∧
          (decode text = .ok tree ↔ ∀ node ∈ tree.nodes, node.HasTrimmedTexts) := by
  have writable := decode_writable read
  refine ⟨⟨_, writable.encode_eq⟩, ⟨_, writable.encodeDocument_eq⟩, ?_⟩
  intro text written
  have again := writable.decode_written written
  refine ⟨again, ?_⟩
  rw [again, Except.ok.injEq]
  exact norm_eq_self_iff writable.tidy

/-- A text that a comment, a section and references are parts of, and another one behind an element. -/
def mixed : Tree :=
  (((named "a").pushText "x <y> z").pushChild ((named "b").setAttribute "k" "<")).pushText "A"

theorem forwarded_mixed :
    decode "<a>x<!--c--><![CDATA[ <y> ]]>&#122;<b k='&lt;'/> &#65; </a>" = .ok mixed ∧
      mixed.encode = .ok "<a>x &lt;y&gt; z<b k=\"&lt;\"/>\nA</a>\n" ∧
      decode "<a>x &lt;y&gt; z<b k=\"&lt;\"/>\nA</a>\n" = .ok mixed := by
  have read : decode "<a>x<!--c--><![CDATA[ <y> ]]>&#122;<b k='&lt;'/> &#65; </a>" = .ok mixed := by
    decide +kernel
  have written : mixed.encode = .ok "<a>x &lt;y&gt; z<b k=\"&lt;\"/>\nA</a>\n" := by decide
  have trimmed : mixed.norm = mixed := by decide
  rcases forwarded_iff_trimmed read with ⟨-, -, again⟩
  refine ⟨read, written, ?_⟩
  rw [(again _ (.inl written)).1, trimmed]

/-- The white space at the ends of a section, or of a reference, is there the first time only. -/
theorem padded_section_not_forwarded :
    decode "<a><![CDATA[ x ]]></a>" = .ok (ofText "a" " x ") ∧
      (ofText "a" " x ").encode = .ok "<a> x </a>\n" ∧
      decode "<a> x </a>\n" = .ok (ofText "a" "x") ∧ ofText "a" "x" ≠ ofText "a" " x " ∧
      decode "<a>&#32;</a>" = .ok (ofText "a" " ") ∧
      (ofText "a" " ").encode = .ok "<a> </a>\n" ∧ decode "<a> </a>\n" = .ok (named "a") ∧
      named "a" ≠ ofText "a" " " := by
  refine ⟨?_, ?_, ?_, ?_, ?_, ?_, ?_, ?_⟩
  all_goals decide +kernel

end Tree

end Discovery
