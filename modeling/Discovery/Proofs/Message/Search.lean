import Discovery.Proofs.Message.Fields
import Discovery.Proofs.Text.Encoded

/-!
# Searches over the wire

A query is sent as a tree of its own shape, so that nothing in it can be taken for anything else. Whether it can
be written depends on the characters of its targets alone, and what the receiver reads differs from what was
sent in the white space around the targets only. Of a reply the ids are trimmed likewise.

* `Query.ofTree?_toTree`: the tree of a query is read as the query;
* `Query.norm_toTree`, `QueryReply.norm_toTree`: what the tree becomes on the way;
* `Query.transport_exact`: queries over the wire;
* `QueryReply.ofTree_toTree`: the tree of a reply is read as the reply.
-/

namespace Discovery

open Markup

namespace Query

def targets : Query → List String
  | .item _ _ target => [target]
  | .and left right => left.targets ++ right.targets
  | .or left right => left.targets ++ right.targets
  | .not query => query.targets

def mapTargets (f : String → String) : Query → Query
  | .item facet comparison target => .item facet comparison (f target)
  | .and left right => .and (left.mapTargets f) (right.mapTargets f)
  | .or left right => .or (left.mapTargets f) (right.mapTargets f)
  | .not query => .not (query.mapTargets f)

theorem mapTargets_eq_self_iff {f : String → String} {q : Query} :
    q.mapTargets f = q ↔ ∀ target ∈ q.targets, f target = target := by
  induction q with
  | item => simp [mapTargets, targets]
  | and left right ihl ihr => simp [mapTargets, targets, ihl, ihr, or_imp, forall_and]
  | or left right ihl ihr => simp [mapTargets, targets, ihl, ihr, or_imp, forall_and]
  | not q ih => simp [mapTargets, targets, ih]

/-! ## The tree of a query -/

def leafAttributes (facet : Facet) (comparison : Comparison) : Attributes :=
  (SortedMap.empty.insert "kind" facet.name).insert "comparison" comparison.name

theorem toTree_item (facet : Facet) (comparison : Comparison) (target : String) :
    (item facet comparison target).toTree = .node "queryItem" (leafAttributes facet comparison)
      (Tree.ofText "queryItem" target).contents := rfl

theorem toTree_and (left right : Query) :
    (and left right).toTree = .ofParts "and" .empty [left.toTree, right.toTree] := by
  rw [toTree, Tree.named_eq_ofParts, Tree.pushChild_ofParts, Tree.pushChild_ofParts]
  rfl

theorem toTree_or (left right : Query) :
    (or left right).toTree = .ofParts "or" .empty [left.toTree, right.toTree] := by
  rw [toTree, Tree.named_eq_ofParts, Tree.pushChild_ofParts, Tree.pushChild_ofParts]
  rfl

theorem toTree_not (q : Query) : (not q).toTree = .ofParts "not" .empty [q.toTree] := by
  rw [toTree, Tree.named_eq_ofParts, Tree.pushChild_ofParts]
  rfl

/-! ## Reading -/

theorem operands_parts (parts : List Tree) : operands (parts.map .child) = parts.map ofTree? := by
  induction parts with
  | nil => rfl
  | cons first rest ih => rw [List.map_cons, operands, ih, List.map_cons]

/-- An empty target is a leaf with nothing in it. -/
theorem target?_ofText (name target : String) :
    target? (Tree.ofText name target).contents = some target := by
  rw [Tree.ofText_eq, Tree.contents_node]
  split
  · next empty =>
    rw [empty]
    rfl
  · rfl

theorem itemOfTree?_leaf (facet : Facet) (comparison : Comparison) (name target : String) :
    itemOfTree? (leafAttributes facet comparison) (Tree.ofText name target).contents =
      some (.item facet comparison target) := by
  have kind : (leafAttributes facet comparison).get? "kind" = some facet.name := by
    rw [leafAttributes, SortedMap.get?_insert, if_neg (by decide), SortedMap.get?_insert, if_pos rfl]
  have relation : (leafAttributes facet comparison).get? "comparison" = some comparison.name := by
    rw [leafAttributes, SortedMap.get?_insert, if_pos rfl]
  rw [itemOfTree?, kind, relation, Option.bind_some, Option.bind_some, Facet.ofName?_name,
    Comparison.ofName?_name, target?_ofText]
  rfl

/-- The tree of a query is read as the query. -/
theorem ofTree?_toTree (q : Query) : ofTree? q.toTree = some q := by
  induction q with
  | item facet comparison target =>
    rw [toTree_item, ofTree?, if_pos rfl, itemOfTree?_leaf]
  | and left right ihl ihr =>
    rw [toTree_and, Tree.ofParts, ofTree?, operands_parts, if_neg (by decide), if_pos rfl, List.map_cons,
      List.map_singleton, ihl, ihr]
  | or left right ihl ihr =>
    rw [toTree_or, Tree.ofParts, ofTree?, operands_parts, if_neg (by decide), if_neg (by decide), if_pos rfl,
      List.map_cons, List.map_singleton, ihl, ihr]
  | not q ih =>
    rw [toTree_not, Tree.ofParts, ofTree?, operands_parts, if_neg (by decide), if_neg (by decide),
      if_neg (by decide), if_pos rfl, List.map_singleton, ih]

/-- The normal form of the tree is the tree of the query with its targets trimmed. -/
theorem norm_toTree (q : Query) : q.toTree.norm = (q.mapTargets Text.trim).toTree := by
  induction q with
  | item facet comparison target =>
    have leaf : (Tree.ofText "queryItem" target).norm = .ofText "queryItem" (Text.trim target) :=
      Tree.norm_ofText
    rw [mapTargets, toTree_item, toTree_item, ← leaf]
    rfl
  | and left right ihl ihr =>
    rw [mapTargets, toTree_and, toTree_and, Tree.norm_ofParts, List.map_cons, List.map_singleton, ihl, ihr]
  | or left right ihl ihr =>
    rw [mapTargets, toTree_or, toTree_or, Tree.norm_ofParts, List.map_cons, List.map_singleton, ihl, ihr]
  | not q ih => rw [mapTargets, toTree_not, toTree_not, Tree.norm_ofParts, List.map_singleton, ih]

/-! ## Writing -/

theorem isMarkupText_facet (facet : Facet) : IsMarkupText facet.name := by
  cases facet <;> decide

theorem isMarkupText_comparison (comparison : Comparison) : IsMarkupText comparison.name := by
  cases comparison <;> decide

/-- The attributes of a leaf do not stand in the way of writing. -/
theorem invalidValue?_leafAttributes (facet : Facet) (comparison : Comparison) :
    invalidValue? (leafAttributes facet comparison) = none := by
  apply Tree.invalidValue?_eq_none_iff.mpr
  intro value mem
  rcases List.mem_map.mp mem with ⟨entry, here, rfl⟩
  rcases SortedMap.mem_insertEntry here with rfl | other
  · exact isMarkupText_comparison comparison
  · cases List.mem_singleton.mp other
    exact isMarkupText_facet facet

/-- Of two operands the first is written first. -/
theorem obstacle?_pair {name : String} (filled : name ≠ "") (left right : Tree) :
    (Tree.ofParts name .empty [left, right]).obstacle? = left.obstacle?.or right.obstacle? := by
  rw [Tree.obstacle?_ofParts_plain filled, List.findSome?_cons, List.findSome?_singleton]
  cases left.obstacle? <;> rfl

/-- What keeps a query from being written is the first invalid character of its targets. -/
theorem obstacle?_toTree (q : Query) : q.toTree.obstacle? = q.targets.findSome? invalidChar? := by
  induction q with
  | item facet comparison target =>
    -- a leaf is a text that has attributes as well
    have words : (Tree.ofText "queryItem" target).obstacle? = invalidChar? target :=
      Tree.obstacle?_ofText (by decide)
    rw [Tree.ofText_eq, Tree.obstacle?, if_neg (by decide), Tree.invalidValue?_empty, Option.none_or] at words
    rw [toTree_item, Tree.ofText_eq, Tree.contents_node, Tree.obstacle?, if_neg (by decide),
      invalidValue?_leafAttributes, Option.none_or, words, targets, List.findSome?_singleton]
  | and left right ihl ihr =>
    rw [toTree_and, obstacle?_pair (by decide), targets, List.findSome?_append, ihl, ihr]
  | or left right ihl ihr =>
    rw [toTree_or, obstacle?_pair (by decide), targets, List.findSome?_append, ihl, ihr]
  | not q ih =>
    rw [toTree_not, Tree.obstacle?_ofParts_plain (by decide), List.findSome?_singleton, ih, targets]

/-- The targets one after another, as they are written. -/
def writtenTargets (q : Query) : List Char :=
  q.targets.flatMap fun target => target.toList.flatMap escapeInText

/-- All targets are written out. -/
theorem length_writtenTargets_le (q : Query) : q.writtenTargets.length ≤ q.toTree.render.length := by
  have pair : ∀ (name : String) {left right : Query},
      left.writtenTargets.length ≤ left.toTree.render.length →
      right.writtenTargets.length ≤ right.toTree.render.length →
      left.writtenTargets.length + right.writtenTargets.length ≤
        (Tree.ofParts name .empty [left.toTree, right.toTree]).render.length := by
    intro name left right ihl ihr
    refine Nat.le_trans ?_ Tree.length_flatMap_render_le
    rw [List.flatMap_cons, List.flatMap_singleton, List.length_append]
    exact Nat.add_le_add ihl ihr
  induction q with
  | item facet comparison target =>
    -- the target of a leaf is the text of its element
    have inside := Tree.length_renderContents_le (item facet comparison target).toTree
    rw [toTree_item, Tree.contents_node, Tree.renderContents_ofText] at inside
    rw [toTree_item, writtenTargets, targets, List.flatMap_singleton]
    exact inside
  | and left right ihl ihr =>
    rw [toTree_and, writtenTargets, targets, List.flatMap_append, List.length_append]
    exact pair "and" ihl ihr
  | or left right ihl ihr =>
    rw [toTree_or, writtenTargets, targets, List.flatMap_append, List.length_append]
    exact pair "or" ihl ihr
  | not q ih =>
    rw [toTree_not]
    refine Nat.le_trans ?_ Tree.length_flatMap_render_le
    rw [List.flatMap_singleton]
    exact ih

/-- A query whose targets can be written is a writable tree. -/
theorem toTree_writable {q : Query} (markup : ∀ target ∈ q.targets, IsMarkupText target) :
    q.toTree.Writable := by
  induction q with
  | item facet comparison target =>
    apply Tree.Writable.pushText _ (markup target (List.mem_singleton_self target))
    apply Tree.Writable.setAttribute _ (by decide) (isMarkupText_comparison comparison)
    exact (Tree.Writable.named (by decide)).setAttribute (by decide) (isMarkupText_facet facet)
  | and left right ihl ihr =>
    obtain ⟨markupLeft, markupRight⟩ := List.forall_mem_append.mp markup
    exact ((Tree.Writable.named (by decide)).pushChild (ihl markupLeft)).pushChild (ihr markupRight)
  | or left right ihl ihr =>
    obtain ⟨markupLeft, markupRight⟩ := List.forall_mem_append.mp markup
    exact ((Tree.Writable.named (by decide)).pushChild (ihl markupLeft)).pushChild (ihr markupRight)
  | not q ih => exact (Tree.Writable.named (by decide)).pushChild (ih markup)

end Query

/-! ## Requests -/

namespace QueryRequest

variable {request : QueryRequest}

theorem toTree_eq (request : QueryRequest) :
    request.toTree = .ofParts "query" .empty [request.query.toTree] := by
  rw [toTree, Tree.named_eq_ofParts, Tree.pushChild_ofParts]
  rfl

theorem toTree_writable (markup : ∀ target ∈ request.query.targets, IsMarkupText target) :
    request.toTree.Writable :=
  (Tree.Writable.named (by decide)).pushChild (Query.toTree_writable markup)

theorem ofTree_toTree (request : QueryRequest) : ofTree request.toTree = .ok request := by
  have root : request.toTree.name = "query" := by rw [toTree_eq, Tree.name_ofParts]
  refine Message.bind_eq_ok_iff.mpr ⟨(), Message.expectRoot_of_name root, ?_⟩
  rw [toTree_eq, Tree.children_ofParts]
  simp only [Query.ofTree?_toTree]

/-- The receiver reads the query with its targets trimmed. -/
theorem norm_toTree (request : QueryRequest) :
    request.toTree.norm = (QueryRequest.mk (request.query.mapTargets Text.trim)).toTree := by
  rw [toTree_eq, toTree_eq, Tree.norm_ofParts, List.map_singleton, Query.norm_toTree]

/-- A request cannot be written if and only if a target has a character that may not stand in a document. -/
theorem toWire_eq_error_iff :
    (∃ error, Message.toWire request = .error error) ↔
      ∃ target ∈ request.query.targets, ¬ IsMarkupText target := by
  have obstacle : request.toTree.obstacle? = request.query.targets.findSome? invalidChar? := by
    rw [toTree_eq, Tree.obstacle?_ofParts_plain (by decide), List.findSome?_singleton, Query.obstacle?_toTree]
  rw [Message.toWire_eq_error_iff]
  show request.toTree.obstacle? ≠ none ↔ _
  rw [obstacle, ne_eq, List.findSome?_eq_none_iff]
  simp only [Tree.invalidChar?_eq_none_iff, not_forall, exists_prop]

/-- A query with targets that can be written is received with them trimmed. -/
theorem exists_wire (markup : ∀ target ∈ request.query.targets, IsMarkupText target) :
    ∃ wire, Message.toWire request = .ok wire ∧
      Message.ofWire wire = .ok (QueryRequest.mk (request.query.mapTargets Text.trim)) := by
  have writable : (Message.toTree request).Writable := toTree_writable markup
  obtain ⟨wire, sent, read⟩ := Message.exists_wire writable
  refine ⟨wire, sent, ?_⟩
  rw [read]
  show ofTree request.toTree.norm = _
  rw [norm_toTree, ofTree_toTree]

/-- A request is no shorter than its targets. -/
theorem length_writtenTargets_le {wire : String} (sent : Message.toWire request = .ok wire) :
    request.query.writtenTargets.length ≤ wire.utf8ByteSize := by
  obtain ⟨element, encoded, rfl⟩ :=
    Tree.encodeDocument_eq_ok_iff.mp (Message.toWire_eq_ok_iff.mp sent)
  obtain ⟨-, rfl⟩ := Tree.encode_eq_ok_iff.mp encoded
  calc request.query.writtenTargets.length
      ≤ request.query.toTree.render.length := request.query.length_writtenTargets_le
    _ ≤ request.toTree.render.length := by
      rw [toTree_eq]
      refine Nat.le_trans ?_ Tree.length_flatMap_render_le
      rw [List.flatMap_singleton]
    _ ≤ (header ++ "\n" ++ String.ofList request.toTree.render).toList.length := by
      rw [String.toList_append, String.toList_ofList, List.length_append]
      exact Nat.le_add_left _ _
    _ ≤ _ := Text.length_le_utf8ByteSize _

end QueryRequest

/-- A query is read from its own tree. Over the wire it cannot be sent if and only if a target has a character
that may not stand in a document; otherwise it is received with every target trimmed, and nothing else
about it is changed. -/
theorem Query.transport_exact (q : Query) :
    ofTree? q.toTree = some q ∧
      ((∃ error, Message.toWire (QueryRequest.mk q) = .error error) ↔
        ∃ target ∈ q.targets, ∃ c ∈ target.toList, ¬ isMarkupChar c = true) ∧
      ((∀ target ∈ q.targets, ∀ c ∈ target.toList, isMarkupChar c = true) →
        ∃ text, Message.toWire (QueryRequest.mk q) = .ok text ∧
          Message.ofWire text = .ok (QueryRequest.mk (q.mapTargets Text.trim))) := by
  refine ⟨ofTree?_toTree q, ?_, ?_⟩
  · rw [QueryRequest.toWire_eq_error_iff]
    simp only [IsMarkupText, not_forall, exists_prop]
  · intro markup
    exact QueryRequest.exists_wire markup

/-- A query with a blank, an empty and a padded target that looks like markup. -/
def Query.treacherous : Query :=
  .or (.and (.item .id .equal "\t") (.not (.item .attributes .different "")))
    (.item .services .lessEqual " </queryItem><and>&lt; ")

/-- It is received with its targets trimmed; with a character that may not stand in a document it is not sent. -/
theorem Query.transport_exact_treacherous :
    (∃ text, Message.toWire (QueryRequest.mk treacherous) = .ok text ∧
      Message.ofWire text = .ok (QueryRequest.mk
        (.or (.and (.item .id .equal "") (.not (.item .attributes .different "")))
          (.item .services .lessEqual "</queryItem><and>&lt;")))) ∧
      ∃ error, Message.toWire (QueryRequest.mk (.not (.and treacherous (.item .port .less "1\x00")))) =
        .error error := by
  constructor
  · have markup : ∀ target ∈ treacherous.targets, IsMarkupText target := by decide
    obtain ⟨text, sent, read⟩ := (transport_exact treacherous).2.2 markup
    refine ⟨text, sent, ?_⟩
    rw [read]
    decide +kernel
  · refine (transport_exact (.not (.and treacherous (.item .port .less "1\x00")))).2.1.mpr ?_
    exact ⟨"1\x00", by decide, '\x00', by decide, by decide⟩

/-! ## Replies -/

theorem Match.norm_toTree (found : Match) :
    found.toTree.norm = (Match.mk found.index (Text.trim found.id)).toTree := by
  have moved : found.toTree.norm = ((Tree.ofText "component" found.id).norm).setAttribute "index"
      (toString found.index.toNat) := rfl
  rw [moved, Tree.norm_ofText, toTree]

theorem Match.ofTree_toTree (found : Match) : ofTree found.toTree = .ok found := by
  have index : Message.readAttribute ComponentIndex.read "index" found.toTree = .ok found.index := by
    apply Message.readIndex_of_attribute?
    rw [toTree, Tree.attribute?_setAttribute, if_pos rfl]
  have written : (Tree.ofText "component" found.id).leadingText?.getD "" = found.id :=
    Tree.getD_leadingText?_ofText
  have id : found.toTree.leadingText?.getD "" = found.id := written
  rw [ofTree, index, id]
  rfl

namespace QueryReply

variable {reply : QueryReply}

theorem toTree_eq (reply : QueryReply) :
    reply.toTree = .ofParts "queryReply" .empty (reply.found.map Match.toTree) := by
  rw [toTree, Tree.named_eq_ofParts, Tree.foldl_pushChild, List.nil_append]

/-- The answer to a search can be written if the ids in it can be written. -/
theorem toTree_writable (markup : ∀ found ∈ reply.found, IsMarkupText found.id) :
    reply.toTree.Writable := by
  rw [toTree_eq]
  apply Tree.Writable.ofParts (by decide) writableAttributes_empty
  intro part mem
  rcases List.mem_map.mp mem with ⟨found, here, rfl⟩
  exact Match.toTree_writable (markup found here)

theorem ofTree_toTree (reply : QueryReply) : ofTree reply.toTree = .ok reply := by
  have root : reply.toTree.name = "queryReply" := by rw [toTree_eq, Tree.name_ofParts]
  have all : (reply.found.map Match.toTree).filter (·.name = "component") =
      reply.found.map Match.toTree := by
    rw [List.filter_eq_self, List.forall_mem_map]
    exact fun found _ => rfl
  have each : ∀ found : List Match, (found.map Match.toTree).mapM Match.ofTree = .ok found := by
    intro found
    induction found with
    | nil => rfl
    | cons first rest ih =>
      rw [List.map_cons, List.mapM_cons, Match.ofTree_toTree, ih]
      rfl
  rw [ofTree, Message.expectRoot_of_name root, toTree_eq, Tree.children_ofParts, all, each]
  rfl

/-- The reply that is read when this one was sent: its ids are trimmed. -/
def received (reply : QueryReply) : QueryReply :=
  ⟨reply.found.map fun found => ⟨found.index, Text.trim found.id⟩⟩

theorem norm_toTree (reply : QueryReply) : reply.toTree.norm = reply.received.toTree := by
  rw [toTree_eq, toTree_eq, received, Tree.norm_ofParts, List.map_map, List.map_map]
  refine congrArg (Tree.ofParts _ _) (List.map_congr_left ?_)
  intro found _
  exact found.norm_toTree

/-- A reply with ids that can be written is received with them trimmed. -/
theorem exists_wire (markup : ∀ found ∈ reply.found, IsMarkupText found.id) :
    ∃ wire, Message.toWire reply = .ok wire ∧ Message.ofWire wire = .ok reply.received := by
  have writable : (Message.toTree reply).Writable := toTree_writable markup
  obtain ⟨wire, sent, read⟩ := Message.exists_wire writable
  refine ⟨wire, sent, ?_⟩
  rw [read]
  show ofTree reply.toTree.norm = _
  rw [norm_toTree, ofTree_toTree]

end QueryReply

end Discovery
