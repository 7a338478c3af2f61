import Discovery.Proofs.Query.Predicate
import Discovery.Proofs.Service.Served

/-!
# What a search comes to

A search is written in predicates, sent as a message, answered over the tables of the directory and read from
the reply. White space is dropped on the way twice, around the targets and around the ids; the targets of
predicates have none, so that the question that is answered is the one that was asked. Only a request that is
too long does not arrive.

* `Coherent.answer_query`: the reply to a query that arrives;
* `Coherent.mem_received_iff`, `Coherent.received_ascending`: what is read of it;
* `Served.search_exact`: the whole way.
-/

namespace Discovery

open Markup Service

namespace Discoverer

variable {d : Discoverer} {q : Query}

/-! ## What is read of a reply -/

/-- A match is read if and only if the component of its index is found, and with the trimmed id. -/
theorem Coherent.mem_received_iff (coherent : d.Coherent) {found : Match} :
    found ∈ (d.query q).received.found ↔ ∃ component, d.directory.get? found.index = some component ∧
      q.evaluateOne component = true ∧ found.id = Text.trim component.id := by
  rw [QueryReply.received, coherent.found_eq, List.map_map, List.mem_map]
  constructor
  · rintro ⟨⟨index, component⟩, mem, rfl⟩
    obtain ⟨entry, holds⟩ := List.mem_filter.mp mem
    exact ⟨component, SortedMap.mem_entries_iff.mp entry, holds, rfl⟩
  · rintro ⟨component, known, holds, named⟩
    refine ⟨(found.index, component), ?_, ?_⟩
    · exact List.mem_filter.mpr ⟨SortedMap.mem_entries_iff.mpr known, holds⟩
    · show Match.mk found.index (Text.trim component.id) = found
      rw [← named]

theorem Coherent.received_ascending (coherent : d.Coherent) (q : Query) :
    ((d.query q).received.found.map (·.index)).Pairwise (· < ·) := by
  rw [QueryReply.received, List.map_map]
  exact coherent.found_ascending q

/-- A query that arrives is granted, and the reply can be read. -/
theorem Coherent.answer_query (coherent : d.Coherent) (ids : d.HasWritableIds) {text : String}
    (arrived : Message.ofWire text = .ok (QueryRequest.mk q)) :
    ∃ body, d.answer .query text = (⟨.ok, some .markup, body⟩, d) ∧
      Message.ofWire body = .ok (d.query q).received := by
  obtain ⟨body, written, read⟩ := QueryReply.exists_wire (coherent.found_markup ids q)
  refine ⟨body, ?_, read⟩
  rw [answer, replyToMessage, arrived]
  show (Reply.ofMessage (d.query q), d) = _
  rw [Reply.ofMessage, written]

/-! ## The whole way -/

/-- Whatever happened to a service before: a query that predicates stand for, with targets that can be written,
has a text on the wire. If the text has legal length, the search succeeds and changes nothing, and the matches
that are read from the reply are those of the components that the query holds for by their own answers, in
ascending order of their indexes and each with its trimmed id. If the text is longer, the request is turned
away and changes nothing either. -/
theorem Served.search_exact (served : d.Served) {predicates : List String} {any negated : Bool}
    (asked : Predicate.toQuery predicates any negated = .ok q)
    (markup : ∀ target ∈ q.targets, IsMarkupText target) :
    ∃ wire, Message.toWire (QueryRequest.mk q) = .ok wire ∧
      ∀ target, pathOf target = Endpoint.query.path →
        (wire.utf8ByteSize ≤ maxBodyBytes → ∃ (body : String) (reply : QueryReply),
          d.serve (.ofText "POST" target wire) = (⟨.ok, some .markup, body⟩, d) ∧
            Message.ofWire body = .ok reply ∧
            (∀ found, found ∈ reply.found ↔ ∃ component,
              d.directory.get? found.index = some component ∧ q.evaluateOne component = true ∧
                found.id = Text.trim component.id) ∧
            (reply.found.map (·.index)).Pairwise (· < ·)) ∧
        (maxBodyBytes < wire.utf8ByteSize →
          d.serve (.ofText "POST" target wire) = (.tooLong, d)) := by
  have coherent := served.reached.coherent.1
  obtain ⟨wire, sent, arrived⟩ := @QueryRequest.exists_wire ⟨q⟩ markup
  -- targets of predicates are trimmed already, so that the query arrives as it is
  rw [Predicate.mapTargets_trim_of_toQuery asked] at arrived
  refine ⟨wire, sent, ?_⟩
  intro target directed
  constructor
  · intro short
    obtain ⟨body, answered, read⟩ := coherent.answer_query served.hasWritableIds arrived
    refine ⟨body, (d.query q).received, ?_, read, fun _ => coherent.mem_received_iff,
      coherent.received_ascending q⟩
    rw [d.serve_ofText (by decide) directed short, answered]
  · intro long
    exact d.serve_tooLong (by decide) directed long

/-- The announcement of a component with white space around its id. -/
def paddedAnnouncement : String :=
  "<registration><id><![CDATA[ w1 ]]></id><port>2000</port></registration>"

def afterPadded : Discoverer :=
  Service.machine.run (new .standard ⟨0, 0⟩) [.request (.ofText "POST" "/register" paddedAnnouncement)]

def notW1 : Query :=
  .and (.item .id .different "w1") (.item .port .greaterEqual "1520")

/-- With the white space its id is another one, but it is read without. -/
theorem search_exact_after_padded :
    afterPadded.Served ∧ Predicate.toQuery [" id != w1", "port>=1520 "] false false = .ok notW1 ∧
      ∃ wire body reply, Message.toWire (QueryRequest.mk notW1) = .ok wire ∧
        afterPadded.serve (.ofText "POST" "/query" wire) = (⟨.ok, some .markup, body⟩, afterPadded) ∧
        Message.ofWire body = .ok reply ∧ ⟨1, "w1"⟩ ∈ QueryReply.found reply := by
  have served : afterPadded.Served :=
    Service.machine.reached_of_short ⟨.standard, ⟨0, 0⟩, rfl⟩ (by decide)
  have asked : Predicate.toQuery [" id != w1", "port>=1520 "] false false = .ok notW1 := by decide +kernel
  have directed : pathOf "/query" = Endpoint.query.path := by decide +kernel
  obtain ⟨wire, sent, answers⟩ := Served.search_exact served asked (by decide +kernel)
  have short : wire.utf8ByteSize ≤ maxBodyBytes := by
    have fits : ((Message.toWire (QueryRequest.mk notW1)).toOption.all
        fun wire => wire.utf8ByteSize ≤ maxBodyBytes) = true := by decide +kernel
    rw [sent] at fits
    exact of_decide_eq_true fits
  obtain ⟨body, reply, answered, read, exactly, -⟩ := (answers "/query" directed).1 short
  have found : ⟨1, "w1"⟩ ∈ reply.found := by
    refine (exactly ⟨1, "w1"⟩).mpr ⟨⟨1, " w1 ", "", 2000, "", [], [], []⟩, ?_, ?_, ?_⟩
    · decide +kernel
    · decide +kernel
    · decide +kernel
  exact ⟨served, asked, wire, body, reply, sent, answered, read, found⟩

/-! ## Requests that are too long -/

/-- A text of ampersands, each of which is written with five characters. -/
def ampersands (n : Nat) : String := String.ofList (List.replicate n '&')

theorem isMarkupText_ampersands (n : Nat) : IsMarkupText (ampersands n) := by
  intro c mem
  rw [ampersands, String.toList_ofList] at mem
  rw [List.eq_of_mem_replicate mem]
  rfl

theorem parse_ampersands (n : Nat) :
    Predicate.parse ("id=" ++ ampersands n) = .ok (.item .id .equal (ampersands n)) := by
  have raw : ("id=" ++ ampersands n).toList = ['i', 'd'] ++ '=' :: List.replicate n '&' := by
    rw [String.toList_append, ampersands, String.toList_ofList, String.toList_ofList]
    rfl
  -- no other operator stands in the text, since ampersands are all that is added
  have free : ∀ {c : Char}, c ∉ ['i', 'd', '='] → c ≠ '&' →
      c ∉ ['i', 'd'] ++ '=' :: List.replicate n '&' := by
    intro c notBefore notAmpersand mem
    rw [List.append_cons] at mem
    rcases List.mem_append.mp mem with before | ampersand
    · exact notBefore before
    · exact notAmpersand (List.eq_of_mem_replicate ampersand)
  have trimmed : Text.trimChars (List.replicate n '&') = List.replicate n '&' := by
    apply Text.trimChars_eq_self_iff.mpr
    constructor
    · intro c first
      rw [List.eq_of_mem_replicate (List.mem_of_head? first)]
      rfl
    · intro c last
      rw [List.eq_of_mem_replicate (List.mem_of_getLast? last)]
      rfl
  refine Predicate.parse_eq_ok_iff.mpr ⟨.id, .equal, ['i', 'd'], List.replicate n '&', ?_, by decide, ?_⟩
  · rw [raw]
    exact Predicate.divide?_equal (by decide) (free (by decide) (by decide)) (free (by decide) (by decide))
      (free (by decide) (by decide))
  · rw [trimmed, ampersands]

/-- All of four times the same. -/
def fourfold (q : Query) : Query :=
  .and (.and (.and q q) q) q

theorem toQuery_fourfold {raw : String} (parsed : Predicate.parse raw = .ok q) :
    Predicate.toQuery (List.replicate 4 raw) false false = .ok (fourfold q) := by
  simp only [List.replicate, Predicate.toQuery, Predicate.parseOnto, parsed]
  rfl

theorem mem_targets_fourfold {target : String} :
    target ∈ (fourfold q).targets ↔ target ∈ q.targets := by
  simp [fourfold, Query.targets]

theorem length_writtenTargets_fourfold (q : Query) :
    (fourfold q).writtenTargets.length = 4 * q.writtenTargets.length := by
  simp only [fourfold, Query.writtenTargets, Query.targets, List.flatMap_append, List.length_append]
  omega

theorem length_writtenTargets_ampersands (n : Nat) :
    (Query.item .id .equal (ampersands n)).writtenTargets.length = n * 5 := by
  rw [Query.writtenTargets, Query.targets, List.flatMap_singleton, ampersands, String.toList_ofList,
    List.length_flatMap, List.map_replicate, List.sum_replicate_nat]
  rfl

/-- Predicates of characters that may all stand in a document, but the search is turned away: the text is
longer than what a request may carry. -/
theorem search_too_long : ∃ q wire,
    Predicate.toQuery (List.replicate 4 ("id=" ++ ampersands 104858)) false false = .ok q ∧
      (∀ target ∈ q.targets, IsMarkupText target) ∧
      Message.toWire (QueryRequest.mk q) = .ok wire ∧
      (new .standard ⟨0, 0⟩).Served ∧
      ((new .standard ⟨0, 0⟩).serve (.ofText "POST" "/query" wire)).1.status = .contentTooLarge := by
  have directed : pathOf "/query" = Endpoint.query.path := by decide +kernel
  have served : (new .standard ⟨0, 0⟩).Served :=
    Service.machine.reached_of_short ⟨.standard, ⟨0, 0⟩, rfl⟩ (List.length_nil.trans_lt (by decide))
  -- the number gets a name, so that nothing ever spells so long a text out
  generalize many : 104858 = n
  have asked := toQuery_fourfold (parse_ampersands n)
  have markup : ∀ target ∈ (fourfold (.item .id .equal (ampersands n))).targets, IsMarkupText target := by
    intro target mem
    cases List.mem_singleton.mp (mem_targets_fourfold.mp mem)
    exact isMarkupText_ampersands n
  obtain ⟨wire, sent, -⟩ := @QueryRequest.exists_wire ⟨fourfold (.item .id .equal (ampersands n))⟩ markup
  have long : maxBodyBytes < wire.utf8ByteSize := by
    have written := QueryRequest.length_writtenTargets_le sent
    rw [length_writtenTargets_fourfold, length_writtenTargets_ampersands, ← many] at written
    exact Nat.lt_of_lt_of_le (by decide) written
  refine ⟨_, wire, asked, markup, sent, served, ?_⟩
  rw [serve_tooLong _ (by decide) directed long]
  rfl

end Discoverer

end Discovery
