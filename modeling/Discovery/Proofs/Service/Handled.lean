import Discovery.Proofs.Message.Search
import Discovery.Proofs.Registry.Gone
import Discovery.Proofs.Text.Encoded
import Discovery.Service.Router

/-!
# How requests are handled

A request is turned away before any message is read, or an endpoint reads a message from its text. The
endpoint then refuses the message or grants it; only what is granted changes anything.

* `serve_cases`: a request is turned away, or its text reaches an endpoint that reads messages;
* `register_handled`, `heartbeat_handled`, `deregister_handled`, `query_handled`: what the endpoints do;
* `Reached.failure_unchanged`: a request without success leaves no trace, half-done or not.
-/

namespace Discovery

open Markup Service

variable {d : Discoverer}

/-! ## Turning away -/

namespace Service

theorem Endpoint.eq_of_ofPath? {path : String} {endpoint : Endpoint}
    (found : ofPath? path = some endpoint) : path = endpoint.path := by
  have same := List.find?_some found
  exact (of_decide_eq_true same).symm

/-- No two endpoints are found at the same path. -/
theorem Endpoint.path_injective {endpoint endpoint' : Endpoint}
    (same : endpoint.path = endpoint'.path) : endpoint = endpoint' := by
  have found : ofPath? endpoint.path = some endpoint' := by
    rw [same, ofPath?_path]
  rw [ofPath?_path] at found
  exact Option.some.inj found

/-- A body that is not read is reported as the sender's fault. -/
theorem readBody_error {body : List UInt8} {refusal : Reply}
    (unread : readBody body = .error refusal) :
    refusal.status = .badRequest ∨ refusal.status = .contentTooLarge := by
  unfold readBody at unread
  split at unread
  · cases unread
    exact .inr rfl
  · cases fault : Text.readUtf8 body with
    | error fault' =>
      rw [fault] at unread
      cases unread
      exact .inl rfl
    | ok text =>
      rw [fault] at unread
      cases unread

/-- The bytes of a text that is not too long are read as the text. -/
theorem readBody_toUTF8 {text : String} (short : text.utf8ByteSize ≤ maxBodyBytes) :
    readBody text.toUTF8.toList = .ok text := by
  rw [readBody, Text.length_toUTF8, if_neg (Nat.not_lt.mpr short), Text.readUtf8_toUTF8]
  rfl

end Service

namespace Discoverer

/-- A request is turned away, and then one that sends a message does not succeed, or it sends a text to
an endpoint that reads messages. -/
theorem serve_cases (d : Discoverer) (request : Request) :
    (∃ reply, d.serve request = (reply, d) ∧ reply.status ≠ .internalError ∧
        (request.method = "POST" → reply.status ≠ .ok)) ∨
      ∃ endpoint text, endpoint ≠ .leases ∧ request.method = "POST" ∧
        request.path = endpoint.path ∧ readBody request.body = .ok text ∧
        d.serve request = d.answer endpoint text := by
  -- only what is sent by `POST` reaches an endpoint that reads messages
  have otherMethod : ∀ {method : String} {status : Status}, method ≠ "POST" →
      request.method = method → request.method = "POST" → status ≠ .ok := by
    intro method status differs same post
    exact absurd (same.symm.trans post) differs
  unfold serve
  split
  · next options => exact .inl ⟨_, rfl, by decide, otherMethod (by decide) options⟩
  · split
    · exact .inl ⟨_, rfl, by decide, fun _ => by decide⟩
    · split
      · next get => exact .inl ⟨_, rfl, nofun, otherMethod (by decide) get⟩
      · split
        · next head => exact .inl ⟨_, rfl, nofun, otherMethod (by decide) head⟩
        · exact .inl ⟨_, rfl, by decide, fun _ => by decide⟩
    · next endpoint notLeases found =>
      split
      · next post =>
        unfold receive
        cases read : readBody request.body with
        | error refusal =>
          refine .inl ⟨refusal, rfl, ?_⟩
          rcases readBody_error read with bad | long
          · rw [bad]
            exact ⟨by decide, fun _ => by decide⟩
          · rw [long]
            exact ⟨by decide, fun _ => by decide⟩
        | ok text =>
          refine .inr ⟨endpoint, text, ?_, post, Endpoint.eq_of_ofPath? found, rfl, rfl⟩
          rintro rfl
          exact notLeases rfl
      · exact .inl ⟨_, rfl, by decide, fun _ => by decide⟩

/-- What is sent to an endpoint that reads messages is received there. -/
theorem serve_post (d : Discoverer) {endpoint : Endpoint} (reads : endpoint ≠ .leases)
    {target : String} (directed : pathOf target = endpoint.path) (text : String) :
    d.serve (.ofText "POST" target text) = d.receive endpoint text.toUTF8.toList := by
  have noOptions : ¬ (Request.ofText "POST" target text).method = "OPTIONS" := by
    show ¬ "POST" = "OPTIONS"
    decide
  have found : Endpoint.ofPath? (Request.ofText "POST" target text).path = some endpoint := by
    show Endpoint.ofPath? (pathOf target) = some endpoint
    rw [directed, Endpoint.ofPath?_path]
  rw [serve, if_neg noOptions, found]
  cases endpoint with
  | leases => exact absurd rfl reads
  | register | heartbeat | deregister | query =>
    show (if "POST" = "POST" then _ else _) = _
    rw [if_pos rfl]
    rfl

/-- A text reaches the endpoint to which it is sent. -/
theorem serve_ofText (d : Discoverer) {endpoint : Endpoint} (reads : endpoint ≠ .leases)
    {target text : String} (directed : pathOf target = endpoint.path)
    (short : text.utf8ByteSize ≤ maxBodyBytes) :
    d.serve (.ofText "POST" target text) = d.answer endpoint text := by
  rw [d.serve_post reads directed, receive, readBody_toUTF8 short]

/-- A text that is too long reaches no endpoint. -/
theorem serve_tooLong (d : Discoverer) {endpoint : Endpoint} (reads : endpoint ≠ .leases)
    {target text : String} (directed : pathOf target = endpoint.path)
    (long : maxBodyBytes < text.utf8ByteSize) :
    d.serve (.ofText "POST" target text) = (.tooLong, d) := by
  have unread : readBody text.toUTF8.toList = .error .tooLong := by
    rw [readBody, Text.length_toUTF8, if_pos long]
  rw [d.serve_post reads directed, receive, unread]

/-! ## Endpoints -/

/-- A text is no message of the kind that is expected, or something is made of the message. -/
theorem replyToMessage_cases {α : Type} [Message α] (d : Discoverer) (text : String)
    (act : α → Reply × Discoverer) :
    (∃ error, (Message.ofWire text : Except MessageError α) = .error error ∧
        d.replyToMessage text act = (.bare .badRequest, d)) ∨
      ∃ message, Message.ofWire text = .ok message ∧
        d.replyToMessage text act = act message := by
  unfold replyToMessage
  cases read : (Message.ofWire text : Except MessageError α) with
  | error error => exact .inl ⟨error, rfl, rfl⟩
  | ok message => exact .inr ⟨message, rfl, rfl⟩

/-- How a text is handled by an endpoint that reads messages of a kind, refuses some of them with a
status of its own, and grants the others. -/
inductive Handled {α : Type} [Message α] (d : Discoverer) (text : String) (refusal : Status)
    (refuses : α → Prop) (after : α → Discoverer) : Reply × Discoverer → Prop where
  | unread {error : MessageError}
      (failed : (Message.ofWire text : Except MessageError α) = .error error) :
      Handled d text refusal refuses after (.bare .badRequest, d)
  | refused {message : α} (read : Message.ofWire text = .ok message) (reason : refuses message) :
      Handled d text refusal refuses after (.bare refusal, d)
  | granted {message : α} {reply : Reply} (read : Message.ofWire text = .ok message)
      (noReason : ¬ refuses message) (success : reply.status = .ok) :
      Handled d text refusal refuses after (reply, after message)

/-- It is enough to know what is made of each message. -/
theorem handled_of_act {α : Type} [Message α] {text : String} {refusal : Status}
    {refuses : α → Prop} {after : α → Discoverer} {act : α → Reply × Discoverer}
    (acts : ∀ message, Message.ofWire text = .ok message →
      (refuses message ∧ act message = (.bare refusal, d)) ∨
        (¬ refuses message ∧ ∃ reply, reply.status = .ok ∧ act message = (reply, after message))) :
    Handled d text refusal refuses after (d.replyToMessage text act) := by
  rcases replyToMessage_cases d text act with ⟨error, failed, answered⟩ | ⟨message, read, answered⟩
  · rw [answered]
    exact .unread failed
  · rw [answered]
    rcases acts message read with ⟨reason, refused⟩ | ⟨noReason, reply, success, granted⟩
    · rw [refused]
      exact .refused read reason
    · rw [granted]
      exact .granted read noReason success

theorem status_ofMessage {α : Type} [Message α] {message : α}
    (writable : (Message.toTree message).Writable) : (Reply.ofMessage message).status = .ok := by
  rcases Message.exists_wire writable with ⟨wire, written, -⟩
  rw [Reply.ofMessage, written]

/-- Does a registered component have the id? -/
def HasId (d : Discoverer) (id : String) : Prop :=
  ∃ i component, d.directory.get? i = some component ∧ component.id = id

theorem Coherent.taken_iff (coherent : d.Coherent) {id : String} :
    d.directory.ids.contains id = true ↔ d.HasId id := by
  rw [SortedMap.contains_iff]
  constructor
  · rintro ⟨i, led⟩
    exact ⟨i, coherent.directory.ids.mp led⟩
  · rintro ⟨i, named⟩
    exact ⟨i, coherent.directory.ids.mpr named⟩

/-- A registration is refused if its id is taken. -/
theorem Coherent.register_handled (coherent : d.Coherent)
    (free : d.directory.components.get? d.directory.nextIndex = none) (text : String) :
    Handled d text .conflict (fun r : Registration => d.HasId r.id) (fun r => (d.register r).2)
      (d.answer .register text) := by
  refine handled_of_act ?_
  intro r _
  rcases register_cases coherent free r with
    ⟨taken, refused⟩ | ⟨directory, lease, done, -, granted⟩
  · refine .inl ⟨coherent.taken_iff.mp taken, ?_⟩
    rw [refused]
    rfl
  · -- a grant is always written, so that the reply is a success
    have notTaken : ¬ d.directory.ids.contains r.id = true :=
      SortedMap.not_contains_iff.mpr (Directory.insert_ok done).1
    rw [coherent.taken_iff] at notTaken
    refine .inr ⟨notTaken, .ofMessage (RegistrationReply.mk (d.leases.store d.now lease).1), ?_, ?_⟩
    · exact status_ofMessage (RegistrationReply.toTree_writable _)
    · rw [granted]
      rfl

/-- A heartbeat is refused if there is no component under its index. -/
theorem Coherent.heartbeat_handled (coherent : d.Coherent) (text : String) :
    Handled d text .notFound (fun h : Heartbeat => ¬ d.directory.contains h.index = true)
      (fun h => (d.heartbeat h).2) (d.answer .heartbeat text) := by
  refine handled_of_act ?_
  intro h _
  -- a heartbeat looks for the lease, which is there if the component is
  rcases heartbeat_cases d h with ⟨unleased, refused⟩ | ⟨old, lease, held, -, granted⟩
  · refine .inl ⟨?_, ?_⟩
    · rw [← coherent.same]
      exact SortedMap.not_contains_iff.mpr unleased
    · rw [refused]
      rfl
  · refine .inr ⟨?_, .bare .ok, rfl, ?_⟩
    · rw [← coherent.same]
      intro unleased
      exact unleased (SortedMap.contains_iff.mpr ⟨old, held⟩)
    · rw [granted]
      rfl

/-- A deregistration is refused if there is no component under its index. -/
theorem Coherent.deregister_handled (coherent : d.Coherent) (text : String) :
    Handled d text .notFound (fun m : Deregistration => ¬ d.directory.contains m.index = true)
      (fun m => (d.deregister m.index).2) (d.answer .deregister text) := by
  refine handled_of_act ?_
  intro m _
  by_cases known : d.directory.contains m.index = true
  · refine .inr ⟨not_not_intro known, .bare .ok, rfl, ?_⟩
    rcases deregister_known known with ⟨component, answer⟩
    show replyTo _ (d.deregister m.index) = (.bare .ok, (d.deregister m.index).2)
    rw [← Prod.eta (d.deregister m.index), answer]
    rfl
  · refine .inl ⟨known, ?_⟩
    rw [coherent.deregister_unknown known]
    rfl

/-- A search changes nothing, however it is answered. -/
theorem answer_query_state (d : Discoverer) (text : String) : (d.answer .query text).2 = d := by
  rcases replyToMessage_cases d text fun request : QueryRequest =>
      (.ofMessage (d.query request.query), d) with ⟨error, -, answered⟩ | ⟨request, -, answered⟩
  · rw [answer, answered]
  · rw [answer, answered]

/-- Can every registered id be written? -/
def HasWritableIds (d : Discoverer) : Prop :=
  ∀ i component, d.directory.get? i = some component → IsMarkupText component.id

/-- Where all ids can be written, those that are found can be written. -/
theorem Coherent.found_markup (coherent : d.Coherent) (ids : d.HasWritableIds) (q : Query) :
    ∀ found ∈ (d.query q).found, IsMarkupText found.id := by
  intro found mem
  rcases Option.map_eq_some_iff.mp (coherent.mem_found_iff.mp mem).2 with ⟨component, known, id⟩
  rw [← id]
  exact ids found.index component known

/-- No search is refused, where all ids can be written. -/
theorem Coherent.query_handled (coherent : d.Coherent) (ids : d.HasWritableIds) (text : String) :
    Handled d text .conflict (fun _ : QueryRequest => False) (fun _ => d)
      (d.answer .query text) := by
  refine handled_of_act ?_
  intro request _
  refine .inr ⟨not_false, .ofMessage (d.query request.query), ?_, rfl⟩
  exact status_ofMessage (QueryReply.toTree_writable (coherent.found_markup ids request.query))

/-! ## Failures -/

namespace Handled

variable {α : Type} [Message α] {text : String} {refusal : Status} {refuses : α → Prop}
  {after : α → Discoverer} {answer : Reply × Discoverer}

/-- What is not granted changes nothing. -/
theorem unchanged (handled : Handled d text refusal refuses after answer)
    (failed : answer.1.status.isSuccess = false) : answer.2 = d := by
  cases handled with
  | unread => rfl
  | refused => rfl
  | granted read noReason success =>
    rw [success] at failed
    cases failed

end Handled

/-- In every reached state, whatever is requested and by whatever method: without success all is as it
was, the components and their tables, the ids, the next index, the leases with their dates and what was
published of them. Searches and listings change nothing at all. -/
theorem Reached.failure_unchanged (reached : d.Reached) (request : Request) :
    ((d.serve request).1.status.isSuccess = false → (d.serve request).2 = d) ∧
      (request.path = Endpoint.query.path ∨ request.path = Endpoint.leases.path →
        (d.serve request).2 = d) := by
  have coherent := reached.coherent.1
  rcases serve_cases d request with
    ⟨reply, turnedAway, -, -⟩ | ⟨endpoint, text, reads, -, directed, -, answered⟩
  · rw [turnedAway]
    exact ⟨fun _ => rfl, fun _ => rfl⟩
  · rw [answered]
    constructor
    · intro failed
      -- coherence rules out the branches that have changed a store before they fail
      cases endpoint with
      | register => exact (coherent.register_handled reached.next_free text).unchanged failed
      | heartbeat => exact (coherent.heartbeat_handled text).unchanged failed
      | deregister => exact (coherent.deregister_handled text).unchanged failed
      | query => exact answer_query_state d text
      | leases => exact absurd rfl reads
    · intro asks
      rw [directed] at asks
      rcases asks with query | leases
      · cases Endpoint.path_injective query
        exact answer_query_state d text
      · exact absurd (Endpoint.path_injective leases) reads

/-- A registration of an id that is in use. -/
def latecomer : Request :=
  .ofText "POST" "/register" "<registration><id>w1</id><port>1</port></registration>"

theorem failure_unchanged_for_latecomer :
    (afterMorning.serve latecomer).1.status = .conflict ∧
      (afterMorning.serve latecomer).2 = afterMorning := by
  have directed : pathOf "/register" = Endpoint.register.path := by decide +kernel
  have refused : (afterMorning.serve latecomer).1.status = .conflict := by
    rw [latecomer, serve_ofText afterMorning (by decide) directed (by decide)]
    decide +kernel
  refine ⟨refused, (Reached.failure_unchanged afterMorning_reached latecomer).1 ?_⟩
  rw [refused]
  rfl

end Discoverer

end Discovery
