import Discovery.Proofs.Service.Handled

/-!
# What a service answers

A service takes requests of any kind, sweeps, and has its clock set. Each of these is one operation of
the discoverer, and where it is a registration, its id was read from a document. So all ids that a
service holds can be written, and it is never at a loss for a reply.

* `service_step_eq`, `Served.reached`: what happens to a service are operations of the discoverer;
* `Served.hasWritableIds`: the ids of a service can be written;
* `Served.statuses_exact`: which status is given when, and that none is an internal error.
-/

namespace Discovery

open Markup

/-! ## Runs of a service -/

namespace Service

/-- What happens to a service. -/
inductive Operation where
  | request (request : Request)
  | sweep
  /-- The clock is set, forwards or backwards. -/
  | setClock (now : Instant)
deriving Repr, DecidableEq

def step (d : Discoverer) : Operation → Discoverer
  | .request request => (d.serve request).2
  | .sweep => d.sweep.2
  | .setClock now => d.setClock now

def admits (d : Discoverer) : Operation → Bool
  | .request request =>
    request.method = "POST" ∧ request.path = Endpoint.register.path ∧
      (d.serve request).1.status = .ok
  | _ => false

def machine : Machine Discoverer Operation := ⟨step, admits⟩

end Service

open Service

namespace Discoverer

variable {d : Discoverer}

/-- The discoverers to which everything came through a service. -/
def Served (d : Discoverer) : Prop :=
  Service.machine.Reached (fun d => ∃ settings now, d = .new settings now) d

/-! ## One operation for another -/

/-- The operation brings in no id that cannot be written. -/
def Operation.IsWritable : Operation → Prop
  | .register r => IsMarkupText r.id
  | _ => True

theorem statusOf_ne_ok (error : DiscoveryError) : statusOf error ≠ .ok := by
  rcases error with ⟨⟨id⟩⟩ | ⟨index | index⟩ | index
  all_goals exact nofun

section ReplyTo

variable {α : Type} {success : α → Reply} {answer : Except DiscoveryError α × Discoverer}

theorem replyTo_state : (replyTo success answer).2 = answer.2 := by
  rcases answer with ⟨error | value, after⟩
  · rfl
  · rfl

/-- A reply is a success if the operation is one. -/
theorem replyTo_ok_iff (succeeds : ∀ value, (success value).status = .ok) :
    (replyTo success answer).1.status = .ok ↔ answer.1.isOk = true := by
  rcases answer with ⟨error | value, after⟩
  · constructor
    · intro ok
      exact absurd ok (statusOf_ne_ok error)
    · exact nofun
  · exact ⟨fun _ => rfl, fun _ => succeeds value⟩

end ReplyTo

/-- A text that reaches an endpoint has the effect of one operation, and that admits a component if it
is a registration that succeeds. -/
theorem answer_eq (d : Discoverer) {endpoint : Endpoint} (reads : endpoint ≠ .leases)
    (text : String) :
    ∃ op : Operation, (d.answer endpoint text).2 = d.step op ∧ op.IsWritable ∧
      (d.admits op = true ↔ endpoint = .register ∧ (d.answer endpoint text).1.status = .ok) := by
  have otherEndpoint : ∀ {endpoint : Endpoint} {op : Operation} {success : Prop},
      endpoint ≠ .register → d.admits op = false →
      (d.admits op = true ↔ endpoint = .register ∧ success) := by
    intro endpoint op success other admitsNone
    rw [admitsNone]
    exact iff_of_false Bool.false_ne_true fun both => other both.1
  -- what is no message has no effect, as if the clock were set to what it shows
  cases endpoint with
  | register =>
    rw [answer]
    rcases replyToMessage_cases (α := Registration) d text _ with
      ⟨error, -, answered⟩ | ⟨r, read, answered⟩
    · rw [answered]
      refine ⟨.setClock d.now, rfl, trivial, iff_of_false Bool.false_ne_true ?_⟩
      rintro ⟨-, ok⟩
      cases ok
    · rw [answered]
      refine ⟨.register r, replyTo_state, Registration.id_markup read, ?_⟩
      have written : ∀ lease, (Reply.ofMessage (RegistrationReply.mk lease)).status = .ok := by
        intro lease
        exact status_ofMessage (RegistrationReply.toTree_writable _)
      rw [replyTo_ok_iff written]
      exact ⟨fun admitted => ⟨rfl, admitted⟩, And.right⟩
  | heartbeat =>
    rw [answer]
    rcases replyToMessage_cases (α := Heartbeat) d text _ with
      ⟨error, -, answered⟩ | ⟨h, -, answered⟩
    · rw [answered]
      exact ⟨.setClock d.now, rfl, trivial, otherEndpoint (by decide) rfl⟩
    · rw [answered]
      exact ⟨.heartbeat h, replyTo_state, trivial, otherEndpoint (by decide) rfl⟩
  | deregister =>
    rw [answer]
    rcases replyToMessage_cases (α := Deregistration) d text _ with
      ⟨error, -, answered⟩ | ⟨m, -, answered⟩
    · rw [answered]
      exact ⟨.setClock d.now, rfl, trivial, otherEndpoint (by decide) rfl⟩
    · rw [answered]
      exact ⟨.deregister m.index, replyTo_state, trivial, otherEndpoint (by decide) rfl⟩
  | query =>
    exact ⟨.setClock d.now, answer_query_state d text, trivial, otherEndpoint (by decide) rfl⟩
  | leases => exact absurd rfl reads

/-- Whatever happens to a service is one operation of the discoverer, and admits a component if the
operation does. -/
theorem service_step_eq (d : Discoverer) (op : Service.Operation) :
    ∃ op' : Operation, Service.machine.step d op = d.step op' ∧
      Service.machine.admits d op = d.admits op' ∧ op'.IsWritable := by
  cases op with
  | sweep => exact ⟨.sweep, rfl, rfl, trivial⟩
  | setClock now => exact ⟨.setClock now, rfl, rfl, trivial⟩
  | request request =>
    show ∃ op' : Operation, (d.serve request).2 = _ ∧ Service.admits d (.request request) = _ ∧ _
    rcases serve_cases d request with
      ⟨reply, turnedAway, -, noSuccess⟩ | ⟨endpoint, text, reads, post, directed, -, answered⟩
    · -- a request that is turned away is an operation that changes nothing
      refine ⟨.setClock d.now, ?_, ?_, trivial⟩
      · rw [turnedAway]
        rfl
      · rw [Service.admits, turnedAway]
        refine decide_eq_false ?_
        rintro ⟨post, -, ok⟩
        exact noSuccess post ok
    · rcases d.answer_eq reads text with ⟨op', after, writable, admitted⟩
      refine ⟨op', ?_, ?_, writable⟩
      · rw [answered, after]
      · rw [Service.admits, answered, Bool.eq_iff_iff, decide_eq_true_iff, admitted, directed]
        constructor
        · rintro ⟨-, same, ok⟩
          exact ⟨Endpoint.path_injective same, ok⟩
        · rintro ⟨rfl, ok⟩
          exact ⟨post, rfl, ok⟩

/-- What is reached through a service is reached by operations. -/
theorem Served.reached (served : d.Served) : d.Reached := by
  refine Machine.Reached.of_steps ?_ served
  intro s op
  rcases s.service_step_eq op with ⟨op', after, admitted, -⟩
  exact ⟨op', after, admitted⟩

/-! ## Ids that can be written -/

theorem hasWritableIds_new (settings : LeaseSettings) (now : Instant) :
    (new settings now).HasWritableIds := by
  intro i component known
  cases known

theorem HasWritableIds.step {op : Operation} (ids : d.HasWritableIds) (writable : op.IsWritable)
    (coherent : d.Coherent) (free : d.directory.components.get? d.directory.nextIndex = none) :
    (d.step op).HasWritableIds := by
  intro i component known
  rcases get?_of_step coherent free known with before | ⟨-, r, rfl, rfl⟩
  · exact ids i component before
  · exact writable

/-- Whatever happened to a service, its ids can be written. -/
theorem Served.hasWritableIds (served : d.Served) : d.HasWritableIds := by
  have hinit : ∀ s : Discoverer, (∃ settings now, s = .new settings now) →
      (s.Coherent ∧ s.directory.Counted 0) ∧ s.HasWritableIds := by
    rintro s ⟨settings, now, rfl⟩
    exact ⟨⟨coherent_new settings now, Directory.counted_new⟩, hasWritableIds_new settings now⟩
  -- coherence goes along, because a registration is understood in a coherent state only
  have hstep : ∀ n (s : Discoverer) op, n + (Service.machine.admits s op).toNat < indexLimit →
      (s.Coherent ∧ s.directory.Counted n) ∧ s.HasWritableIds →
      ((Service.machine.step s op).Coherent ∧
        (Service.machine.step s op).directory.Counted
          (n + (Service.machine.admits s op).toNat)) ∧
        (Service.machine.step s op).HasWritableIds := by
    rintro n s op few ⟨inv, ids⟩
    rcases s.service_step_eq op with ⟨op', after, admitted, writable⟩
    rw [admitted] at few ⊢
    rw [after]
    exact ⟨step_coherent few inv, ids.step writable inv.1 inv.2.next_free⟩
  rcases Machine.Reached.invariant hinit hstep served with ⟨n, few, inv, ids⟩
  exact ids

/-! ## Statuses -/

/-- The status of a reply tells a text that is no message, a message that is refused, and one that is
granted from each other. -/
structure Tells {α : Type} [Message α] (status : Status) (text : String) (refusal : Status)
    (refuses : α → Prop) : Prop where
  unread : status = .badRequest ↔
    ∃ error, (Message.ofWire text : Except MessageError α) = .error error
  refused : status = refusal ↔ ∃ message : α, Message.ofWire text = .ok message ∧ refuses message
  granted : status = .ok ↔ ∃ message : α, Message.ofWire text = .ok message ∧ ¬ refuses message

section Tells

variable {α : Type} [Message α] {text : String} {refusal : Status} {refuses : α → Prop}
  {after : α → Discoverer} {answer : Reply × Discoverer} {message : α}

/-- A text is read as one message only. -/
theorem exists_read_iff {P : α → Prop} (read : Message.ofWire text = .ok message) :
    (∃ message' : α, Message.ofWire text = .ok message' ∧ P message') ↔ P message := by
  rw [read]
  constructor
  · rintro ⟨message', same, holds⟩
    cases same
    exact holds
  · intro holds
    exact ⟨message, rfl, holds⟩

theorem not_unread_of_read (read : Message.ofWire text = .ok message) :
    ¬ ∃ error, (Message.ofWire text : Except MessageError α) = .error error := by
  rintro ⟨error, failed⟩
  rw [read] at failed
  cases failed

theorem not_read_of_unread {P : α → Prop} {error : MessageError}
    (failed : (Message.ofWire text : Except MessageError α) = .error error) :
    ¬ ∃ message' : α, Message.ofWire text = .ok message' ∧ P message' := by
  rintro ⟨message', read, -⟩
  rw [failed] at read
  cases read

/-- Handling a text gives a status of its own to each outcome. -/
theorem Handled.tells (handled : Handled d text refusal refuses after answer)
    (notBad : refusal ≠ .badRequest) (notOk : refusal ≠ .ok) :
    Tells answer.1.status text refusal refuses := by
  -- in each case one of the equivalences has both sides true, and the others both sides false
  cases handled with
  | unread failed =>
    constructor
    · exact iff_of_true rfl ⟨_, failed⟩
    · exact iff_of_false notBad.symm (not_read_of_unread failed)
    · exact iff_of_false nofun (not_read_of_unread failed)
  | refused read reason =>
    constructor
    · exact iff_of_false notBad (not_unread_of_read read)
    · exact iff_of_true rfl ((exists_read_iff read).mpr reason)
    · refine iff_of_false notOk ?_
      rw [exists_read_iff read]
      exact not_not_intro reason
  | granted read noReason success =>
    rw [success]
    constructor
    · exact iff_of_false nofun (not_unread_of_read read)
    · refine iff_of_false notOk.symm ?_
      rw [exists_read_iff read]
      exact noReason
    · exact iff_of_true rfl ((exists_read_iff read).mpr noReason)

/-- No outcome is the service's own failure. -/
theorem Handled.not_internalError (handled : Handled d text refusal refuses after answer)
    (notInternal : refusal ≠ .internalError) : answer.1.status ≠ .internalError := by
  cases handled with
  | unread => exact nofun
  | refused => exact notInternal
  | granted read noReason success =>
    rw [success]
    exact nofun

end Tells

/-- Whatever happened to a service before, no request is answered with an internal error: every reply
can be written. And a text of legal length that is sent to an endpoint is a bad request exactly if it is
no message of the endpoint's kind; otherwise a registration is a conflict exactly if a component has its
id, a heartbeat or a deregistration is not found exactly if no component has its index, and all else is
granted, every search among it. -/
theorem Served.statuses_exact (served : d.Served) :
    (∀ request, (d.serve request).1.status ≠ .internalError) ∧
      ∀ target text, text.utf8ByteSize ≤ maxBodyBytes →
        (pathOf target = Endpoint.register.path →
          Tells (d.serve (.ofText "POST" target text)).1.status text .conflict
            fun r : Registration => d.HasId r.id) ∧
        (pathOf target = Endpoint.heartbeat.path →
          Tells (d.serve (.ofText "POST" target text)).1.status text .notFound
            fun h : Heartbeat => ¬ d.directory.contains h.index = true) ∧
        (pathOf target = Endpoint.deregister.path →
          Tells (d.serve (.ofText "POST" target text)).1.status text .notFound
            fun m : Deregistration => ¬ d.directory.contains m.index = true) ∧
        (pathOf target = Endpoint.query.path →
          Tells (d.serve (.ofText "POST" target text)).1.status text .conflict
            fun _ : QueryRequest => False) := by
  have coherent := served.reached.coherent.1
  -- each endpoint by its own description; only searches depend on the ids being writable
  have registers := coherent.register_handled served.reached.next_free
  have searches := coherent.query_handled served.hasWritableIds
  constructor
  · intro request
    rcases serve_cases d request with
      ⟨reply, turnedAway, notInternal, -⟩ | ⟨endpoint, text, reads, -, -, -, answered⟩
    · rw [turnedAway]
      exact notInternal
    · rw [answered]
      cases endpoint with
      | register => exact (registers text).not_internalError (by decide)
      | heartbeat => exact (coherent.heartbeat_handled text).not_internalError (by decide)
      | deregister => exact (coherent.deregister_handled text).not_internalError (by decide)
      | query => exact (searches text).not_internalError (by decide)
      | leases => exact absurd rfl reads
  · intro target text short
    refine ⟨?_, ?_, ?_, ?_⟩
    · intro directed
      rw [serve_ofText d (by decide) directed short]
      exact (registers text).tells (by decide) (by decide)
    · intro directed
      rw [serve_ofText d (by decide) directed short]
      exact (coherent.heartbeat_handled text).tells (by decide) (by decide)
    · intro directed
      rw [serve_ofText d (by decide) directed short]
      exact (coherent.deregister_handled text).tells (by decide) (by decide)
    · intro directed
      rw [serve_ofText d (by decide) directed short]
      exact (searches text).tells (by decide) (by decide)

def announcement : String :=
  "<registration><id>&lt;w1&gt;</id><port>2000</port></registration>"

/-- A component registers, nonsense is sent, and the leases are listed and swept. -/
def quietHour : List Service.Operation :=
  [.request (.ofText "POST" "/register" announcement), .request (.ofText "POST" "/query" "<and"),
    .request (.ofText "GET" "/leases" ""), .setClock ⟨60, 0⟩, .sweep]

def afterQuietHour : Discoverer :=
  Service.machine.run (new .standard ⟨0, 0⟩) quietHour

theorem statuses_after_quietHour :
    afterQuietHour.Served ∧ (∀ request, (afterQuietHour.serve request).1.status ≠ .internalError) ∧
      (afterQuietHour.serve (.ofText "POST" "/register" announcement)).1.status = .conflict := by
  have served : afterQuietHour.Served :=
    Service.machine.reached_of_short ⟨.standard, ⟨0, 0⟩, rfl⟩ (by decide)
  rcases Served.statuses_exact served with ⟨neverInternal, ofTexts⟩
  have directed : pathOf "/register" = Endpoint.register.path := by decide +kernel
  have read : Message.ofWire announcement =
      .ok (⟨"<w1>", "", 2000, "", [], [], [], none⟩ : Registration) := by decide +kernel
  have named : afterQuietHour.HasId "<w1>" := by
    refine ⟨1, ⟨1, "<w1>", "", 2000, "", [], [], []⟩, ?_, rfl⟩
    decide +kernel
  exact ⟨served, neverInternal,
    ((ofTexts "/register" announcement (by decide)).1 directed).refused.mpr ⟨_, read, named⟩⟩

end Discoverer

end Discovery
