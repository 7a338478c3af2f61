import Discovery.Client.Exchange
import Discovery.Proofs.Message.Lease
import Discovery.Proofs.Message.Renewal
import Discovery.Proofs.Service.Served

/-!
# What a client comes to know

The client reads the reply of the service to what it sent. The lease that it reads of a registration has the index
and the slots of the lease that was granted, whatever becomes of the start date on the way. A heartbeat arrives as
it was sent, and is answered with success where there is a lease to renew.

* `register_granted`: where a registration succeeds the discoverer granted a lease;
* `send_heartbeat`: a heartbeat for a lease that there is succeeds.
-/

namespace Discovery

open Markup Service

namespace Client

variable {d after : Discoverer} {url : String}

/-! ## Sending -/

/-- Behind the address the endpoint is found at its path. -/
def Reaches (url : String) (endpoint : Endpoint) : Prop :=
  pathOf (target url endpoint) = endpoint.path

/-- What is sent to an endpoint is received there, and a reply without success is a failure. -/
theorem send_eq {α : Type} [Message α] {message : α} {endpoint : Endpoint} {wire : String}
    (reads : endpoint ≠ .leases) (reaches : Reaches url endpoint) (written : Message.toWire message = .ok wire) :
    send url endpoint message d =
      (textOf (d.receive endpoint wire.toUTF8.toList).1, (d.receive endpoint wire.toUTF8.toList).2) := by
  rw [send, written]
  simp only [d.serve_post reads reaches]

/-- A reply with a text has succeeded. -/
theorem textOf_eq_ok_iff {reply : Reply} {text : String} :
    textOf reply = .ok text ↔ reply.status = .ok ∧ reply.body = text := by
  rw [textOf]
  split
  · next success => rw [Except.ok.injEq, and_iff_right (Status.isSuccess_iff.mp success)]
  · next failure => exact iff_of_false nofun fun both => failure (Status.isSuccess_iff.mpr both.1)

/-- If an exchange succeeds, then a text was answered with success. -/
theorem answered_of_send {α : Type} [Message α] {message : α} {endpoint : Endpoint} {text : String}
    (reads : endpoint ≠ .leases) (reaches : Reaches url endpoint)
    (sent : send url endpoint message d = (.ok text, after)) :
    ∃ body reply, d.answer endpoint body = (reply, after) ∧ reply.status = .ok ∧ reply.body = text := by
  cases written : Message.toWire message with
  | error error =>
    rw [send, written] at sent
    cases sent
  | ok wire =>
    rw [send_eq reads reaches written, Prod.mk.injEq, textOf_eq_ok_iff] at sent
    obtain ⟨⟨success, content⟩, rfl⟩ := sent
    -- a body that is refused before it is read is answered by no success
    unfold Discoverer.receive at *
    cases read : readBody wire.toUTF8.toList with
    | error refusal =>
      rw [read] at success
      rcases readBody_error read with bad | long
      · rw [bad] at success
        cases success
      · rw [long] at success
        cases success
    | ok body =>
      rw [read] at success content
      exact ⟨body, _, rfl, success, content⟩

/-- A message is read of a reply if the reply has a text and the message is read of it. -/
theorem readReply_eq_ok {α : Type} [Message α] {message : α} {text : Except Failure String}
    (read : readReply text = .ok message) : ∃ words, text = .ok words ∧ Message.ofWire words = .ok message := by
  cases text with
  | error failure => cases read
  | ok words =>
    refine ⟨words, rfl, ?_⟩
    change (Message.ofWire words).mapError Failure.wire = .ok message at read
    cases decoded : (Message.ofWire words : Except MessageError α) with
    | error error =>
      rw [decoded] at read
      cases read
    | ok message' =>
      rw [decoded] at read
      cases read
      rfl

/-! ## Registering -/

/-- A registration that is answered with success was granted a lease, and this is what the reply says. -/
theorem granted_of_answer {body : String} {reply : Reply} (answered : d.answer .register body = (reply, after))
    (success : reply.status = .ok) :
    ∃ received granted, d.register received = (.ok granted, after) ∧
      Message.toWire (RegistrationReply.mk granted) = .ok reply.body := by
  rw [Discoverer.answer] at answered
  rcases Discoverer.replyToMessage_cases (α := Registration) d body _ with ⟨error, -, bad⟩ | ⟨received, -, handled⟩
  · rw [bad] at answered
    cases answered
    cases success
  · rw [handled] at answered
    rcases outcome : d.register received with ⟨error | granted, after'⟩
    · rw [outcome] at answered
      cases answered
      exact absurd success (Discoverer.statusOf_ne_ok error)
    · rw [outcome] at answered
      cases answered
      -- the grant can always be written, so that the reply carries it
      have writable : (Message.toTree (RegistrationReply.mk granted)).Writable :=
        RegistrationReply.toTree_writable ⟨granted⟩
      obtain ⟨wire, written, -⟩ := Message.exists_wire writable
      have carried : (Reply.ofMessage (RegistrationReply.mk granted)).body = wire := by
        rw [Reply.ofMessage, written]
      exact ⟨received, granted, outcome, written.trans (congrArg Except.ok carried.symm)⟩

/-- A lease that is read of the reply that grants one has its index and its slots. -/
theorem lease_of_reply {granted : Lease} {text : String} {reply : RegistrationReply}
    (written : Message.toWire (RegistrationReply.mk granted) = .ok text) (read : Message.ofWire text = .ok reply) :
    reply.lease.index = granted.index ∧ reply.lease.slots = granted.slots := by
  have writable : (Message.toTree (RegistrationReply.mk granted)).Writable :=
    RegistrationReply.toTree_writable ⟨granted⟩
  obtain ⟨wire, sent, received⟩ := Message.exists_wire writable
  obtain rfl : text = wire := Except.ok.inj (written.symm.trans sent)
  have asTree : Message.ofTree (Message.toTree (RegistrationReply.mk granted)).norm =
      (Lease.ofTree granted.toTree).map RegistrationReply.mk := by
    show RegistrationReply.ofTree (RegistrationReply.mk granted).toTree.norm = _
    rw [RegistrationReply.norm_toTree, RegistrationReply.ofTree_toTree]
  rw [received, asTree, Lease.ofTree_toTree] at read
  -- the start date alone may be read otherwise, or keep the lease from being read
  cases started : Lease.startOfTree granted.toTree with
  | error error =>
    rw [started] at read
    cases read
  | ok start =>
    rw [started] at read
    cases read
    exact ⟨rfl, rfl⟩

/-- If a client reads a lease of the reply to its registration, then the discoverer granted one with the same index
and slots to the registration that it received. -/
theorem register_granted {registration : Registration} {lease : Lease} (reaches : Reaches url .register)
    (registered : register url registration d = (.ok lease, after)) :
    ∃ received granted, d.register received = (.ok granted, after) ∧ lease.index = granted.index ∧
      lease.slots = granted.slots := by
  unfold register at registered
  rcases sent : send url .register registration d with ⟨text, after'⟩
  rw [sent] at registered
  obtain ⟨read, rfl⟩ := Prod.mk.inj registered
  obtain ⟨reply, readText, rfl⟩ := Markup.map_eq_ok read
  obtain ⟨words, rfl, decoded⟩ := readReply_eq_ok readText
  obtain ⟨body, answer, answered, success, rfl⟩ := answered_of_send (by decide) reaches sent
  obtain ⟨received, granted, outcome, written⟩ := granted_of_answer answered success
  exact ⟨received, granted, outcome, lease_of_reply written decoded⟩

/-! ## Renewing -/

/-- A heartbeat succeeds where there is a lease to renew, and begins the lease anew. -/
theorem send_heartbeat {h : Heartbeat} {old : Lease} (reaches : Reaches url .heartbeat)
    (held : d.leases.get? h.index = some old) :
    send url .heartbeat h d = (.ok "", { d with
      leases := (d.leases.store d.now (.unstarted h.index (h.slots.getD old.slots))).2 }) := by
  obtain ⟨wire, written, read, short⟩ := h.exists_wire
  have fits : wire.utf8ByteSize ≤ maxBodyBytes := Nat.le_trans short (by decide)
  rw [send_eq (by decide) reaches written, Discoverer.receive, readBody_toUTF8 fits]
  rcases Discoverer.heartbeat_cases d h with ⟨unleased, -⟩ | ⟨old', lease, held', rfl, granted⟩
  · rw [unleased] at held
    cases held
  · obtain rfl : old = old' := Option.some.inj (held.symm.trans held')
    have answered : d.answer .heartbeat wire =
        (.bare .ok, { d with
          leases := (d.leases.store d.now (.unstarted h.index (h.slots.getD old.slots))).2 }) := by
      rw [Discoverer.answer, Discoverer.replyToMessage, read]
      simp only [granted]
      rfl
    simp only [answered]
    rfl

end Client

end Discovery
