import Discovery.Client.Heartbeats
import Discovery.Proofs.Client.Exchange
import Discovery.Proofs.Lease.Expiry
import Discovery.Proofs.Registry.Spared

/-!
# A client keeps its component alive

A client that keeps its component registered sends a heartbeat at each multiple of its period from the time on at
which it registered. Between the heartbeats, and at the same time as them, there may be any operations that spare
the component: registrations, heartbeats and deregistrations of others, reports and sweeps, and the clock may be
set, as long as no heartbeat that is due is left out. Requests to the service are such operations
(`service_step_eq`).

The period is half the lease rounded down, or a second for the lease of a second; it is never longer than the
lease. So the lease is not expired until a heartbeat is due, and not at that time either, because a lease is expired
when its end has passed. The heartbeat begins it anew, and the next one is due a period later. `Kept` is what holds
after so many heartbeats.

* `heartbeatPeriod_le`: the period is not longer than the lease;
* `Kept.step`, `Kept.run`: the component is kept with each event, and during a run;
* `kept_alive`: the component is never evicted, and all heartbeats succeed;
* `sendHeartbeats_all`: so do those that are sent while nobody else does anything.
-/

namespace Discovery.Client

open Discoverer (Operation)

/-! ## The period and the lease -/

/-- Where the length of the lease is a number of sixty-four bits, the period is not longer than the lease. -/
theorem heartbeatPeriod_le {slotSeconds : UInt64} {slots : UInt32} (slot : 1 ≤ slotSeconds)
    (several : 1 ≤ slots) (fits : slotSeconds.toNat * slots.toNat < 2 ^ 64) :
    (heartbeatPeriod slotSeconds slots).toNat ≤ slotSeconds.toNat * slots.toNat := by
  rw [UInt64.le_iff_toNat_le] at slot
  have counted : max slots 1 = slots := by
    show (if slots ≤ 1 then 1 else slots) = slots
    split
    · next few => exact UInt32.le_antisymm several few
    · rfl
  have length : (slotSeconds * slots.toUInt64).toNat = slotSeconds.toNat * slots.toNat := by
    rw [UInt64.toNat_mul, UInt32.toNat_toUInt64, Nat.mod_eq_of_lt fits]
  have atLeastOne : 1 ≤ slotSeconds.toNat * slots.toNat :=
    Nat.mul_pos slot (UInt32.le_iff_toNat_le.mp several)
  have clamped : max (slotSeconds * slots.toUInt64) 2 =
      if slotSeconds * slots.toUInt64 ≤ 2 then 2 else slotSeconds * slots.toUInt64 := rfl
  rw [heartbeatPeriod, counted, UInt64.toNat_div, clamped]
  split
  · -- half of two seconds is the whole of the shortest lease
    exact atLeastOne
  · rw [length]
    exact Nat.div_le_self _ _

/-! ## The loop of a client -/

/-- A client that keeps its component registered: the address that it sends to, the seconds that it takes a slot to
have, the lease that it read, and the time at which it registered. -/
structure Loop where
  url : String
  slotSeconds : UInt64
  lease : Lease
  begun : Instant

/-- What happens while a client keeps its component registered. -/
inductive Event where
  /-- Something that is not done by the client. -/
  | other (op : Operation)
  /-- The client sends a heartbeat. -/
  | heartbeat

def Event.beats : Event → Nat
  | .other _ => 0
  | .heartbeat => 1

namespace Loop

variable {loop : Loop} {component : Component} {registration : Registration} {sent : Nat} {last : Instant}
  {before after d : Discoverer} {event : Event}

def heartbeat (loop : Loop) : Heartbeat :=
  ⟨loop.lease.index, some loop.lease.slots⟩

/-- The nanoseconds from one heartbeat to the next. -/
def period (loop : Loop) : Nat :=
  (heartbeatPeriod loop.slotSeconds loop.lease.slots).toNat * nanosPerSecond

/-- When the next heartbeat is due after so many, unless the calendar ends before. -/
def due? (loop : Loop) (sent : Nat) : Option Instant :=
  loop.begun.later? ((sent + 1) * loop.period : Nat)

def step (loop : Loop) (d : Discoverer) : Event → Discoverer
  | .other op => d.step op
  | .heartbeat => (send loop.url .heartbeat loop.heartbeat d).2

def run (loop : Loop) (d : Discoverer) (events : List Event) : Discoverer :=
  events.foldl loop.step d

/-- Can this happen after so many heartbeats? A heartbeat is sent when it is due. Everything else spares the
component, and the clock does not pass the time at which a heartbeat is due before this has been sent. -/
def Allows (loop : Loop) (sent : Nat) (d : Discoverer) : Event → Prop
  | .other op => d.Spares loop.lease.index op ∧
      ∀ due ∈ loop.due? sent, ¬ due.isBefore (d.clockAfter op) = true
  | .heartbeat => loop.due? sent = some d.now

instance (loop : Loop) (sent : Nat) (d : Discoverer) (event : Event) : Decidable (loop.Allows sent d event) :=
  match event with
  | .other op => inferInstanceAs (Decidable (d.Spares loop.lease.index op ∧
      ∀ due ∈ loop.due? sent, ¬ due.isBefore (d.clockAfter op) = true))
  | .heartbeat => inferInstanceAs (Decidable (loop.due? sent = some d.now))

/-- Can all this happen, one after another, after so many heartbeats? -/
def IsRun (loop : Loop) : Nat → Discoverer → List Event → Prop
  | _, _, [] => True
  | sent, d, event :: events =>
    loop.Allows sent d event ∧ loop.IsRun (sent + event.beats) (loop.step d event) events

instance decidableIsRun (loop : Loop) : ∀ sent d events, Decidable (loop.IsRun sent d events)
  | _, _, [] => .isTrue trivial
  | sent, d, event :: events =>
    @instDecidableAnd _ _ _ (loop.decidableIsRun (sent + event.beats) (loop.step d event) events)

/-- The slots have a second at least, the lease has a slot at least, and its length in seconds is a number of
sixty-four bits. -/
structure IsTimed (loop : Loop) : Prop where
  slot : 1 ≤ loop.slotSeconds
  granted : 1 ≤ loop.lease.slots
  fits : loop.slotSeconds.toNat * loop.lease.slots.toNat < 2 ^ 64

/-- The client registered and begins to keep its component registered, with slots of the same length as those of
the discoverer. -/
structure Begins (loop : Loop) (registration : Registration) (before after : Discoverer) : Prop where
  timed : loop.IsTimed
  reachesRegister : Reaches loop.url .register
  reachesHeartbeat : Reaches loop.url .heartbeat
  registered : register loop.url registration before = (.ok loop.lease, after)
  begun : before.now = loop.begun
  calendar : Instant.inCalendar loop.begun.seconds = true
  slot : before.settings.slot = .ofSeconds loop.slotSeconds.toNat

/-! ## When heartbeats are due -/

/-- A period is a second or more. -/
theorem second_le_period (loop : Loop) : nanosPerSecond ≤ loop.period := by
  have positive := heartbeatPeriod_pos loop.slotSeconds loop.lease.slots
  rw [UInt64.lt_iff_toNat_lt] at positive
  exact Nat.le_mul_of_pos_left _ positive

/-- A period is not longer than the lease. -/
theorem IsTimed.period_le (timed : loop.IsTimed) :
    loop.period ≤ loop.lease.slots.toNat * (Duration.ofSeconds loop.slotSeconds.toNat).nanos := by
  have seconds := heartbeatPeriod_le timed.slot timed.granted timed.fits
  calc loop.period
      ≤ loop.slotSeconds.toNat * loop.lease.slots.toNat * nanosPerSecond := Nat.mul_le_mul_right _ seconds
    _ = loop.lease.slots.toNat * (loop.slotSeconds.toNat * nanosPerSecond) := by
        rw [Nat.mul_comm loop.slotSeconds.toNat, Nat.mul_assoc]

/-- The periods until a heartbeat is due are a second or more. -/
theorem second_le_periods (loop : Loop) (sent : Nat) :
    (nanosPerSecond : Int) ≤ ((sent + 1) * loop.period : Nat) := by
  apply Int.ofNat_le.mpr
  exact Nat.le_trans loop.second_le_period (Nat.le_mul_of_pos_left _ (Nat.succ_pos sent))

/-- At the time at which a heartbeat is due the next one is due a period later. -/
theorem later?_of_due (due : loop.due? sent = some last) : last.later? loop.period = loop.due? (sent + 1) := by
  rw [Instant.later?_later? (loop.second_le_periods sent) (Int.natCast_nonneg _) due, due?, ← Int.natCast_add,
    ← Nat.succ_mul]

/-- The time at which a heartbeat is due is in the calendar. -/
theorem inCalendar_of_due (due : loop.due? sent = some last) : Instant.inCalendar last.seconds = true := by
  obtain ⟨plain, -⟩ := (Instant.later?_eq_some_iff_of_second_le (loop.second_le_periods sent)).mp due
  exact plain.calendar

/-! ## What is kept -/

/-- After so many heartbeats the component is registered. Its lease began with the last of them, or with the
registration, and the next one is due a period later, which has not passed. -/
structure Kept (loop : Loop) (component : Component) (sent : Nat) (last : Instant) (d : Discoverer) : Prop where
  holds : d.Holds component ⟨loop.lease.index, some last, loop.lease.slots⟩
  calendar : Instant.inCalendar last.seconds = true
  slot : d.settings.slot = .ofSeconds loop.slotSeconds.toNat
  next : last.later? loop.period = loop.due? sent
  inTime : ∀ due ∈ loop.due? sent, ¬ due.isBefore d.now = true

/-- A component that registered is kept to begin with. -/
theorem Begins.kept (begins : loop.Begins registration before after) :
    ∃ component, loop.Kept component 0 after.now after := by
  obtain ⟨received, granted, outcome, index, slots⟩ :=
    register_granted begins.reachesRegister begins.registered
  obtain ⟨holds, started⟩ := Discoverer.holds_of_register outcome
  -- the client reads of the reply what was granted, and the grant starts by the clock of the discoverer
  obtain ⟨settings, stands⟩ := before.step_frame (.register received)
  rw [Discoverer.step, outcome] at settings stands
  have now : after.now = loop.begun := stands.trans begins.begun
  have same : granted = ⟨loop.lease.index, some after.now, loop.lease.slots⟩ := by
    rw [index, slots, stands]
    exact congrArg (fun start => Lease.mk granted.index start granted.slots) started
  have first : after.now.later? loop.period = loop.due? 0 := by
    rw [now, due?, Nat.zero_add, Nat.one_mul]
  refine ⟨received.component granted.index, ?_, ?_, ?_, first, ?_⟩
  · rw [← same]
    exact holds
  · rw [now]
    exact begins.calendar
  · rw [settings]
    exact begins.slot
  · intro due isDue
    exact Instant.later?_not_before (Int.natCast_nonneg _) (first.trans isDue)

/-- The lease that is kept is not expired while no heartbeat that is due is left out. -/
theorem Kept.current (kept : loop.Kept component sent last d) (timed : loop.IsTimed) :
    Lease.isExpired ⟨loop.lease.index, some last, loop.lease.slots⟩ d.now d.settings.slot = false := by
  apply Lease.not_isExpired_by rfl kept.calendar (Int.ofNat_le.mpr loop.second_le_period)
  · rw [kept.slot]
    exact_mod_cast timed.period_le
  · rw [kept.next]
    exact kept.inTime

theorem Kept.other {op : Operation} (kept : loop.Kept component sent last d) (timed : loop.IsTimed)
    (allowed : loop.Allows sent d (.other op)) : loop.Kept component sent last (d.step op) := by
  obtain ⟨spares, inTime⟩ := allowed
  obtain ⟨settings, now⟩ := d.step_frame op
  refine ⟨kept.holds.step spares (kept.current timed), kept.calendar, ?_, kept.next, ?_⟩
  · rw [settings]
    exact kept.slot
  · rw [now]
    exact inTime

/-- A heartbeat succeeds whenever it is sent, and begins the lease anew. -/
theorem Kept.renewed (kept : loop.Kept component sent last d) (reaches : Reaches loop.url .heartbeat) :
    ∃ d', send loop.url .heartbeat loop.heartbeat d = (.ok "", d') ∧
      d'.Holds component ⟨loop.lease.index, some d.now, loop.lease.slots⟩ ∧ d'.settings = d.settings ∧
      d'.now = d.now := by
  refine ⟨_, send_heartbeat reaches kept.holds.lease, ⟨kept.holds.component, ?_⟩, rfl, rfl⟩
  exact (LeaseRegistry.get?_store _).trans (if_pos rfl)

/-- The component is kept with a heartbeat that is sent a period before the next one is due. -/
theorem Kept.anew {next : Nat} (kept : loop.Kept component sent last d) (reaches : Reaches loop.url .heartbeat)
    (calendar : Instant.inCalendar d.now.seconds = true) (first : d.now.later? loop.period = loop.due? next) :
    ∃ d', send loop.url .heartbeat loop.heartbeat d = (.ok "", d') ∧ loop.Kept component next d.now d' ∧
      d'.now = d.now := by
  obtain ⟨d', answered, holds, settings, now⟩ := kept.renewed reaches
  refine ⟨d', answered, ⟨holds, calendar, ?_, first, ?_⟩, now⟩
  · rw [settings]
    exact kept.slot
  · intro due isDue
    rw [now]
    exact Instant.later?_not_before (Int.natCast_nonneg _) (first.trans isDue)

/-- The component is kept with each event. -/
theorem Kept.step (kept : loop.Kept component sent last d) (timed : loop.IsTimed)
    (reaches : Reaches loop.url .heartbeat) (allowed : loop.Allows sent d event) :
    ∃ last', loop.Kept component (sent + event.beats) last' (loop.step d event) := by
  cases event with
  | other op => exact ⟨last, kept.other timed allowed⟩
  | heartbeat =>
    obtain ⟨d', answered, kept', -⟩ := kept.anew reaches (inCalendar_of_due allowed) (later?_of_due allowed)
    refine ⟨d.now, ?_⟩
    rw [Loop.step, answered]
    exact kept'

/-- The component is kept as long as nothing happens that is not allowed. -/
theorem Kept.run {events : List Event} (kept : loop.Kept component sent last d) (timed : loop.IsTimed)
    (reaches : Reaches loop.url .heartbeat) (isRun : loop.IsRun sent d events) :
    ∃ sent' last', loop.Kept component sent' last' (loop.run d events) := by
  -- along the run; a heartbeat moves the count on, everything else leaves the client as it is
  induction events generalizing sent last d with
  | nil => exact ⟨sent, last, kept⟩
  | cons event events ih =>
    obtain ⟨allowed, rest⟩ := isRun
    obtain ⟨last', kept'⟩ := kept.step timed reaches allowed
    exact ih kept' rest

/-! ## A client alone -/

/-- A period passes by setting the clock to when the heartbeat is due, or not at all at the end of the calendar. -/
theorem passPeriod_eq (next : d.now.later? loop.period = loop.due? sent) (sweeps : Bool) :
    passPeriod (heartbeatPeriod loop.slotSeconds loop.lease.slots) sweeps d =
      loop.run d (.other (.setClock ((loop.due? sent).getD d.now)) :: if sweeps then [.other .sweep] else []) := by
  have moved : d.advanceClock ((heartbeatPeriod loop.slotSeconds loop.lease.slots).toNat * nanosPerSecond) =
      d.step (.setClock ((loop.due? sent).getD d.now)) := by
    rw [← next]
    rfl
  rw [passPeriod, moved]
  cases sweeps <;> rfl

/-- The component is kept while a period passes. -/
theorem Kept.passPeriod (kept : loop.Kept component sent d.now d) (timed : loop.IsTimed) (sweeps : Bool) :
    loop.Kept component sent d.now (passPeriod (heartbeatPeriod loop.slotSeconds loop.lease.slots) sweeps d) ∧
      (passPeriod (heartbeatPeriod loop.slotSeconds loop.lease.slots) sweeps d).now =
        (loop.due? sent).getD d.now := by
  -- the clock moves to the very moment at which the heartbeat is due, and the lease ends no earlier
  have moved : loop.Kept component sent d.now (d.step (.setClock ((loop.due? sent).getD d.now))) := by
    refine kept.other timed ⟨trivial, ?_⟩
    intro due isDue
    rw [Option.mem_def.mp isDue]
    show ¬ due.isBefore due = true
    rw [Instant.isBefore_iff]
    omega
  rw [passPeriod_eq kept.next]
  cases sweeps with
  | false => exact ⟨moved, rfl⟩
  | true =>
    have swept : loop.Allows sent (d.step (.setClock ((loop.due? sent).getD d.now))) (.other .sweep) :=
      ⟨trivial, moved.inTime⟩
    exact ⟨moved.other timed swept, (Discoverer.step_frame _ .sweep).2⟩

/-- While nobody else does anything all heartbeats are sent with success, with sweeps when they are due or without,
and beyond the end of the calendar, where the clock stands still. -/
theorem Kept.sendHeartbeats (kept : loop.Kept component sent d.now d) (timed : loop.IsTimed)
    (reaches : Reaches loop.url .heartbeat) (sweeps : Bool) (periods : Nat) :
    ∃ final, sendHeartbeats loop.url loop.heartbeat (heartbeatPeriod loop.slotSeconds loop.lease.slots) sweeps
      periods d = (periods, .stopped, final) ∧ final.description? loop.lease.index = some component := by
  induction periods generalizing sent d with
  | zero => exact ⟨d, rfl, kept.holds.component⟩
  | succ periods ih =>
    obtain ⟨passed, now⟩ := kept.passPeriod timed sweeps
    -- at the end of the calendar the heartbeat is sent without being due, and none is due later
    obtain ⟨next, calendar, first⟩ : ∃ next,
        Instant.inCalendar ((loop.due? sent).getD d.now).seconds = true ∧
          ((loop.due? sent).getD d.now).later? loop.period = loop.due? next := by
      cases due : loop.due? sent with
      | none => exact ⟨sent, kept.calendar, kept.next⟩
      | some now' => exact ⟨sent + 1, inCalendar_of_due due, later?_of_due due⟩
    rw [← now] at calendar first
    obtain ⟨d', answered, kept', now'⟩ := passed.anew reaches calendar first
    rw [← now'] at kept'
    obtain ⟨final, all, known⟩ := ih kept'
    refine ⟨final, ?_, known⟩
    rw [Client.sendHeartbeats, answered]
    simp only [all]

end Loop

/-! ## Main theorem -/

/-- If a client registers and sends its heartbeats when they are due, then its component and the lease of
it are there after every run, whatever others did in the meantime that spared the component and whenever
there were sweeps, and a heartbeat that is sent then succeeds. A run may stop at any event, so that this is
so at all times. The period is never zero, whatever the seconds and the slots. -/
theorem kept_alive :
    (∀ (loop : Loop) (registration : Registration) (before after : Discoverer),
      loop.Begins registration before after → ∃ component, ∀ events, loop.IsRun 0 after events →
        (loop.run after events).description? loop.lease.index = some component ∧
        (loop.run after events).leases.contains loop.lease.index = true ∧
        (send loop.url .heartbeat loop.heartbeat (loop.run after events)).1 = .ok "") ∧
    ∀ slotSeconds slots, 0 < heartbeatPeriod slotSeconds slots := by
  refine ⟨?_, heartbeatPeriod_pos⟩
  intro loop registration before after begins
  obtain ⟨component, keptAtFirst⟩ := begins.kept
  refine ⟨component, ?_⟩
  intro events isRun
  -- whatever has happened, one more heartbeat is answered
  obtain ⟨sent, last, kept⟩ := keptAtFirst.run begins.timed begins.reachesHeartbeat isRun
  obtain ⟨d', answered, -⟩ := kept.renewed begins.reachesHeartbeat
  refine ⟨kept.holds.component, SortedMap.contains_iff.mpr ⟨_, kept.holds.lease⟩, ?_⟩
  rw [answered]

/-- The client with the shortest lease: the one slot of it has one second. -/
def shortest : Loop where
  url := "http://localhost:5555/"
  slotSeconds := 1
  lease := ⟨1, some ⟨0, 0⟩, 1⟩
  begun := ⟨0, 0⟩

def worker : Registration :=
  ⟨"w1", "", 2000, "", [], [], [], some 1⟩

/-- The discoverer at the beginning of 1970, with slots of one second. -/
def quiet : Discoverer :=
  .new ⟨.ofSeconds 1, 2⟩ ⟨0, 0⟩

/-- Two periods, with sweeps when the heartbeats are due and between them, and with another component, which is
evicted. -/
def twoPeriods : List Event :=
  [.other (.register ⟨"w2", "", 2001, "", [], [], [], some 0⟩), .other (.setClock ⟨1, 0⟩), .other .sweep,
    .heartbeat, .other (.notify [2, 1]), .other (.setClock ⟨1, 999999999⟩), .other .sweep,
    .other (.setClock ⟨2, 0⟩), .other .sweep, .heartbeat, .other .sweep]

theorem kept_alive_shortest :
    ∃ after, shortest.Begins worker quiet after ∧ shortest.IsRun 0 after twoPeriods ∧
      ∃ component, (shortest.run after twoPeriods).description? 1 = some component ∧
        (shortest.run after twoPeriods).leases.contains 1 = true ∧
        (send shortest.url .heartbeat shortest.heartbeat (shortest.run after twoPeriods)).1 = .ok "" := by
  have begins : shortest.Begins worker quiet (quiet.register worker).2 := {
    timed := ⟨by decide, by decide, by decide⟩
    reachesRegister := by unfold Reaches; decide +kernel
    reachesHeartbeat := by unfold Reaches; decide +kernel
    registered := by decide +kernel
    begun := rfl
    calendar := by decide +kernel
    slot := rfl }
  have isRun : shortest.IsRun 0 (quiet.register worker).2 twoPeriods := by decide +kernel
  obtain ⟨component, kept⟩ := kept_alive.1 shortest worker quiet _ begins
  exact ⟨_, begins, isRun, component, kept twoPeriods isRun⟩

/-! ## A client by itself -/

/-- If a client registers, then all heartbeats that it sends while nobody else does anything are answered with
success, with sweeps when they are due or without. -/
theorem sendHeartbeats_all {loop : Loop} {registration : Registration} {before after : Discoverer}
    (begins : loop.Begins registration before after) (sweeps : Bool) (periods : Nat) :
    ∃ final, sendHeartbeats loop.url loop.heartbeat (heartbeatPeriod loop.slotSeconds loop.lease.slots) sweeps
      periods after = (periods, .stopped, final) := by
  obtain ⟨component, kept⟩ := begins.kept
  obtain ⟨final, all, -⟩ := kept.sendHeartbeats begins.timed begins.reachesHeartbeat sweeps periods
  exact ⟨final, all⟩

end Discovery.Client
