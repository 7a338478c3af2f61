import Discovery.Client.Command
import Discovery.Client.Heartbeats

/-!
# Running commands

A command is run against a discoverer, in whose hands the clock is. What it leaves is a report: what
it writes on its two channels, and how it ends.
-/

namespace Discovery.Client

open Service

/-- How a command ends. -/
inductive Exit where
  /-- By itself, with a code that is zero for success. -/
  | code (n : Nat)
  /-- It is stopped. -/
  | stopped
deriving Repr, DecidableEq

/-- What a command leaves. -/
structure Report where
  exit : Exit
  /-- What it writes for its user. -/
  output : String
  /-- What it writes about its failures. -/
  errors : String
deriving Repr, DecidableEq

namespace Report

def success (lines : List String) : Report :=
  ⟨.code 0, String.join (lines.map (· ++ "\n")), ""⟩

def failure (line : String) : Report :=
  ⟨.code 1, "", line ++ "\n"⟩

/-- The report of an exchange that failed; a refusal is told after what was tried. -/
def failed (attempt : String) : Failure → Report
  | .refused status => failure s!"{attempt}: {status.text}"
  | other => failure s!"Error: {other.inspect}"

/-- The report of a line that is refused, which is no failure if it asks for help or the version. -/
def refused (refusal : Refusal) : Report :=
  match refusal with
  | .help => success [refusal.message]
  | .version => success [refusal.message]
  | _ => ⟨.code 2, "", refusal.message ++ "\n"⟩

def ofExchange {α : Type} (attempt : String) (lines : α → List String) :
    Except Failure α → Report
  | .ok answer => success (lines answer)
  | .error failure => failed attempt failure

end Report

/-- A date that may be missing, laid open. -/
def inspectDate : Option Instant → String
  | none => "None"
  | some date => inParentheses "Some" date.toZulu

def grantLines (id : String) (lease : Lease) : List String :=
  [s!"Registered {id} as component {lease.index.toNat}",
    s!"Lease: {lease.slots.toNat} slot(s) from {inspectDate lease.start}"]

def statusLine (status : LeaseStatus) : String :=
  let ends := match status.ends with
    | none => "-"
    | some date => date.toMessage
  s!"Component: {status.index.toNat}, Id: {status.id}, Slots: {status.slots.toNat}, Ends: {ends}"

/-- The report of a search: finding nothing is a failure. -/
def searchReport : Except Failure (List Match) → Report
  | .ok [] => .failure "No matching components"
  | result => .ofExchange "Query failed"
      (·.map fun found => s!"{found.index.toNat}\t{found.id}") result

/-- The report of a listing: that it is refused is told, but no failure of the command. -/
def listingReport : Except Failure (List LeaseStatus) → Report
  | .error (.refused status) => ⟨.code 0, "", s!"Failed to list leases: {status.text}\n"⟩
  | result => .ofExchange "Failed to list leases"
      (fun statuses => "Active Leases:" :: statuses.map statusLine) result

/-- The report of heartbeats: so many were sent, and so it ended. -/
def heartbeatsReport (index : ComponentIndex) (sent : Nat) : Ending → Report
  | .stopped => ⟨.stopped, lines, ""⟩
  | .failed (.refused status) => ⟨.code 0, lines, s!"Heartbeat failed: {status.text}\n"⟩
  | .failed other => ⟨.code 0, lines, s!"Heartbeat error: {other.message}\n"⟩
where
  lines : String :=
    String.join
      (s!"Registered as component {index.toNat}. Starting heartbeat loop...\n" ::
        List.replicate sent s!"Heartbeat sent for {index.toNat}\n")

/-- Registers a component and keeps it registered for a number of periods. -/
def runLoop (url : String) (registration : Registration) (slotSeconds : UInt64) (periods : Nat)
    (sweeps : Bool) (d : Discoverer) : Report × Discoverer :=
  match register url registration d with
  | (.error failure, after) => (.failed s!"Failed to register {registration.id}" failure, after)
  | (.ok lease, after) =>
    let (sent, ending, last) := sendHeartbeats url ⟨lease.index, some lease.slots⟩
      (heartbeatPeriod slotSeconds lease.slots) sweeps periods after
    (heartbeatsReport lease.index sent ending, last)

/-- Runs a command: its report, and the discoverer after it. A command that would go on forever is
stopped after a number of periods, at the end of each of which there is a sweep if `sweeps` is set. -/
def Command.run (command : Command) (url : String) (periods : Nat) (sweeps : Bool)
    (d : Discoverer) : Report × Discoverer :=
  match command with
  | .register registration =>
    let (granted, after) := Client.register url registration d
    (.ofExchange s!"Failed to register {registration.id}" (grantLines registration.id) granted,
      after)
  | .heartbeat request =>
    let (text, after) := send url .heartbeat request d
    (.ofExchange "Failed to renew lease"
      (fun _ => [s!"Renewed lease of component {request.index.toNat}"]) text, after)
  | .deregister request =>
    let (text, after) := send url .deregister request d
    (.ofExchange "Failed to deregister component"
      (fun _ => [s!"Deregistered component {request.index.toNat}"]) text, after)
  | .query predicates any negated =>
    match Predicate.toQuery predicates any negated with
    | .error error => (searchReport (.error (.predicate error)), d)
    | .ok sought =>
      let (found, after) := search url sought d
      (searchReport found, after)
  | .leases =>
    let (statuses, after) := listLeases url d
    (listingReport statuses, after)
  | .loop registration slotSeconds => runLoop url registration slotSeconds periods sweeps d

/-- Runs a command line, unless it is refused. -/
def run (words : List String) (periods : Nat) (sweeps : Bool) (d : Discoverer) :
    Except Refusal Report × Discoverer :=
  match Invocation.read words with
  | .error refusal => (.error refusal, d)
  | .ok invocation =>
    let (report, after) := invocation.command.run invocation.url periods sweeps d
    (.ok report, after)

end Discovery.Client
