import TenantStorage.Kubernetes.Store
import TenantStorage.Memory.Controller
import TenantStorage.Memory.Secrets
import TenantStorage.Metrics.Basic
import TenantStorage.Rest.Client
import TenantStorage.Simulation.Clock
import TenantStorage.Simulation.Fault

/-!
# Simulated surroundings

A world holds a storage controller and a store of secrets, each in memory or behind a peer that answers from a
script, together with planned faults, a clock that moves only while something waits, a time at which the
current run is cancelled, a supply of passwords, and the metrics.

* `World.perform` — a call, with its fault if there is one.
* `World.handle` — any action of the engine.
* `World.run` — a program of the engine, to its end.
-/

namespace TenantStorage.Simulation

/-! ### Scripted peers -/

/-- A peer that answers requests from a script and keeps the requests. -/
structure Peer (ρ κ : Type) where
  script : List ρ
  /-- The requests so far, the latest first. -/
  requests : List κ

/-- Takes a request and the next reply, or `exhausted` when the script is used up. -/
def Peer.answer {ρ κ : Type} (exhausted : ρ) (request : κ) (peer : Peer ρ κ) : ρ × Peer ρ κ :=
  match peer.script with
  | [] => (exhausted, ⟨[], request :: peer.requests⟩)
  | reply :: rest => (reply, ⟨rest, request :: peer.requests⟩)

/-- The body of a reply after the end of a script. -/
def exhaustedBody : List UInt8 := Utf8.encode "script exhausted"

/-- The management interface of a storage cluster as a peer.  A request that cannot be delivered fails and
    is not seen by the peer. -/
structure RestPeer where
  deliverable : Bool
  peer : Peer Rest.Reply Rest.Request

/-- A request to the management interface. -/
def RestPeer.answer (request : Rest.Request) (p : RestPeer) : Rest.Reply × RestPeer :=
  if p.deliverable then
    let (reply, peer) := p.peer.answer (.answer 500 exhaustedBody) request
    (reply, { p with peer })
  else (.broken, p)

/-- An API server as a peer. -/
abbrev KubernetesPeer := Peer Kubernetes.Reply Kubernetes.Request

/-! ### The world -/

/-- A storage controller. -/
inductive ControllerSystem where
  | memory (controller : MemoryController)
  | rest (settings : Settings.Controller) (peer : RestPeer)

/-- A store of secrets. -/
inductive SecretSystem where
  | memory (secrets : MemorySecrets)
  | kubernetes (peer : KubernetesPeer)

/-- Simulated surroundings of the engine. -/
structure World where
  controller : ControllerSystem
  secrets : SecretSystem
  faults : List Fault
  /-- How often each kind of call was made. -/
  calls : SortedMap String Nat
  /-- The time, and when the current run is cancelled. -/
  clock : Clock
  /-- The passwords that are handed out, by number from zero. -/
  supply : Nat → String
  /-- How many passwords have been handed out. -/
  drawn : Nat
  metrics : Metrics

namespace World

/-! ### Calls -/

/-- A call to the storage controller, without faults. -/
def performController (call : ControllerCall) (w : World) : Except Failure call.Answer × World :=
  match w.controller with
  | .memory controller =>
    let (result, controller) := controller.perform call
    (result, { w with controller := .memory controller })
  | .rest settings peer =>
    let (result, peer) := (Rest.perform settings call).run RestPeer.answer peer
    (result, { w with controller := .rest settings peer })

/-- A call to the store of secrets, without faults. -/
def performSecrets (call : SecretCall) (w : World) : Except Failure call.Answer × World :=
  match w.secrets with
  | .memory secrets =>
    let (result, secrets) := secrets.perform call
    (result, { w with secrets := .memory secrets })
  | .kubernetes peer =>
    let (result, peer) := (Kubernetes.perform call).run (Peer.answer (.answer 500 exhaustedBody)) peer
    (result, { w with secrets := .kubernetes peer })

/-- A call, without faults. -/
def performPlain : (call : Call) → World → Except Failure call.Answer × World
  | .controller call, w => w.performController call
  | .secrets call, w => w.performSecrets call

/-- Numbers a call and finds its fault. -/
def meet (call : Call) (w : World) : Option Fault × World :=
  let name := callName call
  let number := (w.calls.find? name).getD 0 + 1
  (faultFor w.faults name number, { w with calls := w.calls.insert name number })

/-- What a call comes to when its delay is over. -/
def settle (call : Call) (fault : Option Fault) (w : World) : Except Failure call.Answer × World :=
  match fault.map Fault.effect with
  | some (.fail failure) => (.error failure, w)
  | some (.answer value) =>
    match readAnswer? call value with
    | some answer => (.ok answer, w)
    | none => (.error .jsonParse, w)
  | _ => w.performPlain call

/-- The delay of a fault. -/
def delayOf (fault : Option Fault) : Nat := (fault.map Fault.delay).getD 0

/-- A call, with its fault if there is one. -/
def perform (call : Call) (w : World) : Except Failure call.Answer × World :=
  let (fault, w) := w.meet call
  { w with clock := w.clock.advance (delayOf fault) }.settle call fault

/-! ### Waiting -/

/-- Lets time pass, or only the time until the current run is cancelled; tells whether all of it passed. -/
def wait (milliseconds : Nat) (w : World) : Bool × World :=
  let (passed, clock) := w.clock.wait milliseconds
  (passed, { w with clock })

/-- A call that is given up, before it reaches its system, when the current run is cancelled during its
    delay. -/
def watch (call : Call) (w : World) : Option (Except Failure call.Answer) × World :=
  let (fault, w) := w.meet call
  let (passed, w) := w.wait (delayOf fault)
  if passed then
    let (result, w) := w.settle call fault
    (some result, w)
  else (none, w)

/-! ### Actions -/

/-- Answers an action of the engine. -/
def handle : (action : Action) → World → action.Answer × World
  | .call call, w => w.perform call
  | .watch call, w => w.watch call
  | .pause duration, w => w.wait duration.milliseconds
  | .cancelled, w => (w.clock.isCancelled, w)
  | .password, w => (w.supply w.drawn, { w with drawn := w.drawn + 1 })
  | .count event, w => ((), { w with metrics := w.metrics.record event })

/-- Runs a program of the engine. -/
def run {α : Type} (attempt : Attempt α) (w : World) : Except Failure α × World :=
  Program.run (S := actions) handle attempt.run w

/-- The number, from one, under which a password was handed out. -/
def numberOf? (w : World) (password : String) : Option Nat :=
  (List.range w.drawn).find? (fun i => w.supply i == password) |>.map (· + 1)

end World

end TenantStorage.Simulation
