import VoucherSwap.Channel
import VoucherSwap.Host

/-!
Layers of packet handlers around a transfer application. A hook of a layer is entered with a request
and either answers it or calls down, with a request of its own and a way to finish once the answer
from below has come; so it reaches what is below it at most once. It need not pass on the kind of
request that it was given: a layer may call down with an acknowledgement when a packet timed out.
Incoming requests pass the layers from the first to the last and end at the application. Outgoing
packets pass them from the last to the first and end at the host.
-/

namespace VoucherSwap

/-- What a hook does with a request that is to be answered with `R`. It may call down with any
request, for which `A` is the answer from below. -/
inductive Visit (σ : Type) {Q : Type} (A : Q → Type) (R : Type) where
  | answer (result : R)
  | descend (request : Q) (finish : A request → Effect σ R)

/-- Answers every request with what belongs to it. -/
abbrev Service (σ : Type) {Q : Type} (A : Q → Type) := (request : Q) → Effect σ (A request)

abbrev Hook (σ : Type) {Q : Type} (A : Q → Type) :=
  (request : Q) → Effect σ (Visit σ A (A request))

/-- Requests of one kind, all answered alike. -/
abbrev Uniform (Q R : Type) : Q → Type := fun _ => R

/-- Requests of one kind among requests of several. -/
def Visit.lift {σ P Q R : Type} {A : Q → Type} (call : P → Q) :
    Visit σ (A ∘ call) R → Visit σ A R
  | .answer result => .answer result
  | .descend request finish => .descend (call request) finish

namespace Hook

variable {σ P Q : Type} {A : Q → Type}

def pass : Hook σ A := fun request => return .descend request pure

/-- A hook on top of what is below it. -/
def atop (hook : Hook σ A) (below : Service σ A) : Service σ A := fun request => do
  match ← hook request with
  | .answer result => return result
  | .descend other finish => finish (← below other)

/-- A hook for requests of one kind, which calls down with requests of that kind, among requests
of several. -/
def lift (call : P → Q) (hook : Hook σ (A ∘ call)) (request : P) :
    Effect σ (Visit σ A (A (call request))) :=
  Visit.lift call <$> hook request

theorem atop_run (hook : Hook σ A) (below : Service σ A) (request : Q) (before : σ) :
    hook.atop below request before = (hook request before).bind fun step =>
      match step.1 with
      | .answer answer => some (answer, step.2)
      | .descend other finish =>
        (below other step.2).bind fun answer => finish answer.1 answer.2 := by
  show Option.bind _ _ = Option.bind _ _
  congr 1
  funext ⟨visit, middle⟩
  cases visit <;> rfl

theorem pass_atop {hook : Hook σ A} {below : Service σ A} {request : Q}
    (passes : hook request = pass request) : hook.atop below request = below request := by
  funext before
  rw [atop_run, passes]
  exact Option.bind_fun_some _

theorem lift_atop {call : P → Q} {hook : Hook σ A} {inner : Hook σ (A ∘ call)} {request : P}
    (lifts : hook (call request) = inner.lift call request) (below : Service σ A) :
    hook.atop below (call request) = inner.atop (fun other => below (call other)) request := by
  funext before
  rw [atop_run, atop_run, lifts]
  show Option.bind (Option.bind _ _) _ = Option.bind _ _
  rw [Option.bind_assoc]
  congr 1
  funext ⟨visit, middle⟩
  cases visit <;> rfl

end Hook

/-- Events and log lines that are handed back with an answer. -/
structure Extras where
  events : List Event
  log : List String
  deriving DecidableEq

namespace Extras

def empty : Extras := ⟨[], []⟩

def push (extras : Extras) (event : Event) : Extras :=
  { extras with events := extras.events ++ [event] }

end Extras

/-- A packet and the address of the relayer that brought it. -/
structure Delivery where
  packet : Packet
  relayer : String
  deriving DecidableEq

/-- The answer to a packet that was received. -/
structure Receipt where
  extras : Extras
  acknowledgement : Acknowledgement

/-- The answer to an acknowledgement or a timeout. -/
structure Settlement where
  extras : Extras
  result : Except Error Unit

/-- The answer to a packet that was sent: its sequence number. -/
abbrev Dispatch := Except Error UInt64

/-- What comes in: a packet, the acknowledgement of a packet that was sent, or its timeout. -/
inductive Incoming where
  | receive (delivery : Delivery)
  | acknowledge (answered : Delivery × Acknowledgement)
  | timeout (delivery : Delivery)

abbrev Incoming.Answer : Incoming → Type
  | .receive _ => Receipt
  | .acknowledge _ => Settlement
  | .timeout _ => Settlement

structure Layer (σ : Type) where
  incoming : Hook σ Incoming.Answer := .pass
  send : Hook σ (Uniform Packet Dispatch) := .pass

/-- The transfer application at the bottom of a stack. -/
structure Application (σ : Type) where
  receive : Delivery → Effect σ Receipt
  acknowledge : Delivery × Acknowledgement → Effect σ Settlement
  timeout : Delivery → Effect σ Settlement

def Application.incoming {σ : Type} (application : Application σ) : Service σ Incoming.Answer
  | .receive delivery => application.receive delivery
  | .acknowledge answered => application.acknowledge answered
  | .timeout delivery => application.timeout delivery

structure Stack (σ : Type) where
  layers : List (Layer σ)
  application : Application σ

namespace Stack

variable {σ : Type}

/-- Adds a layer between the layers so far and the application. -/
def push (stack : Stack σ) (layer : Layer σ) : Stack σ :=
  { stack with layers := stack.layers ++ [layer] }

def size (stack : Stack σ) : Nat := stack.layers.length

def isEmpty (stack : Stack σ) : Bool := stack.layers.isEmpty

def incoming (stack : Stack σ) : Service σ Incoming.Answer :=
  stack.layers.foldr (fun layer below => layer.incoming.atop below) stack.application.incoming

def receive (stack : Stack σ) (delivery : Delivery) : Effect σ Receipt :=
  stack.incoming (.receive delivery)

def acknowledge (stack : Stack σ) (answered : Delivery × Acknowledgement) : Effect σ Settlement :=
  stack.incoming (.acknowledge answered)

def timeout (stack : Stack σ) (delivery : Delivery) : Effect σ Settlement :=
  stack.incoming (.timeout delivery)

/-- Sends a packet through the layers to the host's own `send`. -/
def send (stack : Stack σ) (send : Packet → Effect σ Dispatch) : Packet → Effect σ Dispatch :=
  stack.layers.foldl (fun below layer => layer.send.atop below) send

end Stack

end VoucherSwap
