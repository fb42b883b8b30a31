import VoucherSwap.Stack

/-!
Simple layers: one that leaves everything to the layers below, one that leaves a trace in the host's
log, one that stops every packet, and one that replaces the answer to a received packet.
-/

namespace VoucherSwap

def Incoming.suffix : Incoming → String
  | .receive _ => ":recv"
  | .acknowledge _ => ":ack"
  | .timeout _ => ":timeout"

namespace Layer

variable {σ α Q : Type} {A : Q → Type}

def passing : Layer σ := {}

def traced (host : Host σ α) (line : String) : Hook σ A := fun request => do
  modify (host.log line)
  return .descend request pure

def tracing (host : Host σ α) (name : String) : Layer σ where
  incoming := fun request => traced host (name ++ request.suffix) request
  send := traced host (name ++ ":send")

def blocked (host : Host σ α) (name : String) (result : (request : Q) → A request) : Hook σ A :=
  fun request => do
    modify (host.log s!"{name}:block")
    return .answer (result request)

def blockedAnswer (name : String) : (request : Incoming) → request.Answer
  | .receive _ => ⟨.empty, .ofStatus (.failure s!"blocked by {name}")⟩
  | .acknowledge _ => ⟨.empty, .error .disabled⟩
  | .timeout _ => ⟨.empty, .error .disabled⟩

def blocking (host : Host σ α) (name : String) : Layer σ where
  incoming := blocked host name (blockedAnswer name)
  send := blocked host name fun _ => .error .disabled

/-- The host halts if the reply is empty, for then it is no acknowledgement. -/
def replying (reply : String) : Layer σ where
  incoming
    | .receive delivery => return .descend (.receive delivery) fun receipt =>
        match Acknowledgement.ofBytes? reply.toUTF8 with
        | some acknowledgement => return { receipt with acknowledgement }
        | none => failure
    | request => Hook.pass request

end Layer

end VoucherSwap
