import VoucherSwap.Receive
import VoucherSwap.Refund
import VoucherSwap.Send
import VoucherSwap.Transfer

/-!
The swap as a layer of a stack. Each of its hooks calls down with nothing but the requests that it
is entered with, so on top of anything it is the hook itself.
-/

namespace VoucherSwap

namespace Wrapper

variable {σ α : Type}

def layer (host : Host σ α) : Layer σ where
  incoming
    | .receive delivery => (Receive.hook host).lift Incoming.receive delivery
    | .acknowledge answered => (Refund.acknowledgeHook host).lift Incoming.acknowledge answered
    | .timeout delivery => (Refund.timeoutHook host).lift Incoming.timeout delivery
  send := Send.hook host

section

variable (host : Host σ α) (below : Service σ Incoming.Answer)

theorem receive_atop (delivery : Delivery) : (layer host).incoming.atop below (.receive delivery) =
    (Receive.hook host).atop (fun other => below (.receive other)) delivery :=
  Hook.lift_atop rfl below

theorem acknowledge_atop (answered : Delivery × Acknowledgement) :
    (layer host).incoming.atop below (.acknowledge answered) =
      (Refund.acknowledgeHook host).atop (fun other => below (.acknowledge other)) answered :=
  Hook.lift_atop rfl below

theorem timeout_atop (delivery : Delivery) : (layer host).incoming.atop below (.timeout delivery) =
    (Refund.timeoutHook host).atop (fun other => below (.timeout other)) delivery :=
  Hook.lift_atop rfl below

end

variable (host : Host σ α) (rest : List (Layer σ)) (application : Application σ)

theorem stack_receive : Stack.receive ⟨layer host :: rest, application⟩ =
    (Receive.hook host).atop (Stack.receive ⟨rest, application⟩) := by
  funext delivery
  exact receive_atop host _ delivery

theorem stack_acknowledge : Stack.acknowledge ⟨layer host :: rest, application⟩ =
    (Refund.acknowledgeHook host).atop (Stack.acknowledge ⟨rest, application⟩) := by
  funext answered
  exact acknowledge_atop host _ answered

theorem stack_timeout : Stack.timeout ⟨layer host :: rest, application⟩ =
    (Refund.timeoutHook host).atop (Stack.timeout ⟨rest, application⟩) := by
  funext delivery
  exact timeout_atop host _ delivery

end Wrapper

namespace Session

/-- The transfer application under the swap. -/
def swapStack (switches : Transfer.Switches) : Stack Chain :=
  ⟨[Wrapper.layer Chain.host], Transfer.application switches⟩

/-- The transfer application alone. -/
def bareStack (switches : Transfer.Switches) : Stack Chain := ⟨[], Transfer.application switches⟩

variable (switches : Transfer.Switches)

theorem swapStack_receive : (swapStack switches).receive =
    (Receive.hook Chain.host).atop (Transfer.application switches).receive :=
  Wrapper.stack_receive _ [] _

theorem swapStack_acknowledge : (swapStack switches).acknowledge =
    (Refund.acknowledgeHook Chain.host).atop (Transfer.application switches).acknowledge :=
  Wrapper.stack_acknowledge _ [] _

theorem swapStack_timeout : (swapStack switches).timeout =
    (Refund.timeoutHook Chain.host).atop (Transfer.application switches).timeout :=
  Wrapper.stack_timeout _ [] _

end Session

end VoucherSwap
