import VoucherSwap.Amount
import VoucherSwap.Identifier

/-!
Events are kinds with a list of named values, all of them text. Of its own, the swap reports five
kinds, here called notices: a step that was left out, a failure, a wrap, an unwrap and a refund.
-/

namespace VoucherSwap

structure Event where
  kind : String
  attributes : List (String × String)
  deriving DecidableEq

/-- A swap on a packet's way between two channel ends. -/
structure Crossing where
  sender : String
  receiver : String
  amount : Amount
  denom : String
  source : Endpoint
  destination : Endpoint
  deriving DecidableEq

namespace Crossing

def attributes (crossing : Crossing) : List (String × String) := [
  ("sender", crossing.sender),
  ("receiver", crossing.receiver),
  ("amount", crossing.amount.text),
  ("denom", crossing.denom),
  ("source_port", crossing.source.port.text),
  ("source_channel", crossing.source.channel.text),
  ("dest_port", crossing.destination.port.text),
  ("dest_channel", crossing.destination.channel.text)]

end Crossing

/-- What a refund paid back and why. -/
structure Repayment where
  receiver : String
  denom : String
  amount : Amount
  reason : String
  deriving DecidableEq

inductive Notice where
  | info (message : String)
  | failure (message : String)
  | wrapped (crossing : Crossing)
  | unwrapped (crossing : Crossing)
  | refunded (repayment : Repayment)
  deriving DecidableEq

namespace Notice

def moduleName : String := "tokenwrapper"

def event : Notice → Event
  | .info message => ⟨"token_wrapper_info", [("module", moduleName), ("info", message)]⟩
  | .failure message => ⟨"token_wrapper_error", [("module", moduleName), ("error", message)]⟩
  | .wrapped crossing => ⟨"token_wrapped", crossing.attributes⟩
  | .unwrapped crossing => ⟨"token_unwrapped", crossing.attributes⟩
  | .refunded repayment => ⟨"token_wrapper_refund", [
      ("module", moduleName),
      ("refund_receiver", repayment.receiver),
      ("refund_denom", repayment.denom),
      ("refund_amount", repayment.amount.text),
      ("reason", repayment.reason)]⟩

end Notice

end VoucherSwap
