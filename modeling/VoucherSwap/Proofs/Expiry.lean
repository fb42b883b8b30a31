import VoucherSwap.Proofs.Supply
import VoucherSwap.Proofs.Verdict

/-!
An acknowledgement with an error status and a timeout come to the same. Every layer of a stack reads
the acknowledgement for itself, and so does the application; here the two runs are kept side by
side, from the application up. They leave the same chain and give the same answer, in which only the
reasons of refunds differ.
-/

namespace VoucherSwap

namespace Refund

variable {σ α : Type}

def swapBack (host : Host σ α) (pending : Pending α) : Attempt σ Coin := do
  let (voucher, native) ← coins host (← get) pending
  Reserve.lock host pending.sender voucher
  Reserve.unlock host pending.sender native
  Reserve.releaseOut host native.amount
  return native

def repayment (reason : String) (pending : Pending α) (native : Coin) : Repayment :=
  ⟨pending.payload.sender, native.denom.text, native.amount, reason⟩

theorem repay_eq_map (host : Host σ α) (reason : String) (pending : Pending α) :
    repay host reason pending =
      (fun native => .refunded (repayment reason pending native)) <$> swapBack host pending := by
  simp only [repay, swapBack, repayment, map_bind, map_pure]

def outcome (reason : String) (pending : Pending α) : Except Error Coin → Notice
  | .ok native => .refunded (repayment reason pending native)
  | .error error => .failure error.message

theorem conclude_success {settlement : Settlement} (verdict : settlement.result = .ok ())
    (host : Host σ α) (reason : String) (pending : Pending α) (middle : σ) :
    conclude host reason pending settlement middle =
      (swapBack host pending middle).bind fun step => some
        ({ settlement with extras := settlement.extras.push (outcome reason pending step.1).event },
          step.2) := by
  obtain ⟨extras, result⟩ := settlement
  obtain rfl : result = .ok () := verdict
  unfold conclude
  rw [repay_eq_map]
  show Option.bind (Option.bind _ _) _ = Option.bind _ _
  rw [Option.bind_assoc]
  congr 1
  funext ⟨swapped, final⟩
  cases swapped <;> rfl

end Refund

namespace Expiry

open Refund

variable {σ α : Type}

def refundKind : String := "token_wrapper_refund"

/-- The event of the one run and the event of the other: the same, but for the reason of a
refund. -/
inductive Reworded : Event → Event → Prop where
  | same {event : Event} (other : event.kind ≠ refundKind) : Reworded event event
  | refund (repayment : Repayment) :
      Reworded (Notice.refunded { repayment with reason := acknowledgementReason }).event
        (Notice.refunded { repayment with reason := timeoutReason }).event

theorem reworded_skip (skip : Skip) : Reworded skip.notice.event skip.notice.event := by
  apply Reworded.same
  cases skip with
  | aside message => exact (by decide : "token_wrapper_info" ≠ refundKind)
  | failed message => exact (by decide : "token_wrapper_error" ≠ refundKind)

theorem reworded_outcome (pending : Pending α) (swapped : Except Error Coin) :
    Reworded (outcome acknowledgementReason pending swapped).event
      (outcome timeoutReason pending swapped).event := by
  cases swapped with
  | ok native => exact .refund (repayment acknowledgementReason pending native)
  | error error => exact reworded_skip (.ofError error)

/-- The ends of the two runs. -/
structure Concurs (acknowledged expired : Settlement × σ) : Prop where
  state : acknowledged.2 = expired.2
  result : acknowledged.1.result = expired.1.result
  log : acknowledged.1.extras.log = expired.1.extras.log
  events : List.Forall₂ Reworded acknowledged.1.extras.events expired.1.extras.events

section

variable {acknowledged expired : Settlement} {middle : σ}

theorem Concurs.push {event other : Event}
    (concurs : Concurs (acknowledged, middle) (expired, middle)) (reworded : Reworded event other)
    (final : σ) :
    Concurs ({ acknowledged with extras := acknowledged.extras.push event }, final)
      ({ expired with extras := expired.extras.push other }, final) where
  state := rfl
  result := concurs.result
  log := concurs.log
  events := List.rel_append concurs.events (.cons reworded .nil)

theorem Concurs.conclude (concurs : Concurs (acknowledged, middle) (expired, middle))
    (host : Host σ α) (pending : Pending α) :
    Option.Rel Concurs (conclude host acknowledgementReason pending acknowledged middle)
      (conclude host timeoutReason pending expired middle) := by
  cases verdict : expired.result with
  | error error =>
      rw [conclude_refused (concurs.result.trans verdict), conclude_refused verdict]
      exact .some concurs
  | ok done =>
      rw [conclude_success (concurs.result.trans verdict), conclude_success verdict]
      cases swapBack host pending middle with
      | none => exact .none
      | some step => exact .some (concurs.push (reworded_outcome pending step.1) step.2)

end

variable {delivery : Delivery} {acknowledgement : Acknowledgement} {message : String}
  {below : Delivery × Acknowledgement → Effect σ Settlement}
  {beneath : Delivery → Effect σ Settlement}

theorem hook_concurs (host : Host σ α) (failed : acknowledgement.status? = some (.failure message))
    {before : σ}
    (concurs : Option.Rel Concurs (below (delivery, acknowledgement) before)
      (beneath delivery before)) :
    Option.Rel Concurs ((acknowledgeHook host).atop below (delivery, acknowledgement) before)
      ((timeoutHook host).atop beneath delivery before) := by
  have visits : acknowledgeHook host (delivery, acknowledgement) =
      visit host acknowledgementReason delivery.packet (delivery, acknowledgement) :=
      acknowledgeHook_failure failed
  have visited :
      timeoutHook host delivery = visit host timeoutReason delivery.packet delivery := rfl
  cases prepared : prepare host before delivery.packet with
  | error skip =>
      have first := asks_of_descends (visits ▸ visit_skipped prepared acknowledgementReason _)
      have second := asks_of_descends (visited ▸ visit_skipped prepared timeoutReason _)
      rw [first.once, second.once]
      apply Effect.rel_bind concurs
      rintro ⟨acknowledged, middle⟩ ⟨expired, _⟩ same
      obtain rfl := same.state
      exact .some (same.push (reworded_skip skip) middle)
  | ok pending =>
      have first := asks_of_descends (visits ▸ visit_due prepared acknowledgementReason _)
      have second := asks_of_descends (visited ▸ visit_due prepared timeoutReason _)
      rw [first.once, second.once]
      apply Effect.rel_bind concurs
      rintro ⟨acknowledged, middle⟩ ⟨expired, _⟩ same
      obtain rfl := same.state
      exact same.conclude host pending

theorem application_concurs (switches : Transfer.Switches)
    (failed : acknowledgement.status? = some (.failure message)) (delivery : Delivery)
    (before : Chain) :
    Option.Rel Concurs
      ((Transfer.application switches).acknowledge (delivery, acknowledgement) before)
      ((Transfer.application switches).timeout delivery before) := by
  rw [Transfer.acknowledge_failure failed]
  show Option.Rel Concurs (Transfer.settle switches delivery.packet before)
    (Transfer.settle switches delivery.packet before)
  cases asked : Transfer.settle switches delivery.packet before with
  | none => exact .none
  | some step =>
      obtain ⟨settlement, after⟩ := step
      refine .some ⟨rfl, rfl, rfl, ?_⟩
      cases Transfer.settles asked with
      | refunded done =>
          refine .cons (.same ?_) .nil
          exact (by decide : "fungible_token_packet" ≠ refundKind)
      | refused error => exact .nil

-- By induction on the layers; each of them reads the acknowledgement for itself and comes to the
-- same.
theorem failure_concurs {layers : List (Layer Chain)} (usual : ∀ layer ∈ layers, Supply.Usual layer)
    (switches : Transfer.Switches) (failed : acknowledgement.status? = some (.failure message))
    (delivery : Delivery) (before : Chain) :
    Option.Rel Concurs
      (Stack.acknowledge ⟨layers, Transfer.application switches⟩ (delivery, acknowledgement) before)
      (Stack.timeout ⟨layers, Transfer.application switches⟩ delivery before) := by
  induction layers with
  | nil => exact application_concurs switches failed delivery before
  | cons layer rest ih =>
      have concurs := ih fun other member => usual other (List.mem_cons_of_mem _ member)
      cases usual layer List.mem_cons_self with
      | wrapper =>
          rw [Wrapper.stack_acknowledge, Wrapper.stack_timeout]
          exact hook_concurs Chain.host failed concurs
      | passing =>
          rw [Stack.acknowledge, Stack.timeout, Stack.incoming_passing]
          exact concurs

section

open Forwarded

def sampleRepayment : Repayment where
  receiver := samplePayload.sender
  denom := Sample.nativeDenom
  amount := ⟨5, Sample.five_fits⟩
  reason := acknowledgementReason

set_option maxRecDepth 100000 in
theorem sampleLayers_acknowledge :
    ∃ acknowledged after,
      Stack.acknowledge ⟨Supply.sampleLayers, Transfer.application ⟨false, false⟩⟩
          (⟨samplePacket, ""⟩, sampleFailure) (ownerChain ⟨5, Sample.five_fits⟩) =
            some (acknowledged, after) ∧
        (Notice.refunded sampleRepayment).event ∈ acknowledged.extras.events := by
  have computed : ((Stack.acknowledge ⟨Supply.sampleLayers, Transfer.application ⟨false, false⟩⟩
      (⟨samplePacket, ""⟩, sampleFailure) (ownerChain ⟨5, Sample.five_fits⟩)).map fun step =>
        decide ((Notice.refunded sampleRepayment).event ∈ step.1.extras.events)) = some true := by
    decide +kernel
  obtain ⟨⟨acknowledged, after⟩, ran, refunded⟩ := Option.map_eq_some_iff.mp computed
  exact ⟨acknowledged, after, ran, of_decide_eq_true refunded⟩

theorem failure_concurs_sampleLayers :
    ∃ acknowledged expired after,
      Stack.acknowledge ⟨Supply.sampleLayers, Transfer.application ⟨false, false⟩⟩
          (⟨samplePacket, ""⟩, sampleFailure) (ownerChain ⟨5, Sample.five_fits⟩) =
            some (acknowledged, after) ∧
        Stack.timeout ⟨Supply.sampleLayers, Transfer.application ⟨false, false⟩⟩ ⟨samplePacket, ""⟩
          (ownerChain ⟨5, Sample.five_fits⟩) = some (expired, after) ∧
        (Notice.refunded sampleRepayment).event ∈ acknowledged.extras.events ∧
        List.Forall₂ Reworded acknowledged.extras.events expired.extras.events := by
  obtain ⟨acknowledged, after, ran, refunded⟩ := sampleLayers_acknowledge
  have related := failure_concurs Supply.sampleLayers_usual ⟨false, false⟩ sampleFailure_status?
    ⟨samplePacket, ""⟩ (ownerChain ⟨5, Sample.five_fits⟩)
  rw [ran] at related
  cases timedOut : Stack.timeout ⟨Supply.sampleLayers, Transfer.application ⟨false, false⟩⟩
    ⟨samplePacket, ""⟩
      (ownerChain ⟨5, Sample.five_fits⟩) with
  | none =>
      rw [timedOut] at related
      cases related
  | some step =>
      rw [timedOut] at related
      cases related with
      | some concurs =>
          obtain ⟨expired, final⟩ := step
          obtain rfl : after = final := concurs.state
          exact ⟨acknowledged, expired, after, ran, rfl, refunded, concurs.events⟩

end

end Expiry

end VoucherSwap
