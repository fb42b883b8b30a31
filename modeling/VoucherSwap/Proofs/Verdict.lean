import VoucherSwap.Proofs.Forwarded

/-!
The application decides about packets that come back. On a timeout or an acknowledgement the swap
asks what is below it once, before anything else has happened, and the verdict stands. What the swap
may do afterwards is to take itself back and to say so in one notice, and only if the application
refunded. Nothing is assumed of the host, nor of what is below.
-/

namespace VoucherSwap

namespace Refund

variable {σ α Q : Type}

/-- What is below is asked once, with the request that came in and on the state that was handed in.
Its answer, and the state that came with it, are all that `follow` goes on from. -/
structure Asks (hook : Hook σ (Uniform Q Settlement)) (request : Q) (before : σ)
    (follow : Settlement → Effect σ Settlement) : Prop where
  descends : hook request before = some (.descend request follow, before)
  once : ∀ below, hook.atop below request before =
    (below request before).bind fun step => follow step.1 step.2

theorem asks_of_descends {hook : Hook σ (Uniform Q Settlement)} {request : Q} {before : σ}
    {follow : Settlement → Effect σ Settlement}
    (descends : hook request before = some (.descend request follow, before)) :
    Asks hook request before follow := by
  refine ⟨descends, ?_⟩
  intro below
  unfold Hook.atop
  rw [Effect.bind_run, descends]
  rfl

/-- An answer as it came from below, with one notice behind its events. -/
structure Adds (notice : Notice) (below answer : Settlement) : Prop where
  result : answer.result = below.result
  log : answer.extras.log = below.extras.log
  events : answer.extras.events = below.extras.events ++ [notice.event]

/-- What can be reported on a swap that was to be taken back. -/
inductive Reports (host : Host σ α) (reason : String) (pending : Pending α) (middle : σ) :
    Notice → Prop where
  | failure (error : Error) : Reports host reason pending middle (.failure error.message)
  | refunded {amount : Amount}
      (scaled : Precision.scaleDown pending.payload.amount pending.decimalDifference = .ok amount) :
      Reports host reason pending middle
        (.refunded ⟨pending.payload.sender, host.nativeDenom middle, amount, reason⟩)

theorem repay_reports {host : Host σ α} {reason : String} {pending : Pending α} {notice : Notice}
    {middle after : σ} (done : repay host reason pending middle = some (.ok notice, after)) :
    Reports host reason pending middle notice := by
  simp only [repay, Attempt.get_bind, Attempt.bind_eq_ok, Attempt.check_eq_ok,
    Attempt.pure_eq_ok] at done
  obtain ⟨⟨voucher, native⟩, _, ⟨agreed, rfl⟩, -, -, -, -, -, -, -, -, -, rfl, -⟩ := done
  have exchange := coins_eq_ok.mp agreed
  rw [exchange.nativeDenom]
  exact .refunded exchange.scaled

theorem repay_eq_none {host : Host σ α} {reason : String} {pending : Pending α} {middle : σ}
    (halted : repay host reason pending middle = none) : Receive.Halts host := by
  simp only [repay, Attempt.get_bind, Attempt.bind_eq_none] at halted
  rcases halted with
    checking | ⟨coins, state, -, locking | ⟨-, locked, -, unlocking | ⟨-, unlocked, -, rest⟩⟩⟩
  · cases checking
  · exact .inl ⟨_, _, _, _, locking⟩
  · exact .inl ⟨_, _, _, _, unlocking⟩
  · simp only [Reserve.releaseOut, Attempt.get_bind, Attempt.bind_eq_none] at rest
    rcases rest with (reading | ⟨totals, read, -, storing⟩) | ⟨-, counted, -, done⟩
    · cases reading
    · exact .inr ⟨_, _, storing⟩
    · cases done

theorem conclude_refused {host : Host σ α} {pending : Pending α} {settlement : Settlement}
    {error : Error} (verdict : settlement.result = .error error) (reason : String) (middle : σ) :
    conclude host reason pending settlement middle = some (settlement, middle) :=
  conclude_eq_some.mpr (.inl ⟨error, verdict, rfl, rfl⟩)

theorem conclude_adds {host : Host σ α} {reason : String} {pending : Pending α}
    {settlement answer : Settlement} {middle after : σ} (verdict : settlement.result = .ok ())
    (concluded : conclude host reason pending settlement middle = some (answer, after)) :
    ∃ notice, Reports host reason pending middle notice ∧ Adds notice settlement answer := by
  rcases conclude_eq_some.mp concluded with
    ⟨error, refused, -, -⟩ | ⟨-, ⟨error, -, rfl⟩ | ⟨notice, done, rfl⟩⟩
  · rw [verdict] at refused
    contradiction
  · exact ⟨_, .failure error, rfl, rfl, rfl⟩
  · exact ⟨notice, repay_reports done, rfl, rfl, rfl⟩

theorem conclude_eq_none {host : Host σ α} {reason : String} {pending : Pending α}
    {settlement : Settlement} {middle : σ}
    (halted : conclude host reason pending settlement middle = none) : Receive.Halts host := by
  unfold conclude at halted
  cases verdict : settlement.result with
  | error error =>
      rw [verdict] at halted
      cases halted
  | ok done =>
      simp only [verdict, Effect.bind_eq_none] at halted
      rcases halted with repaying | ⟨outcome, state, -, answering⟩
      · exact repay_eq_none repaying
      · cases outcome <;> cases answering

/-- What the swap makes of the verdict from below. A packet that it has nothing to take back for
gets one notice, whatever the verdict; otherwise an error stays as it is, and behind a success the
swap takes itself back. -/
structure Upholds (host : Host σ α) (reason : String) (packet : Packet) (before : σ)
    (follow : Settlement → Effect σ Settlement) : Prop where
  skipped : (∀ settings pending, ¬ Due host before packet settings pending) →
    ∃ skip : Skip, ∀ settlement middle, ∃ answer,
      follow settlement middle = some (answer, middle) ∧ Adds skip.notice settlement answer
  refused : ∀ settings pending, Due host before packet settings pending →
    ∀ settlement middle error, settlement.result = .error error →
      follow settlement middle = some (settlement, middle)
  refunded : ∀ settings pending, Due host before packet settings pending →
    ∀ settlement middle, settlement.result = .ok () →
      (∀ answer after, follow settlement middle = some (answer, after) →
        ∃ notice, Reports host reason pending middle notice ∧ Adds notice settlement answer) ∧
      (follow settlement middle = none → Receive.Halts host)

theorem visit_upholds {hook : Hook σ (Uniform Q Settlement)} {host : Host σ α} {reason : String}
    {packet : Packet} {request : Q} (visits : hook request = visit host reason packet request)
    (before : σ) :
    ∃ follow, Asks hook request before follow ∧ Upholds host reason packet before follow := by
  cases prepared : prepare host before packet with
  | error skip =>
      have idle {settings : Settings} {pending : Pending α}
          (due : Due host before packet settings pending) :
            False := by
        rw [prepare_eq_ok.mpr ⟨settings, due⟩] at prepared
        contradiction
      refine ⟨_, asks_of_descends (visits ▸ visit_skipped prepared reason request), ?_⟩
      constructor
      · exact fun _ => ⟨skip, fun settlement middle => ⟨_, rfl, rfl, rfl, rfl⟩⟩
      · exact fun settings pending due => (idle due).elim
      · exact fun settings pending due => (idle due).elim
  | ok ready =>
      have same {settings : Settings} {pending : Pending α}
          (due : Due host before packet settings pending) :
            ready = pending := by
        have other := prepare_eq_ok.mpr ⟨settings, due⟩
        rw [prepared] at other
        exact Except.ok.inj other
      refine ⟨_, asks_of_descends (visits ▸ visit_due prepared reason request), ?_⟩
      constructor
      · intro idle
        obtain ⟨settings, due⟩ := prepare_eq_ok.mp prepared
        exact absurd due (idle settings ready)
      · intro settings pending due settlement middle error verdict
        exact conclude_refused verdict reason middle
      · intro settings pending due settlement middle verdict
        rw [same due]
        exact ⟨fun answer after => conclude_adds verdict, conclude_eq_none⟩

-- The three requests that bring a packet back. An acknowledgement that holds no failure passes
-- without a trace.
theorem settlement_stands (host : Host σ α) (delivery : Delivery)
    (acknowledgement : Acknowledgement) (before : σ) :
    (∃ follow, Asks (timeoutHook host) delivery before follow ∧
      Upholds host timeoutReason delivery.packet before follow) ∧
    ((∃ message, acknowledgement.status? = some (.failure message)) →
      ∃ follow, Asks (acknowledgeHook host) (delivery, acknowledgement) before follow ∧
        Upholds host acknowledgementReason delivery.packet before follow) ∧
    ((∀ message, acknowledgement.status? ≠ some (.failure message)) →
      Asks (acknowledgeHook host) (delivery, acknowledgement) before pure ∧
        ∀ below, (acknowledgeHook host).atop below (delivery, acknowledgement) =
          below (delivery, acknowledgement)) := by
  refine ⟨?_, ?_, ?_⟩
  · have visits :
        timeoutHook host delivery = visit host timeoutReason delivery.packet delivery := rfl
    exact visit_upholds visits before
  · rintro ⟨message, failed⟩
    exact visit_upholds (acknowledgeHook_failure failed) before
  · intro other
    have passes :
        acknowledgeHook host (delivery, acknowledgement) = Hook.pass (delivery, acknowledgement) :=
      acknowledgeHook_other other
    refine ⟨asks_of_descends ?_, fun below => Hook.pass_atop passes⟩
    rw [passes]
    rfl

section

open Forwarded

def sampleFailure : Acknowledgement := .ofStatus (.failure "refused")

theorem sampleFailure_status? : sampleFailure.status? = some (.failure "refused") :=
  Acknowledgement.status?_failure_iff.mpr (by decide)

def samplePending : Pending Account where
  sender := ⟨samplePayload.sender⟩
  payload := samplePayload
  decimalDifference := Sample.settings.decimalDifference

theorem samplePending_due :
    Due Chain.host (ownerChain .zero) samplePacket (ownerChain .zero).settings samplePending where
  ready := ⟨_, rfl, rfl⟩
  readable := samplePacket_payload?
  named := by decide
  sender := rfl
  positive := by decide
  stored := rfl
  configured := by decide
  outbound := by decide
  route := by decide
  enabled := rfl
  difference := rfl

theorem settlement_stands_ownerChain :
    ∃ follow,
      Due Chain.host (ownerChain .zero) samplePacket (ownerChain .zero).settings samplePending ∧
      Asks (acknowledgeHook Chain.host) (⟨samplePacket, ""⟩, sampleFailure)
        (ownerChain .zero) follow ∧
      follow ⟨.empty, .error .disabled⟩ (ownerChain .zero) =
        some (⟨.empty, .error .disabled⟩, ownerChain .zero) := by
  obtain ⟨-, failing, -⟩ :=
    settlement_stands Chain.host ⟨samplePacket, ""⟩ sampleFailure (ownerChain .zero)
  obtain ⟨follow, asks, upholds⟩ := failing ⟨_, sampleFailure_status?⟩
  exact ⟨follow, samplePending_due, asks, upholds.refused _ _ samplePending_due _ _ _ rfl⟩

end

end Refund

end VoucherSwap
