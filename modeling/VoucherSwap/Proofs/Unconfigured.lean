import VoucherSwap.Proofs.Departure

/-!
Sends while the settings are incomplete. They are filled in one at a time, so every part of them may
be there while another is missing. A packet is then forwarded as if there were no swap, on every
host and over every channel handler, but for one case: the switch is looked at before it is asked
whether anything is missing. So the token and the native end, once they are filled in, are blocked
until the swap is enabled, although nothing could be swapped yet.
-/

namespace VoucherSwap

theorem Settings.configured_eq_false {settings : Settings} :
    settings.configured = false ↔ settings.nativePort = "" ∨ settings.nativeChannel = "" ∨
      settings.counterpartyPort = "" ∨ settings.counterpartyChannel = "" ∨
      settings.wrappedDenom = "" := by
  simp only [Settings.configured, Bool.and_eq_false_iff, decide_eq_false_iff_not, ne_eq,
    Decidable.not_not, or_assoc]

namespace Unconfigured

variable {σ α : Type}

/-- A packet that can be read, over an open channel of a host that holds these settings. -/
structure Sendable (host : Host σ α) (state : σ) (settings : Settings) (packet : Packet)
    (payload : Payload) :
    Prop where
  ready : ∃ channel, host.channel? state packet.source = some channel ∧ channel.state = .open
  readable : packet.payload? = some payload
  stored : host.settings state = .ok settings

/-- The settings are switched off, and as far as they go, the packet carries their token from their
native end. -/
structure Blocks (settings : Settings) (native : String) (packet : Packet) (payload : Payload) :
    Prop where
  disabled : settings.enabled = false
  wrapped : settings.wrappedDenom ≠ ""
  token : payload.denom.text = native ∨ payload.denom.text = settings.wrappedDenom
  nativeEnd : Route.isNativeEnd settings packet.source = true

theorem Blocks.counterparty {settings : Settings} {native : String} {packet : Packet}
    {payload : Payload} (blocks : Blocks settings native packet payload)
    (incomplete : settings.configured = false) :
    settings.counterpartyPort = "" ∨ settings.counterpartyChannel = "" := by
  obtain ⟨port, channel⟩ := Route.isNativeEnd_iff.mp blocks.nativeEnd
  rcases Settings.configured_eq_false.mp incomplete with
    missing | missing | missing | missing | missing
  · exact absurd (port.trans missing) packet.source.port.text_ne_empty
  · exact absurd (channel.trans missing) packet.source.channel.text_ne_empty
  · exact .inl missing
  · exact .inr missing
  · exact absurd missing blocks.wrapped

section

variable {host : Host σ α} {state : σ} {settings : Settings} {packet : Packet} {payload : Payload}

theorem blocks_iff {native : String} : Blocks settings native packet payload ↔
    Route.isTargeted settings
      (Send.routeDenom settings native payload.denom.text) packet.source = true ∧
      (!settings.enabled) = true := by
  rw [Send.isTargeted_iff, Bool.not_eq_true']
  constructor
  · intro blocks
    exact ⟨⟨blocks.wrapped, blocks.token, blocks.nativeEnd⟩, blocks.disabled⟩
  · rintro ⟨⟨wrapped, token, nativeEnd⟩, disabled⟩
    exact ⟨disabled, wrapped, token, nativeEnd⟩

instance {native : String} : Decidable (Blocks settings native packet payload) :=
  decidable_of_iff _ blocks_iff.symm

variable (sendable : Sendable host state settings packet payload)
  (incomplete : settings.configured = false)
include sendable incomplete

-- The switch is the only check that comes before it is asked whether anything is missing.
theorem plan_eq : Send.plan host state packet =
    if Blocks settings (host.nativeDenom state) packet payload then .error .disabled
      else .ok none := by
  obtain ⟨channel, ready⟩ := sendable.ready
  unfold Send.plan
  rw [Route.openChannel_eq_ok.mpr ready, Check.ok_bind, Route.payload_eq_ok.mpr sendable.readable,
    Check.ok_bind, sendable.stored, Check.ok_bind]
  by_cases blocks : Blocks settings (host.nativeDenom state) packet payload
  · rw [if_pos blocks]
    exact Check.guard_eq_error.mpr (.inl ⟨blocks_iff.mp blocks, rfl⟩)
  · rw [if_neg blocks]
    refine Check.guard_eq_ok.mpr
      ⟨mt blocks_iff.mpr blocks, Check.leave_eq_none.mpr (.inl (.inr (.inl ?_)))⟩
    rw [incomplete]
    rfl

-- The handler is any effect, so a send that forwards keeps its answer, its events and its coins,
-- whatever they are.
theorem unconfigured_forwards (application : Application σ) (handler : Packet → Effect σ Dispatch) :
    (¬ Blocks settings (host.nativeDenom state) packet payload →
      Stack.send ⟨[Wrapper.layer host], application⟩ handler packet state = handler packet state) ∧
    (Blocks settings (host.nativeDenom state) packet payload →
      (settings.counterpartyPort = "" ∨ settings.counterpartyChannel = "") ∧
      Stack.send ⟨[Wrapper.layer host], application⟩ handler packet state =
        some (.error .disabled,
          host.emit (Notice.failure Error.disabled.message).event state)) := by
  have planned := plan_eq sendable incomplete
  constructor
  · intro unblocked
    rw [if_neg unblocked] at planned
    exact Send.atop_forwards planned handler
  · intro blocks
    rw [if_pos blocks] at planned
    exact ⟨blocks.counterparty incomplete, Send.atop_refuses planned handler⟩

end

def halfSettings (enabled : Bool) : Settings :=
  { Sample.settings with counterpartyPort := "", enabled }

def halfChain (enabled : Bool) : Chain := { Sample.openChain with settings := halfSettings enabled }

theorem halfChain_sendable (enabled : Bool) :
    Sendable Chain.host (halfChain enabled) (halfSettings enabled)
    Abort.samplePacket (Sample.outgoing "zig1sender") where
  ready := ⟨_, rfl, rfl⟩
  readable := Send.payload?_rewritten _ rfl
  stored := rfl

theorem unconfigured_forwards_halfChain :
    (Session.swapStack ⟨false, false⟩).send Chain.sendPacket Abort.samplePacket (halfChain true) =
      Chain.sendPacket Abort.samplePacket (halfChain true) :=
  (unconfigured_forwards (halfChain_sendable true) (by decide) _ _).1 (by decide)

/-- But they do while they are not. -/
theorem half_settings_block :
    (halfSettings false).configured = false ∧
      Sendable Chain.host (halfChain false)
        (halfSettings false) Abort.samplePacket (Sample.outgoing "zig1sender") ∧
      (∃ after, Chain.sendPacket Abort.samplePacket (halfChain false) =
        some (.ok Abort.samplePacket.sequence, after)) ∧
      ∃ after, (Session.swapStack ⟨false, false⟩).send Chain.sendPacket Abort.samplePacket
        (halfChain false) =
        some (.error .disabled, after) := by
  have incomplete : (halfSettings false).configured = false := by decide
  have planned := plan_eq (halfChain_sendable false) incomplete
  rw [if_pos (by decide)] at planned
  exact ⟨incomplete, halfChain_sendable false, ⟨_, rfl⟩, _,
    Send.atop_refuses planned Chain.sendPacket⟩

end Unconfigured

end VoucherSwap
