import VoucherSwap.Proofs.Send
import VoucherSwap.Proofs.Refund

/-!
What validation of the settings is good for. Settings that pass it have identifiers at both ends of
the route and for both light clients, so a chain can be opened with them on which every check of the
route passes, and their difference of precision has a factor. Of the wrapped denomination validation
asks only that it is not empty. The trace in which it leaves is read again as a denomination, and
this goes wrong in two ways: the trace of a blank name cannot be read, and that of a name made of
hops alone is read as a base denomination, which never left over any channel.
-/

namespace VoucherSwap

namespace Validation

/-- The identifiers that valid settings are made of. -/
structure Parts where
  native : Endpoint
  counterparty : Endpoint
  client : ClientId
  counterpartyClient : ClientId

structure Valid (settings : Settings) (parts : Parts) : Prop where
  nativeEnd : Route.isNativeEnd settings parts.native = true
  counterpartyEnd : Route.isCounterpartyEnd settings parts.counterparty = true
  client : parts.client.text = settings.nativeClient
  counterpartyClient : parts.counterpartyClient.text = settings.counterpartyClient
  wrapped : settings.wrappedDenom ≠ ""
  difference : settings.decimalDifference ≤ Precision.maxDifference

variable {settings : Settings} {parts : Parts}

theorem Valid.counterpartyNamed (valid : Valid settings parts) :
    settings.counterpartyPort ≠ "" ∧ settings.counterpartyChannel ≠ "" := by
  obtain ⟨port, channel⟩ := Route.isCounterpartyEnd_iff.mp valid.counterpartyEnd
  rw [← port, ← channel]
  exact ⟨Identifier.text_ne_empty _, Identifier.text_ne_empty _⟩

theorem Valid.clientsNamed (valid : Valid settings parts) :
    settings.nativeClient ≠ "" ∧ settings.counterpartyClient ≠ "" := by
  rw [← valid.client, ← valid.counterpartyClient]
  exact ⟨Identifier.text_ne_empty _, Identifier.text_ne_empty _⟩

theorem Valid.configured (valid : Valid settings parts) : settings.configured = true := by
  obtain ⟨port, channel⟩ := Route.isNativeEnd_iff.mp valid.nativeEnd
  simp [Settings.configured, ← port, ← channel, valid.counterpartyNamed, valid.wrapped,
    Identifier.text_ne_empty]

theorem validate_eq_ok {result : Unit} :
    settings.validate = .ok result ↔ ∃ parts, Valid settings parts := by
  simp only [Settings.validate, Check.guard_eq_ok, Check.last_guard_eq_ok, Check.bind_eq_ok,
    Identifier.require, Check.mapError_eq_ok, Identifier.ofText_eq_ok]
  constructor
  · rintro ⟨complete, port, portText, channel, channelText, otherPort, otherPortText, otherChannel,
      otherChannelText, -, client, clientText, otherClient, otherClientText, small⟩
    have wrapped : settings.wrappedDenom ≠ "" := by
      rintro empty
      simp [Settings.configured, empty] at complete
    exact ⟨⟨⟨port, channel⟩, ⟨otherPort, otherChannel⟩, client, otherClient⟩,
      Route.isNativeEnd_iff.mpr ⟨portText, channelText⟩,
      Route.isCounterpartyEnd_iff.mpr ⟨otherPortText, otherChannelText⟩, clientText,
      otherClientText, wrapped, Nat.le_of_not_lt small⟩
  · rintro ⟨parts, valid⟩
    obtain ⟨port, channel⟩ := Route.isNativeEnd_iff.mp valid.nativeEnd
    obtain ⟨otherPort, otherChannel⟩ := Route.isCounterpartyEnd_iff.mp valid.counterpartyEnd
    exact ⟨by simp [valid.configured], _, port, _, channel, _, otherPort, _, otherChannel,
      not_or.mpr valid.clientsNamed, _, valid.client, _, valid.counterpartyClient,
      Nat.not_lt.mpr valid.difference⟩

def opened (settings : Settings) (native : String) (parts : Parts) : Chain :=
  { Chain.bare settings native with
    channels := Registry.empty.insert parts.native
      ⟨.open, parts.counterparty.port, some parts.counterparty.channel, [Chain.firstConnection]⟩
    connections := Registry.empty.insert Chain.firstConnection
      ⟨parts.client, parts.counterpartyClient⟩ }

theorem Valid.openRoute?_eq (valid : Valid settings parts) (native : String) :
    (Chain.bare settings native).openRoute? = some (opened settings native parts) := by
  obtain ⟨port, channel⟩ := Route.isNativeEnd_iff.mp valid.nativeEnd
  obtain ⟨otherPort, otherChannel⟩ := Route.isCounterpartyEnd_iff.mp valid.counterpartyEnd
  have same : (Chain.bare settings native).settings = settings := rfl
  unfold Chain.openRoute?
  simp only [same, Identifier.ofText_eq_ok.mpr port, Identifier.ofText_eq_ok.mpr channel,
    Identifier.ofText_eq_ok.mpr otherPort, Identifier.ofText_eq_ok.mpr otherChannel,
    Identifier.ofText_eq_ok.mpr valid.client, Identifier.ofText_eq_ok.mpr valid.counterpartyClient]
  rfl

/-- A chain on which the swap can use an end of a channel. -/
structure Serves (chain : Chain) (route : Endpoint) : Prop where
  ready : ∃ channel, Route.openChannel Chain.host chain route = .ok channel
  counterparty : Route.checkCounterparty Chain.host chain chain.settings route = .ok ()
  clients : Route.checkClients Chain.host chain chain.settings route = .ok ()

theorem Valid.serves (valid : Valid settings parts) (native : String) :
    Serves (opened settings native parts) parts.native := by
  have found : Chain.host.channel? (opened settings native parts) parts.native =
      some ⟨.open, parts.counterparty.port, some parts.counterparty.channel,
        [Chain.firstConnection]⟩ :=
    Registry.find?_insert_self _ _ _
  have connected : Chain.host.connection? (opened settings native parts) Chain.firstConnection =
      some ⟨parts.client, parts.counterpartyClient⟩ := Registry.find?_insert_self _ _ _
  exact {
    ready := ⟨_, Route.openChannel_eq_ok.mpr ⟨found, rfl⟩⟩
    counterparty := Route.checkCounterparty_eq_ok.mpr
      ⟨valid.counterpartyNamed, _, ⟨found, rfl⟩, _, rfl, valid.counterpartyEnd⟩
    clients := Route.checkClients_eq_ok.mpr
      ⟨valid.clientsNamed, _, found, _, rfl, _, connected, valid.client, valid.counterpartyClient⟩ }

/-- What becomes of the outbound trace when it is read: the two ways in which it goes wrong, and
nothing else. -/
structure Reads (settings : Settings) (route : Endpoint) : Prop where
  readable : (∃ denom, Send.outboundDenom settings.outboundTrace = .ok denom) ↔
    ∃ denom, Denom.ofText settings.wrappedDenom = .ok denom
  text : ∀ denom, Send.outboundDenom settings.outboundTrace = .ok denom →
    denom.text = settings.outboundTrace
  accepted : ∀ denom, Send.outboundDenom settings.outboundTrace = .ok denom →
    Route.isOutboundDenom settings denom = true
  latest : ∀ denom, Send.outboundDenom settings.outboundTrace = .ok denom →
    (denom.arrivedOver route = true ↔ ¬ Denom.OnlyHops settings.wrappedDenom)
  refundable : settings.KeepsHop ↔ ¬ Denom.OnlyHops settings.wrappedDenom

theorem outboundDenom_eq_ok {trace : String} {denom : Denom} :
    Send.outboundDenom trace = .ok denom ↔ Denom.ofText trace = .ok denom := Check.mapError_eq_ok

theorem Valid.reads (valid : Valid settings parts) : Reads settings parts.native := by
  have trace := Route.outboundTrace_eq valid.nativeEnd
  have text (denom : Denom) (read : Send.outboundDenom settings.outboundTrace = .ok denom) :
      denom.text = settings.outboundTrace := Denom.text_of_ofText (outboundDenom_eq_ok.mp read)
  constructor
  · simp only [outboundDenom_eq_ok]
    rw [trace]
    exact Denom.exists_ofText_hop_iff parts.native
  · exact text
  · intro denom read
    exact Route.isOutboundDenom_iff.mpr ⟨valid.configured, text denom read⟩
  · intro denom read
    rw [outboundDenom_eq_ok, trace] at read
    exact Denom.arrivedOver_iff_of_ofText read
  · exact Settings.keepsHop_iff valid.nativeEnd

-- Everything but the trace is checked field by field, and each field is used as it was checked. The
-- trace is the one text that is put together from several fields, and its last part was never read
-- on its own.
theorem validated_usable {settings : Settings} (valid : settings.validate = .ok ())
    (native : String) :
    ∃ route chain, Route.isNativeEnd settings route = true ∧
      (Chain.bare settings native).openRoute? = some chain ∧ chain.settings = settings ∧
      Serves chain route ∧
      (∃ factor, Precision.factor? settings.decimalDifference = some factor ∧
        factor.units = settings.factor) ∧
      Reads settings route := by
  obtain ⟨parts, valid⟩ := validate_eq_ok.mp valid
  exact ⟨parts.native, opened settings native parts, valid.nativeEnd,
    valid.openRoute?_eq native, rfl, valid.serves native, Precision.factor?_of_le valid.difference,
    valid.reads⟩

theorem validated_usable_sampleSettings :
    Sample.settings.validate = .ok () ∧ ∃ route chain denom,
      (Chain.bare Sample.settings Sample.nativeDenom).openRoute? = some chain ∧ Serves chain route ∧
      Send.outboundDenom Sample.settings.outboundTrace = .ok denom ∧
      denom.arrivedOver route = true := by
  have valid : Sample.settings.validate = .ok () := rfl
  obtain ⟨route, chain, -, opens, -, serves, -, reads⟩ := validated_usable valid Sample.nativeDenom
  obtain ⟨denom, read⟩ := reads.readable.mpr ⟨_, rfl⟩
  have named : ¬ Denom.OnlyHops Sample.settings.wrappedDenom := by
    rw [Denom.onlyHops_iff]
    decide
  exact ⟨valid, route, chain, denom, opens, serves, read, (reads.latest denom read).mpr named⟩

def spaceSettings : Settings := { Sample.settings with wrappedDenom := " " }

/-- Settings that pass validation: the trace of the first loses its hop, that of the second cannot
be read. -/
theorem validated_misread :
    (Sample.hopSettings.validate = .ok () ∧ ∃ denom,
      Send.outboundDenom Sample.hopSettings.outboundTrace = .ok denom ∧ ∀ hop,
        denom.arrivedOver hop = false) ∧
    spaceSettings.validate = .ok () ∧ ∃ description,
      Send.outboundDenom spaceSettings.outboundTrace =
        .error (.invalidDenom "transfer/channel-0/ " description) :=
  ⟨⟨rfl, ⟨[], Sample.hopBase⟩, rfl, fun _ => rfl⟩, rfl, _, rfl⟩

end Validation

end VoucherSwap
