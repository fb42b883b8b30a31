import VoucherSwap.Reserve
import VoucherSwap.Route
import VoucherSwap.Proofs.Denom
import VoucherSwap.Proofs.Outcome
import VoucherSwap.Proofs.Payload

/-!
When the checks before a swap pass. A payload that was read has a denomination that was read, and on
the configured route the trace of the settings has the packet's own end as its first hop.
-/

namespace VoucherSwap

variable {σ α : Type}

theorem Endpoint.ext_text {one other : Endpoint} (port : one.port.text = other.port.text)
    (channel : one.channel.text = other.channel.text) : one = other := by
  obtain ⟨⟨onePort, _⟩, ⟨oneChannel, _⟩⟩ := one
  obtain ⟨⟨otherPort, _⟩, ⟨otherChannel, _⟩⟩ := other
  dsimp only at port channel
  subst port channel
  rfl

namespace Host

theorem account_eq_ok {host : Host σ α} {address : String} {account : α} :
    host.account address = .ok account ↔ host.account? address = some account := by
  unfold Host.account
  cases host.account? address <;> simp

theorem account_eq_error {host : Host σ α} {address : String} {error : Error} :
    host.account address = .error error ↔
      host.account? address = none ∧ error = .unreadableAccount address := by
  unfold Host.account
  cases host.account? address <;> simp [eq_comm]

end Host

namespace Route

theorem channel_eq_ok {host : Host σ α} {state : σ} {endpoint : Endpoint} {channel : ChannelEnd} :
    Route.channel host state endpoint = .ok channel ↔
      host.channel? state endpoint = some channel := by
  unfold Route.channel
  cases host.channel? state endpoint <;> simp

theorem channel_eq_error {host : Host σ α} {state : σ} {endpoint : Endpoint} {error : Error} :
    channel host state endpoint = .error error ↔
      host.channel? state endpoint = none ∧ error = .channelNotFound endpoint := by
  unfold channel
  cases host.channel? state endpoint <;> simp [eq_comm]

theorem openChannel_eq_ok {host : Host σ α} {state : σ} {endpoint : Endpoint}
    {channel : ChannelEnd} :
    openChannel host state endpoint = .ok channel ↔
      host.channel? state endpoint = some channel ∧ channel.state = .open := by
  unfold openChannel Route.channel
  cases found : host.channel? state endpoint with
  | none => simp [bind, Except.bind]
  | some other =>
      simp only [ne_eq, Check.bind_eq_ok, Check.guard_eq_ok, Check.pure_eq_ok, Except.ok.injEq,
        exists_eq_left', Decidable.not_not, Option.some.injEq]
      constructor
      · rintro ⟨ready, rfl⟩
        exact ⟨rfl, ready⟩
      · rintro ⟨rfl, ready⟩
        exact ⟨ready, rfl⟩

theorem openChannel_eq_error {host : Host σ α} {state : σ} {endpoint : Endpoint} {error : Error} :
    openChannel host state endpoint = .error error ↔
      host.channel? state endpoint = none ∧ error = .channelNotFound endpoint ∨
        ∃ channel, host.channel? state endpoint = some channel ∧ channel.state ≠ .open ∧
          error = .channelNotOpen endpoint channel.state := by
  unfold openChannel Route.channel
  cases found : host.channel? state endpoint with
  | none => simp [bind, Except.bind, eq_comm]
  | some other =>
      simp only [ne_eq, Check.bind_eq_error, Check.guard_eq_error, Check.pure_eq_error,
        Except.ok.injEq, exists_eq_left', reduceCtorEq, false_and, false_or, and_false, or_false,
        Option.some.injEq]
      constructor
      · rintro ⟨closed, rfl⟩
        exact ⟨closed, rfl⟩
      · rintro ⟨closed, rfl⟩
        exact ⟨closed, rfl⟩

theorem payload_eq_ok {packet : Packet} {payload : Payload} :
    Route.payload packet = .ok payload ↔ packet.payload? = some payload := by
  unfold Route.payload
  cases packet.payload? <;> simp

theorem payload_eq_error {packet : Packet} {error : Error} :
    Route.payload packet = .error error ↔ packet.payload? = none ∧ error = .unreadablePacket := by
  unfold Route.payload
  cases packet.payload? <;> simp [eq_comm]

theorem checkPositive_eq_ok {payload : Payload} {result : Unit} :
    checkPositive payload = .ok result ↔ payload.amount ≠ .zero := by
  unfold checkPositive
  split <;> simp [*]

theorem checkPositive_eq_error {payload : Payload} {error : Error} :
    checkPositive payload = .error error ↔ payload.amount = .zero ∧ error = .nonPositiveAmount := by
  unfold checkPositive
  by_cases nothing : payload.amount = .zero
  · simp [nothing, eq_comm]
  · simp [nothing]

theorem sender_eq_ok {host : Host σ α} {payload : Payload} {account : α} :
    Route.sender host payload = .ok account ↔
      payload.sender ≠ "" ∧ host.account? payload.sender = some account := by
  unfold Route.sender
  split
  · simp [*]
  · simp [*, Host.account_eq_ok]

theorem sender_eq_error {host : Host σ α} {payload : Payload} {error : Error} :
    Route.sender host payload = .error error ↔
      payload.sender = "" ∧ error = .emptySender ∨
        payload.sender ≠ "" ∧ host.account? payload.sender = none ∧
        error = .unreadableAccount payload.sender := by
  unfold Route.sender
  by_cases unnamed : payload.sender = ""
  · simp [unnamed, eq_comm]
  · simp only [unnamed, ↓reduceIte, Host.account_eq_error, false_and, ne_eq, not_false_eq_true,
      true_and, false_or]

theorem isNativeEnd_iff {settings : Settings} {endpoint : Endpoint} :
    isNativeEnd settings endpoint = true ↔
      endpoint.port.text = settings.nativePort ∧
      endpoint.channel.text = settings.nativeChannel := by
  simp [isNativeEnd]

theorem isNativeEnd_unique {settings : Settings} {one other : Endpoint}
    (first : isNativeEnd settings one = true) (second : isNativeEnd settings other = true) :
    one = other := by
  obtain ⟨port, channel⟩ := isNativeEnd_iff.mp first
  obtain ⟨samePort, sameChannel⟩ := isNativeEnd_iff.mp second
  exact Endpoint.ext_text (port.trans samePort.symm) (channel.trans sameChannel.symm)

theorem isCounterpartyEnd_iff {settings : Settings} {endpoint : Endpoint} :
    isCounterpartyEnd settings endpoint = true ↔
      endpoint.port.text = settings.counterpartyPort ∧
      endpoint.channel.text = settings.counterpartyChannel := by
  simp [isCounterpartyEnd]

theorem isCounterpartyEnd_unique {settings : Settings} {one other : Endpoint}
    (first : isCounterpartyEnd settings one = true)
    (second : isCounterpartyEnd settings other = true) :
    one = other := by
  obtain ⟨port, channel⟩ := isCounterpartyEnd_iff.mp first
  obtain ⟨samePort, sameChannel⟩ := isCounterpartyEnd_iff.mp second
  exact Endpoint.ext_text (port.trans samePort.symm) (channel.trans sameChannel.symm)

theorem checkCounterparty_eq_ok {host : Host σ α} {state : σ} {settings : Settings}
    {endpoint : Endpoint} {result : Unit} :
    checkCounterparty host state settings endpoint = .ok result ↔
      (settings.counterpartyPort ≠ "" ∧ settings.counterpartyChannel ≠ "") ∧
        ∃ channel, (host.channel? state endpoint = some channel ∧ channel.state = .open) ∧
          ∃ counterpartyChannel, channel.counterpartyChannel = some counterpartyChannel ∧
            isCounterpartyEnd settings ⟨channel.counterpartyPort, counterpartyChannel⟩ = true := by
  simp only [checkCounterparty, Check.guard_eq_ok, Check.bind_eq_ok, openChannel_eq_ok, not_or,
    isCounterpartyEnd_iff]
  refine and_congr_right fun _ => exists_congr fun channel => and_congr_right fun _ => ?_
  cases channel.counterpartyChannel with
  | none => simp [throw, throwThe, MonadExceptOf.throw]
  | some counterpartyChannel =>
      simp only [Check.last_guard_eq_ok, ne_eq, not_or, Decidable.not_not, Option.some.injEq,
        exists_eq_left']

theorem checkClients_eq_ok {host : Host σ α} {state : σ} {settings : Settings} {endpoint : Endpoint}
    {result : Unit} :
    checkClients host state settings endpoint = .ok result ↔
      (settings.nativeClient ≠ "" ∧ settings.counterpartyClient ≠ "") ∧
        ∃ channel, host.channel? state endpoint = some channel ∧
          ∃ hop, channel.hops.head? = some hop ∧
            ∃ connection, host.connection? state hop = some connection ∧
              connection.client.text = settings.nativeClient ∧
              connection.counterpartyClient.text = settings.counterpartyClient := by
  simp only [checkClients, Check.guard_eq_ok, Check.bind_eq_ok, channel_eq_ok, not_or]
  refine and_congr_right fun _ => exists_congr fun channel => and_congr_right fun _ => ?_
  cases channel.hops with
  | nil => simp [throw, throwThe, MonadExceptOf.throw]
  | cons hop others =>
      simp only [List.head?_cons, Option.some.injEq, exists_eq_left']
      cases host.connection? state hop with
      | none => simp [throw, throwThe, MonadExceptOf.throw]
      | some connection =>
          simp only [Check.guard_eq_ok, Check.last_guard_eq_ok, ne_eq, Decidable.not_not,
            Option.some.injEq, exists_eq_left']

theorem isOutboundDenom_iff {settings : Settings} {denom : Denom} :
    isOutboundDenom settings denom = true ↔
      settings.configured = true ∧ denom.text = settings.outboundTrace := by
  simp [isOutboundDenom]

theorem outboundTrace_eq {settings : Settings} {endpoint : Endpoint}
    (native : isNativeEnd settings endpoint = true) :
    settings.outboundTrace = endpoint.text ++ "/" ++ settings.wrappedDenom := by
  obtain ⟨port, channel⟩ := isNativeEnd_iff.mp native
  rw [Settings.outboundTrace, ← port, ← channel, Voucher.trace_hop]

end Route

namespace Payload

theorem denom_of_ofBytes? {bytes : ByteArray} {payload : Payload}
    (read : ofBytes? bytes = some payload) :
    Denom.ofText payload.denom.text = .ok payload.denom := by
  simp only [ofBytes?, Option.bind_eq_bind, Option.bind_eq_some_iff, Check.toOption_eq_some,
    complete_eq_ok] at read
  obtain ⟨text, -, draft, -, denom, amount, known, -, rfl⟩ := read
  exact Denom.readable_iff.mp ⟨_, known⟩

end Payload

namespace Reserve

theorem checkFunds_eq_ok {host : Host σ α} {state : σ} {account : α} {holder : String} {coin : Coin}
    {result : Unit} :
    checkFunds host state account holder coin = .ok result ↔
      host.holds state account coin = true := by
  unfold checkFunds
  split <;> simp [*]

theorem checkFunds_eq_error {host : Host σ α} {state : σ} {account : α} {holder : String}
    {coin : Coin} {error : Error} :
    checkFunds host state account holder coin = .error error ↔
      host.holds state account coin = false ∧
      error = shortage holder coin (host.balance state account coin.denom.text) := by
  unfold checkFunds
  cases host.holds state account coin <;> simp [eq_comm]

theorem checkBalances_eq_ok {host : Host σ α} {state : σ} {account : α} {holder : String}
    {holderCoin reserveCoin : Coin} {result : Unit} :
    checkBalances host state account holder holderCoin reserveCoin = .ok result ↔
      host.holds state account holderCoin = true ∧
        host.holds state (host.reserve state) reserveCoin = true := by
  simp only [checkBalances, Check.bind_eq_ok, checkFunds_eq_ok, exists_const]

end Reserve

namespace Coin

theorem make_eq_ok {denom : String} {amount : Amount} {coin : Coin} :
    make denom amount = .ok coin ↔ coin.denom.text = denom ∧ coin.amount = amount := by
  unfold make
  cases read : BaseDenom.ofText denom with
  | error cause =>
      simp only [reduceCtorEq, false_iff, not_and]
      rintro rfl
      rw [BaseDenom.ofText_text] at read
      contradiction
  | ok base =>
      have text := BaseDenom.text_of_ofText read
      simp only [Except.ok.injEq]
      constructor
      · rintro rfl
        exact ⟨text, rfl⟩
      · rintro ⟨rfl, rfl⟩
        rw [BaseDenom.ofText_text, Except.ok.injEq] at read
        rw [← read]

theorem make_eq_error {denom : String} {amount : Amount} {error : Error} :
    make denom amount = .error error ↔
      Text.isBlank denom = true ∧
      error = .bank (DecodingError.missing "empty base denom").message := by
  unfold make BaseDenom.ofText
  split
  · rename_i base read
    split at read
    · contradiction
    · rename_i visible
      simp [visible]
  · rename_i cause read
    split at read
    · rename_i blank
      cases read
      simp [blank, eq_comm]
    · contradiction

end Coin

end VoucherSwap
