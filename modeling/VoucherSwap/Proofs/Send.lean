import VoucherSwap.Send
import VoucherSwap.Proofs.Payload
import VoucherSwap.Proofs.Transfer

/-!
Sends that succeed. Either the packet goes out as it is, or it is unwrapped on its way: the native
coin is taken out of escrow and locked in the reserve, the voucher of the reserve is burned, and the
packet that goes out carries the voucher. Each of these steps must have passed, and the outgoing
total has been counted last.
-/

namespace VoucherSwap

namespace Send

variable {σ α : Type}

/-- A send that is to be unwrapped. -/
structure Ordered (host : Host σ α) (state : σ) (packet : Packet) (order : Order α) : Prop where
  ready : ∃ channel, host.channel? state packet.source = some channel ∧ channel.state = .open
  readable : packet.payload? = some order.payload
  stored : host.settings state = .ok order.settings
  enabled : order.settings.enabled = true
  configured : order.settings.configured = true
  departing : order.payload.denom.arrivedOver packet.source = false
  targeted : Route.isTargeted order.settings
    (routeDenom order.settings (host.nativeDenom state) order.payload.denom.text)
    packet.source = true
  counterparty : Route.checkCounterparty host state order.settings packet.source = .ok ()
  clients : Route.checkClients host state order.settings packet.source = .ok ()
  named : order.payload.sender ≠ ""
  sender : host.account? order.payload.sender = some order.sender
  receiver : order.payload.receiver ≠ ""
  positive : order.payload.amount ≠ .zero
  nativeDenom : order.native.denom.text = host.nativeDenom state
  nativeAmount : order.native.amount = order.payload.amount

theorem plan_eq_some {host : Host σ α} {state : σ} {packet : Packet} {order : Order α} :
    plan host state packet = .ok (some order) ↔ Ordered host state packet order := by
  simp only [plan, Check.bind_eq_ok, Check.pure_eq_ok, Check.guard_eq_ok, Check.leave_eq_some,
    Route.openChannel_eq_ok, Route.payload_eq_ok, Route.sender_eq_ok, Route.checkPositive_eq_ok,
    Coin.make_eq_ok, Bool.not_eq_true', Bool.not_eq_false, not_or, Bool.not_eq_true, not_and]
  constructor
  · rintro ⟨channel, ready, payload, readable, settings, stored, enabled,
      ⟨departing, configured, targeted⟩, ⟨⟩, counterparty, ⟨⟩, clients, sender, ⟨named, found⟩,
      receiver, -, positive, native, ⟨nativeDenom, nativeAmount⟩, same⟩
    cases same
    exact ⟨⟨channel, ready⟩, readable, stored, enabled targeted, configured, departing, targeted,
      counterparty, clients, named, found, receiver, positive, nativeDenom, nativeAmount⟩
  · intro ordered
    obtain ⟨channel, ready⟩ := ordered.ready
    exact ⟨channel, ready, order.payload, ordered.readable, order.settings, ordered.stored,
      fun _ => ordered.enabled, ⟨ordered.departing, ordered.configured, ordered.targeted⟩, (),
      ordered.counterparty, (), ordered.clients, order.sender, ⟨ordered.named, ordered.sender⟩,
      ordered.receiver, (), ordered.positive, order.native,
        ⟨ordered.nativeDenom, ordered.nativeAmount⟩, rfl⟩

theorem plan_ready {host : Host σ α} {state : σ} {packet : Packet} {choice : Option (Order α)}
    (planned : plan host state packet = .ok choice) :
    ∃ channel, host.channel? state packet.source = some channel ∧ channel.state = .open := by
  obtain ⟨channel, ready, -⟩ := Check.bind_eq_ok.mp planned
  exact ⟨channel, Route.openChannel_eq_ok.mp ready⟩

theorem atop_forwards {host : Host σ α} {state : σ} {packet : Packet}
    (left : plan host state packet = .ok none) (below : Packet → Effect σ Dispatch) :
    (hook host).atop below packet state = below packet state := by
  have prepared : (host.reporting (prepare host packet)).run state = some (.ok none, state) := by
    unfold prepare ExceptT.run
    rw [Host.reporting_run, Attempt.get_bind, left]
    rfl
  have descends : hook host packet state = some (.descend packet pure, state) := by
    unfold hook
    rw [Effect.bind_run, prepared]
    rfl
  unfold Hook.atop
  rw [Effect.bind_run, descends]
  change (below packet state).bind (fun step => some step) = _
  cases below packet state <;> rfl

theorem atop_refuses {host : Host σ α} {state : σ} {packet : Packet} {error : Error}
    (refused : plan host state packet = .error error) (below : Packet → Effect σ Dispatch) :
    (hook host).atop below packet state =
      some (.error error, host.emit (Notice.failure error.message).event state) := by
  have prepared : (host.reporting (prepare host packet)).run state =
      some (.error error, host.emit (Notice.failure error.message).event state) := by
    unfold prepare ExceptT.run
    rw [Host.reporting_run, Attempt.get_bind, refused]
    rfl
  unfold Hook.atop hook
  rw [Effect.bind_run, Effect.bind_run, prepared]
  rfl

/-- The voucher of an order, and the payload that carries it. -/
structure Converted (host : Host σ α) (state : σ) (packet : Packet) (order : Order α)
    (voucher : Coin) (payload : Payload) : Prop where
  scaled : Precision.scaleUp order.payload.amount order.settings.decimalDifference =
    .ok voucher.amount
  voucherDenom : voucher.denom.text = Voucher.ofTrace
    (Voucher.trace packet.source.port.text packet.source.channel.text order.settings.wrappedDenom)
  senderHolds : host.holds state order.sender order.native = true
  reserveHolds : host.holds state (host.reserve state) voucher = true
  denom : Denom.ofText
    (Voucher.trace packet.source.port.text packet.source.channel.text order.settings.wrappedDenom) =
      .ok payload.denom
  amount : payload.amount = voucher.amount
  sender : payload.sender = order.payload.sender
  receiver : payload.receiver = order.payload.receiver
  memo : payload.memo = order.payload.memo

theorem convert_eq_ok {host : Host σ α} {state : σ} {packet : Packet} {order : Order α}
    {voucher : Coin} {payload : Payload} :
    convert host state packet order = .ok (voucher, payload) ↔
      Converted host state packet order voucher payload := by
  simp only [convert, outboundDenom, Check.bind_eq_ok, Check.pure_eq_ok, Check.mapError_eq_ok,
    Coin.make_eq_ok, Reserve.checkBalances_eq_ok]
  constructor
  · rintro ⟨converted, scaled, coin, ⟨voucherDenom, rfl⟩, -, ⟨senderHolds, reserveHolds⟩,
      denom, read, same⟩
    cases same
    exact ⟨scaled, voucherDenom, senderHolds, reserveHolds, read, rfl, rfl, rfl, rfl⟩
  · intro converted
    refine ⟨voucher.amount, converted.scaled, voucher, ⟨converted.voucherDenom, rfl⟩, (),
      ⟨converted.senderHolds, converted.reserveHolds⟩, payload.denom, converted.denom, ?_⟩
    rw [← converted.amount, ← converted.sender, ← converted.receiver, ← converted.memo]

@[simp] theorem rewritten_data (packet : Packet) (payload : Payload) :
    (rewritten packet payload).data = payload.bytes := by
  unfold rewritten
  dsimp only

@[simp] theorem rewritten_source (packet : Packet) (payload : Payload) :
    (rewritten packet payload).source = packet.source := by
  unfold rewritten
  dsimp only

@[simp] theorem rewritten_destination (packet : Packet) (payload : Payload) :
    (rewritten packet payload).destination = packet.destination := by
  unfold rewritten
  dsimp only

theorem rewritten_sequence (packet : Packet) (payload : Payload) :
    (rewritten packet payload).sequence = packet.sequence := by
  unfold rewritten
  dsimp only

theorem payload?_rewritten (packet : Packet) {payload : Payload}
    (known : Denom.ofText payload.denom.text = .ok payload.denom) :
    (rewritten packet payload).payload? = some payload :=
  Packet.payload?_of_data (rewritten_data packet payload) known

theorem crossing_rewritten (packet : Packet) (payload : Payload) (order : Order α) :
    crossing (rewritten packet payload) order = crossing packet order := by
  unfold crossing
  rw [rewritten_source, rewritten_destination]

/-- The native coin of an order has gone from escrow into the reserve. -/
structure Collected (packet : Packet) (order : Order Account) (before : Chain) (voucher : Coin)
    (payload : Payload) (released locked : Bank) : Prop where
  freed : before.bank.send (Chain.escrow packet.source) order.sender order.native =
    some (.ok released)
  converted : Converted Chain.host { before with bank := released } packet order voucher payload
  taken : released.send order.sender Chain.reserve order.native = some (.ok locked)

theorem collect_eq_ok {packet : Packet} {order : Order Account} {before after : Chain}
    {unwrapping : Unwrapping Account} :
    collect Chain.host packet order before = some (.ok unwrapping, after) ↔
      ∃ voucher payload released locked,
        Collected packet order before voucher payload released locked ∧
        unwrapping = ⟨order, voucher, rewritten packet payload⟩ ∧
        after = { before with bank := locked } := by
  have release (state final : Chain) (result : Unit) :
      Chain.host.sendCoins (Chain.host.escrow state packet.source) order.sender order.native state =
          some (.ok result, final) ↔
        ∃ bank, state.bank.send (Chain.escrow packet.source) order.sender order.native =
          some (.ok bank) ∧
          final = { state with bank } := Chain.sendCoins_eq_ok
  simp only [collect, Attempt.get_bind, Attempt.bind_eq_ok, Attempt.check_eq_ok, Attempt.pure_eq_ok,
    Attempt.guard_eq_ok, release, Chain.lock_run, Chain.sendCoins_eq_ok]
  constructor
  · rintro ⟨-, -, ⟨released, freed, rfl⟩, -, ⟨voucher, payload⟩, _, ⟨converted, rfl⟩, -, -,
      ⟨locked, taken, rfl⟩, rfl, rfl⟩
    exact ⟨voucher, payload, released, locked, ⟨freed, convert_eq_ok.mp converted, taken⟩, rfl, rfl⟩
  · rintro ⟨voucher, payload, released, locked, collected, rfl, rfl⟩
    refine ⟨(), _, ⟨released, collected.freed, rfl⟩, ?_, (voucher, payload), _,
      ⟨convert_eq_ok.mpr collected.converted, rfl⟩, (), _, ⟨locked, collected.taken, rfl⟩, rfl, rfl⟩
    simp [collected.converted.senderHolds]

/-- A send that unwrapped its packet: what it found, and the chain that it left. -/
structure Unwraps (packet : Packet) (before : Chain) (order : Order Account) (voucher : Coin)
    (payload : Payload) (after : Chain) : Prop where
  ordered : Ordered Chain.host before packet order
  collected : ∃ released locked burned totals,
    Collected packet order before voucher payload released locked ∧
      locked.burn Chain.reserve voucher = .ok burned ∧
      before.totals.recordOut order.native.amount = .ok totals ∧
      after = { before with
        bank := burned
        totals
        sent := before.sent ++ [rewritten packet payload]
        events := before.events ++ [(Notice.unwrapped (crossing packet order)).event]
        logs := before.logs ++ [logLine order voucher] }
  working : before.sendsFail = false

inductive Sends (packet : Packet) (before : Chain) : Chain → Prop where
  | forwarded (left : plan Chain.host before packet = .ok none)
      (working : before.sendsFail = false) :
      Sends packet before { before with sent := before.sent ++ [packet] }
  | unwrapped {order : Order Account} {voucher : Coin} {payload : Payload} {after : Chain}
      (unwraps : Unwraps packet before order voucher payload after) : Sends packet before after

theorem burnOrUnlock_eq_ok {sender : Account} {name : String} {native voucher : Coin}
    {before after : Chain} {result : Unit} :
    Reserve.burnOrUnlock Chain.host sender name native voucher before = some (.ok result, after) ↔
      ∃ bank, before.bank.burn Chain.reserve voucher = .ok bank ∧ after = { before with bank } := by
  have burn (state final : Chain) :
      (Chain.host.burnCoins (Chain.host.reserve state) voucher).run state =
        some (.ok (), final) ↔ ∃ bank, state.bank.burn Chain.reserve voucher = .ok bank ∧
          final = { state with bank } := Chain.burnCoins_eq_ok
  unfold Reserve.burnOrUnlock
  rw [Effect.get_bind, Effect.bind_eq_some]
  constructor
  · rintro ⟨outcome, middle, ran, went⟩
    cases outcome with
    | ok done =>
        obtain ⟨-, rfl⟩ := Effect.pure_eq_some.mp went
        exact (burn before middle).mp ran
    | error burnError =>
        -- However the coin is handed back, the answer is the error of the burn.
        simp only [Effect.bind_eq_some, Effect.pure_eq_some] at went
        obtain ⟨_, _, -, _, _, -, _, _, -, wrong, -⟩ := went
        contradiction
  · intro burned
    exact ⟨.ok (), after, (burn before after).mpr burned, rfl⟩

theorem conclude_eq_ok {unwrapping : Unwrapping Account} {dispatch : Dispatch}
    {before after : Chain} {sequence : UInt64} :
    conclude Chain.host unwrapping dispatch before = some (.ok sequence, after) ↔
      dispatch = .ok sequence ∧ ∃ totals,
        before.totals.recordOut unwrapping.order.native.amount = .ok totals ∧
        after = { before with
          totals
          events := before.events ++
            [(Notice.unwrapped (crossing unwrapping.packet unwrapping.order)).event]
          logs := before.logs ++ [logLine unwrapping.order unwrapping.voucher] } := by
  unfold conclude ExceptT.run
  rw [Host.reporting_eq_ok]
  simp only [Attempt.bind_eq_ok, Attempt.check_eq_ok, Chain.recordOut_eq_ok, Attempt.modify_bind,
    Attempt.effect_eq_ok, Attempt.pure_eq_ok]
  constructor
  · rintro ⟨first, _, ⟨sent, rfl⟩, _, _, ⟨totals, counted, rfl⟩, _, _, reported, rfl, rfl⟩
    cases reported
    exact ⟨sent, totals, counted, rfl⟩
  · rintro ⟨sent, totals, counted, rfl⟩
    exact ⟨sequence, _, ⟨sent, rfl⟩, (), _, ⟨totals, counted, rfl⟩, (), _, rfl, rfl, rfl⟩

theorem sendPacket_eq_ok {packet : Packet} {before after : Chain} {sequence : UInt64} :
    Chain.sendPacket packet before = some (.ok sequence, after) ↔
      before.sendsFail = false ∧ sequence = packet.sequence ∧
        after = { before with sent := before.sent ++ [packet] } := by
  unfold Chain.sendPacket
  cases before.sendsFail <;> simp [eq_comm]

theorem prepare_eq_none {host : Host σ α} {packet : Packet} {before after : σ} :
    (host.reporting (prepare host packet)).run before = some (.ok none, after) ↔
      plan host before packet = .ok none ∧ after = before := by
  unfold prepare ExceptT.run
  rw [Host.reporting_eq_ok, Attempt.get_bind, Attempt.bind_eq_ok]
  simp only [Attempt.check_eq_ok]
  constructor
  · rintro ⟨choice, _, ⟨planned, rfl⟩, went⟩
    cases choice with
    | none =>
        obtain ⟨-, rfl⟩ := Attempt.pure_eq_ok.mp went
        exact ⟨planned, rfl⟩
    | some order =>
        simp only [map_eq_pure_bind, Attempt.bind_eq_ok, Attempt.pure_eq_ok, reduceCtorEq,
          false_and, and_false, exists_false] at went
  · rintro ⟨planned, rfl⟩
    exact ⟨none, after, ⟨planned, rfl⟩, rfl⟩

theorem prepare_eq_some {host : Host σ α} {packet : Packet} {before after : σ}
    {unwrapping : Unwrapping α} :
    (host.reporting (prepare host packet)).run before = some (.ok (some unwrapping), after) ↔
      ∃ order, Ordered host before packet order ∧
        collect host packet order before = some (.ok unwrapping, after) := by
  unfold prepare ExceptT.run
  rw [Host.reporting_eq_ok, Attempt.get_bind, Attempt.bind_eq_ok]
  simp only [Attempt.check_eq_ok]
  constructor
  · rintro ⟨choice, _, ⟨planned, rfl⟩, went⟩
    cases choice with
    | none =>
        obtain ⟨wrong, -⟩ := Attempt.pure_eq_ok.mp went
        contradiction
    | some order =>
        simp only [map_eq_pure_bind, Attempt.bind_eq_ok, Attempt.pure_eq_ok,
          Option.some.injEq] at went
        obtain ⟨_, _, collected, rfl, rfl⟩ := went
        exact ⟨order, plan_eq_some.mp planned, collected⟩
  · rintro ⟨order, ordered, collected⟩
    refine ⟨some order, before, ⟨plan_eq_some.mpr ordered, rfl⟩, ?_⟩
    simp only [map_eq_pure_bind, Attempt.bind_eq_ok, Attempt.pure_eq_ok]
    exact ⟨_, _, collected, rfl, rfl⟩

-- A send succeeds with the sequence number of its packet, which unwrapping does not change.
theorem atop_eq_ok {packet : Packet} {before after : Chain} {sequence : UInt64} :
    (hook Chain.host).atop Chain.sendPacket packet before = some (.ok sequence, after) ↔
      sequence = packet.sequence ∧ Sends packet before after := by
  unfold Hook.atop hook
  simp only [Effect.bind_eq_some]
  constructor
  · rintro ⟨visit, entered, ⟨outcome, middle, prepared, chosen⟩, went⟩
    match outcome with
    | .error error =>
        obtain ⟨rfl, -⟩ := Effect.pure_eq_some.mp chosen
        obtain ⟨wrong, -⟩ := Effect.pure_eq_some.mp went
        contradiction
    | .ok none =>
        obtain ⟨rfl, rfl⟩ := Effect.pure_eq_some.mp chosen
        obtain ⟨planned, rfl⟩ := prepare_eq_none.mp prepared
        simp only [Effect.bind_eq_some, Effect.pure_eq_some] at went
        obtain ⟨_, _, sent, rfl, rfl⟩ := went
        obtain ⟨working, rfl, rfl⟩ := sendPacket_eq_ok.mp sent
        exact ⟨rfl, .forwarded planned working⟩
    | .ok (some unwrapping) =>
        obtain ⟨order, ordered, collecting⟩ := prepare_eq_some.mp prepared
        obtain ⟨voucher, payload, released, locked, collected, rfl, rfl⟩ :=
          collect_eq_ok.mp collecting
        simp only [Effect.bind_eq_some] at chosen
        obtain ⟨burning, _, ran, chosen⟩ := chosen
        cases burning with
        | error error =>
            obtain ⟨rfl, -⟩ := Effect.pure_eq_some.mp chosen
            obtain ⟨wrong, -⟩ := Effect.pure_eq_some.mp went
            contradiction
        | ok done =>
            obtain ⟨rfl, rfl⟩ := Effect.pure_eq_some.mp chosen
            obtain ⟨burned, destroyed, rfl⟩ := burnOrUnlock_eq_ok.mp ran
            simp only [Effect.bind_eq_some] at went
            obtain ⟨dispatch, _, sent, concluded⟩ := went
            obtain ⟨rfl, totals, counted, rfl⟩ := conclude_eq_ok.mp concluded
            obtain ⟨working, rfl, rfl⟩ := sendPacket_eq_ok.mp sent
            refine ⟨rewritten_sequence packet payload, .unwrapped ⟨ordered,
              ⟨released, locked, burned, totals, collected, destroyed, counted, ?_⟩, working⟩⟩
            rw [crossing_rewritten]
  · rintro ⟨rfl, sends⟩
    cases sends with
    | forwarded planned working =>
        refine ⟨_, before, ⟨.ok none, before, prepare_eq_none.mpr ⟨planned, rfl⟩, rfl⟩, ?_⟩
        simp only [Effect.bind_eq_some, Effect.pure_eq_some]
        exact ⟨_, _, sendPacket_eq_ok.mpr ⟨working, rfl, rfl⟩, rfl, rfl⟩
    | @unwrapped order voucher payload _ unwraps =>
        obtain ⟨ordered, ⟨released, locked, burned, totals, collected, destroyed, counted, rfl⟩,
          working⟩ :=
          unwraps
        have collecting := collect_eq_ok.mpr
          ⟨voucher, payload, released, locked, collected, rfl, rfl⟩
        have prepared := prepare_eq_some.mpr ⟨order, ordered, collecting⟩
        refine ⟨.descend (rewritten packet payload)
          (conclude Chain.host ⟨order, voucher, rewritten packet payload⟩),
            { before with bank := burned },
          ⟨_, _, prepared, ?_⟩, ?_⟩
        · simp only [Effect.bind_eq_some]
          exact ⟨.ok (), _, burnOrUnlock_eq_ok.mpr ⟨burned, destroyed, rfl⟩, rfl⟩
        · simp only [Effect.bind_eq_some]
          rw [← crossing_rewritten packet payload order, ← rewritten_sequence packet payload]
          exact ⟨_, _, sendPacket_eq_ok.mpr ⟨working, rfl, rfl⟩,
            conclude_eq_ok.mpr ⟨rfl, totals, counted, rfl⟩⟩

end Send

end VoucherSwap
