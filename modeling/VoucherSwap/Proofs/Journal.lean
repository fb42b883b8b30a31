import VoucherSwap.Proofs.Abort

/-!
What a send tells. A host takes events and log lines without showing them again, so a send is
repeated on a host that keeps a journal beside its state, where neither the host nor the channel can
see it. The journal has every event and every line that the send hands over, the burn of the
voucher, and each time that the packet is passed on.
-/

namespace VoucherSwap

variable {σ α β γ : Type}

/-- What a send does that others see. -/
inductive Entry where
  | event (event : Event)
  | line (line : String)
  | burned (voucher : Coin) (outcome : Except Error Unit)
  | passed (packet : Packet) (dispatch : Dispatch)

namespace Entry

def failed (error : Error) : Entry := .event (Notice.failure error.message).event

def isPassing : Entry → Bool
  | .passed _ _ => true
  | _ => false

end Entry

abbrev Journal := List Entry

namespace Effect

/-- An effect beside a journal, of which it makes no entry. -/
def silently (effect : Effect σ β) : Effect (σ × Journal) β := fun (state, journal) =>
  (effect state).map fun (result, after) => (result, after, journal)

def noting (entry : β → Entry) (effect : Effect σ β) : Effect (σ × Journal) β :=
  fun (state, journal) =>
  (effect state).map fun (result, after) => (result, after, journal ++ [entry result])

end Effect

/-- The same host with a journal beside its state. -/
def Host.journaling (host : Host σ α) : Host (σ × Journal) α where
  settings := fun state => host.settings state.1
  storeSettings := fun settings => Effect.silently (host.storeSettings settings)
  totals := fun state => host.totals state.1
  storeTotals := fun totals => Effect.silently (host.storeTotals totals)
  nativeDenom := fun state => host.nativeDenom state.1
  channel? := fun state => host.channel? state.1
  connection? := fun state => host.connection? state.1
  account? := host.account?
  reserve := fun state => host.reserve state.1
  escrow := fun state => host.escrow state.1
  balance := fun state => host.balance state.1
  holds := fun state => host.holds state.1
  sendCoins := fun sender receiver coin => Effect.silently (host.sendCoins sender receiver coin)
  burnCoins := fun account coin => Effect.noting (.burned coin) (host.burnCoins account coin)
  emit := fun event (state, journal) => (host.emit event state, journal ++ [.event event])
  log := fun line (state, journal) => (host.log line state, journal ++ [.line line])

namespace Journal

def passing (below : Packet → Effect σ Dispatch) (packet : Packet) :
    Effect (σ × Journal) Dispatch :=
  (below packet).noting (.passed packet)

def beside (journal : Journal) (step : β × σ) : β × σ × Journal := (step.1, step.2, journal)

variable {host : Host σ α} {before middle after : σ} {journal : Journal}

-- Steps that make no entry make none together.
theorem bind_silent {told : Attempt (σ × Journal) β} {plain : Attempt σ β}
    {next : β → Attempt (σ × Journal) γ} {other : β → Attempt σ γ}
    (first : told (before, journal) = (plain before).map (beside journal))
    (goes : ∀ value middle, next value (middle, journal) =
      (other value middle).map (beside journal)) :
    (told >>= next) (before, journal) = ((plain >>= other) before).map (beside journal) := by
  rw [Attempt.bind_run, Attempt.bind_run, first]
  cases plain before with
  | none => rfl
  | some step =>
      obtain ⟨outcome, middle⟩ := step
      cases outcome with
      | error error => rfl
      | ok value => exact goes value middle

theorem collect_journaling (packet : Packet) (order : Send.Order α) :
    Send.collect host.journaling packet order (before, journal) =
      (Send.collect host packet order before).map (beside journal) := by
  unfold Send.collect
  rw [Attempt.get_bind, Attempt.get_bind]
  refine bind_silent rfl fun _ middle => ?_
  rw [Attempt.get_bind, Attempt.get_bind]
  have holds : host.journaling.holds (middle, journal) = host.holds middle := rfl
  rw [holds]
  by_cases owned : host.holds middle order.sender order.native = true
  · simp only [owned, Bool.not_true, Bool.false_eq_true, if_false]
    refine bind_silent rfl fun converted _ => ?_
    exact bind_silent rfl fun _ _ => rfl
  · simp only [owned, Bool.not_false, if_true]
    rfl

theorem prepare_journaling (packet : Packet) :
    Send.prepare host.journaling packet (before, journal) =
      (Send.prepare host packet before).map (beside journal) := by
  unfold Send.prepare
  rw [Attempt.get_bind, Attempt.get_bind]
  refine bind_silent rfl fun choice middle => ?_
  cases choice with
  | none => rfl
  | some order =>
      simp only [map_eq_pure_bind]
      exact bind_silent (collect_journaling packet order) fun _ _ => rfl

theorem recordOut_journaling (amount : Amount) :
    Reserve.recordOut host.journaling amount (before, journal) =
      (Reserve.recordOut host amount before).map (beside journal) := by
  unfold Reserve.recordOut
  rw [Attempt.get_bind, Attempt.get_bind]
  refine bind_silent rfl fun totals _ => ?_
  exact bind_silent rfl fun _ _ => rfl

theorem unlock_journaling (holder : α) (coin : Coin) :
    Reserve.unlock host.journaling holder coin (before, journal) =
      (Reserve.unlock host holder coin before).map (beside journal) := rfl

def failures : Except Error β → Journal
  | .ok _ => []
  | .error error => [.failed error]

theorem reporting_journaling {told : Attempt (σ × Journal) β} {plain : Attempt σ β}
    (silent : told (before, journal) = (plain before).map (beside journal)) :
    host.journaling.reporting told (before, journal) =
      (host.reporting plain before).map fun step =>
      (step.1, step.2, journal ++ failures step.1) := by
  rw [Host.reporting_run, Host.reporting_run, silent]
  cases plain before with
  | none => rfl
  | some step =>
      obtain ⟨outcome, middle⟩ := step
      cases outcome with
      | error error => rfl
      | ok value => simp [beside, failures]

def conclusion (unwrapping : Send.Unwrapping α) : Dispatch → Journal
  | .ok _ => [.line (Send.logLine unwrapping.order unwrapping.voucher),
      .event (Notice.unwrapped (Send.crossing unwrapping.packet unwrapping.order)).event]
  | .error error => [.failed error]

theorem conclude_journaling (unwrapping : Send.Unwrapping α) (dispatch : Dispatch) :
    Send.conclude host.journaling unwrapping dispatch (before, journal) =
      (Send.conclude host unwrapping dispatch before).map fun step =>
        (step.1, step.2, journal ++ conclusion unwrapping step.1) := by
  unfold Send.conclude ExceptT.run
  rw [Host.reporting_run, Host.reporting_run]
  cases dispatch with
  | error error => rfl
  | ok sequence =>
      have passes {κ : Type} (next : UInt64 → Attempt κ UInt64) (state : κ) :
          ((liftM (Except.ok sequence : Dispatch) : Attempt κ UInt64) >>= next) state =
            next sequence state := rfl
      rw [passes, passes, Attempt.bind_run, Attempt.bind_run, recordOut_journaling]
      cases Reserve.recordOut host unwrapping.order.native.amount before with
      | none => rfl
      | some step =>
          obtain ⟨outcome, middle⟩ := step
          cases outcome with
          | error error => rfl
          | ok counted =>
              exact congrArg (fun entries => some (Except.ok sequence, _, entries))
                (List.append_cons journal _ _).symm

theorem conclude_told {unwrapping : Send.Unwrapping α} {answer dispatch : Dispatch}
    (finished : Send.conclude host unwrapping answer before = some (dispatch, after))
    (journal : Journal) :
    Send.conclude host.journaling unwrapping answer (before, journal) =
      some (dispatch, after, journal ++ conclusion unwrapping dispatch) := by
  rw [conclude_journaling, finished]
  rfl

theorem conclude_dispatch {unwrapping : Send.Unwrapping α} {answer : Dispatch} {sequence : UInt64}
    (finished : Send.conclude host unwrapping answer before = some (.ok sequence, after)) :
    answer = .ok sequence := by
  unfold Send.conclude ExceptT.run at finished
  rw [Host.reporting_eq_ok] at finished
  simp only [Attempt.bind_eq_ok, Attempt.check_eq_ok, Attempt.pure_eq_ok] at finished
  obtain ⟨_, _, ⟨passed, -⟩, -, -, -, -, -, -, -, -, -, rfl, -⟩ := finished
  exact passed

def Unlocks (host : Host σ α) (sender : α) (native : Coin) (outcome : Except Error Unit) : Prop :=
  ∃ state handed, Reserve.unlock host sender native state = some (outcome, handed)

/-- The entries of a burn, whose failure is reported at once together with what became of the native
coin. -/
inductive BurnTold (host : Host σ α) (sender : α) (name : String) (native voucher : Coin) :
    Except Error Unit → Journal → Prop where
  | burned : BurnTold host sender name native voucher (.ok ()) [.burned voucher (.ok ())]
  | refused {error : Error} {unlocking : Except Error Unit}
      (unlocked : Unlocks host sender native unlocking) :
      BurnTold host sender name native voucher (.error error)
        [.burned voucher (.error error), .failed error,
          .event (Reserve.unlockNotice name native unlocking).event]

theorem burnOrUnlock_told {sender : α} {name : String} {native voucher : Coin}
    {outcome : Except Error Unit}
    (ran : Reserve.burnOrUnlock host sender name native voucher before = some (outcome, after))
    (journal : Journal) :
    ∃ entries, Reserve.burnOrUnlock host.journaling sender name native voucher (before, journal) =
        some (outcome, after, journal ++ entries) ∧
        BurnTold host sender name native voucher outcome entries := by
  unfold Reserve.burnOrUnlock at ran ⊢
  rw [Effect.get_bind, Effect.bind_eq_some] at ran
  obtain ⟨burning, middle, burned, ran⟩ := ran
  have noted :
      (host.journaling.burnCoins (host.journaling.reserve (before, journal)) voucher).run
          (before, journal) =
        some (burning, middle, journal ++ [.burned voucher burning]) := by
    show Option.map _ (host.burnCoins (host.reserve before) voucher before) = _
    rw [show host.burnCoins (host.reserve before) voucher before = some (burning, middle)
      from burned]
    rfl
  rw [Effect.get_bind, Effect.bind_run, noted]
  cases burning with
  | ok done =>
      obtain ⟨rfl, rfl⟩ := Effect.pure_eq_some.mp ran
      exact ⟨_, rfl, .burned⟩
  | error error =>
      obtain ⟨_, failing, report, ran⟩ := Effect.bind_eq_some.mp ran
      cases report
      obtain ⟨unlocking, handed, unlocked, ran⟩ := Effect.bind_eq_some.mp ran
      let written : Journal := journal ++ [.burned voucher (.error error)] ++ [.failed error]
      have handing : (Reserve.unlock host.journaling sender native).run
          (host.emit (Notice.failure error.message).event middle, written) =
            some (unlocking, handed, written) := by
        show Reserve.unlock host.journaling sender native _ = _
        rw [unlock_journaling, show Reserve.unlock host sender native _ = _ from unlocked]
        rfl
      obtain ⟨rfl, rfl⟩ : outcome = .error error ∧
          after = host.emit (Reserve.unlockNotice name native unlocking).event handed := by
        cases unlocking <;> cases ran <;> exact ⟨rfl, rfl⟩
      refine ⟨[.burned voucher (.error error), .failed error,
        .event (Reserve.unlockNotice name native unlocking).event],
        ?_, .refused ⟨_, _, unlocked⟩⟩
      have whole (last : Entry) :
          journal ++ [.burned voucher (.error error), .failed error, last] = written ++ [last] := by
        simp [written]
      rw [whole]
      show ((Reserve.unlock host.journaling sender native).run
        (host.emit (Notice.failure error.message).event middle, written)).bind _ = _
      rw [handing]
      cases unlocking <;> rfl

theorem passing_run {below : Packet → Effect σ Dispatch} {packet : Packet} {dispatch : Dispatch}
    (passed : below packet before = some (dispatch, after)) :
    passing below packet (before, journal) =
      some (dispatch, after, journal ++ [.passed packet dispatch]) := by
  show (below packet before).map _ = _
  rw [passed]
  rfl

structure Rewrites (host : Host σ α) (before : σ) (packet : Packet) (order : Send.Order α)
    (voucher : Coin) (carried : Payload) : Prop where
  ordered : Send.Ordered host before packet order
  converted : ∃ state, Send.Converted host state packet order voucher carried

theorem rewrites_of_prepared {packet : Packet} {unwrapping : Send.Unwrapping α}
    (prepared : (host.reporting (Send.prepare host packet)).run before =
      some (.ok (some unwrapping), after)) :
    ∃ order voucher carried, Rewrites host before packet order voucher carried ∧
      unwrapping = ⟨order, voucher, Send.rewritten packet carried⟩ := by
  obtain ⟨order, ordered, collected⟩ := Send.prepare_eq_some.mp prepared
  simp only [Send.collect, Attempt.get_bind, Attempt.bind_eq_ok, Attempt.check_eq_ok,
    Attempt.pure_eq_ok, Attempt.guard_eq_ok] at collected
  obtain ⟨-, state, -, -, ⟨voucher, carried⟩, _, ⟨converted, -⟩, -, -, -, rfl, -⟩ := collected
  exact ⟨order, voucher, carried, ⟨ordered, state, Send.convert_eq_ok.mp converted⟩, rfl⟩

/-- The whole journal of a send, for each way in which it can end. -/
inductive Told (host : Host σ α) (before : σ) (packet : Packet) : Dispatch → Journal → Prop where
  | forwarded {dispatch : Dispatch} (left : Send.plan host before packet = .ok none) :
      Told host before packet dispatch [.passed packet dispatch]
  | refused {error : Error} : Told host before packet (.error error) [.failed error]
  | unburned {order : Send.Order α} {voucher : Coin} {carried : Payload} {error : Error}
      {unlocking : Except Error Unit} (rewrites : Rewrites host before packet order voucher carried)
      (unlocked : Unlocks host order.sender order.native unlocking) :
      Told host before packet (.error error) [.burned voucher (.error error), .failed error,
        .event (Reserve.unlockNotice order.payload.sender order.native unlocking).event]
  | undelivered {order : Send.Order α} {voucher : Coin} {carried : Payload} {error : Error}
      (rewrites : Rewrites host before packet order voucher carried) :
      Told host before packet (.error error) [.burned voucher (.ok ()),
        .passed (Send.rewritten packet carried) (.error error), .failed error]
  | uncounted {order : Send.Order α} {voucher : Coin} {carried : Payload} {sequence : UInt64}
      {error : Error}
      (rewrites : Rewrites host before packet order voucher carried) :
      Told host before packet (.error error) [.burned voucher (.ok ()),
        .passed (Send.rewritten packet carried) (.ok sequence), .failed error]
  | unwrapped {order : Send.Order α} {voucher : Coin} {carried : Payload} {sequence : UInt64}
      (rewrites : Rewrites host before packet order voucher carried) :
      Told host before packet (.ok sequence) [.burned voucher (.ok ()),
        .passed (Send.rewritten packet carried) (.ok sequence), .line (Send.logLine order voucher),
        .event (Notice.unwrapped (Send.crossing packet order)).event]

theorem Told.passed_once {packet : Packet} {dispatch : Dispatch}
    (told : Told host before packet dispatch journal) :
    (journal.filter Entry.isPassing).length ≤ 1 := by
  cases told with
  | forwarded | undelivered | uncounted | unwrapped => exact Nat.le_refl 1
  | refused | unburned => exact Nat.zero_le 1

theorem told_of_conclude {packet : Packet} {order : Send.Order α} {voucher : Coin}
    {carried : Payload} {answer dispatch : Dispatch}
    (rewrites : Rewrites host before packet order voucher carried)
    (finished : Send.conclude host ⟨order, voucher, Send.rewritten packet carried⟩ answer middle =
      some (dispatch, after)) :
    Told host before packet dispatch
      ([.burned voucher (.ok ()), .passed (Send.rewritten packet carried) answer] ++
      conclusion ⟨order, voucher, Send.rewritten packet carried⟩ dispatch) := by
  cases dispatch with
  | error error =>
      cases answer with
      | error cause =>
          cases finished
          exact .undelivered rewrites
      | ok sequence => exact .uncounted rewrites
  | ok sequence =>
      obtain rfl := conclude_dispatch finished
      rw [conclusion, Send.crossing_rewritten]
      exact .unwrapped rewrites

-- The steps of the send, each beside the same step on the host that keeps the journal.
theorem journal_of_send {below : Packet → Effect σ Dispatch} {packet : Packet} {dispatch : Dispatch}
    (sent : (Send.hook host).atop below packet before = some (dispatch, after)) :
    ∃ journal, (Send.hook host.journaling).atop (passing below) packet (before, []) =
      some (dispatch, after, journal) ∧
      Told host before packet dispatch journal := by
  obtain ⟨visit, middle, entered, went⟩ := Effect.bind_eq_some.mp sent
  obtain ⟨outcome, state, prepared, chosen⟩ := Effect.bind_eq_some.mp entered
  have noted : (host.journaling.reporting (Send.prepare host.journaling packet)).run (before, []) =
      some (outcome, state, failures outcome) := by
    show host.journaling.reporting _ _ = _
    rw [reporting_journaling (prepare_journaling packet), show host.reporting _ _ = _ from prepared]
    rfl
  match outcome with
  | .error error =>
      cases chosen
      cases went
      have answers : Send.hook host.journaling packet (before, []) =
          some (.answer (.error error), after, [.failed error]) :=
          Effect.bind_eq_some.mpr ⟨_, _, noted, rfl⟩
      exact ⟨_, Effect.bind_eq_some.mpr ⟨_, _, answers, rfl⟩, .refused⟩
  | .ok none =>
      obtain ⟨left, -⟩ := Send.prepare_eq_none.mp prepared
      cases chosen
      obtain ⟨_, _, passed, answered⟩ := Effect.bind_eq_some.mp went
      cases answered
      have descends :
          Send.hook host.journaling packet (before, []) = some (.descend packet pure, middle, []) :=
        Effect.bind_eq_some.mpr ⟨_, _, noted, rfl⟩
      exact ⟨_, Effect.bind_eq_some.mpr
        ⟨_, _, descends, Effect.bind_eq_some.mpr ⟨_, _, passing_run passed, rfl⟩⟩, .forwarded left⟩
  | .ok (some unwrapping) =>
      obtain ⟨order, voucher, carried, rewrites, rfl⟩ := rewrites_of_prepared prepared
      obtain ⟨burning, state, burned, chosen⟩ := Effect.bind_eq_some.mp chosen
      obtain ⟨entries, burning, told⟩ := burnOrUnlock_told burned []
      cases told with
      | refused unlocked =>
          cases chosen
          cases went
          have answers :
              Send.hook host.journaling packet (before, []) = some (.answer (.error _), after, _) :=
            Effect.bind_eq_some.mpr ⟨_, _, noted, Effect.bind_eq_some.mpr ⟨_, _, burning, rfl⟩⟩
          exact ⟨_, Effect.bind_eq_some.mpr ⟨_, _, answers, rfl⟩, .unburned rewrites unlocked⟩
      | burned =>
          cases chosen
          obtain ⟨answer, final, passed, finished⟩ := Effect.bind_eq_some.mp went
          have descends :
              Send.hook host.journaling packet (before, []) =
                some (.descend (Send.rewritten packet carried) (Send.conclude host.journaling
                  ⟨order, voucher, Send.rewritten packet carried⟩), middle, _) :=
            Effect.bind_eq_some.mpr ⟨_, _, noted, Effect.bind_eq_some.mpr ⟨_, _, burning, rfl⟩⟩
          exact ⟨_, Effect.bind_eq_some.mpr ⟨_, _, descends,
            Effect.bind_eq_some.mpr ⟨_, _, passing_run passed, conclude_told finished _⟩⟩,
            told_of_conclude rewrites finished⟩

theorem failures_reported_once {below : Packet → Effect σ Dispatch} {packet : Packet}
    {dispatch : Dispatch}
    (sent : (Send.hook host).atop below packet before = some (dispatch, after)) :
    ∃ journal, (Send.hook host.journaling).atop (passing below) packet (before, []) =
      some (dispatch, after, journal) ∧
      Told host before packet dispatch journal ∧ (journal.filter Entry.isPassing).length ≤ 1 := by
  obtain ⟨journal, ran, told⟩ := journal_of_send sent
  exact ⟨journal, ran, told, told.passed_once⟩

theorem swapStack_send {switches : Transfer.Switches} {below : Packet → Effect Chain Dispatch}
    {packet : Packet} {chain : Chain} :
    (Session.swapStack switches).send below packet chain =
    (Send.hook Chain.host).atop below packet chain := rfl

theorem failures_reported_once_escrowChain :
    (∃ after journal, (Send.hook Chain.host.journaling).atop
      (passing Chain.sendPacket) Abort.samplePacket
        (Abort.escrowChain .zero, []) = some (.ok Abort.samplePacket.sequence, after, journal) ∧
      Told Chain.host (Abort.escrowChain .zero) Abort.samplePacket
        (.ok Abort.samplePacket.sequence) journal) ∧
    ∃ after journal, (Send.hook Chain.host.journaling).atop
      (passing Chain.sendPacket) Abort.samplePacket
        (Abort.escrowChain Abort.most, []) = some (.error .totalsOverflow, after, journal) ∧
      Told Chain.host (Abort.escrowChain Abort.most) Abort.samplePacket
        (.error .totalsOverflow) journal := by
  obtain ⟨⟨counted, sent⟩, uncounted, stopped⟩ := Abort.escrowChain_send
  rw [swapStack_send] at sent stopped
  obtain ⟨journal, ran, told, -⟩ := failures_reported_once sent
  obtain ⟨other, failed, report, -⟩ := failures_reported_once stopped
  exact ⟨⟨counted, journal, ran, told⟩, uncounted, other, failed, report⟩

end Journal

end VoucherSwap
