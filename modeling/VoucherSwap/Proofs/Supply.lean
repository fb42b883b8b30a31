import Mathlib
import VoucherSwap.Proofs.Abort
import VoucherSwap.Proofs.Backing
import VoucherSwap.Proofs.Stack

/-!
How much there is of each token. Coins move between accounts and stay as many, so the supply of a
token changes only where the bank mints or burns. The transfer application does that to vouchers
alone, on their way in and out, and so does the swap, which burns what an unwrapped packet carries
and mints nothing. The supply of any other token, the native one among them, is the same after every
run through any stack of swaps.
-/

namespace VoucherSwap

namespace Registry

variable {κ ν : Type} [DecidableEq κ]

def total (weight : κ → ν → Nat) (registry : Registry κ ν) : Nat :=
  (registry.entries.map fun entry => weight entry.1 entry.2).sum

-- The entry that is replaced is the one that is found, so no other entry counts twice.
theorem sum_put (weight : κ → ν → Nat) (key : κ) (value : ν) (entries : List (κ × ν)) :
    ((put key value entries).map fun entry => weight entry.1 entry.2).sum +
        ((lookup key entries).map (weight key)).getD 0 =
      (entries.map fun entry => weight entry.1 entry.2).sum + weight key value := by
  induction entries with
  | nil => simp [put, lookup]
  | cons entry rest ih =>
      by_cases same : entry.1 = key
      · simp only [put, lookup, same, ↓reduceIte, List.map_cons, List.sum_cons, Option.map_some,
          Option.getD_some]
        omega
      · simp only [put, lookup, same, ↓reduceIte, List.map_cons, List.sum_cons]
        omega

theorem weight_le_sum (weight : κ → ν → Nat) (key : κ) (entries : List (κ × ν)) :
    ((lookup key entries).map (weight key)).getD 0 ≤
    (entries.map fun entry => weight entry.1 entry.2).sum := by
  induction entries with
  | nil => simp [lookup]
  | cons entry rest ih =>
      by_cases same : entry.1 = key
      · simp only [lookup, same, ↓reduceIte, Option.map_some, Option.getD_some, List.map_cons,
          List.sum_cons]
        omega
      · simp only [lookup, same, ↓reduceIte, List.map_cons, List.sum_cons]
        omega

end Registry

namespace Bank

def inSupply (denom : String) (holding : Account × String) (amount : Amount) : Nat :=
  if holding.2 = denom then amount.units else 0

/-- All there is of a denomination, over all accounts. -/
def supply (bank : Bank) (denom : String) : Nat := bank.balances.total (inSupply denom)

theorem found_units (bank : Bank) (account : Account) (denom name : String) :
    ((bank.balances.find? (account, denom)).map (inSupply name (account, denom))).getD 0 =
      if denom = name then bank.units account denom else 0 := by
  unfold units balance inSupply
  cases bank.balances.find? (account, denom) <;> simp [Amount.zero]

theorem supply_setBalance (bank : Bank) (account : Account) (denom name : String)
    (amount : Amount) :
    (bank.setBalance account denom amount).supply name +
    (if denom = name then bank.units account denom else 0) =
      bank.supply name + if denom = name then amount.units else 0 := by
  rw [← found_units]
  exact Registry.sum_put (inSupply name) (account, denom) amount bank.balances.entries

theorem units_le_supply (bank : Bank) (account : Account) (denom : String) :
    bank.units account denom ≤ bank.supply denom := by
  have found := found_units bank account denom denom
  rw [if_pos rfl] at found
  rw [← found]
  exact Registry.weight_le_sum (inSupply denom) (account, denom) bank.balances.entries

/-- Two banks differ by what was created and what was destroyed of one denomination. -/
structure Issued (before after : Bank) (denom : String) (destroyed created : Nat) : Prop where
  even : after.supply denom + destroyed = before.supply denom + created
  others : ∀ name, name ≠ denom → after.supply name = before.supply name

theorem issued_setBalance {bank : Bank} {account : Account} {denom : String} {amount : Amount}
    {destroyed created : Nat}
    (even : amount.units + destroyed = bank.units account denom + created) :
    Issued bank (bank.setBalance account denom amount) denom destroyed created where
  even := by
    have same := supply_setBalance bank account denom denom amount
    rw [if_pos rfl, if_pos rfl] at same
    omega
  others := by
    intro name different
    have same := supply_setBalance bank account denom name amount
    rw [if_neg (Ne.symm different), if_neg (Ne.symm different)] at same
    exact same

theorem mint?_issued {before after : Bank} {account : Account} {denom : String} {amount : Amount}
    (minted : before.mint? account denom amount = some after) :
    Issued before after denom 0 amount.units := by
  obtain ⟨total, sum, same⟩ := Option.bind_eq_some_iff.mp minted
  cases same
  exact issued_setBalance (Amount.add?_eq_some.mp sum)

theorem debit_issued {before after : Bank} {account : Account} {coin : Coin}
    (debited : before.debit account coin = .ok after) :
    Issued before after coin.denom.text coin.amount.units 0 := by
  obtain ⟨-, rest, even, rfl⟩ := debit_eq_ok.mp debited
  exact issued_setBalance even

theorem send_supply {before after : Bank} {sender receiver : Account} {coin : Coin}
    (sent : before.send sender receiver coin = some (.ok after)) (name : String) :
    after.supply name = before.supply name := by
  unfold send at sent
  by_cases frozen : sender ∈ before.frozen
  · simp [frozen] at sent
  · simp only [frozen, ↓reduceIte] at sent
    cases debited : before.debit sender coin with
    | error cause => simp [debited] at sent
    | ok middle =>
        simp only [debited, Option.map_eq_some_iff, Except.ok.injEq, exists_eq_right] at sent
        have spent := debit_issued debited
        have gained := mint?_issued sent
        by_cases same : name = coin.denom.text
        · subst same
          have less := spent.even
          have more := gained.even
          omega
        · exact (gained.others name same).trans (spent.others name same)

end Bank

namespace Supply

open Session

def Conserves (before after : Chain) : Prop :=
  ∀ denom, after.bank.supply denom = before.bank.supply denom

/-- A denomination that is the name of no voucher. -/
def Plain (denom : String) : Prop := ∀ trace, denom ≠ Voucher.ofTrace trace

def ConservesPlain (before after : Chain) : Prop :=
  ∀ denom, Plain denom → after.bank.supply denom = before.bank.supply denom

theorem composable_conserves : Composable Conserves where
  refl _ _ := rfl
  trans one two denom := (two denom).trans (one denom)

theorem composable_conservesPlain : Composable ConservesPlain where
  refl _ _ _ := rfl
  trans one two denom plain := (two denom plain).trans (one denom plain)

theorem Conserves.plain {before after : Chain} (conserves : Conserves before after) :
    ConservesPlain before after :=
  fun denom _ => conserves denom

theorem conserves_of_bank {before after : Chain} (same : after.bank = before.bank) :
    Conserves before after :=
  fun _ => congrArg (Bank.supply · _) same

theorem sent_conserves {before : Chain} {sender receiver : Account} {coin : Coin} {bank : Bank}
    (sent : before.bank.send sender receiver coin = some (.ok bank)) :
    Conserves before { before with bank } :=
  Bank.send_supply sent

theorem issued_plain {before : Chain} {bank : Bank} {trace : String} {destroyed created : Nat}
    (issued : before.bank.Issued bank (Voucher.ofTrace trace) destroyed created) :
    ConservesPlain before { before with bank } :=
  fun denom plain => issued.others denom (plain trace)

-- The transfer application.

theorem pays_plain {escrow account : Account} {denom : String} {amount : Amount} {before : Chain}
    {bank : Bank} {fresh : Bool}
    (pays : Transfer.Pays escrow account denom amount before.bank fresh bank)
    (voucher : fresh = true → ∃ trace, denom = Voucher.ofTrace trace) :
    ConservesPlain before { before with bank } := by
  cases pays with
  | released named units sent => exact (sent_conserves sent).plain
  | minted made =>
      obtain ⟨trace, rfl⟩ := voucher rfl
      exact issued_plain (Bank.mint?_issued made)

theorem receives_plain {switches : Transfer.Switches} {packet : Packet} {before after : Chain}
    {receipt : Receipt} (receives : Transfer.Receives switches packet before receipt after) :
    ConservesPlain before after := by
  cases receives with
  | accepted done =>
      obtain ⟨-, -, receiver, bank, -, pays, rfl⟩ := Transfer.receive_eq_ok.mp done
      apply pays_plain pays
      intro fresh
      rw [Bool.not_eq_true'] at fresh
      rw [Transfer.received, fresh, if_neg Bool.false_ne_true, Denom.ledgerName_addHop]
      exact ⟨_, rfl⟩
  | refused refuses => exact composable_conservesPlain.refl before

theorem settles_plain {switches : Transfer.Switches} {packet : Packet} {before after : Chain}
    {settlement : Settlement} (settles : Transfer.Settles switches packet before settlement after) :
    ConservesPlain before after := by
  cases settles with
  | refunded done =>
      obtain ⟨-, -, sender, bank, -, pays, rfl⟩ := Transfer.refund_eq_ok.mp done
      exact pays_plain pays fun fresh => ⟨_, Denom.ledgerName_of_arrivedOver fresh⟩
  | refused error => exact composable_conservesPlain.refl before

theorem application_plain (switches : Transfer.Switches) :
    (Transfer.application switches).Respects ConservesPlain where
  receive := by
    intro delivery before receipt after ran
    exact receives_plain (Transfer.receives ran)
  acknowledge := by
    rintro ⟨delivery, acknowledgement⟩ before settlement after ran
    by_cases failed : ∃ message, acknowledgement.status? = some (.failure message)
    · obtain ⟨message, failed⟩ := failed
      rw [Transfer.acknowledge_failure failed] at ran
      exact settles_plain (Transfer.settles ran)
    · obtain ⟨rfl, -⟩ := Transfer.acknowledge_other (not_exists.mp failed) ran
      exact composable_conservesPlain.refl _
  timeout := by
    intro delivery before settlement after ran
    exact settles_plain (Transfer.settles ran)

theorem take_plain (packet : Packet) : Respects ConservesPlain (Transfer.take packet) := by
  intro before result after ran
  cases result with
  | error error =>
      rw [Transfer.take_unchanged ran]
      exact composable_conservesPlain.refl before
  | ok done =>
      obtain ⟨payload, sender, coin, bank, -, -, ⟨name, -⟩, takes, rfl⟩ :=
        Transfer.take_eq_ok.mp ran
      cases arrived : payload.denom.arrivedOver packet.source with
      | false =>
          rw [arrived] at takes
          cases takes with
          | escrowed sent => exact (sent_conserves sent).plain
      | true =>
          rw [arrived] at takes
          cases takes with
          | burned destroyed =>
              have issued := Bank.debit_issued (Bank.burn_eq_ok.mp destroyed).2
              rw [name, Denom.ledgerName_of_arrivedOver arrived] at issued
              exact issued_plain issued

-- The swap.

theorem wrap_conserves (packet : Packet) (payload : Payload) :
    Respects Conserves (Receive.wrap Chain.host packet payload) := by
  intro before notice after ran
  rcases Receive.wrap_settles ran with ⟨-, -, -, rfl⟩ | ⟨wrapping, outcome, -, settles, -, -⟩
  · exact composable_conserves.refl _
  cases settles with
  | unlocked refused => exact composable_conserves.refl _
  | unpaid message taken refused => exact sent_conserves taken
  | uncounted taken given overflow =>
      exact fun denom => (Bank.send_supply given denom).trans (Bank.send_supply taken denom)
  | swapped crossing taken given counted =>
      exact fun denom => (Bank.send_supply given denom).trans (Bank.send_supply taken denom)

theorem receive_conserves : (Receive.hook Chain.host).Respects Conserves where
  entering := by
    intro delivery before visit after ran
    cases screened : Receive.screen Chain.host before delivery.packet with
    | error error =>
        rw [Receive.hook_refuses screened] at ran
        cases ran
        exact composable_conserves.refl _
    | ok payload =>
        rw [Receive.hook_admits screened] at ran
        cases ran
        exact composable_conserves.refl _
  finishing := by
    intro delivery below finish before middle ran receipt chain answer after finished
    cases screened : Receive.screen Chain.host before delivery.packet with
    | error error =>
        rw [Receive.hook_refuses screened] at ran
        cases ran
    | ok payload =>
        rw [Receive.hook_admits screened] at ran
        cases ran
        cases success : Receive.isSuccess receipt.acknowledgement with
        | false =>
            rw [Receive.finish_other success] at finished
            cases finished
            exact composable_conserves.refl _
        | true =>
            obtain ⟨notice, wrapped, -⟩ := Receive.finish_success success finished
            exact wrap_conserves _ _ _ _ _ wrapped

theorem repay_conserves (reason : String) (pending : Refund.Pending Account) :
    Respects Conserves (Refund.repay Chain.host reason pending) := by
  intro before outcome after ran
  cases Refund.repay_eq_some.mp ran with
  | unfunded refused => exact composable_conserves.refl _
  | unlocked exchange refused => exact composable_conserves.refl _
  | unpaid exchange taken refused => exact sent_conserves taken
  | repaid exchange taken given =>
      exact fun denom => (Bank.send_supply given denom).trans (Bank.send_supply taken denom)

-- A refund moves coins on its way back only.
theorem visit_conserves {Q : Type} {reason : String} {packet : Packet} {request : Q}
    {before middle : Chain} {visit : Visit Chain (Uniform Q Settlement) Settlement}
    (ran : Refund.visit Chain.host reason packet request before = some (visit, middle)) :
    middle = before ∧ ∀ below finish, visit = .descend below finish →
      ∀ settlement, Respects Conserves (finish settlement) := by
  cases prepared : Refund.prepare Chain.host before packet with
  | error skip =>
      rw [Refund.visit_skipped prepared] at ran
      cases ran
      refine ⟨rfl, ?_⟩
      intro below finish same settlement
      cases same
      exact composable_conserves.pure _
  | ok pending =>
      rw [Refund.visit_due prepared] at ran
      cases ran
      refine ⟨rfl, ?_⟩
      intro below finish same settlement chain answer after concluded
      cases same
      rcases Refund.conclude_eq_some.mp concluded with
        ⟨_, -, -, rfl⟩ | ⟨-, ⟨_, repaid, -⟩ | ⟨_, repaid, -⟩⟩
      · exact composable_conserves.refl _
      · exact repay_conserves _ _ _ _ _ repaid
      · exact repay_conserves _ _ _ _ _ repaid

theorem refund_conserves {Q : Type} {hook : Hook Chain (Uniform Q Settlement)}
    (visits :
      ∀ request, (∃ reason packet, hook request = Refund.visit Chain.host reason packet request) ∨
        hook request = Hook.pass request) :
    hook.Respects Conserves where
  entering := by
    intro request before visit middle ran
    rcases visits request with ⟨reason, packet, same⟩ | same
    · rw [same] at ran
      rw [(visit_conserves ran).1]
      exact composable_conserves.refl _
    · rw [same] at ran
      exact (Hook.respects_pass composable_conserves).entering _ _ _ _ ran
  finishing := by
    intro request below finish before middle ran
    rcases visits request with ⟨reason, packet, same⟩ | same
    · rw [same] at ran
      exact (visit_conserves ran).2 _ _ rfl
    · rw [same] at ran
      exact (Hook.respects_pass composable_conserves).finishing ran

theorem timeout_conserves : (Refund.timeoutHook Chain.host).Respects Conserves :=
  refund_conserves fun delivery => .inl ⟨Refund.timeoutReason, delivery.packet, rfl⟩

theorem acknowledge_conserves : (Refund.acknowledgeHook Chain.host).Respects Conserves := by
  apply refund_conserves
  rintro ⟨delivery, acknowledgement⟩
  by_cases failed : ∃ message, acknowledgement.status? = some (.failure message)
  · obtain ⟨message, failed⟩ := failed
    exact .inl ⟨_, _, Refund.acknowledgeHook_failure failed⟩
  · exact .inr (Refund.acknowledgeHook_other (not_exists.mp failed))

structure Burned (packet carrier : Packet) (before after : Chain) (payload : Payload) : Prop where
  rewritten : carrier = Send.rewritten packet payload
  readable : carrier.payload? = some payload
  outbound : payload.denom.text = before.settings.outboundTrace
  issued : before.bank.Issued after.bank before.settings.voucher payload.amount.units 0

/-- What a send does on its way down: nothing to any supply, unless it is unwrapped. -/
def Descends (packet : Packet) (before after : Chain) :
    Visit Chain (Uniform Packet Dispatch) Dispatch → Prop
  | .answer _ => Conserves before after
  | .descend carrier finish =>
    (carrier = packet ∧ Conserves before after ∨ ∃ payload,
      Burned packet carrier before after payload) ∧
      ∀ dispatch, Respects Conserves (finish dispatch)

theorem conclude_conserves (unwrapping : Send.Unwrapping Account) (dispatch : Dispatch) :
    Respects Conserves (Send.conclude Chain.host unwrapping dispatch) := by
  intro before result after ran
  cases result with
  | ok sequence =>
      obtain ⟨-, totals, -, rfl⟩ := Send.conclude_eq_ok.mp ran
      exact conserves_of_bank rfl
  | error error =>
      obtain ⟨-, rfl⟩ := Send.conclude_fails ran
      exact conserves_of_bank rfl

theorem collected_conserves {packet : Packet} {order : Send.Order Account} {before : Chain}
    {voucher : Coin} {payload : Payload} {released locked : Bank}
    (collected : Send.Collected packet order before voucher payload released locked) :
    Conserves before { before with bank := locked } :=
  fun denom => (Bank.send_supply collected.taken denom).trans
    (Bank.send_supply collected.freed denom)

theorem uncollected_conserves {packet : Packet} {order : Send.Order Account} {before : Chain}
    {error : Error} {bank : Bank} (stopped : Send.Uncollected packet order before error bank) :
    Conserves before { before with bank } := by
  cases stopped with
  | escrowed refused => exact composable_conserves.refl _
  | missing freed | unconverted freed refused | unlocked freed refused => exact sent_conserves freed

theorem handsBack_conserves {name : String} {sender : Account} {native : Coin} {error : Error}
    {before after : Chain}
    (back : Send.HandsBack name sender native (Send.reported error before) after) :
    Conserves before after := by
  cases back with
  | returned sent => exact Bank.send_supply sent
  | kept refused => exact conserves_of_bank rfl

theorem collected_burned {packet : Packet} {order : Send.Order Account} {before : Chain}
    {voucher : Coin} {payload : Payload} {released locked burned : Bank}
    (ordered : Send.Ordered Chain.host before packet order)
    (collected : Send.Collected packet order before voucher payload released locked)
    (destroyed : locked.burn Chain.reserve voucher = .ok burned) :
    Burned packet (Send.rewritten packet payload) before
      { before with bank := burned } payload := by
  obtain ⟨settings, name⟩ := Backing.order_voucher ordered collected.converted
  have text := Denom.text_of_ofText collected.converted.denom
  have issued := Bank.debit_issued (Bank.burn_eq_ok.mp destroyed).2
  rw [name, ← collected.converted.amount] at issued
  have targeted := ordered.targeted
  rw [Route.isTargeted, Bool.and_eq_true, settings] at targeted
  refine ⟨rfl, ?_, ?_, ?_, ?_⟩
  · apply Send.payload?_rewritten
    rw [text]
    exact collected.converted.denom
  · rw [text, settings, Voucher.trace_hop, ← Route.outboundTrace_eq targeted.2]
  · have even := issued.even
    rw [collected_conserves collected] at even
    exact even
  · intro other different
    exact (issued.others other different).trans (collected_conserves collected other)

theorem send_descends {packet : Packet} {before after : Chain}
    {visit : Visit Chain (Uniform Packet Dispatch) Dispatch}
    (entered : Send.hook Chain.host packet before = some (visit, after)) :
    Descends packet before after visit := by
  cases Send.hook_enters entered with
  | refused planned => exact conserves_of_bank rfl
  | uncollected ordered stopped => exact uncollected_conserves stopped
  | unburned ordered collected refused back =>
      exact composable_conserves.trans (collected_conserves collected) (handsBack_conserves back)
  | forwarded left =>
      exact ⟨.inl ⟨rfl, composable_conserves.refl _⟩, composable_conserves.pure⟩
  | unwrapped ordered collected destroyed =>
      exact ⟨.inr ⟨_, collected_burned ordered collected destroyed⟩, conclude_conserves _⟩

theorem Burned.plain {packet carrier : Packet} {before after : Chain} {payload : Payload}
    (burned : Burned packet carrier before after payload) : ConservesPlain before after :=
  fun denom plain => burned.issued.others denom (plain _)

/-- A layer that swaps, or one that passes everything on. -/
inductive Usual : Layer Chain → Prop where
  | wrapper : Usual (Wrapper.layer Chain.host)
  | passing : Usual Layer.passing

theorem Hook.Respects.plain {Q : Type} {A : Q → Type} {hook : Hook Chain A}
    (respects : hook.Respects Conserves) :
    hook.Respects ConservesPlain where
  entering request := (respects.entering request).mono Conserves.plain
  finishing ran answer := (respects.finishing ran answer).mono Conserves.plain

theorem send_plain : (Send.hook Chain.host).Respects ConservesPlain where
  entering := by
    intro packet before visit after entered
    have descends := send_descends entered
    cases visit with
    | answer result => exact Conserves.plain descends
    | descend carrier finish =>
        rcases descends.1 with ⟨-, conserves⟩ | ⟨payload, burned⟩
        · exact conserves.plain
        · exact burned.plain
  finishing := by
    intro packet carrier finish before after entered dispatch chain result final ran
    have finishes := (send_descends entered).2
    exact (finishes dispatch chain result final ran).plain

theorem incoming_conserves : (Wrapper.layer Chain.host).incoming.Respects Conserves where
  entering := by
    rintro (delivery | answered | delivery)
    · exact receive_conserves.entering_lift delivery
    · exact acknowledge_conserves.entering_lift answered
    · exact timeout_conserves.entering_lift delivery
  finishing := by
    rintro (delivery | answered | delivery) below finish before middle ran
    · exact receive_conserves.finishing_lift ran
    · exact acknowledge_conserves.finishing_lift ran
    · exact timeout_conserves.finishing_lift ran

theorem Usual.plain {layer : Layer Chain} (usual : Usual layer) :
    layer.Respects ConservesPlain := by
  cases usual with
  | wrapper => exact ⟨Hook.Respects.plain incoming_conserves, send_plain⟩
  | passing => exact Layer.respects_passing composable_conservesPlain

theorem sendPacket_conserves (packet : Packet) : Respects Conserves (Chain.sendPacket packet) := by
  intro before dispatch after ran
  cases dispatch with
  | ok sequence =>
      obtain ⟨-, -, rfl⟩ := Send.sendPacket_eq_ok.mp ran
      exact conserves_of_bank rfl
  | error error =>
      obtain ⟨-, -, rfl⟩ := Send.sendPacket_eq_error.mp ran
      exact composable_conserves.refl _

-- Runs.

theorem mapped_respects {β γ : Type} {Change : Chain → Chain → Prop} {effect : Effect Chain β}
    (respects : Respects Change effect) (change : β → γ) : Respects Change (change <$> effect) := by
  intro before result after ran
  obtain ⟨value, inner, -⟩ := Effect.map_eq_some.mp ran
  exact respects _ _ _ inner

theorem perform_plain {layers : List (Layer Chain)} (usual : ∀ layer ∈ layers, Usual layer)
    (switches : Transfer.Switches) (request : Request) :
    Respects ConservesPlain (perform ⟨layers, Transfer.application switches⟩ request) := by
  have every : ∀ layer ∈ layers, layer.Respects ConservesPlain :=
    fun layer member => (usual layer member).plain
  have below := application_plain switches
  have sending (packet : Packet) : Respects ConservesPlain
      (Stack.send ⟨layers, Transfer.application switches⟩ Chain.sendPacket packet) :=
    Stack.respects_send composable_conservesPlain every
      (fun packet => (sendPacket_conserves packet).mono Conserves.plain) packet
  have incoming (request : Incoming) : Respects ConservesPlain
      (Stack.incoming ⟨layers, Transfer.application switches⟩ request) :=
    Stack.respects_incoming composable_conservesPlain every below request
  cases request with
  | receive delivery => exact mapped_respects (incoming (.receive delivery)) _
  | acknowledge delivery acknowledgement =>
      exact mapped_respects (incoming (.acknowledge (delivery, acknowledgement))) _
  | timeout delivery => exact mapped_respects (incoming (.timeout delivery)) _
  | send packet => exact mapped_respects (sending packet) _
  | transfer packet =>
      apply mapped_respects
      apply composable_conservesPlain.bind (take_plain packet)
      rintro (error | done)
      · exact composable_conservesPlain.pure _
      · exact sending packet

theorem run_plain {layers : List (Layer Chain)} (usual : ∀ layer ∈ layers, Usual layer)
    {switches : Transfer.Switches} {start final : Chain} {history : List (Request × Answer)}
    (run : Run (perform ⟨layers, Transfer.application switches⟩) start history final) :
    ConservesPlain start final := by
  apply run.preserves (composable_conservesPlain.refl start)
  intro request answer before after member kept performed
  exact composable_conservesPlain.trans kept (perform_plain usual switches request _ _ _ performed)

-- Runs keep what sends do to the chain before they fail. Of vouchers the application mints and
-- burns some on its own, so what the swap itself does to them is said for each of its hooks,
-- whatever lies below.
theorem supply_conserved (switches : Transfer.Switches) :
    (∀ layers start history final, (∀ layer ∈ layers, Usual layer) →
        Run (perform ⟨layers, Transfer.application switches⟩) start history final →
        ConservesPlain start final) ∧
      (Wrapper.layer Chain.host).incoming.Respects Conserves ∧
      ∀ packet before visit after,
        (Wrapper.layer Chain.host).send packet before = some (visit, after) →
        Descends packet before after visit := by
  refine ⟨?_, incoming_conserves, ?_⟩
  · intro layers start history final usual run
    exact run_plain usual run
  · intro packet before visit after entered
    exact send_descends entered

def sampleLayers : List (Layer Chain) :=
  [Wrapper.layer Chain.host, Layer.passing, Wrapper.layer Chain.host]

theorem sampleLayers_usual : ∀ layer ∈ sampleLayers, Usual layer := by
  intro layer member
  simp only [sampleLayers, List.mem_cons, List.not_mem_nil, or_false] at member
  rcases member with rfl | rfl | rfl
  · exact .wrapper
  · exact .passing
  · exact .wrapper

theorem plain_nativeDenom : Plain Sample.nativeDenom :=
  fun trace => Ne.symm (Voucher.ofTrace_ne (by decide) trace)

set_option maxRecDepth 100000 in
theorem sampleLayers_receive :
    ∃ answer after,
      perform ⟨sampleLayers, Transfer.application ⟨false, false⟩⟩ (.receive Sample.incomingDelivery)
        Sample.fundedChain = some (answer, after) ∧
      after.bank.units ⟨"zig1receiver"⟩ Sample.nativeDenom = 5 := by
  have computed :
    ((perform ⟨sampleLayers, Transfer.application ⟨false, false⟩⟩ (.receive Sample.incomingDelivery)
      Sample.fundedChain).map fun step =>
        decide (step.2.bank.units ⟨"zig1receiver"⟩ Sample.nativeDenom = 5)) =
      some true := by
    decide +kernel
  obtain ⟨⟨answer, after⟩, performed, paid⟩ := Option.map_eq_some_iff.mp computed
  exact ⟨answer, after, performed, of_decide_eq_true paid⟩

theorem supply_conserved_sampleLayers :
    ∃ answer after,
      Run (perform ⟨sampleLayers, Transfer.application ⟨false, false⟩⟩) Sample.fundedChain
        [(.receive Sample.incomingDelivery, answer)] after ∧
      after.bank.units ⟨"zig1receiver"⟩ Sample.nativeDenom = 5 ∧
      after.bank.supply Sample.nativeDenom = 5 := by
  obtain ⟨answer, after, performed, paid⟩ := sampleLayers_receive
  have run : Run (perform ⟨sampleLayers, Transfer.application ⟨false, false⟩⟩) Sample.fundedChain
      [(.receive Sample.incomingDelivery, answer)] after := .snoc .nil performed
  have same :=
    (supply_conserved ⟨false, false⟩).1 _ _ _ _ sampleLayers_usual run _ plain_nativeDenom
  exact ⟨answer, after, run, paid, same.trans (by decide)⟩

end Supply

end VoucherSwap
