import VoucherSwap.Proofs.Departure
import VoucherSwap.Proofs.Undo

/-!
A transfer that is unwrapped, with the application in front. The application takes the coin that the
packet names into escrow, and the swap takes the native coin out of it. The escrow account comes out
even if these are coins of one token. Otherwise the packet named the wrapped denomination, and what
was released belongs to somebody else.
-/

namespace VoucherSwap

namespace Escrow

open Session

/-- What a transfer and an unwrap move together: a coin into escrow, the native coin from there into
the reserve, and the voucher of the reserve out of circulation. -/
def moves (chain : Chain) (packet : Packet) (payload : Payload) : List Move :=
  [⟨⟨payload.sender⟩, some (Chain.escrow packet.source), payload.denom.ledgerName,
    payload.amount.units⟩,
    ⟨Chain.escrow packet.source, some Chain.reserve, chain.nativeDenom, payload.amount.units⟩,
    ⟨Chain.reserve, none, chain.settings.voucher, payload.amount.units * chain.settings.factor⟩]

/-- The escrow account is as it was, and the sender has paid in the native token and in nothing
else. -/
structure Square (before after : Bank) (escrow sender : Account) (native : String) (amount : Nat) :
    Prop where
  escrow : ∀ name, after.units escrow name = before.units escrow name
  paid : sender ≠ Chain.reserve → after.units sender native + amount = before.units sender native
  spared : sender ≠ Chain.reserve → ∀ name,
    name ≠ native → after.units sender name = before.units sender name

/-- One token has come into escrow, another one has gone out, and the sender has paid in the
former. -/
structure Drained (before after : Bank) (escrow sender : Account) (taken native : String)
    (amount : Nat) : Prop where
  released : after.units escrow native + amount = before.units escrow native
  escrowed : after.units escrow taken = before.units escrow taken + amount
  paid : sender ≠ Chain.reserve → after.units sender taken + amount = before.units sender taken
  spared : sender ≠ Chain.reserve → after.units sender native = before.units sender native

section

variable {before after : Bank} {escrow sender : Account} {taken native voucher : String}
  {amount burned : Nat}
  (moved : before.Transferred after
    [⟨sender, some escrow, taken, amount⟩, ⟨escrow, some Chain.reserve, native, amount⟩,
      ⟨Chain.reserve, none, voucher, burned⟩])
  (notEscrow : sender ≠ escrow) (notReserve : escrow ≠ Chain.reserve)
include moved notEscrow notReserve

theorem square_of_same (same : taken = native) :
    Square before after escrow sender native amount := by
  subst same
  have through := moved.through
  constructor
  · intro name
    simpa [Move.paid, Move.received, Bank.share_of_ne (Ne.symm notEscrow),
      Bank.share_of_ne notReserve] using
      through.units escrow name
  · intro other
    simpa [Move.paid, Move.received, Bank.share_of_ne other] using through.units sender taken
  · intro other name different
    simpa [Move.paid, Move.received, Bank.share_of_ne other,
      different] using through.units sender name

theorem drained_of_ne (different : taken ≠ native) :
    Drained before after escrow sender taken native amount := by
  constructor
  · simpa [Move.paid, Move.received, Bank.share_of_ne (Ne.symm notEscrow),
      Bank.share_of_ne notReserve, Ne.symm different] using moved.units escrow native
  · simpa [Move.paid, Move.received, Bank.share_of_ne (Ne.symm notEscrow),
      Bank.share_of_ne notReserve, different] using moved.units escrow taken
  · intro other
    simpa [Move.paid, Move.received, Bank.share_of_ne other, Bank.share_of_ne notEscrow,
      different] using
      moved.units sender taken
  · intro other
    simpa [Move.paid, Move.received, Bank.share_of_ne other, Bank.share_of_ne notEscrow,
      Ne.symm different] using
      moved.units sender native

end

theorem Drained.not_square {before after : Bank} {escrow sender : Account} {taken native : String}
    {amount : Nat} (drained : Drained before after escrow sender taken native amount)
    (positive : 0 < amount) :
    ¬ Square before after escrow sender native amount := by
  intro square
  have kept := square.escrow native
  have released := drained.released
  omega

theorem moved_of_start {switches : Transfer.Switches} {packet : Packet} {before after : Chain}
    {sequence : UInt64}
    (started : Transfer.start (swapStack switches) packet before = some (.ok sequence, after))
    (reports : Departure.Reports before after) :
    ∃ payload, packet.payload? = some payload ∧ payload.amount ≠ .zero ∧
      Chain.host.account? payload.sender = some ⟨payload.sender⟩ ∧
      before.bank.Transferred after.bank (moves before packet payload) := by
  obtain ⟨middle, taking, sends⟩ := start_eq_ok started
  obtain ⟨payload, sender, coin, bank, readable, found, ⟨name, amount⟩, takes, rfl⟩ :=
    Transfer.take_eq_ok.mp taking
  have ran : (swapStack switches).send Chain.sendPacket packet { before with bank } =
      some (.ok packet.sequence, after) := Send.atop_eq_ok.mpr ⟨rfl, sends⟩
  obtain ⟨-, order, voucher, carried, unwraps⟩ := Departure.unwraps_of_reports ran reports
  have same := unwraps.ordered.readable
  rw [readable, Option.some.injEq] at same
  subst same
  obtain rfl := Chain.account_eq found
  have unwrapped := Departure.unwrapped_of_unwraps unwraps
  rw [unwraps.ordered.departing] at takes
  cases takes with
  | escrowed sent =>
      have moved := (Bank.transferred_send sent).append unwrapped.moved
      rw [name, amount, unwrapped.amount] at moved
      exact ⟨order.payload, readable, unwraps.ordered.positive, found, moved⟩

-- The moves are the same for every relation of the three denominations. Whether they cancel out for
-- the escrow account is the question whether the first two are of one token.
theorem unescrow_square {switches : Transfer.Switches} {packet : Packet} {before after : Chain}
    {sequence : UInt64}
    (started : Transfer.start (swapStack switches) packet before = some (.ok sequence, after))
    (reports : Departure.Reports before after) :
    ∃ payload, packet.payload? = some payload ∧
      before.bank.Transferred after.bank (moves before packet payload) ∧
      (payload.denom.ledgerName = before.nativeDenom ↔
        Square before.bank after.bank (Chain.escrow packet.source)
          ⟨payload.sender⟩ before.nativeDenom
          payload.amount.units) ∧
      (payload.denom.ledgerName ≠ before.nativeDenom →
        Drained before.bank after.bank (Chain.escrow packet.source)
          ⟨payload.sender⟩ payload.denom.ledgerName
          before.nativeDenom payload.amount.units) := by
  obtain ⟨payload, readable, positive, found, moved⟩ := moved_of_start started reports
  have notEscrow : (⟨payload.sender⟩ : Account) ≠ Chain.escrow packet.source :=
    Ne.symm (Chain.escrow_ne_account found packet.source)
  have notReserve := Chain.escrow_ne_reserve packet.source
  have drained := drained_of_ne moved notEscrow notReserve
  refine ⟨payload, readable, moved, ⟨square_of_same moved notEscrow notReserve, ?_⟩, drained⟩
  intro square
  by_contra different
  exact (drained different).not_square (Amount.ne_zero_iff.mp positive) square

theorem unescrow_square_sampleChain :
    ∃ after, Transfer.start (swapStack ⟨false, false⟩) Undo.samplePacket Undo.sampleChain =
        some (.ok Undo.samplePacket.sequence, after) ∧
      Departure.Reports Undo.sampleChain after ∧
      Square Undo.sampleChain.bank after.bank (Chain.escrow Undo.samplePacket.source)
        ⟨Undo.samplePayload.sender⟩
        Undo.sampleChain.nativeDenom Undo.samplePayload.amount.units := by
  obtain ⟨after, started, events, -⟩ := Undo.sampleChain_starts
  have reports : Departure.Reports Undo.sampleChain after :=
    ⟨_, events, _, List.mem_singleton_self _, rfl⟩
  obtain ⟨payload, readable, -, square, -⟩ := unescrow_square started reports
  rw [Undo.samplePacket_payload?, Option.some.injEq] at readable
  subst readable
  exact ⟨after, started, reports, square.mp rfl⟩

def namedSettings : Settings := { Sample.settings with wrappedDenom := "uwrap" }

/-- A token of this chain that happens to have that name. -/
def namedPayload : Payload :=
  { Sample.outgoing "zig1sender" with denom := ⟨[], "uwrap", by decide⟩ }

def namedPacket : Packet := Sample.departing namedPayload

/-- The sender has five of that token, and five of the native one are in escrow for others. -/
def namedChain : Chain :=
  { Sample.openChain with
    settings := namedSettings
    bank := ((Bank.empty.setBalance ⟨namedPayload.sender⟩ "uwrap" namedPayload.amount).setBalance
      (Chain.escrow Sample.nativeEnd) Sample.nativeDenom ⟨5, Sample.five_fits⟩).setBalance
      Chain.reserve namedSettings.voucher ⟨5 * 10 ^ 12, Sample.vouchers_fit⟩ }

set_option maxRecDepth 100000 in
theorem namedChain_start :
    ∃ after, Transfer.start (swapStack ⟨false, false⟩) namedPacket namedChain =
        some (.ok namedPacket.sequence, after) ∧ Departure.Reports namedChain after := by
  apply Departure.reports_of_computed rfl
  decide +kernel

/-- A transfer that takes what is in escrow for others. -/
theorem transfer_drains_escrow :
    ∃ after, Transfer.start (swapStack ⟨false, false⟩) namedPacket namedChain =
        some (.ok namedPacket.sequence, after) ∧
      Departure.Reports namedChain after ∧ namedPacket.payload? = some namedPayload ∧
      (⟨namedPayload.sender⟩ : Account) ≠ Chain.reserve ∧
      ¬ Square namedChain.bank after.bank (Chain.escrow namedPacket.source) ⟨namedPayload.sender⟩
        namedChain.nativeDenom namedPayload.amount.units := by
  obtain ⟨after, started, reports⟩ := namedChain_start
  have readable : namedPacket.payload? = some namedPayload := Send.payload?_rewritten _ rfl
  obtain ⟨payload, readableToo, positive, found, moved⟩ := moved_of_start started reports
  rw [readable, Option.some.injEq] at readableToo
  subst readableToo
  have drained := drained_of_ne moved (Ne.symm (Chain.escrow_ne_account found namedPacket.source))
    (Chain.escrow_ne_reserve namedPacket.source) (by decide)
  exact ⟨after, started, reports, readable, by decide, drained.not_square (by decide)⟩

end Escrow

end VoucherSwap
