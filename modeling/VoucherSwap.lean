import VoucherSwap.Chain.Faults
import VoucherSwap.Proofs.Payload
import VoucherSwap.Proofs.Precision
import VoucherSwap.Proofs.Receive
import VoucherSwap.Sample
import VoucherSwap.Settings.Json
import VoucherSwap.Stack.Layers
import VoucherSwap.Totals.Json
import VoucherSwap.Transfer
import VoucherSwap.Wrapper
import VoucherSwap.Proofs.Acknowledgement
import VoucherSwap.Proofs.Transfer
import VoucherSwap.Proofs.Refund
import VoucherSwap.Proofs.Send
import VoucherSwap.Proofs.Session
import VoucherSwap.Proofs.Backing
import VoucherSwap.Proofs.Undo
import VoucherSwap.Proofs.Rejection
import VoucherSwap.Proofs.Accounting
import VoucherSwap.Proofs.Redeem
import VoucherSwap.Proofs.Abort
import VoucherSwap.Proofs.Forwarded
import VoucherSwap.Proofs.Stack
import VoucherSwap.Proofs.Supply
import VoucherSwap.Proofs.Holdings
import VoucherSwap.Proofs.Audit
import VoucherSwap.Proofs.Batch
import VoucherSwap.Proofs.Verdict
import VoucherSwap.Proofs.Expiry
import VoucherSwap.Proofs.Transparency
import VoucherSwap.Proofs.Traversal
import VoucherSwap.Proofs.Cover
import VoucherSwap.Proofs.Moves
import VoucherSwap.Proofs.Swap
import VoucherSwap.Proofs.Arrival
import VoucherSwap.Proofs.Departure
import VoucherSwap.Proofs.Return
import VoucherSwap.Proofs.Escrow
import VoucherSwap.Proofs.Recognition
import VoucherSwap.Proofs.Unconfigured
import VoucherSwap.Proofs.Validation
import VoucherSwap.Proofs.Conversion
import VoucherSwap.Proofs.Storage
import VoucherSwap.Proofs.Compensation
import VoucherSwap.Proofs.Journal
import VoucherSwap.Proofs.Wire
import VoucherSwap.Proofs.Hop
