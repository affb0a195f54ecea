import Outbox.Generator
import Outbox.Main
import Outbox.Proofs.AgreeingCollections
import Outbox.Proofs.Backoff
import Outbox.Proofs.BatchAccounts
import Outbox.Proofs.ClaimOwners
import Outbox.Proofs.ConfigReading
import Outbox.Proofs.ConservedPublications
import Outbox.Proofs.ConservedReceipts
import Outbox.Proofs.DecodingNormalises
import Outbox.Proofs.ExclusiveClaims
import Outbox.Proofs.FailedStart
import Outbox.Proofs.FirstLook
import Outbox.Proofs.FirstReceiptWins
import Outbox.Proofs.ForsakenReceipts
import Outbox.Proofs.HistoryAccounts
import Outbox.Proofs.HistoryPath
import Outbox.Proofs.IdentifierOrder
import Outbox.Proofs.MessageLives
import Outbox.Proofs.OldestFirst
import Outbox.Proofs.OneLoopEach
import Outbox.Proofs.PublishOrder
import Outbox.Proofs.ReceiptOrder
import Outbox.Proofs.RecordUnderFaults
import Outbox.Proofs.Rehearsal.Stall
import Outbox.Proofs.SafePoints
import Outbox.Proofs.StrandedClaims
import Outbox.Proofs.StrayRings
import Outbox.Proofs.UnseenFailures
import Outbox.Proofs.Windows
import Outbox.Proofs.WireRoundTrip
import Outbox.Text.Utf8
