import RgbppIndexer.Core.Keyset
import RgbppIndexer.Indexer.Preimage
import RgbppIndexer.Scan.Runs
import RgbppIndexer.Indexer.Observations
import RgbppIndexer.Btc.Blockbook
import RgbppIndexer.Bugs.LostRefresh
import RgbppIndexer.Bugs.StaleAnswer
import RgbppIndexer.Chain.Serve
import RgbppIndexer.Bugs.WrappedRange
import RgbppIndexer.Store.Queue
import RgbppIndexer.Indexer.Drain
import RgbppIndexer.Queue.Worker
import RgbppIndexer.Bugs.DroppedUnclaimed
import RgbppIndexer.Queue.Entry
import RgbppIndexer.Bugs.LostBackoff
import RgbppIndexer.Queue.History
import RgbppIndexer.Bugs.SweepPriority
import RgbppIndexer.Queue.Completion
import RgbppIndexer.Bugs.LabelLooksFresh
import RgbppIndexer.Bugs.CountedAtClaim
import RgbppIndexer.Store.Anomalies
import RgbppIndexer.Indexer.Sweeper
import RgbppIndexer.Indexer.Findings
import RgbppIndexer.Indexer.Verify
import RgbppIndexer.Indexer.System
import RgbppIndexer.Bugs.UnknownResolves
import RgbppIndexer.Bugs.UnclosedFinding
import RgbppIndexer.Bugs.MaskedMisspend
import RgbppIndexer.Bugs.CappedSweep
import RgbppIndexer.Bugs.ForgottenSpend
import RgbppIndexer.Bugs.UnreachedRange
import RgbppIndexer.Scan.Progress
import RgbppIndexer.Bugs.MalformedInput
import RgbppIndexer.Scan.Notes
import RgbppIndexer.Bugs.FallenTip
import RgbppIndexer.Core.Intervals
import RgbppIndexer.Bugs.SkippedGenesis
import RgbppIndexer.Indexer.Address
import RgbppIndexer.Ckb.Cells
import RgbppIndexer.Indexer.Transition
import RgbppIndexer.Bugs.UnsearchedLocks
import RgbppIndexer.Scan.Reached
import RgbppIndexer.Bugs.MixedOutputs
import RgbppIndexer.Bugs.IssuanceCompletes
import RgbppIndexer.Store.Activity
import RgbppIndexer.Api.Activity
import RgbppIndexer.Scan.Growth
import RgbppIndexer.Api.Paging
import RgbppIndexer.Api.Deltas
import RgbppIndexer.Bugs.WrappedCapacity
import RgbppIndexer.Core.Decimal
import RgbppIndexer.Core.Ledger
import RgbppIndexer.Indexer.Ownership
import RgbppIndexer.Types.Address
import RgbppIndexer.Types.Canonical
import RgbppIndexer.Store.Stats
import RgbppIndexer.Bugs.RespelledOwner
import RgbppIndexer.Core.Program
import RgbppIndexer.Indexer.Concurrent
import RgbppIndexer.Scan.Stale
import RgbppIndexer.Scan.Concurrent
import RgbppIndexer.Scan.Interleaving
import RgbppIndexer.Bugs.BesideNullTip
import RgbppIndexer.Bugs.WrappedCount
import RgbppIndexer.Indexer.FollowUp
import RgbppIndexer.Bugs.SilentReplacement
import RgbppIndexer.Bugs.TwiceChanged
import RgbppIndexer.Bugs.PartialPreimage
import RgbppIndexer.Bugs.FlaggedUnlock
import RgbppIndexer.Bugs.StarvedChecks
import RgbppIndexer.Indexer.Judgements
import RgbppIndexer.Bugs.FinalNotFound
import RgbppIndexer.Bugs.UnretriedFollowUp
import RgbppIndexer.Btc.BlockbookHttp
import RgbppIndexer.Bugs.SwallowedErrors
import RgbppIndexer.Api.Assets
import RgbppIndexer.Bugs.SplitAsset
import RgbppIndexer.Bugs.TrailingPush
import RgbppIndexer.Store.Status
import RgbppIndexer.Bugs.ReplacedCommitment
import RgbppIndexer.Api.Outpoints
import RgbppIndexer.Bugs.RepeatedOutpoint
import RgbppIndexer.Scan.Listed
import RgbppIndexer.Btc.AddressPath
import RgbppIndexer.Btc.Outspends
import RgbppIndexer.Indexer.AddressBackfill
import RgbppIndexer.Indexer.PageWalk
import RgbppIndexer.Bugs.CountedPerCell
import RgbppIndexer.Api.Balance
import RgbppIndexer.Bugs.UncountedPending
import RgbppIndexer.Bugs.MatchOrder
import RgbppIndexer.Bugs.MixedChains
import RgbppIndexer.Btc.Throttle
import RgbppIndexer.Btc.Waiting
import RgbppIndexer.Btc.Ledger
import RgbppIndexer.Btc.Esplora
import RgbppIndexer.Btc.Backends
import RgbppIndexer.Indexer.Facts
import RgbppIndexer.Indexer.Permanence
import RgbppIndexer.Indexer.Reclassify
import RgbppIndexer.Scan.Headers
import RgbppIndexer.Ckb.Wire
import RgbppIndexer.Chain.Wire
import RgbppIndexer.Indexer.Progress
