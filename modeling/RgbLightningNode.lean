import RgbLightningNode.Lib.Text
import RgbLightningNode.Lib.FileTree
import RgbLightningNode.Lib.PathSteps
import RgbLightningNode.Lib.FairMutex
import RgbLightningNode.Lib.Fallible
import RgbLightningNode.Lib.LastArgmax
import RgbLightningNode.Lib.Ledger
import RgbLightningNode.Lib.MachineInt
import RgbLightningNode.Lib.Mealy
import RgbLightningNode.Lib.PoisonMutex
import RgbLightningNode.Lib.SerdeJson
import RgbLightningNode.Lib.TreeOps
import RgbLightningNode.Types
import RgbLightningNode.Utils
import RgbLightningNode.HexText
import RgbLightningNode.SwapString
import RgbLightningNode.Stores
import RgbLightningNode.LdkDataDir
import RgbLightningNode.RgbAmounts
import RgbLightningNode.Node
import RgbLightningNode.Routes.Swaps
import RgbLightningNode.Routes.MakerExecute
import RgbLightningNode.Routes.RecordedTerms
import RgbLightningNode.Routes.MakerInit
import RgbLightningNode.Routes.RouteAmounts
import RgbLightningNode.Routes.MakerExecuteStops
import RgbLightningNode.Routes.SwapOffers
import RgbLightningNode.Routes.OpenChannel
import RgbLightningNode.Routes.BalanceReports
import RgbLightningNode.Routes.Peers
import RgbLightningNode.Routes.Unlock
import RgbLightningNode.Routes.StartLdk
import RgbLightningNode.Routes.FailedUnlock
import RgbLightningNode.Routes.ChangePassword
import RgbLightningNode.Routes.AssetMedia
import RgbLightningNode.Adapter.Files
import RgbLightningNode.Adapter.Funding
import RgbLightningNode.Adapter.FundingVout
import RgbLightningNode.Adapter.SendEnd
import RgbLightningNode.Adapter.FundingReplay
import RgbLightningNode.Adapter.Claim
import RgbLightningNode.Adapter.Settlement
import RgbLightningNode.Adapter.TokenWallet
import RgbLightningNode.Adapter.TxBuilder
import RgbLightningNode.Adapter.ClaimUtxo
import RgbLightningNode.Adapter.Send
import RgbLightningNode.Adapter.Consignment
import RgbLightningNode.Adapter.ConsignmentPath
import RgbLightningNode.Adapter.OccupiedUtxos
import RgbLightningNode.Adapter.Issuance
import RgbLightningNode.Events.Payments
import RgbLightningNode.Events.PaymentReplay
import RgbLightningNode.Events.SplitPayments
import RgbLightningNode.Events.HtlcIntercepted
import RgbLightningNode.Events.HtlcResolution
import RgbLightningNode.Events.NetPosition
import RgbLightningNode.Events.ChannelClosed
import RgbLightningNode.Events.CloseAcknowledged
import RgbLightningNode.Runs.TakerEffects
import RgbLightningNode.Runs.Sweeps
import RgbLightningNode.Runs.SweptOnce
import RgbLightningNode.Runs.TakerSwap
import RgbLightningNode.Runs.WriteThrough
import RgbLightningNode.Runs.SwapWrites
import RgbLightningNode.Runs.SwapStatus
import RgbLightningNode.Runs.MakerPayment
import RgbLightningNode.Runs.FeeEstimates
import RgbLightningNode.Runs.LifeCycle
import RgbLightningNode.Runs.SettledRecords
import RgbLightningNode.Runs.Shutdown
import RgbLightningNode.Routes.SendPayment
import RgbLightningNode.Routes.SendInvoice
import RgbLightningNode.Routes.LnInvoice
import RgbLightningNode.Runs.OutboundPayments
import RgbLightningNode.Runs.PaymentViews
import RgbLightningNode.Lib.Biscuit
import RgbLightningNode.Auth.Middleware
import RgbLightningNode.Auth.Access
import RgbLightningNode.Auth.Revocation
import RgbLightningNode.Auth.RevokedTokens
import RgbLightningNode.Runs.InboundRecords
import RgbLightningNode.Runs.Revocations
import RgbLightningNode.Runs.PeerFile
import RgbLightningNode.Runs.Reconnect
import RgbLightningNode.Runs.ChannelIds
import RgbLightningNode.Runs.ChannelSettlement
import RgbLightningNode.Events.WitnessIds
import RgbLightningNode.Runs.SpendableBalance
import RgbLightningNode.Channels.Opening
import RgbLightningNode.Channels.TransferDetails
import RgbLightningNode.Channels.OutputSpender
import RgbLightningNode.Channels.SweepPlan
import RgbLightningNode.Channels.SendLock
import RgbLightningNode.Channels.ColoredFunding
import RgbLightningNode.Events.FundingGenerationReady
import RgbLightningNode.Channels.PendingReplay
import RgbLightningNode.Adapter.LockedUtxos
import RgbLightningNode.Runs.LockedChannels
import RgbLightningNode.Routes.ReadOnly
import RgbLightningNode.Auth.ReadOnlyToken
import RgbLightningNode.Runs.SwapListing
import RgbLightningNode.Runs.SwapReadings
import RgbLightningNode.Runs.ClaimRecords
import RgbLightningNode.Backup.Files
import RgbLightningNode.Backup.Archive
import RgbLightningNode.Backup.Extraction
import RgbLightningNode.Backup.Encryption
import RgbLightningNode.Backup.Backup
import RgbLightningNode.Backup.Unchanged
import RgbLightningNode.Backup.Written
import RgbLightningNode.Backup.Restored
import RgbLightningNode.Backup.RoundTrip
import RgbLightningNode.Backup.Success
import RgbLightningNode.Backup.PlainTools
import RgbLightningNode.Backup.BackupAndRestore
import RgbLightningNode.Backup.Chunks
import RgbLightningNode.Backup.ZipItems
import RgbLightningNode.Backup.ForeignFiles
import RgbLightningNode.Backup.SafeRestores
import RgbLightningNode.Backup.WrongPassword
import RgbLightningNode.Lib.Simulation
import RgbLightningNode.Runs.AuthServer
import RgbLightningNode.Runs.SealedWallet
import RgbLightningNode.Runs.Progress
