import WhisperDesk.General.Mapping
import WhisperDesk.General.Reverting
import WhisperDesk.General.Commuting
import WhisperDesk.General.EventLog
import WhisperDesk.General.Await
import WhisperDesk.General.Reserve
import WhisperDesk.General.ByteCodec
import WhisperDesk.General.JsonText
import WhisperDesk.General.AbiWords
import WhisperDesk.General.Abi
import WhisperDesk.General.Selection
import WhisperDesk.General.Unwinding
import WhisperDesk.General.LapsingMap
import WhisperDesk.General.Lease
import WhisperDesk.General.Trace
import WhisperDesk.General.Window
import WhisperDesk.General.TypedData
import WhisperDesk.General.Procedure
import WhisperDesk.Contracts.Chain
import WhisperDesk.Contracts.BondLedger
import WhisperDesk.Contracts.MatchInstructionLib
import WhisperDesk.Contracts.DvPEscrow
import WhisperDesk.Contracts.EscrowSpecs
import WhisperDesk.Contracts.XrpPayments
import WhisperDesk.Contracts.System
import WhisperDesk.Contracts.EscrowViews
import WhisperDesk.Contracts.EscrowAccounting
import WhisperDesk.Contracts.BondAccounting
import WhisperDesk.Contracts.OwnerReach
import WhisperDesk.Contracts.Reentrancy
import WhisperDesk.Contracts.Settlement
import WhisperDesk.Contracts.EventReplay
import WhisperDesk.Contracts.MatchHistory
import WhisperDesk.Contracts.Bystander
import WhisperDesk.Contracts.InstructionSender
import WhisperDesk.Contracts.Liveness
import WhisperDesk.Contracts.SettlementOrder
import WhisperDesk.Contracts.Band
import WhisperDesk.Contracts.CompromisedSigner
import WhisperDesk.Contracts.Authorization
import WhisperDesk.Enclave.GoValues
import WhisperDesk.Enclave.Instruction
import WhisperDesk.Enclave.Book
import WhisperDesk.Enclave.Match
import WhisperDesk.Enclave.BookRuns
import WhisperDesk.Enclave.Expiry
import WhisperDesk.Enclave.MatchRace
import WhisperDesk.Enclave.MatchingRule
import WhisperDesk.Enclave.Handler
import WhisperDesk.Enclave.Provenance
import WhisperDesk.Enclave.Dispatch
import WhisperDesk.Enclave.Retry
import WhisperDesk.Enclave.DeskRuns
import WhisperDesk.Enclave.DirectOrder
import WhisperDesk.Enclave.Statements
import WhisperDesk.Enclave.Atomicity
import WhisperDesk.Enclave.RivalView
import WhisperDesk.Enclave.RivalCounts
import WhisperDesk.Enclave.Interleaving
import WhisperDesk.Enclave.ChainCache
import WhisperDesk.Enclave.Freshness
import WhisperDesk.Enclave.Refinement
import WhisperDesk.Enclave.Pipeline
import WhisperDesk.Enclave.Payability
import WhisperDesk.Enclave.SenderBinding
import WhisperDesk.Enclave.ForgedTaker
import WhisperDesk.Enclave.Signing
import WhisperDesk.Enclave.QuoteBinding
import WhisperDesk.Web.MatchInstruction
import WhisperDesk.Enclave.WireParity
import WhisperDesk.Web.RfqQueue
import WhisperDesk.Web.RunLock
import WhisperDesk.Web.RunExclusion
import WhisperDesk.Web.TriggerMatch
import WhisperDesk.Web.Sealing
import WhisperDesk.Web.TakerRfq
import WhisperDesk.Web.QuoteRelay
import WhisperDesk.Web.FormToPayment
import WhisperDesk.Web.WalletPay
import WhisperDesk.Web.DeskPayments
import WhisperDesk.Web.WalletSettlement
import WhisperDesk.Web.MakerPay
import WhisperDesk.Web.PaymentStatus
import WhisperDesk.Web.MakerIsolation
import WhisperDesk.Web.GasDrip
import WhisperDesk.Web.GasSteps
import WhisperDesk.Web.GasGuards
import WhisperDesk.Web.RateLimit
import WhisperDesk.Web.ConfirmRfq
import WhisperDesk.Web.Flow
import WhisperDesk.Web.FundAndLock
