import X402Verifier.Interaction.CompareExchange
import X402Verifier.Interaction.Machine
import X402Verifier.Interaction.SpendOnce
import X402Verifier.RustStd.Result
import X402Verifier.RustStd.Search
import X402Verifier.RustStd.Table
import X402Verifier.Platform
import X402Verifier.Reference
import X402Verifier.Config
import X402Verifier.ConfigChecked
import X402Verifier.X402
import X402Verifier.Sui
import X402Verifier.Facilitator
import X402Verifier.OnChain
import X402Verifier.OnChainAcceptance
import X402Verifier.Breaker
import X402Verifier.BreakerRate
import X402Verifier.Session
import X402Verifier.RateLimit
import X402Verifier.Auth
import X402Verifier.ExtProc
import X402Verifier.FacilitatorApi
import X402Verifier.System
import X402Verifier.SessionSpec
import X402Verifier.ReplayCache
import X402Verifier.ClaimProtocol
import X402Verifier.ReplayClaim
import X402Verifier.ClaimCustody
import X402Verifier.StreamRelease
import X402Verifier.PaymentIdentity
import X402Verifier.StreamSettlement
import X402Verifier.UpstreamFailure
import X402Verifier.ClaimLifetime
import X402Verifier.SessionAccounting
import X402Verifier.RefusalRelease
import X402Verifier.IdentityHeaders
import X402Verifier.RefusalFraming
import X402Verifier.StreamWindow
import X402Verifier.PaymentWindow
import X402Verifier.SlidingWindow
import X402Verifier.RateLimitReference
import X402Verifier.RateLimitRedis
import X402Verifier.SessionBackends
import X402Verifier.SessionScope
import X402Verifier.BreakerHistory
import X402Verifier.RateLimitMeter
import X402Verifier.RateLimitArithmetic
import X402Verifier.DecisionRun
import X402Verifier.SessionPriority
import X402Verifier.FailClosed
import X402Verifier.MeterMoves
import X402Verifier.SettlementPaths
import X402Verifier.PayClient
import X402Verifier.WireAgreement
import X402Verifier.PeerAddress
import X402Verifier.PolicyResolution
import X402Verifier.SigningKey
import X402Verifier.PolicySeparation
import X402Verifier.CreditReading
import X402Verifier.TokenProvenance
import X402Verifier.PaymentBuilder
import X402Verifier.CoinChoice
import X402Verifier.PaymentPaths
import X402Verifier.RouteMetadata
import X402Verifier.PolicyScan
import X402Verifier.QuotaSpending
import X402Verifier.RustStd.Percent
import X402Verifier.GrpcMessage
import X402Verifier.JsonRecord
import X402Verifier.WireTypes
import X402Verifier.HeaderCodec
import X402Verifier.ClaimRelease
import X402Verifier.ProbeInFlight
import X402Verifier.Interaction.Lock
import X402Verifier.ClientAttempt
import X402Verifier.Demo
import X402Verifier.DemoSpending
import X402Verifier.StreamReplies
import X402Verifier.Interaction.Interpret
import X402Verifier.Proxy
import X402Verifier.PayMain
import X402Verifier.Purchase
import X402Verifier.Interaction.Erasure
import X402Verifier.RustStd.Thinned
import X402Verifier.Told
import X402Verifier.RequestCalls
import X402Verifier.Unnoticed
import X402Verifier.Startup
import X402Verifier.PolicyTable
import X402Verifier.Payees
import X402Verifier.Interference
