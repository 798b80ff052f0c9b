import MasternodeBft.Binary64.Reading
import MasternodeBft.Binary64.Shortest
import MasternodeBft.Bls.Encoding
import MasternodeBft.Bls.Field
import MasternodeBft.Bls.HashToCurve
import MasternodeBft.Bls.Isogeny
import MasternodeBft.Bls.Pairing
import MasternodeBft.Bls.Point
import MasternodeBft.Bls.Quadratic
import MasternodeBft.Bls.Signature
import MasternodeBft.Bls.Tower
import MasternodeBft.Bytes
import MasternodeBft.Certificate
import MasternodeBft.Chain.Basic
import MasternodeBft.Chain.Memory
import MasternodeBft.CommandLine
import MasternodeBft.Config.Basic
import MasternodeBft.Config.Text
import MasternodeBft.Countdown
import MasternodeBft.Diagnostics.Method
import MasternodeBft.Diagnostics.Url
import MasternodeBft.Diagnostics.View
import MasternodeBft.Engine.Action
import MasternodeBft.Engine.Adoption
import MasternodeBft.Engine.Collection
import MasternodeBft.Engine.Error
import MasternodeBft.Engine.Expiry
import MasternodeBft.Engine.Hygiene
import MasternodeBft.Engine.Inbox
import MasternodeBft.Engine.Notice
import MasternodeBft.Engine.State
import MasternodeBft.Engine.Sync
import MasternodeBft.Engine.Verification
import MasternodeBft.Entries
import MasternodeBft.Epoch
import MasternodeBft.FileFault
import MasternodeBft.Hash.Hmac
import MasternodeBft.Hash.Keccak
import MasternodeBft.Hash.Sha256
import MasternodeBft.Host.Address
import MasternodeBft.Host.Composition
import MasternodeBft.Host.Direction
import MasternodeBft.Host.Joining
import MasternodeBft.Host.Name
import MasternodeBft.Host.Punycode
import MasternodeBft.Host.Replacement
import MasternodeBft.Host.Replacement.Shifts
import MasternodeBft.Host.Replacement.Singles
import MasternodeBft.Host.Replacement.Spellings
import MasternodeBft.Host.Table
import MasternodeBft.Identity.Address
import MasternodeBft.Identity.Key
import MasternodeBft.Identity.Signature
import MasternodeBft.Json.Basic
import MasternodeBft.Json.Float
import MasternodeBft.Json.Number
import MasternodeBft.Json.Parser
import MasternodeBft.Json.Record
import MasternodeBft.Json.Token
import MasternodeBft.Main
import MasternodeBft.Message.Basic
import MasternodeBft.Message.Wire
import MasternodeBft.Node
import MasternodeBft.Notice
import MasternodeBft.Pool.Basic
import MasternodeBft.Pool.Key
import MasternodeBft.Proofs.Assembly
import MasternodeBft.Proofs.Attestation
import MasternodeBft.Proofs.BlockArrival
import MasternodeBft.Proofs.BundleGate
import MasternodeBft.Proofs.BundleRefusal
import MasternodeBft.Proofs.CatchUp
import MasternodeBft.Proofs.Certification
import MasternodeBft.Proofs.ChainGrowth
import MasternodeBft.Proofs.Change
import MasternodeBft.Proofs.Checks
import MasternodeBft.Proofs.Conduct
import MasternodeBft.Proofs.Confluence
import MasternodeBft.Proofs.CountdownPassage
import MasternodeBft.Proofs.CountdownResets
import MasternodeBft.Proofs.CountdownSchedule
import MasternodeBft.Proofs.Course
import MasternodeBft.Proofs.Deeds
import MasternodeBft.Proofs.DiagnosticAnswers
import MasternodeBft.Proofs.EpochOpening
import MasternodeBft.Proofs.Epochs
import MasternodeBft.Proofs.Expiry
import MasternodeBft.Proofs.ExpiryMessages
import MasternodeBft.Proofs.GapNumberOrder
import MasternodeBft.Proofs.HeaderIndexes
import MasternodeBft.Proofs.JsonText
import MasternodeBft.Proofs.KeyTexts
import MasternodeBft.Proofs.LastRound
import MasternodeBft.Proofs.LastWrites
import MasternodeBft.Proofs.Messages
import MasternodeBft.Proofs.Numeral
import MasternodeBft.Proofs.Outcomes
import MasternodeBft.Proofs.Outsiders
import MasternodeBft.Proofs.OwnMasternodes
import MasternodeBft.Proofs.OwnTimeouts
import MasternodeBft.Proofs.ParametersInForce
import MasternodeBft.Proofs.PlainHosts
import MasternodeBft.Proofs.Pooling
import MasternodeBft.Proofs.Provenance
import MasternodeBft.Proofs.QuestionAddresses
import MasternodeBft.Proofs.QuorumAgreement
import MasternodeBft.Proofs.Reception
import MasternodeBft.Proofs.RecordText
import MasternodeBft.Proofs.Redelivery
import MasternodeBft.Proofs.Refusal
import MasternodeBft.Proofs.Replay
import MasternodeBft.Proofs.ReplayOrder
import MasternodeBft.Proofs.Retention
import MasternodeBft.Proofs.RoundOrder
import MasternodeBft.Proofs.Run
import MasternodeBft.Proofs.Signatures
import MasternodeBft.Proofs.SigningPayloads
import MasternodeBft.Proofs.Tally
import MasternodeBft.Proofs.TimeoutCount
import MasternodeBft.Proofs.TimeoutOrder
import MasternodeBft.Proofs.TimeoutQuorum
import MasternodeBft.Proofs.TimeoutsOfRound
import MasternodeBft.Proofs.TornState
import MasternodeBft.Proofs.Verdict
import MasternodeBft.Proofs.VoteWindow
import MasternodeBft.Proofs.WireIdentity
import MasternodeBft.Proofs.WireRoundTrip
import MasternodeBft.SortedMap
import MasternodeBft.Text.Decimal
import MasternodeBft.Text.Hex
import MasternodeBft.Text.Utf8
