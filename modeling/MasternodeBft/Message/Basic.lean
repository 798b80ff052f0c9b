import MasternodeBft.Identity.Signature

/-!
What masternodes send each other: votes for blocks, timeouts of rounds, and bundles of the highest
certificates that votes and timeouts have formed.
-/

namespace MasternodeBft

abbrev Round := UInt64

structure BlockInfo where
  hash : Digest
  number : UInt64
  round : Round
deriving DecidableEq

namespace BlockInfo

def zero : BlockInfo := ⟨FixedBytes.zero 32, 0, 0⟩

end BlockInfo

structure Header where
  number : UInt64
  hash : Digest
  parentHash : Digest
  round : Round
deriving DecidableEq

namespace Header

def zero : Header := ⟨0, FixedBytes.zero 32, FixedBytes.zero 32, 0⟩

def blockInfo (header : Header) : BlockInfo := ⟨header.hash, header.number, header.round⟩

end Header

/-- What a masternode signs when it votes: the block, and the number that selects the masternodes. -/
structure VotePayload where
  block : BlockInfo
  gapNumber : UInt64
deriving DecidableEq

/-- What a masternode signs when it gives up on a round. -/
structure TimeoutPayload where
  round : Round
  gapNumber : UInt64
deriving DecidableEq

/-- A signed vote. The signer is a note of the receiver and never travels. -/
structure Vote where
  block : BlockInfo
  gapNumber : UInt64
  signature : Signature
  signer : Address
deriving DecidableEq

namespace Vote

def round (vote : Vote) : Round := vote.block.round

def payload (vote : Vote) : VotePayload := ⟨vote.block, vote.gapNumber⟩

end Vote

/-- A signed timeout. The signer is a note of the receiver and never travels. -/
structure Timeout where
  round : Round
  gapNumber : UInt64
  signature : Signature
  signer : Address
deriving DecidableEq

namespace Timeout

def payload (timeout : Timeout) : TimeoutPayload := ⟨timeout.round, timeout.gapNumber⟩

end Timeout

structure QuorumCert where
  block : BlockInfo
  gapNumber : UInt64
  signatures : List Signature
deriving DecidableEq

namespace QuorumCert

def round (cert : QuorumCert) : Round := cert.block.round

def payload (cert : QuorumCert) : VotePayload := ⟨cert.block, cert.gapNumber⟩

/-- The certificate from which a fresh node starts; it carries no signatures. -/
def genesis (block : BlockInfo) : QuorumCert := ⟨block, 0, []⟩

end QuorumCert

structure TimeoutCert where
  round : Round
  gapNumber : UInt64
  signatures : List Signature
deriving DecidableEq

namespace TimeoutCert

def payload (cert : TimeoutCert) : TimeoutPayload := ⟨cert.round, cert.gapNumber⟩

end TimeoutCert

inductive Signed where
  | vote (vote : Vote)
  | timeout (timeout : Timeout)

namespace Signed

def round : Signed → Round
  | vote body => body.round
  | timeout body => body.round

def gapNumber : Signed → UInt64
  | vote body => body.gapNumber
  | timeout body => body.gapNumber

def signature : Signed → Signature
  | vote body => body.signature
  | timeout body => body.signature

def signer : Signed → Address
  | vote body => body.signer
  | timeout body => body.signer

/-- The receiver notes down who has signed. -/
def signedBy (signer : Address) : Signed → Signed
  | vote body => .vote { body with signer }
  | timeout body => .timeout { body with signer }

end Signed

inductive AnyCert where
  | quorum (cert : QuorumCert)
  | timeout (cert : TimeoutCert)

namespace AnyCert

def round : AnyCert → Round
  | quorum cert => cert.round
  | timeout cert => cert.round

def gapNumber : AnyCert → UInt64
  | quorum cert => cert.gapNumber
  | timeout cert => cert.gapNumber

def signatures : AnyCert → List Signature
  | quorum cert => cert.signatures
  | timeout cert => cert.signatures

end AnyCert

/-- The highest certificates of a node. A node that has met no timeout certificate sends none. -/
structure SyncInfo where
  quorumCert : QuorumCert
  timeoutCert : Option TimeoutCert
deriving DecidableEq

namespace SyncInfo

def timeoutRound (bundle : SyncInfo) : Round := (bundle.timeoutCert.map TimeoutCert.round).getD 0

end SyncInfo

inductive Message where
  | vote (vote : Vote)
  | timeout (timeout : Timeout)
  | syncInfo (bundle : SyncInfo)
deriving DecidableEq

def Signed.message : Signed → Message
  | vote body => .vote body
  | timeout body => .timeout body

end MasternodeBft
