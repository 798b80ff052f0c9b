import MasternodeBft.Identity.Signature
import MasternodeBft.Binary64.Shortest

/-!
When signatures form a certificate. Signatures of the same bytes count once; those that are left must
reach a fraction of the masternodes, and each of them must be that of a masternode.
-/

namespace MasternodeBft

/-- Whether a count reaches a fraction of a set's size, in binary fractions. -/
def thresholdReached (count size : Nat) (threshold : Float) : Bool :=
  Float.ofNat size * threshold ≤ Float.ofNat count

inductive CertificateError where
  | insufficient (unique : Nat) (required : Float)
  | invalidSignature (signature : Signature) (cause : SignatureError)
  | notAMasternode (signature : Signature) (signer : Address)
  | multiple (failed total : Nat) (first : CertificateError)

namespace CertificateError

def message : CertificateError → String
  | insufficient unique required =>
    "Insufficient signatures: " ++ Text.Decimal.text unique ++ " unique, need " ++ Binary64.text required
  | invalidSignature signature cause =>
    "Signature " ++ signature.text ++ " failed verification: " ++ cause.message
  | notAMasternode signature signer =>
    "Signature " ++ signature.text ++ " recovers to " ++ signer.checksummed ++ ", which is not a masternode"
  | multiple failed total first =>
    Text.Decimal.text failed ++ " of " ++ Text.Decimal.text total ++ " signatures failed, first: " ++
      first.message

end CertificateError

namespace Certificate

def unique (signatures : List Signature) : List Signature := signatures.eraseDups

/-- The occurrences of signatures that stand in the list before, or among those already seen. -/
def repeatedAfter (seen : List Signature) : List Signature → List Signature
  | [] => []
  | signature :: rest =>
    if signature ∈ seen then signature :: repeatedAfter seen rest
    else repeatedAfter (signature :: seen) rest

def repeated (signatures : List Signature) : List Signature := repeatedAfter [] signatures

abbrev Recovery := Digest → Signature → Except SignatureError Address

def failure? (recover : Recovery) (digest : Digest) (masternodes : List Address)
    (signature : Signature) : Option CertificateError :=
  match recover digest signature with
  | .error cause => some (.invalidSignature signature cause)
  | .ok signer => if signer ∈ masternodes then none else some (.notAMasternode signature signer)

/-- What there is to say of a certificate's signatures. They are looked at one by one only if there
are enough of them. -/
inductive Finding where
  | tooFew (unique : Nat) (required : Float)
  | examined (unique : Nat) (failures : List CertificateError)

def examine (recover : Recovery) (digest : Digest) (signatures : List Signature)
    (masternodes : List Address) (threshold : Float) : Finding :=
  let unique := unique signatures
  if thresholdReached unique.length masternodes.length threshold then
    .examined unique.length (unique.filterMap (failure? recover digest masternodes))
  else .tooFew unique.length (Float.ofNat masternodes.length * threshold)

/-- A single failure is the verdict; of several it names the first. -/
def Finding.verdict : Finding → Except CertificateError Unit
  | .tooFew unique required => .error (.insufficient unique required)
  | .examined _ [] => .ok ()
  | .examined _ [failure] => .error failure
  | .examined unique (first :: rest) => .error (.multiple (rest.length + 1) unique first)

def verify (recover : Recovery) (digest : Digest) (signatures : List Signature)
    (masternodes : List Address) (threshold : Float) : Except CertificateError Unit :=
  (examine recover digest signatures masternodes threshold).verdict

end Certificate

end MasternodeBft
