import MasternodeBft.Pool.Key
import MasternodeBft.Proofs.WireRoundTrip

/-!
Which message it is does not depend on the note about its signer, and that note is all that is lost on the
way: two messages travel in the same form exactly when they differ in that note at most.
-/

namespace MasternodeBft.Message

/-- The message with another note about its signer. Nobody signs a bundle, so it carries none. -/
def annotated (signer : Address) : Message → Message
  | .vote body => .vote { body with signer }
  | .timeout body => .timeout { body with signer }
  | .syncInfo body => .syncInfo body

def annotation : Message → Address
  | .vote body => body.signer
  | .timeout body => body.signer
  | .syncInfo _ => Address.zero

inductive Place where
  | votes (key : VoteKey)
  | timeouts (key : TimeoutKey)
  | bundles (key : SyncKey)
deriving DecidableEq

def place : Message → Place
  | .vote body => .votes body.key
  | .timeout body => .timeouts body.key
  | .syncInfo body => .bundles body.key

def signedDigest? : Message → Option Digest
  | .vote body => some body.payload.digest
  | .timeout body => some body.payload.digest
  | .syncInfo _ => none

def digest : Message → Digest
  | .vote body => body.digest
  | .timeout body => body.digest
  | .syncInfo body => body.digest

variable (message : Message) (signer : Address)

@[simp] theorem annotated_annotated (earlier : Address) :
    (message.annotated earlier).annotated signer = message.annotated signer := by
  cases message <;> rfl

@[simp] theorem annotated_annotation : message.annotated message.annotation = message := by
  cases message <;> rfl

@[simp] theorem place_annotated : (message.annotated signer).place = message.place := by
  cases message <;> rfl

@[simp] theorem signedDigest?_annotated : (message.annotated signer).signedDigest? = message.signedDigest? := by
  cases message <;> rfl

@[simp] theorem digest_annotated : (message.annotated signer).digest = message.digest := by
  cases message <;> rfl

@[simp] theorem encode_annotated : (message.annotated signer).encode = message.encode := by
  cases message <;> rfl

theorem arrived_eq_annotated : message.arrived = message.annotated Address.zero := by
  cases message <;> rfl

variable {message} {other : Message}

theorem eq_annotated_of_arrived_eq (same : other.arrived = message.arrived) :
    other = message.annotated other.annotation := by
  rw [arrived_eq_annotated, arrived_eq_annotated] at same
  calc other
    _ = (other.annotated Address.zero).annotated other.annotation := by simp
    _ = (message.annotated Address.zero).annotated other.annotation := by rw [same]
    _ = message.annotated other.annotation := by simp

theorem encode_eq_encode_iff : other.encode = message.encode ↔ ∃ signer, other = message.annotated signer := by
  constructor
  · intro same
    have read := congrArg decode same
    rw [decode_encode, decode_encode] at read
    exact ⟨other.annotation, eq_annotated_of_arrived_eq (Option.some.inj read)⟩
  · rintro ⟨signer, rfl⟩
    exact message.encode_annotated signer

variable (message)

/-- A message arrives with nothing but its annotation cleared. So it goes to the same place in the pools, its
sender has signed the same digest, it has the same digest itself, and it is sent on in the same form, in
which no message travels that differs from it in more than the annotation. -/
theorem identity_crosses_wire :
    ∃ received, decode message.encode = some received ∧ received = message.annotated Address.zero ∧
      (received.place = message.place ∧ received.signedDigest? = message.signedDigest? ∧
        received.digest = message.digest) ∧
      received.encode = message.encode ∧
      ∀ other : Message, other.encode = message.encode ↔ ∃ signer, other = message.annotated signer := by
  refine ⟨message.arrived, message.decode_encode, message.arrived_eq_annotated, ?_⟩
  rw [arrived_eq_annotated]
  exact ⟨⟨message.place_annotated _, message.signedDigest?_annotated _, message.digest_annotated _⟩,
    message.encode_annotated _, fun _ => encode_eq_encode_iff⟩

end MasternodeBft.Message
