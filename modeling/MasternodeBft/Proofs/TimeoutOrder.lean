import MasternodeBft.Proofs.Assembly
import MasternodeBft.Proofs.RoundOrder
import MasternodeBft.Proofs.Tally

/-!
Timeouts in order. The timeouts of the current round are those of masternodes, are pooled once for each signer,
and lie ahead of the highest timeout certificate; so if the bucket of a new one suffices, it makes a certificate,
which is adopted.
-/

namespace MasternodeBft

def Setting.Short (setting : Setting) (key : TimeoutKey) (count : Nat) : Prop :=
  ∃ found, setting.chain.snapshot key.gapNumber = .ok found ∧
    thresholdReached count found.masternodes.length (setting.configAt key.round).certThreshold = false

def Setting.Suffices (setting : Setting) (key : TimeoutKey) (count : Nat) : Prop :=
  ∃ found, setting.chain.snapshot key.gapNumber = .ok found ∧
    thresholdReached count found.masternodes.length (setting.configAt key.round).certThreshold = true

def AllShort (setting : Setting) (pool : TimeoutPool) : Prop :=
  ∀ key bucket, pool.bucket? key = some bucket → setting.Short key bucket.length

/-- A state whose timeouts are in order, and whose current round is past its highest certificates. -/
structure Orderly (setting : Setting) (signers : TimeoutKey → Set Address) (state : EngineState) : Prop where
  holds : state.timeouts.Files fun timeout => timeout.attestation.Holds setting
  unique : state.timeouts.OnePerSigner
  tallies : Tallies signers state
  past : state.round.Past

section Continuation

variable {earlier later : Setting}

theorem AllShort.of_continues {pool : TimeoutPool} (continues : later.Continues earlier)
    (short : AllShort earlier pool) : AllShort later pool := by
  intro key bucket present
  obtain ⟨found, selected, below⟩ := short key bucket present
  refine ⟨found, continues.snapshot _ _ selected, ?_⟩
  rw [Setting.configAt_of_config continues.config]
  exact below

theorem Orderly.of_continues {signers : TimeoutKey → Set Address} {state : EngineState}
    (continues : later.Continues earlier) (orderly : Orderly earlier signers state) : Orderly later signers state :=
  { orderly with holds := orderly.holds.mono fun _ holds => holds.of_continues continues }

end Continuation

namespace Change

variable {setting : Setting} {admitted : Message → Prop} {first last : EngineState} {sent : List Effect}
  {signers : TimeoutKey → Set Address}

theorem tallies (silent : ∀ timeout, ¬admitted (.timeout timeout)) (change : Change setting admitted first sent last)
    (tallies : Tallies signers first) : Tallies signers last := by
  cases change with
  | adopt _ cert =>
    have kept : Tallies signers { first with round := first.round.install cert } := by
      cases cert <;> exact ⟨tallies.stale, tallies.current, tallies.ahead⟩
    exact kept.leave cert.round
  | timeout _ timeout admission => exact absurd admission (silent timeout)
  | sweepTimeouts => exact tallies.sweep _
  | _ => exact ⟨tallies.stale, tallies.current, tallies.ahead⟩

theorem orderly (silent : ∀ timeout, ¬admitted (.timeout timeout)) (change : Change setting admitted first sent last)
    (orderly : Orderly setting signers first) : Orderly setting signers last where
  holds := change.keeps_timeouts (Pool.Files _) .empty (fun _ timeout admission => absurd admission (silent timeout))
    (fun _ _ _ files => files.sweep _ _) orderly.holds
  unique := change.keeps_timeouts Pool.OnePerSigner .empty (fun _ timeout _ unique => unique.add timeout)
    (fun _ _ _ unique => unique.sweep _ _) orderly.unique
  tallies := change.tallies silent orderly.tallies
  past := change.past orderly.past

theorem allShort (silent : ∀ timeout, ¬admitted (.timeout timeout)) (change : Change setting admitted first sent last)
    (short : AllShort setting first.timeouts) : AllShort setting last.timeouts := by
  refine change.keeps_timeouts (AllShort setting) (fun _ _ => nofun)
    (fun _ timeout admission => absurd admission (silent timeout)) ?_ short
  intro pool current window short key bucket present
  rw [Pool.bucket?_sweep] at present
  split at present
  · cases present
  · exact short key bucket present

end Change

theorem EngineState.adopt_timeout_of_current {state : EngineState} {cert : TimeoutCert}
    (current : cert.round = state.round.currentRound) (next : cert.round.HasNext) :
    (state.adopt (.timeout cert)).round = ⟨cert.round + 1, state.round.highestQuorumCert, some cert⟩ ∧
      (state.adopt (.timeout cert)).timeouts = .empty := by
  have leaves : state.round.currentRound ≤ cert.round ∧ cert.round.HasNext := ⟨current ▸ UInt64.le_refl _, next⟩
  have entered : state.adopt (.timeout cert) = EngineState.enter _ (cert.round + 1) := if_pos leaves
  rw [entered]
  exact ⟨rfl, rfl⟩

theorem EngineState.adopt_of_last {state : EngineState} {cert : AnyCert} (last : ¬cert.round.HasNext) :
    state.adopt cert = { state with round := state.round.install cert } := by
  unfold EngineState.adopt EngineState.leave
  exact if_neg fun leaves => last leaves.2

namespace Engine

open MasternodeBft.Action

variable {setting : Setting} {signers later : TimeoutKey → Set Address} {state : EngineState} {timeout : Timeout}

theorem collectTimeout_of_other (other : timeout.round ≠ state.round.currentRound) :
    (collectTimeout setting timeout state).state = state := (collectTimeout_of_mismatch other).state

/-- A timeout of the current round is pooled; then its bucket is short of a certificate, or the certificate
that it makes is adopted. -/
theorem collectTimeout_settles (orderly : Orderly setting signers state)
    (current : timeout.round = state.round.currentRound) (holds : timeout.attestation.Holds setting)
    (next : state.round.timeoutRound.HasNext) :
    let pooled : EngineState := { state with timeouts := state.timeouts.add timeout }
    let bucket := pooled.timeouts.bucket timeout.key
    let cert := assembleTimeoutCert setting timeout bucket
    (setting.Short timeout.key bucket.length ∧ (collectTimeout setting timeout state).state = pooled) ∨
      (setting.Suffices timeout.key bucket.length ∧ pooled.round.timeoutRound < cert.round ∧
        cert.Certified setting ∧ (collectTimeout setting timeout state).state = pooled.adopt (.timeout cert)) := by
  intro pooled bucket cert
  obtain ⟨found, chosen, member⟩ := holds.selected
  have selected : (snapshot setting timeout.gapNumber).ending = .done found :=
    snapshot_done_iff.mpr ⟨chosen, List.ne_nil_of_mem member⟩
  cases count : thresholdReached bucket.length found.masternodes.length
      (setting.configAt timeout.round).certThreshold with
  | false =>
    exact .inl ⟨⟨found, chosen, count⟩, (collectTimeout_of_short current selected count).state⟩
  | true =>
    have newer : pooled.round.timeoutRound < cert.round := by
      change state.round.timeoutRound < timeout.round
      rw [current]
      exact orderly.past.timeout next
    have present : pooled.timeouts.bucket timeout.key ≠ [] := bucket_add_ne_nil state.timeouts timeout
    have all : ∀ entry ∈ pooled.timeouts.bucket timeout.key, entry.2.key = timeout.key ∧
        entry.2.signer = entry.1 ∧ entry.2.attestation.Holds setting := by
      intro entry listed
      obtain ⟨holds, key, signer⟩ := orderly.holds.add holds timeout.key entry listed
      exact ⟨key, signer, holds⟩
    have endorsed := assembleTimeoutCert_endorsed (orderly.unique.add timeout) present all selected count
    have verified : (AnyCert.timeout cert).Passes setting := verifyTimeoutCert_done_iff.mpr endorsed
    have positive : 0 < cert.round := UInt64.lt_of_le_of_lt UInt64.zero_le newer
    refine .inr ⟨⟨found, chosen, count⟩, newer, ⟨positive, endorsed⟩, ?_⟩
    rw [(collectTimeout_of_reached current selected count).state, process_state verified]
    exact if_pos newer

theorem collectTimeout_orderly (orderly : Orderly setting signers state)
    (current : timeout.round = state.round.currentRound) (holds : timeout.attestation.Holds setting)
    (next : state.round.timeoutRound.HasNext)
    (adds : ∀ key signer, signer ∈ later key ↔
      signer ∈ signers key ∨ (timeout.key = key ∧ timeout.signer = signer)) :
    Orderly setting later (collectTimeout setting timeout state).state := by
  have pooled : Orderly setting later { state with timeouts := state.timeouts.add timeout } :=
    ⟨orderly.holds.add holds, orderly.unique.add timeout, orderly.tallies.add current adds, orderly.past⟩
  rcases collectTimeout_settles orderly current holds next with ⟨-, kept⟩ | ⟨-, newer, certified, adopted⟩
  · rw [kept]
    exact pooled
  · rw [adopted]
    have change : Change setting (fun _ => False) _ _ _ := .adopt _ (.timeout _) newer certified
    exact change.orderly (fun _ => id) pooled

theorem collectTimeout_allShort (orderly : Orderly setting signers state)
    (current : timeout.round = state.round.currentRound) (holds : timeout.attestation.Holds setting)
    (next : state.round.timeoutRound.HasNext)
    (nextAfter : (collectTimeout setting timeout state).state.round.timeoutRound.HasNext)
    (short : AllShort setting state.timeouts) :
    AllShort setting (collectTimeout setting timeout state).state.timeouts := by
  let pooled : EngineState := { state with timeouts := state.timeouts.add timeout }
  let cert := assembleTimeoutCert setting timeout (pooled.timeouts.bucket timeout.key)
  rcases collectTimeout_settles orderly current holds next with ⟨few, kept⟩ | ⟨-, newer, certified, adopted⟩
  · rw [kept]
    intro key bucket present
    by_cases own : timeout.key = key
    · rw [← own] at present ⊢
      rw [← Pool.bucket_of_bucket? present]
      exact few
    · exact short key bucket ((Pool.bucket?_add_of_ne _ own).symm.trans present)
  · rw [adopted] at nextAfter ⊢
    rw [EngineState.adopt_timeoutRound] at nextAfter
    have opened : cert.round = pooled.round.currentRound := current
    rw [(EngineState.adopt_timeout_of_current opened nextAfter).2]
    exact fun _ _ => nofun

end Engine

section Transfer

variable {setting : Setting} {signers : TimeoutKey → Set Address} {earlier later : EngineState}

theorem Orderly.of_sameTimeouts (same : SameTimeouts earlier later) (orderly : Orderly setting signers earlier) :
    Orderly setting signers later where
  holds := same.timeouts ▸ orderly.holds
  unique := same.timeouts ▸ orderly.unique
  tallies := by
    obtain ⟨stale, current, ahead⟩ := orderly.tallies
    constructor <;> rw [same.round] <;> try rw [same.timeouts]
    · exact stale
    · exact current
    · exact ahead
  past := same.round ▸ orderly.past

end Transfer

end MasternodeBft
