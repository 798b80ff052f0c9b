import Mathlib.Data.List.Induction
import MasternodeBft.Proofs.CountdownPassage

/-!
When a countdown calls back, whatever is done with it: from a reset on there is a call after each period, until the
next command takes effect, and none at all once there has been an end. That is said here of a journal, which does
not know the countdown, and the countdown is shown to follow it.
-/

namespace MasternodeBft.Countdown

/-! What is done with a countdown. -/

inductive Input where
  | send (command : Command)
  | release
  | sleep (duration : Nat)

structure Watch (σ : Type) where
  countdown : Countdown
  now : Nat
  state : σ
  calls : List (Nat × Round)

namespace Watch

variable {σ : Type}

def start (state : σ) : Watch σ := ⟨idle, 0, state, []⟩

def next (callback : Callback σ) (watch : Watch σ) : Input → Watch σ
  | .send command => { watch with countdown := watch.countdown.send command }
  | .release => { watch with countdown := watch.countdown.release }
  | .sleep duration =>
    let passage := watch.countdown.run callback.reaction watch.now (watch.now + duration) watch.state
    ⟨passage.countdown, watch.now + duration, passage.state, watch.calls ++ passage.calls⟩

def after (callback : Callback σ) (watch : Watch σ) (inputs : List Input) : Watch σ :=
  inputs.foldl (next callback) watch

end Watch

/-! When calls are due. -/

/-- What is to be known of some inputs: how much time has passed, what has been sent since, and at which instants
the commands before that took effect. -/
structure Journal where
  now : Nat
  queued : List Command
  released : Bool
  effective : List (Nat × Command)

namespace Journal

def blank : Journal := ⟨0, [], false, []⟩

def settled (journal : Journal) : Journal :=
  let commands := outstanding journal.queued journal.released
  { journal with queued := [], effective := journal.effective ++ commands.map fun command => (journal.now, command) }

def next (journal : Journal) : Input → Journal
  | .send command => if journal.released then journal else { journal with queued := journal.queued ++ [command] }
  | .release => { journal with released := true }
  | .sleep duration => { journal.settled with now := journal.now + duration }

def of (inputs : List Input) : Journal := inputs.foldl next blank

end Journal

/-- The last of some commands is a reset, and none of them is a stop. -/
def InForce (effective : List (Nat × Command)) (start : Nat) (round : Round) (period : Nat) : Prop :=
  ∃ earlier, effective = earlier ++ [(start, .reset round period)] ∧ ∀ entry ∈ earlier, entry.2 ≠ .stop

/-- A call is due at an instant for a round: a whole number of periods ago a reset for the round took effect, which
is still in force. -/
def DueAt (effective : List (Nat × Command)) (instant : Nat) (round : Round) : Prop :=
  ∃ earlier later start period count, effective = earlier ++ later ∧ (∀ entry ∈ later, instant < entry.1) ∧
    InForce earlier start round period ∧ 1 ≤ count ∧ instant = start + count * period

def Journal.Due (journal : Journal) (instant : Nat) (round : Round) : Prop :=
  instant < journal.now ∧ DueAt journal.effective instant round

/-! What is in force. -/

namespace InForce

variable {effective : List (Nat × Command)} {start : Nat} {round : Round} {period : Nat}

theorem mem (force : InForce effective start round period) : (start, .reset round period) ∈ effective := by
  obtain ⟨earlier, split, -⟩ := force
  rw [split]
  exact List.mem_append_right earlier List.mem_cons_self

theorem goesOn (force : InForce effective start round period) : ∀ entry ∈ effective, entry.2 ≠ .stop := by
  obtain ⟨earlier, rfl, before⟩ := force
  intro entry present
  rcases List.mem_append.mp present with old | last
  · exact before entry old
  · rw [List.mem_singleton.mp last]
    exact nofun

theorem unique {otherStart : Nat} {otherRound : Round} {otherPeriod : Nat}
    (force : InForce effective start round period) (other : InForce effective otherStart otherRound otherPeriod) :
    start = otherStart ∧ round = otherRound ∧ period = otherPeriod := by
  obtain ⟨earlier, rfl, -⟩ := force
  obtain ⟨otherEarlier, same, -⟩ := other
  have last := (List.append_inj' same rfl).2
  simp only [List.cons.injEq, Prod.mk.injEq, Command.reset.injEq, and_true] at last
  exact last

end InForce

namespace Journal

variable {journal : Journal} {instant : Nat} {round : Round} {limit : Nat}

theorem settled_effective : journal.settled.effective =
    journal.effective ++ (outstanding journal.queued journal.released).map fun command => (journal.now, command) := rfl

theorem next_send (command : Command) : journal.next (.send command) =
    if journal.released then journal else { journal with queued := journal.queued ++ [command] } := rfl

theorem settled_of_nothing (nothing : journal.queued = []) (held : journal.released = false) :
    journal.settled = journal := by
  obtain ⟨now, queued, released, effective⟩ := journal
  subst nothing held
  simp [settled, outstanding]

theorem now_le_next (journal : Journal) (input : Input) : journal.now ≤ (journal.next input).now := by
  cases input with
  | send command =>
    rw [next_send]
    split <;> exact Nat.le_refl _
  | release => exact Nat.le_refl _
  | sleep duration => exact Nat.le_add_right _ _

end Journal

namespace DueAt

variable {effective added : List (Nat × Command)} {instant : Nat} {round : Round}

theorem iff_of_past (past : ∀ entry ∈ effective, entry.1 ≤ instant) :
    DueAt effective instant round ↔ ∃ start period count,
      InForce effective start round period ∧ 1 ≤ count ∧ instant = start + count * period := by
  constructor
  · rintro ⟨earlier, later, start, period, count, rfl, ahead, force, due⟩
    have nothing : later = [] := by
      apply List.eq_nil_iff_forall_not_mem.mpr
      intro entry present
      exact Nat.not_lt.mpr (past entry (List.mem_append_right earlier present)) (ahead entry present)
    rw [nothing, List.append_nil]
    exact ⟨start, period, count, force, due⟩
  · rintro ⟨start, period, count, force, due⟩
    exact ⟨effective, [], start, period, count, (List.append_nil _).symm, nofun, force, due⟩

theorem append_iff (late : ∀ entry ∈ added, instant < entry.1) :
    DueAt (effective ++ added) instant round ↔ DueAt effective instant round := by
  constructor
  · rintro ⟨earlier, later, start, period, count, split, ahead, force, counted, due⟩
    rcases List.append_eq_append_iff.mp split with ⟨others, rfl, rfl⟩ | ⟨kept, rfl, rfl⟩
    · rcases List.eq_nil_or_concat others with rfl | ⟨former, last, rfl⟩
      · rw [List.append_nil] at force
        exact ⟨effective, [], start, period, count, (List.append_nil _).symm, nofun, force, counted, due⟩
      · -- The reset in force is among what takes effect later, and the calls for it come after that.
        obtain ⟨before, same, -⟩ := force
        rw [List.concat_eq_append, ← List.append_assoc] at same
        have reset : last = (start, .reset round period) := (List.cons.inj (List.append_inj' same rfl).2).1
        have begun := late last (by simp)
        rw [reset] at begun
        exact absurd (due ▸ begun) (Nat.not_lt.mpr (Nat.le_add_right start _))
    · refine ⟨earlier, kept, start, period, count, rfl, fun entry present => ?_, force, counted, due⟩
      exact ahead entry (List.mem_append_left added present)
  · rintro ⟨earlier, later, start, period, count, rfl, ahead, force, counted, due⟩
    refine ⟨earlier, later ++ added, start, period, count, List.append_assoc _ _ _, ?_, force, counted, due⟩
    exact List.forall_mem_append.mpr ⟨ahead, late⟩

end DueAt

theorem Journal.due_sleep_iff {journal : Journal} {instant duration : Nat} {round : Round}
    (before : instant < journal.now) :
    (journal.next (.sleep duration)).Due instant round ↔ journal.Due instant round := by
  have reached : instant < journal.now + duration := Nat.lt_of_lt_of_le before (Nat.le_add_right _ _)
  refine and_congr (iff_of_true reached before) (DueAt.append_iff ?_)
  exact List.forall_mem_map.mpr fun _ _ => before

/-- Of the calls for a reset, the one after so many periods is the first that is still to come. -/
structure Upcoming (now start period count : Nat) : Prop where
  counted : 1 ≤ count
  first : ∀ index, 1 ≤ index → (now ≤ start + index * period ↔ count ≤ index)

theorem later_call (start period count more : Nat) :
    start + (count + more) * period = start + count * period + more * period := by
  rw [Nat.add_mul, Nat.add_assoc]

namespace Upcoming

variable {now start period count : Nat}

theorem fresh (now period : Nat) : Upcoming now now period 1 :=
  ⟨Nat.le_refl 1, fun _ counted => iff_of_true (Nat.le_add_right _ _) counted⟩

theorem to_come (upcoming : Upcoming now start period count) : now ≤ start + count * period :=
  (upcoming.first count upcoming.counted).mpr (Nat.le_refl count)

theorem further {more later : Nat} (upcoming : Upcoming now start period count) (passing : now ≤ later)
    (counts : ∀ index, index < more ↔ start + count * period + index * period < later) :
    Upcoming later start period (count + more) := by
  refine ⟨Nat.le_add_right_of_le upcoming.counted, fun index counted => ?_⟩
  by_cases reached : count ≤ index
  · obtain ⟨extra, rfl⟩ := Nat.exists_eq_add_of_le reached
    have next := counts extra
    rw [later_call]
    omega
  · have gone := (upcoming.first index counted).not.mpr reached
    omega

end Upcoming

/-! A countdown and what is known of it. -/

/-- The countdown is as the journal says: nothing is in force, or a reset is and the deadline is the first of its
calls that is still to come, or it has ended. -/
inductive Follows (journal : Journal) : Countdown → Prop
  | waiting (nothing : journal.effective = []) : Follows journal ⟨journal.queued, journal.released, false, none⟩
  | counting (start : Nat) (round : Round) (period count : Nat) (force : InForce journal.effective start round period)
      (upcoming : Upcoming journal.now start period count) :
      Follows journal
        ⟨journal.queued, journal.released, false, some ⟨round, period, start + count * period⟩⟩
  | ended (stopped : ∃ entry ∈ journal.effective, entry.2 = .stop) : Follows journal ⟨[], journal.released, true, none⟩

/-- Periods are within a limit, and nothing has taken effect that is still to come. -/
structure Journal.Sound (journal : Journal) (limit : Nat) : Prop where
  queued : ∀ command ∈ journal.queued, command.Within limit
  effective : ∀ entry ∈ journal.effective, entry.2.Within limit
  past : ∀ entry ∈ journal.effective, entry.1 ≤ journal.now

namespace Journal.Sound

variable {journal : Journal} {limit : Nat}

theorem settled (sound : journal.Sound limit) : journal.settled.Sound limit where
  queued := nofun
  effective := by
    refine List.forall_mem_append.mpr ⟨sound.effective, List.forall_mem_map.mpr fun command present => ?_⟩
    rcases List.mem_append.mp present with sent | closed
    · exact sound.queued command sent
    · split at closed
      · rw [List.mem_singleton.mp closed]
        trivial
      · cases closed
  past := by
    refine List.forall_mem_append.mpr ⟨sound.past, List.forall_mem_map.mpr fun command _ => ?_⟩
    exact Nat.le_refl _

theorem sleep (sound : journal.Sound limit) (duration : Nat) : (journal.next (.sleep duration)).Sound limit where
  queued := sound.settled.queued
  effective := sound.settled.effective
  past entry present := Nat.le_trans (sound.settled.past entry present) (Nat.le_add_right _ _)

theorem next {input : Input} (sound : journal.Sound limit)
    (within : ∀ command, input = .send command → command.Within limit) : (journal.next input).Sound limit := by
  cases input with
  | send command =>
    rw [next_send]
    split
    · exact sound
    · refine ⟨List.forall_mem_append.mpr ⟨sound.queued, ?_⟩, sound.effective, sound.past⟩
      exact List.forall_mem_singleton.mpr (within command rfl)
  | release => exact ⟨sound.queued, sound.effective, sound.past⟩
  | sleep duration => exact sound.sleep duration

end Journal.Sound

namespace Follows

variable {journal : Journal} {countdown : Countdown} {limit : Nat}

theorem running_or_ended (follows : Follows journal countdown) :
    (∃ alarm, countdown = ⟨journal.queued, journal.released, false, alarm⟩ ∧
        ∀ entry ∈ journal.effective, entry.2 ≠ .stop) ∨
      (countdown = ⟨[], journal.released, true, none⟩ ∧ ∃ entry ∈ journal.effective, entry.2 = .stop) := by
  cases follows with
  | waiting nothing => exact .inl ⟨_, rfl, by simp [nothing]⟩
  | counting start round period count force => exact .inl ⟨_, rfl, force.goesOn⟩
  | ended stopped => exact .inr ⟨rfl, stopped⟩

theorem send (follows : Follows journal countdown) (command : Command) :
    Follows (journal.next (.send command)) (countdown.send command) := by
  rw [Journal.next_send]
  unfold Countdown.send
  by_cases released : journal.released = true
  · have same : countdown.released = true := by cases follows <;> exact released
    rw [if_pos released, if_pos (.inl same)]
    exact follows
  · let sent : Journal := { journal with queued := journal.queued ++ [command] }
    rw [if_neg released]
    cases follows with
    | waiting nothing =>
      rw [if_neg (not_or.mpr ⟨released, Bool.false_ne_true⟩)]
      exact @Follows.waiting sent nothing
    | counting start round period count force upcoming =>
      rw [if_neg (not_or.mpr ⟨released, Bool.false_ne_true⟩)]
      exact @Follows.counting sent start round period count force upcoming
    | ended stopped =>
      rw [if_pos (.inr rfl)]
      exact @Follows.ended sent stopped

theorem release (follows : Follows journal countdown) : Follows (journal.next .release) countdown.release := by
  cases follows with
  | waiting nothing => exact .waiting nothing
  | counting start round period count force upcoming => exact .counting start round period count force upcoming
  | ended stopped => exact .ended stopped

theorem settle (follows : Follows journal countdown) (sound : journal.Sound limit) (past : journal.now ≤ limit) :
    Follows journal.settled (countdown.settle journal.now).1 := by
  rcases follows.running_or_ended with ⟨alarm, rfl, goesOn⟩ | ⟨rfl, stopped⟩
  · by_cases stops : .stop ∈ outstanding journal.queued journal.released
    · rw [settle_of_stop past sound.queued stops]
      exact @Follows.ended journal.settled
        ⟨(journal.now, .stop), List.mem_append_right _ (List.mem_map_of_mem stops), rfl⟩
    · obtain ⟨held, goesOnToo⟩ := not_released_of_not_stop stops
      rcases nil_or_concat_reset goesOnToo with nothing | ⟨earlier, round, period, last, before⟩
      · rw [Journal.settled_of_nothing nothing held]
        rw [nothing, held] at follows ⊢
        exact follows
      · have within := sound.queued
        rw [last] at within
        have force : InForce journal.settled.effective journal.now round period := by
          refine ⟨journal.effective ++ earlier.map fun command => (journal.now, command), ?_, ?_⟩
          · rw [Journal.settled_effective, last, held]
            simp [outstanding]
          · refine List.forall_mem_append.mpr ⟨goesOn, List.forall_mem_map.mpr fun command present stops => ?_⟩
            exact before (stops ▸ present)
        have counting := @Follows.counting journal.settled _ round period 1 force (.fresh journal.now period)
        rw [Nat.one_mul, show journal.settled.released = false from held] at counting
        rw [last, held, settle_of_reset past within before]
        exact counting
  · rw [settle_stopped]
    obtain ⟨entry, present, stops⟩ := stopped
    exact @Follows.ended journal.settled ⟨entry, List.mem_append_left _ present, stops⟩

end Follows

/-- What a stretch of time leaves: the countdown is as the journal says, and the calls are those that have become
due in it, in their order. -/
structure Passes {σ : Type} (callback : Callback σ) (state : σ) (before after : Journal) (passage : Passage σ) :
    Prop where
  follows : Follows after passage.countdown
  calls : ∀ instant round, (instant, round) ∈ passage.calls ↔ before.now ≤ instant ∧ after.Due instant round
  ordered : passage.calls.Pairwise fun one other => one.1 < other.1
  state : passage.state = passage.calls.foldl (fun state call => (callback call.2 state).1) state

section Sleeping

variable {σ : Type} {callback : Callback σ} {state : σ} {journal : Journal} {duration limit : Nat}

theorem passes_still {countdown : Countdown} (still : countdown.alarm = none)
    (follows : Follows { journal with now := journal.now + duration } countdown)
    (unset : ∀ start round period, ¬InForce journal.effective start round period)
    (past : ∀ entry ∈ journal.effective, entry.1 ≤ journal.now) :
    Passes callback state journal { journal with now := journal.now + duration }
      (advance callback.reaction (journal.now + duration) duration countdown state) := by
  rw [advance_still still]
  refine ⟨follows, fun instant round => ⟨nofun, fun due => ?_⟩, .nil, rfl⟩
  obtain ⟨begun, -, due⟩ := due
  obtain ⟨start, period, count, force, -⟩ :=
    (DueAt.iff_of_past fun entry present => Nat.le_trans (past entry present) begun).mp due
  exact absurd force (unset start round period)

section Counting

variable {start : Nat} {round : Round} {period count : Nat}

theorem counting_eq_ticking (nothing : journal.queued = []) (held : journal.released = false) (deadline : Nat) :
    (⟨journal.queued, journal.released, false, some ⟨round, period, deadline⟩⟩ : Countdown) =
      ticking round period deadline := by
  rw [nothing, held]
  rfl

/-- The calls for a reset in force are those of its expiries. -/
theorem passes_counting {passage : Passage σ} {more : Nat} (nothing : journal.queued = [])
    (held : journal.released = false) (force : InForce journal.effective start round period)
    (upcoming : Upcoming journal.now start period count) (positive : 0 < period)
    (past : ∀ entry ∈ journal.effective, entry.1 ≤ journal.now)
    (rings : Rings callback (journal.now + duration) round period (start + count * period) state passage more) :
    Passes callback state journal { journal with now := journal.now + duration } passage where
  follows := by
    rw [rings.countdown, ← later_call, ← counting_eq_ticking nothing held]
    exact @Follows.counting { journal with now := journal.now + duration } start round period (count + more) force
      (upcoming.further (Nat.le_add_right _ _) rings.counts)
  calls instant called := by
    have begun := upcoming.to_come
    rw [rings.calls, List.mem_map]
    constructor
    · rintro ⟨index, listed, same⟩
      obtain ⟨rfl, rfl⟩ := Prod.mk.inj same
      have soon := (rings.counts index).mp (List.mem_range.mp listed)
      refine ⟨by omega, soon, (DueAt.iff_of_past fun entry present => ?_).mpr ?_⟩
      · exact Nat.le_trans (past entry present) (by omega)
      · have counted : 1 ≤ count + index := Nat.le_add_right_of_le upcoming.counted
        exact ⟨start, period, count + index, force, counted, (later_call _ _ _ _).symm⟩
    · rintro ⟨late, soon, due⟩
      obtain ⟨_, _, index, other, counted, rfl⟩ :=
        (DueAt.iff_of_past fun entry present => Nat.le_trans (past entry present) late).mp due
      obtain ⟨rfl, rfl, rfl⟩ := force.unique other
      obtain ⟨extra, rfl⟩ := Nat.exists_eq_add_of_le ((upcoming.first index counted).mp late)
      rw [later_call] at soon ⊢
      exact ⟨extra, List.mem_range.mpr ((rings.counts extra).mpr soon), rfl⟩
  ordered := by
    rw [rings.calls, List.pairwise_map]
    refine List.pairwise_lt_range.imp fun {one other} before => ?_
    exact Nat.add_lt_add_left (Nat.mul_lt_mul_of_pos_right before positive) _
  state := by
    unfold Passage.calls
    rw [List.foldl_map]
    exact rings.state

end Counting

theorem advance_passes {countdown : Countdown} (follows : Follows journal countdown) (nothing : journal.queued = [])
    (held : (∀ entry ∈ journal.effective, entry.2 ≠ .stop) → journal.released = false) (sound : journal.Sound limit)
    (fits : journal.now + duration ≤ limit) :
    Passes callback state journal { journal with now := journal.now + duration }
      (advance callback.reaction (journal.now + duration) duration countdown state) := by
  cases follows with
  | waiting nothingYet =>
    refine passes_still rfl (@Follows.waiting { journal with now := journal.now + duration } nothingYet) ?_ sound.past
    intro start round period force
    have present := force.mem
    rw [nothingYet] at present
    cases present
  | counting start round period count force upcoming =>
    obtain ⟨positive, onClock⟩ := sound.effective _ force.mem
    have begun := upcoming.to_come
    obtain ⟨more, rings⟩ := @advance_rings _ callback (journal.now + duration) duration state round period
      (start + count * period) positive (by omega) (by omega)
    rw [counting_eq_ticking nothing (held force.goesOn)]
    exact passes_counting nothing (held force.goesOn) force upcoming positive sound.past rings
  | ended stopped =>
    refine passes_still rfl (@Follows.ended { journal with now := journal.now + duration } stopped) ?_ sound.past
    intro start round period force
    obtain ⟨entry, present, stops⟩ := stopped
    exact force.goesOn entry present stops

theorem run_passes {countdown : Countdown} (follows : Follows journal countdown) (sound : journal.Sound limit)
    (fits : journal.now + duration ≤ limit) :
    Passes callback state journal (journal.next (.sleep duration))
      (countdown.run callback.reaction journal.now (journal.now + duration) state) := by
  have settled := follows.settle sound (by omega)
  have held : (∀ entry ∈ journal.settled.effective, entry.2 ≠ .stop) → journal.settled.released = false := by
    intro goesOn
    have unclosed : .stop ∉ outstanding journal.queued journal.released := fun closed =>
      goesOn (journal.now, .stop) (List.mem_append_right _ (List.mem_map_of_mem closed)) rfl
    exact (not_released_of_not_stop unclosed).1
  have passes : Passes callback state journal.settled (journal.next (.sleep duration)) _ :=
    advance_passes settled rfl held sound.settled fits
  unfold Countdown.run
  rw [Nat.add_sub_cancel_left]
  exact ⟨passes.follows, passes.calls, passes.ordered, passes.state⟩

end Sleeping

/-! A whole run. -/

namespace Watch

variable {σ : Type}

/-- The countdown has made the calls that were due, in their order, and is as the journal says. -/
structure Keeps (callback : Callback σ) (state : σ) (journal : Journal) (watch : Watch σ) : Prop where
  now : watch.now = journal.now
  follows : Follows journal watch.countdown
  calls : ∀ instant round, (instant, round) ∈ watch.calls ↔ journal.Due instant round
  ordered : watch.calls.Pairwise fun one other => one.1 < other.1
  state : watch.state = watch.calls.foldl (fun state call => (callback call.2 state).1) state

variable {callback : Callback σ} {state : σ} {journal : Journal} {watch : Watch σ} {limit : Nat}

theorem keeps_start : Keeps callback state .blank (start state) where
  now := rfl
  follows := .waiting rfl
  calls instant _ := ⟨nofun, fun due => absurd due.1 (Nat.not_lt_zero instant)⟩
  ordered := .nil
  state := rfl

theorem Keeps.sleep (keeps : Keeps callback state journal watch) (sound : journal.Sound limit) {duration : Nat}
    (fits : journal.now + duration ≤ limit) :
    Keeps callback state (journal.next (.sleep duration)) (watch.next callback (.sleep duration)) := by
  let passage := watch.countdown.run callback.reaction watch.now (watch.now + duration) watch.state
  let call (state : σ) (call : Nat × Round) : σ := (callback call.2 state).1
  have passes : Passes callback watch.state journal (journal.next (.sleep duration)) passage := by
    unfold passage
    rw [keeps.now]
    exact run_passes keeps.follows sound fits
  refine ⟨congrArg (· + duration) keeps.now, passes.follows, fun instant round => ?_, ?_, ?_⟩
  · refine List.mem_append.trans ((or_congr (keeps.calls instant round) (passes.calls instant round)).trans ?_)
    by_cases before : instant < journal.now
    · rw [Journal.due_sleep_iff before]
      exact or_iff_left fun late => Nat.not_le.mpr before late.1
    · rw [or_iff_right fun due : journal.Due instant round => before due.1]
      exact and_iff_right (Nat.not_lt.mp before)
  · refine List.pairwise_append.mpr ⟨keeps.ordered, passes.ordered, fun one old other new => ?_⟩
    exact Nat.lt_of_lt_of_le ((keeps.calls _ _).mp old).1 ((passes.calls _ _).mp new).1
  · calc
      passage.state = passage.calls.foldl call watch.state := passes.state
      _ = passage.calls.foldl call (watch.calls.foldl call state) := by rw [keeps.state]
      _ = (watch.calls ++ passage.calls).foldl call state := List.foldl_append.symm

theorem Keeps.next {input : Input} (keeps : Keeps callback state journal watch) (sound : journal.Sound limit)
    (fits : (journal.next input).now ≤ limit) :
    Keeps callback state (journal.next input) (watch.next callback input) := by
  cases input with
  | send command =>
    have same : (journal.next (.send command)).Due = journal.Due := by
      rw [Journal.next_send]
      split <;> rfl
    refine ⟨?_, keeps.follows.send command, fun instant round => ?_, keeps.ordered, keeps.state⟩
    · rw [Journal.next_send]
      split <;> exact keeps.now
    · rw [same]
      exact keeps.calls instant round
  | release => exact ⟨keeps.now, keeps.follows.release, keeps.calls, keeps.ordered, keeps.state⟩
  | sleep duration => exact keeps.sleep sound fits

/-- By induction on what is done: the journal stays sound, and the countdown keeps to it. -/
theorem keeps_after (inputs : List Input) (within : ∀ command, .send command ∈ inputs → command.Within limit)
    (fits : (Journal.of inputs).now ≤ limit) :
    (Journal.of inputs).Sound limit ∧
      Keeps callback state (.of inputs) ((start state).after callback inputs) := by
  induction inputs using List.reverseRecOn with
  | nil => exact ⟨⟨nofun, nofun, nofun⟩, keeps_start⟩
  | append_singleton inputs input ih =>
    have journal : Journal.of (inputs ++ [input]) = (Journal.of inputs).next input := List.foldl_append
    have watch : (start state).after callback (inputs ++ [input]) =
        ((start state).after callback inputs).next callback input := List.foldl_append
    rw [journal] at fits ⊢
    rw [watch]
    obtain ⟨sound, keeps⟩ := ih (fun command sent => within command (List.mem_append_left _ sent))
      (Nat.le_trans (Journal.now_le_next _ input) fits)
    refine ⟨sound.next fun command sent => within command ?_, keeps.next sound fits⟩
    rw [sent]
    exact List.mem_append_right _ List.mem_cons_self

end Watch

/-! Two resets before one stretch of time, and calls that panic. -/

namespace Sample

def inputs : List Input :=
  [.send (.reset 1 40), .sleep 50, .send (.reset 2 30), .send (.reset 3 20), .sleep 50, .release, .sleep 100]

def panicking : Callback Nat := fun _ count => (count + 1, .panicked)

theorem effective : (Journal.of inputs).effective =
    [(0, .reset 1 40), (50, .reset 2 30), (50, .reset 3 20), (100, .stop)] := rfl

theorem not_due_after_end : ¬(Journal.of inputs).Due 110 3 := by
  rintro ⟨-, due⟩
  rw [effective, DueAt.iff_of_past (by decide)] at due
  obtain ⟨_, _, _, force, -⟩ := due
  exact force.goesOn (100, .stop) (by simp) rfl

theorem inputs_within {command : Command} (sent : .send command ∈ inputs) : command.Within (Journal.of inputs).now := by
  have resets : command = .reset 1 40 ∨ command = .reset 2 30 ∨ command = .reset 3 20 := by simpa [inputs] using sent
  rcases resets with rfl | rfl | rfl
  · exact ⟨by decide, by decide⟩
  · exact ⟨by decide, by decide⟩
  · exact ⟨by decide, by decide⟩

theorem due_before_end : (Journal.of inputs).Due 90 3 := by
  refine ⟨by decide, [(0, .reset 1 40), (50, .reset 2 30), (50, .reset 3 20)], [(100, .stop)], 50, 20, 2, effective, ?_,
    ⟨[(0, .reset 1 40), (50, .reset 2 30)], rfl, ?_⟩, by decide, by decide⟩
  · simp
  · simp

/-- The first period does not end on the clock, and the second one has nothing to do with it. -/
def overlong : List Input :=
  [.send (.reset 1 (9223372036854775808 * 1000)), .sleep 1, .send (.reset 2 100), .sleep 1000]

theorem due_after_overlong : (Journal.of overlong).Due 101 2 := by
  refine ⟨by decide, (Journal.of overlong).effective, [], 1, 100, 1, (List.append_nil _).symm, nofun,
    ⟨[(0, .reset 1 (9223372036854775808 * 1000))], rfl, ?_⟩, by decide, by decide⟩
  simp

end Sample

section Schedule

variable {σ : Type} (callback : Callback σ) (state : σ) (inputs : List Input)

/-- A countdown calls back at the instants that its commands make due, once at each and with the round of the
reset in force, whether the calls panic or not. For that, periods must be positive, and end on the clock. -/
theorem calls_made_when_due
    (within : ∀ command, .send command ∈ inputs → command.Within (Journal.of inputs).now) :
    let watch := (Watch.start state).after callback inputs
    (∀ instant round, (instant, round) ∈ watch.calls ↔ (Journal.of inputs).Due instant round) ∧
      watch.calls.Pairwise (fun one other => one.1 < other.1) ∧
      watch.state = watch.calls.foldl (fun state call => (callback call.2 state).1) state := by
  obtain ⟨-, keeps⟩ := @Watch.keeps_after _ callback state _ inputs within (Nat.le_refl _)
  exact ⟨keeps.calls, keeps.ordered, keeps.state⟩

end Schedule

example : ((Watch.start 0).after Sample.panicking Sample.inputs).calls = [(40, 1), (70, 3), (90, 3)] := by decide

theorem calls_made_for_last_reset :
    (∀ command, .send command ∈ Sample.inputs → command.Within (Journal.of Sample.inputs).now) ∧
      (90, 3) ∈ ((Watch.start 0).after Sample.panicking Sample.inputs).calls ∧
      (110, 3) ∉ ((Watch.start 0).after Sample.panicking Sample.inputs).calls := by
  have within := fun command => @Sample.inputs_within command
  obtain ⟨calls, -⟩ := calls_made_when_due Sample.panicking 0 Sample.inputs within
  exact ⟨within, (calls 90 3).mpr Sample.due_before_end, fun called =>
    Sample.not_due_after_end ((calls 110 3).mp called)⟩

/-- A period that does not end on the clock makes an end of the countdown, and what would be due is not called. -/
theorem overlong_period_ends_countdown :
    ((Watch.start 0).after Sample.panicking Sample.overlong).calls = [] ∧ (Journal.of Sample.overlong).Due 101 2 :=
  ⟨by decide, Sample.due_after_overlong⟩

end MasternodeBft.Countdown
