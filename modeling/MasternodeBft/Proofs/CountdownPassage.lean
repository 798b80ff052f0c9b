import MasternodeBft.Countdown

/-!
A countdown in a stretch of time. The commands that have been sent before take effect at its beginning, and of
these the last one counts, unless one of them makes an end. Then there is an expiry at the deadline, and one after
each period from there on.
-/

namespace MasternodeBft.Countdown

/-! What is called at an expiry. -/

inductive CallEnding where
  | returned
  | panicked

/-- What is called at the end of a round. It leaves another state, and returns or panics. -/
abbrev Callback (σ : Type) := Round → σ → σ × CallEnding

def Callback.reaction {σ : Type} (callback : Callback σ) : Reaction σ :=
  fun alarm state => ((callback alarm.round state).1, [])

def Passage.calls {σ : Type} (passage : Passage σ) : List (Nat × Round) :=
  passage.expired.map fun alarm => (alarm.deadline, alarm.round)

/-! Commands that take effect together. -/

/-- A period that is positive, and ends on the clock even if it begins at the limit. -/
def Command.Within (limit : Nat) : Command → Prop
  | .reset _ period => 0 < period ∧ limit + period < clockEnd
  | .stop => True

/-- What has been sent, and after that the end if nobody can send any more. -/
def outstanding (pending : List Command) (released : Bool) : List Command :=
  pending ++ if released then [.stop] else []

section Commands

variable {now limit : Nat} {countdown : Countdown} {commands : List Command} {round : Round} {period : Nat}

theorem Command.Within.onClock (within : (Command.reset round period).Within limit) (past : now ≤ limit) :
    now + period < clockEnd := Nat.lt_of_le_of_lt (Nat.add_le_add_right past period) within.2

theorem arm_of_lt (fits : now + period < clockEnd) :
    countdown.arm now round period = { countdown with alarm := some ⟨round, period, now + period⟩ } := if_pos fits

theorem obey_reset (runs : countdown.stopped = false) (fits : now + period < clockEnd) (rest : List Command) :
    (obey now (.reset round period :: rest) countdown).1 =
      (obey now rest { countdown with alarm := some ⟨round, period, now + period⟩ }).1 := by
  simp only [obey, arm_of_lt fits, runs, Bool.false_eq_true, ↓reduceIte]

theorem obey_of_stop (runs : countdown.stopped = false) (past : now ≤ limit)
    (within : ∀ command ∈ commands, command.Within limit) (stops : .stop ∈ commands) :
    (obey now commands countdown).1 = countdown.halt := by
  induction commands generalizing countdown with
  | nil => cases stops
  | cons command rest ih =>
    obtain ⟨first, others⟩ := List.forall_mem_cons.mp within
    cases command with
    | stop => rfl
    | reset round period =>
      have later : .stop ∈ rest := by simpa using stops
      rw [obey_reset runs (first.onClock past)]
      exact ih runs others later

theorem obey_concat (runs : countdown.stopped = false) (past : now ≤ limit)
    (within : ∀ command ∈ commands ++ [.reset round period], command.Within limit) (goesOn : .stop ∉ commands) :
    (obey now (commands ++ [.reset round period]) countdown).1 =
      { countdown with alarm := some ⟨round, period, now + period⟩ } := by
  induction commands generalizing countdown with
  | nil => exact obey_reset runs ((within _ List.mem_cons_self).onClock past) []
  | cons command rest ih =>
    obtain ⟨first, others⟩ := List.forall_mem_cons.mp within
    cases command with
    | stop => exact absurd List.mem_cons_self goesOn
    | reset earlier shorter =>
      rw [List.cons_append, obey_reset runs (first.onClock past)]
      exact ih runs others fun stops => goesOn (List.mem_cons_of_mem _ stops)

theorem nil_or_concat_reset (goesOn : .stop ∉ commands) :
    commands = [] ∨ ∃ earlier round period, commands = earlier ++ [.reset round period] ∧ .stop ∉ earlier := by
  rcases List.eq_nil_or_concat commands with empty | ⟨earlier, last, split⟩
  · exact .inl empty
  · rw [List.concat_eq_append] at split
    rw [split, List.mem_append, not_or] at goesOn
    cases last with
    | stop => exact absurd List.mem_cons_self goesOn.2
    | reset round period => exact .inr ⟨earlier, round, period, split, goesOn.1⟩

theorem not_released_of_not_stop {pending : List Command} {released : Bool}
    (goesOn : .stop ∉ outstanding pending released) : released = false ∧ .stop ∉ pending := by
  unfold outstanding at goesOn
  cases released with
  | false => exact ⟨rfl, by simpa using goesOn⟩
  | true => exact absurd (List.mem_append_right pending List.mem_cons_self) goesOn

end Commands

section Settling

variable {now limit : Nat} {pending : List Command} {released : Bool} {alarm : Option Alarm}

theorem settle_running (now : Nat) (pending : List Command) (released : Bool) (alarm : Option Alarm) :
    (settle now ⟨pending, released, false, alarm⟩).1 =
      let result := (obey now pending ⟨[], released, false, alarm⟩).1
      if result.released ∧ ¬result.stopped then result.halt else result := by
  simp only [settle, Bool.false_eq_true, ↓reduceIte]
  split <;> rfl

theorem settle_stopped : (settle now ⟨pending, released, true, alarm⟩).1 = ⟨pending, released, true, alarm⟩ := rfl

theorem settle_of_stop (past : now ≤ limit) (within : ∀ command ∈ pending, command.Within limit)
    (stops : .stop ∈ outstanding pending released) :
    (settle now ⟨pending, released, false, alarm⟩).1 = ⟨[], released, true, none⟩ := by
  rw [settle_running]
  by_cases sent : .stop ∈ pending
  · rw [obey_of_stop rfl past within sent]
    exact if_neg fun goesOn => goesOn.2 rfl
  · have gone : released = true := by
      cases released with
      | true => rfl
      | false => exact absurd stops (by simpa [outstanding] using sent)
    rcases nil_or_concat_reset sent with rfl | ⟨earlier, round, period, rfl, goesOn⟩
    · exact if_pos ⟨gone, Bool.false_ne_true⟩
    · rw [obey_concat rfl past within goesOn]
      exact if_pos ⟨gone, Bool.false_ne_true⟩

theorem settle_of_reset {round : Round} {period : Nat} (past : now ≤ limit)
    (within : ∀ command ∈ pending ++ [.reset round period], command.Within limit) (goesOn : .stop ∉ pending) :
    (settle now ⟨pending ++ [.reset round period], false, false, alarm⟩).1 =
      ⟨[], false, false, some ⟨round, period, now + period⟩⟩ := by
  rw [settle_running, obey_concat rfl past within goesOn]
  exact if_neg fun gone => Bool.false_ne_true gone.1

end Settling

/-! A stretch of time without commands. -/

section Passing

variable {σ : Type} {callback : Callback σ} {bound fuel : Nat} {state : σ}

theorem advance_still {countdown : Countdown} (still : countdown.alarm = none) :
    advance callback.reaction bound fuel countdown state = ⟨countdown, state, [], []⟩ := by
  cases fuel with
  | zero => rfl
  | succ fuel => simp only [advance, expiry?, still]

def ticking (round : Round) (period deadline : Nat) : Countdown := ⟨[], false, false, some ⟨round, period, deadline⟩⟩

theorem advance_early {round : Round} {period deadline : Nat} (early : bound ≤ deadline) :
    advance callback.reaction bound fuel (ticking round period deadline) state =
      ⟨ticking round period deadline, state, [], []⟩ := by
  have silent : (ticking round period deadline).expiry? bound = none := by
    simp only [expiry?, ticking, Nat.not_lt.mpr early, and_false, ↓reduceIte]
  cases fuel with
  | zero => rfl
  | succ fuel => simp only [advance, silent]

theorem advance_succ {round : Round} {period deadline : Nat} (positive : 0 < period) (fits : bound + period < clockEnd)
    (due : deadline < bound) :
    let rest := advance callback.reaction bound fuel (ticking round period (deadline + period))
      (callback round state).1
    let passage := advance callback.reaction bound (fuel + 1) (ticking round period deadline) state
    passage.countdown = rest.countdown ∧ passage.state = rest.state ∧
      passage.expired = ⟨round, period, deadline⟩ :: rest.expired := by
  have onClock : deadline + period < clockEnd := by omega
  have rings : (ticking round period deadline).expiry? bound =
      some (⟨round, period, deadline⟩, ticking round period (deadline + period)) := by
    simp only [expiry?, ticking, positive, due, and_self, ↓reduceIte, arm_of_lt onClock]
  intro rest passage
  have unfolded : passage = advance callback.reaction bound (fuel + 1) (ticking round period deadline) state := rfl
  simp only [advance, rings] at unfolded
  rw [unfolded]
  exact ⟨rfl, rfl, rfl⟩

/-- A stretch of time with a number of expiries, the first one at a deadline and each of the others a period after
the one before. -/
structure Rings (callback : Callback σ) (bound : Nat) (round : Round) (period deadline : Nat) (state : σ)
    (passage : Passage σ) (count : Nat) : Prop where
  counts : ∀ index, index < count ↔ deadline + index * period < bound
  countdown : passage.countdown = ticking round period (deadline + count * period)
  expired : passage.expired = (List.range count).map fun index => ⟨round, period, deadline + index * period⟩
  state : passage.state = passage.expired.foldl (fun state alarm => (callback alarm.round state).1) state

section Ringing

variable {round : Round} {period deadline : Nat}

theorem rings_early (early : bound ≤ deadline) :
    Rings callback bound round period deadline state
      (advance callback.reaction bound fuel (ticking round period deadline) state) 0 := by
  rw [advance_early early]
  refine ⟨fun index => by omega, ?_, rfl, rfl⟩
  rw [Nat.zero_mul, Nat.add_zero]

theorem Rings.calls {passage : Passage σ} {count : Nat}
    (rings : Rings callback bound round period deadline state passage count) :
    passage.calls = (List.range count).map fun index => (deadline + index * period, round) := by
  unfold Passage.calls
  rw [rings.expired, List.map_map]
  rfl

theorem Rings.succ {count : Nat} (positive : 0 < period) (fits : bound + period < clockEnd) (due : deadline < bound)
    (rest : Rings callback bound round period (deadline + period) (callback round state).1
      (advance callback.reaction bound fuel (ticking round period (deadline + period)) (callback round state).1)
      count) :
    Rings callback bound round period deadline state
      (advance callback.reaction bound (fuel + 1) (ticking round period deadline) state) (count + 1) := by
  obtain ⟨countdown, left, expired⟩ := @advance_succ _ callback bound fuel state round _ _ positive fits due
  refine ⟨fun index => ?_, ?_, ?_, ?_⟩
  · cases index with
    | zero => simpa using due
    | succ index =>
      rw [Nat.add_lt_add_iff_right, rest.counts, Nat.succ_mul]
      omega
  · rw [countdown, rest.countdown, Nat.succ_mul]
    congr 1
    omega
  · rw [expired, rest.expired, List.range_succ_eq_map, List.map_cons, List.map_map, Nat.zero_mul, Nat.add_zero]
    congr 1
    apply List.map_congr_left
    intro index _
    simp only [Function.comp_apply, Alarm.mk.injEq, true_and, Nat.succ_mul]
    omega
  · rw [left, rest.state, expired, List.foldl_cons]

/-- Expiries are at least an instant apart, so that as many as there are instants left are enough. -/
theorem advance_rings (positive : 0 < period) (fits : bound + period < clockEnd) (enough : bound - deadline ≤ fuel) :
    ∃ count, Rings callback bound round period deadline state
      (advance callback.reaction bound fuel (ticking round period deadline) state) count := by
  induction fuel generalizing deadline state with
  | zero => exact ⟨0, rings_early (by omega)⟩
  | succ fuel ih =>
    by_cases due : deadline < bound
    · obtain ⟨count, rest⟩ := @ih (callback round state).1 (deadline + period) (by omega)
      exact ⟨count + 1, rest.succ positive fits due⟩
    · exact ⟨0, rings_early (Nat.not_lt.mp due)⟩

end Ringing

end Passing

end MasternodeBft.Countdown
