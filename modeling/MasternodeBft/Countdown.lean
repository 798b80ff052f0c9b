import MasternodeBft.Message.Basic
import MasternodeBft.Notice

/-!
The countdown of a round. It takes the commands sent to it in order, and expires each time a full
period has passed since the latest reset. Times are in milliseconds, and an instant belongs to the
stretch of time that begins with it.
-/

namespace MasternodeBft

namespace Countdown

inductive Command where
  | reset (round : Round) (period : Nat)
  | stop
deriving DecidableEq

structure Alarm where
  round : Round
  period : Nat
  deadline : Nat
deriving DecidableEq

end Countdown

structure Countdown where
  /-- Commands that have not taken effect yet. -/
  pending : List Countdown.Command
  /-- Whether nobody can send any more. -/
  released : Bool
  stopped : Bool
  /-- None before the first reset. -/
  alarm : Option Countdown.Alarm
deriving DecidableEq

namespace Countdown

open Text.Decimal

def idle : Countdown := ⟨[], false, false, none⟩

def send (countdown : Countdown) (command : Command) : Countdown :=
  if countdown.released ∨ countdown.stopped then countdown
  else { countdown with pending := countdown.pending ++ [command] }

def release (countdown : Countdown) : Countdown := { countdown with released := true }

def halt (countdown : Countdown) : Countdown :=
  { countdown with pending := [], stopped := true, alarm := none }

/-- The clock counts seconds in 63 bits, and no deadline lies at its end or beyond. -/
def clockEnd : Nat := 0x7fffffffffffffff * 1000

/-- Sets the alarm. A countdown whose deadline is beyond the clock is halted. -/
def arm (countdown : Countdown) (now : Nat) (round : Round) (period : Nat) : Countdown :=
  if now + period < clockEnd then { countdown with alarm := some ⟨round, period, now + period⟩ }
  else countdown.halt

/-- The text of a period: whole milliseconds below a second, and seconds with as many places as it
takes from there on. -/
def periodText (period : Nat) : String :=
  if period = 0 then "0ns"
  else if period < 1000 then text period ++ "ms"
  else
    let places := ((digits (1000 + period % 1000)).drop 1).reverse.dropWhile (· = 0) |>.reverse
    text (period / 1000) ++ (if places.isEmpty then "" else "." ++ String.ofList (places.map char)) ++ "s"

def resetNotice (round : Round) (period : Nat) : Notice :=
  ⟨.debug, "Countdown reset: round " ++ word round ++ ", period " ++ periodText period⟩

def expiredNotice (round : Round) : Notice := ⟨.info, "Countdown expired for round " ++ word round⟩

def stoppedNotice : Notice := ⟨.debug, "Countdown timer stopped"⟩

/-- Lets commands take effect at an instant. None do once the countdown is stopped. -/
def obey (now : Nat) : List Command → Countdown → Countdown × List Notice
  | [], countdown => (countdown, [])
  | .reset round period :: rest, countdown =>
    let armed := countdown.arm now round period
    let (result, notices) := if armed.stopped then (armed, []) else obey now rest armed
    (result, resetNotice round period :: notices)
  | .stop :: _, countdown => (countdown.halt, [stoppedNotice])

def settle (now : Nat) (countdown : Countdown) : Countdown × List Notice :=
  if countdown.stopped then (countdown, [])
  else
    let (result, notices) := obey now countdown.pending { countdown with pending := [] }
    if result.released ∧ ¬result.stopped then (result.halt, notices ++ [stoppedNotice])
    else (result, notices)

/-- The next expiry before an instant, and the countdown after it. A period of zero has no expiries
to tell apart, and counts as none. -/
def expiry? (bound : Nat) (countdown : Countdown) : Option (Alarm × Countdown) :=
  match countdown.alarm with
  | none => none
  | some alarm =>
    if 0 < alarm.period ∧ alarm.deadline < bound then
      some (alarm, countdown.arm alarm.deadline alarm.round alarm.period)
    else none

/-- What happens at an expiry: something changes, and further commands may be sent. -/
abbrev Reaction (σ : Type) := Alarm → σ → σ × List Command

structure Passage (σ : Type) where
  countdown : Countdown
  state : σ
  expired : List Alarm
  notices : List Notice

/-- Lets time pass up to an instant; `fuel` bounds the number of expiries. Commands that are sent at an
expiry take effect at once. -/
def advance {σ : Type} (react : Reaction σ) (bound : Nat) : Nat → Countdown → σ → Passage σ
  | 0, countdown, state => ⟨countdown, state, [], []⟩
  | fuel + 1, countdown, state =>
    match countdown.expiry? bound with
    | none => ⟨countdown, state, [], []⟩
    | some (alarm, countdown) =>
      let (state, commands) := react alarm state
      let (countdown, settled) := (commands.foldl send countdown).settle alarm.deadline
      let rest := advance react bound fuel countdown state
      { rest with
        expired := alarm :: rest.expired
        notices := expiredNotice alarm.round :: (settled ++ rest.notices) }

/-- Lets the pending commands take effect now, and time pass up to an instant. Expiries are at least
a millisecond apart. -/
def run {σ : Type} (react : Reaction σ) (now bound : Nat) (countdown : Countdown) (state : σ) : Passage σ :=
  let (countdown, settled) := countdown.settle now
  let passage := advance react bound (bound - now) countdown state
  { passage with notices := settled ++ passage.notices }

end Countdown

end MasternodeBft
