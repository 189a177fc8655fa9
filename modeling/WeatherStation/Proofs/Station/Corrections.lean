import WeatherStation.Proofs.Station.Round
import WeatherStation.WallClock

/-!
# `WeatherStation.Proofs.Station.Corrections`: rounds on a clock that is corrected

The station paces itself by the time of day. The clock that gives it goes on with the uptime, but
it may be set at any moment, also back. An `Event` is an attempt to set the clock or a round, each
at an uptime. `clock` is the clock after some events, and `rounds` are the rounds at the times that
the clock gave them, so what is known of lists of rounds applies to them.

Between two moments the time of day advances as much as the uptime, less what the corrections in
between take from it. `Lagging` says this of the time since the last round that ran, and `setBack`
is the sum of the corrections. From it `correction_delays` tells when the next round runs.
-/

set_option autoImplicit false

namespace WeatherStation.Proofs.Station

open WeatherStation.Config WeatherStation.Mqtt WeatherStation.Sensor

/-! ### The clock -/

/-- The time of day in milliseconds. The clock shows the seconds (`now_eq`). -/
def millis (c : WallClock) (uptime : Nat) : Nat := 1000 * c.epoch + (uptime - c.uptime)

section
variable {c : WallClock} {uptime later : Nat}

/-- The seconds of the clock are its milliseconds, cut down. -/
theorem now_eq : c.now uptime = millis c uptime / 1000 := by
  rw [WallClock.now, millis, Nat.mul_add_div (by decide)]

/-- Between two settings the clock goes with the uptime. -/
theorem millis_later (hset : c.uptime ≤ uptime) (hlater : uptime ≤ later) :
    millis c later = millis c uptime + (later - uptime) := by
  rw [millis, millis]
  omega

end

/-! ### Events -/

/-- Something at an uptime in milliseconds. -/
inductive Event where
  /-- The clock is set from a source, if that gives a time. -/
  | sync (source : Option Nat) (uptime : Nat)
  /-- A round, with what a read of the sensor gives and what the publisher answers. -/
  | round (uptime : Nat) (reading : Except ReadError Reading) (answer : Except PublishError Unit)

/-- The uptime of an event. -/
def Event.uptime : Event → Nat
  | .sync _ uptime => uptime
  | .round uptime _ _ => uptime

/-- The clock after some events, newest first. -/
def clock : List Event → WallClock
  | [] => {}
  | .sync source uptime :: past => ((clock past).sync source uptime).2
  | .round _ _ _ :: past => clock past

/-- A round at an uptime, at the time that the clock gives it. -/
def roundAt (past : List Event) (uptime : Nat) (reading : Except ReadError Reading)
    (answer : Except PublishError Unit) : Round :=
  ⟨(clock past).now uptime, reading, answer⟩

/-- The rounds among the events. -/
def rounds : List Event → List Round
  | [] => []
  | .sync _ _ :: past => rounds past
  | .round uptime reading answer :: past => roundAt past uptime reading answer :: rounds past

/-- Whether a round after some events is more than throttled. -/
def runsAt (s : Station) (past : List Event) (uptime : Nat) (reading : Except ReadError Reading)
    (answer : Except PublishError Unit) : Bool :=
  runs (perform (after s (rounds past)) (roundAt past uptime reading answer)).1

/-- Uptime of the last round that was more than throttled. -/
def lastRun? (s : Station) : List Event → Option Nat
  | [] => none
  | .sync _ _ :: past => lastRun? s past
  | .round uptime reading answer :: past =>
    if runsAt s past uptime reading answer then some uptime else lastRun? s past

/-- By how many milliseconds the clock has been set back since then, altogether. Where it is set
forward the number is negative. -/
def setBack (s : Station) : List Event → Int
  | [] => 0
  | .sync source uptime :: past =>
    setBack s past +
      (millis (clock past) uptime - millis (clock (.sync source uptime :: past)) uptime)
  | .round uptime reading answer :: past =>
    if runsAt s past uptime reading answer then 0 else setBack s past

/-- The clock was not set after the last event. -/
theorem uptime_clock_le {events : List Event} {uptime : Nat}
    (h : ∀ e ∈ events, e.uptime ≤ uptime) : (clock events).uptime ≤ uptime := by
  -- Only a source that gives a time moves the uptime at which the clock was set.
  induction events with
  | nil => exact Nat.zero_le _
  | cons e past ih =>
    have hpast := ih fun x hx => h x (List.mem_cons_of_mem _ hx)
    cases e with
    | round => exact hpast
    | sync source setAt =>
      cases source with
      | none => exact hpast
      | some epoch => exact h (.sync (some epoch) setAt) List.mem_cons_self

/-- The times of day of a run have 64 bits, as the uptimes do, if no source gives a time in the
upper half of that range. The clock adds without a check, so this is what the laws below rest on
where the numbers are of a fixed width. A time server gives far less (`Net.Sntp.epoch?_lt`). -/
theorem now_clock_lt {events : List Event} {uptime : Nat}
    (hsources : ∀ epoch setAt, .sync (some epoch) setAt ∈ events → epoch < 0x8000000000000000)
    (huptime : uptime < 0x10000000000000000) :
    (clock events).now uptime < 0x10000000000000000 := by
  refine WallClock.now_lt ?_ huptime
  -- The clock has the time of the last source that gave one.
  induction events with
  | nil => decide
  | cons e past ih =>
    have hpast := ih fun epoch setAt h => hsources epoch setAt (List.mem_cons_of_mem _ h)
    cases e with
    | round => exact hpast
    | sync source setAt =>
      cases source with
      | none => exact hpast
      | some epoch => exact hsources epoch setAt List.mem_cons_self

/-! ### The time since the last round that ran -/

/-- At an uptime after some events: the station remembers the time of the last round that ran, and
what the time of day has advanced since then is the uptime since then, less what the clock has been
set back. -/
structure Lagging (s : Station) (events : List Event) (uptime : Nat) : Prop where
  fresh : lastRun? s events = none → (after s (rounds events)).lastSample = none
  lag : ∀ before, lastRun? s events = some before →
    ∃ time : Nat, (after s (rounds events)).lastSample = some (time / 1000) ∧ before ≤ uptime ∧
      (millis (clock events) uptime : Int) + setBack s events = time + (uptime - before)

section
variable {s : Station} {past : List Event} {uptime later : Nat}

/-- It stays so while time passes. -/
theorem Lagging.pass (h : Lagging s past uptime) (hset : (clock past).uptime ≤ uptime)
    (hlater : uptime ≤ later) : Lagging s past later := by
  refine ⟨h.fresh, fun before hbefore => ?_⟩
  obtain ⟨time, hlast, hle, hlag⟩ := h.lag before hbefore
  refine ⟨time, hlast, Nat.le_trans hle hlater, ?_⟩
  rw [millis_later hset hlater]
  omega

/-- When the clock is set, `setBack` takes up the difference. -/
theorem Lagging.sync (h : Lagging s past uptime) (source : Option Nat) :
    Lagging s (.sync source uptime :: past) uptime := by
  refine ⟨h.fresh, fun before hbefore => ?_⟩
  obtain ⟨time, hlast, hle, hlag⟩ := h.lag before hbefore
  refine ⟨time, hlast, hle, ?_⟩
  rw [setBack]
  omega

/-- A round that is throttled leaves the time of the last one that ran, and any other is that round
from now on. -/
theorem Lagging.round (h : Lagging s past uptime) (reading : Except ReadError Reading)
    (answer : Except PublishError Unit) :
    Lagging s (.round uptime reading answer :: past) uptime := by
  have hruns : runsAt s past uptime reading answer =
      !(after s (rounds past)).isThrottled ((clock past).now uptime) := runs_perform _ _
  have hsample := lastSample_perform (after s (rounds past)) (roundAt past uptime reading answer)
  cases hthrottled : (after s (rounds past)).isThrottled ((clock past).now uptime) with
  | true =>
    -- Nothing is remembered of the round.
    rw [hthrottled, Bool.not_true] at hruns
    replace hsample := hsample.trans (if_pos hthrottled)
    constructor
    · intro hnone
      rw [lastRun?, hruns, if_neg Bool.false_ne_true] at hnone
      exact hsample.trans (h.fresh hnone)
    · intro before hbefore
      rw [lastRun?, hruns, if_neg Bool.false_ne_true] at hbefore
      obtain ⟨time, hlast, hlag⟩ := h.lag before hbefore
      refine ⟨time, hsample.trans hlast, ?_⟩
      rw [setBack, hruns, if_neg Bool.false_ne_true]
      exact hlag
  | false =>
    -- The time since then begins anew.
    rw [hthrottled, Bool.not_false] at hruns
    replace hsample := hsample.trans (if_neg (Bool.eq_false_iff.mp hthrottled))
    constructor
    · intro hnone
      rw [lastRun?, hruns, if_pos rfl] at hnone
      cases hnone
    · intro before hbefore
      rw [lastRun?, hruns, if_pos rfl] at hbefore
      obtain rfl := Option.some.inj hbefore
      -- The station keeps the seconds that the clock shows.
      refine ⟨millis (clock past) uptime, ?_, Nat.le_refl _, ?_⟩
      · rw [← now_eq]
        exact hsample
      · rw [setBack, hruns, if_pos rfl, clock]
        omega

end

/-- At every moment of a run in which the uptime does not decrease. -/
theorem lagging_events (settings : Settings) (uid : String) {events : List Event}
    (hordered : (events.map Event.uptime).Pairwise (· ≥ ·)) {uptime : Nat}
    (hlast : ∀ e ∈ events, e.uptime ≤ uptime) :
    Lagging (Station.new settings uid) events uptime := by
  induction events generalizing uptime with
  | nil => exact ⟨fun _ => rfl, nofun⟩
  | cons e past ih =>
    obtain ⟨hnewest, hpast⟩ := List.pairwise_cons.mp hordered
    have hbefore : ∀ x ∈ past, x.uptime ≤ e.uptime :=
      fun x hx => hnewest x.uptime (List.mem_map_of_mem hx)
    have hlagging := ih hpast hbefore
    have hset : (clock (e :: past)).uptime ≤ e.uptime := by
      refine uptime_clock_le fun x hx => ?_
      rcases List.mem_cons.mp hx with rfl | hx
      · exact Nat.le_refl _
      · exact hbefore x hx
    -- First the event at its own uptime, then the time that passes after it.
    have hthen : Lagging (Station.new settings uid) (e :: past) e.uptime := by
      cases e with
      | sync source uptime => exact hlagging.sync source
      | round uptime reading answer => exact hlagging.round reading answer
    exact hthen.pass hset (hlast e List.mem_cons_self)

/-! ### The next round -/

/-- For every settings, and in every run of rounds and attempts to set the clock, at uptimes that do
not decrease, with any readings and answers, a round at an uptime that is not before those:

1. It runs if no round has run before.
2. It runs if since the last round that ran as much uptime has passed as the measure period and the
   time by which the clock has been set back since then, altogether.
3. It is throttled if less has passed by a second or more. (The clock shows whole seconds.)

So sampling stops for as long as the clock is set back, and no longer. -/
theorem correction_delays (settings : Settings) (uid : String) (events : List Event) (uptime : Nat)
    (reading : Except ReadError Reading) (answer : Except PublishError Unit)
    (hordered : (uptime :: events.map Event.uptime).Pairwise (· ≥ ·)) :
    let s := Station.new settings uid
    let period : Int := 1000 * settings.measurePeriodSecs.toNat
    (lastRun? s events = none → runsAt s events uptime reading answer = true) ∧
    ∀ before, lastRun? s events = some before →
      (period + setBack s events ≤ uptime - before →
        runsAt s events uptime reading answer = true) ∧
      (0 < period → uptime - before + 1000 ≤ period + setBack s events →
        runsAt s events uptime reading answer = false) := by
  intro s period
  obtain ⟨hlast, hpast⟩ := List.pairwise_cons.mp hordered
  have hlagging : Lagging s events uptime :=
    lagging_events settings uid hpast fun e he => hlast e.uptime (List.mem_map_of_mem he)
  have hruns : runsAt s events uptime reading answer =
      !(after s (rounds events)).isThrottled ((clock events).now uptime) := runs_perform _ _
  have hsettings : (after s (rounds events)).settings = settings := settings_after s _
  rw [hruns, Station.isThrottled, hsettings, now_eq]
  refine ⟨fun hnone => ?_, fun before hbefore => ?_⟩
  · rw [hlagging.fresh hnone]
    rfl
  · obtain ⟨time, hsample, hle, hlag⟩ := hlagging.lag before hbefore
    rw [hsample]
    -- Both times are cut to seconds, which is why the two conditions leave a second between them.
    simp only [Bool.not_eq_true', Bool.not_eq_false', decide_eq_false_iff_not, decide_eq_true_eq]
    omega

/-- A measure period of four seconds, and a clock that is set back by seven seconds when five have
passed. The next round runs in the eleventh second and not before. -/
theorem correction_delays_seven :
    let settings := Settings.load .plain MemoryStore.access .empty
    let s := Station.new settings "uid"
    let events : List Event := [.sync (some 1699999998) 5000, .round 0 (.ok ⟨235, 450⟩) (.ok ()),
      .sync (some 1700000000) 0]
    (∀ uptime ∈ [10000, 11000], (uptime :: events.map Event.uptime).Pairwise (· ≥ ·)) ∧
    lastRun? s events = some 0 ∧ setBack s events = 7000 ∧
    runsAt s events 10000 (.ok ⟨235, 450⟩) (.ok ()) = false ∧
    runsAt s events 11000 (.ok ⟨235, 450⟩) (.ok ()) = true := by
  intro settings s events
  have hordered : ∀ uptime ∈ [10000, 11000],
      (uptime :: events.map Event.uptime).Pairwise (· ≥ ·) := by decide
  have hlast : lastRun? s events = some 0 := by decide +kernel
  have hback : setBack s events = 7000 := by decide +kernel
  have hperiod : settings.measurePeriodSecs.toNat = 4 := by decide +kernel
  clear_value events
  have hlate := (correction_delays settings "uid" events 10000 (.ok ⟨235, 450⟩) (.ok ())
    (hordered 10000 (by decide))).2 0 hlast
  have hnext := (correction_delays settings "uid" events 11000 (.ok ⟨235, 450⟩) (.ok ())
    (hordered 11000 (by decide))).2 0 hlast
  rw [hback, hperiod] at hlate hnext
  exact ⟨hordered, hlast, hback, hlate.2 (by decide) (by decide), hnext.1 (by decide)⟩

/-- Set back by a quarter of an hour, it throttles a round for which a measure period and a second
have passed. -/
theorem correction_stalls :
    let settings := Settings.load .plain MemoryStore.access .empty
    let s := Station.new settings "uid"
    let events : List Event := [.sync (some 1699999100) 5000, .round 0 (.ok ⟨235, 450⟩) (.ok ()),
      .sync (some 1700000000) 0]
    (5000 :: events.map Event.uptime).Pairwise (· ≥ ·) ∧ lastRun? s events = some 0 ∧
    1000 * (settings.measurePeriodSecs.toNat + 1) ≤ 5000 - 0 ∧
    runsAt s events 5000 (.ok ⟨235, 450⟩) (.ok ()) = false := by
  decide +kernel

end WeatherStation.Proofs.Station
