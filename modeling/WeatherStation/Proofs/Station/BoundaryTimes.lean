import Mathlib.Data.List.Induction
import WeatherStation.Proofs.Station.CycleTimes

/-!
# `WeatherStation.Proofs.Station.BoundaryTimes`: a boundary fires where a period starts

The boundary counts the minutes of the hour, and an aggregation buffer counts the seconds since the
epoch. They agree because the publish period divides the hour, whatever is built in or stored.

A boundary can be asked at any times. If these do not go back, it fires at the first of them in each
minute in which a period starts, and at no other. This rests on the minute that it remembers, which
is one of those times and the last in which it could have fired (`Remembers`).
-/

set_option autoImplicit false

namespace WeatherStation.Proofs.Station

open WeatherStation.Aggregation WeatherStation.Config

/-! ### Times of a boundary -/

/-- The boundary after it has been asked at some times, first one first. -/
def asked (b : Boundary) (times : List Nat) : Boundary :=
  times.foldl (fun b now => (b.check now).2) b

/-- In this minute a new boundary may fire. It does at some time in it, if it has been asked at
certain times before. -/
def MayFire (period : UInt32) (minute : Nat) : Prop :=
  ∃ times now, now / 60 = minute ∧ ((asked (.new period) times).check now).1 = true

/-- What a boundary keeps of the times at which it was asked: one minute, in which it was asked, and
in no later one could it have fired. -/
structure Remembers (times : List Nat) (b : Boundary) : Prop where
  /-- The minute it remembers is the minute of one of them. -/
  seen : ∀ minute, b.lastMinute = some minute → ∃ time ∈ times, time / 60 = minute
  /-- None of them is in a later minute in which it fires. -/
  newest : ∀ time ∈ times, time / 60 % 60 % b.period.toNat = 0 →
    ∃ minute, b.lastMinute = some minute ∧ time / 60 ≤ minute

/-- One more time. -/
theorem asked_append (b : Boundary) (times : List Nat) (now : Nat) :
    asked b (times ++ [now]) = ((asked b times).check now).2 := List.foldl_concat _ b now times

/-- The period stays what it is. -/
theorem period_asked (b : Boundary) (times : List Nat) : (asked b times).period = b.period := by
  induction times using List.reverseRecOn with
  | nil => rfl
  | append_singleton times now ih => rw [asked_append, period_check, ih]

/-- Any period but zero is the one that was given. -/
theorem period_asked_new {period : UInt32} (hperiod : period ≠ 0) (times : List Nat) :
    (asked (.new period) times).period = period := by
  rw [period_asked]
  exact if_neg hperiod

section
variable {b : Boundary} {times : List Nat} {now : Nat}

/-- A time that is not before the others. If the boundary may fire in its minute it fires or has
fired there before, and remembers this minute. -/
theorem Remembers.check (h : Remembers times b) (hlate : ∀ time ∈ times, time ≤ now) :
    Remembers (times ++ [now]) (b.check now).2 := by
  have hperiod : (b.check now).2.period = b.period := period_check
  have hlast : (b.check now).2.lastMinute =
      if (b.check now).1 then some (now / 60) else b.lastMinute := lastMinute_check
  cases hfires : (b.check now).1 with
  | true =>
    -- From now on it remembers this minute, and no time is in a later one.
    rw [hfires, if_pos rfl] at hlast
    refine ⟨fun minute hminute => ⟨now, by simp, ?_⟩, fun time htime _ => ⟨now / 60, hlast, ?_⟩⟩
    · exact Option.some.inj (hlast.symm.trans hminute)
    · rcases List.mem_append.mp htime with hold | hnew
      · exact Nat.div_le_div_right (hlate time hold)
      · rw [List.mem_singleton.mp hnew]
  | false =>
    rw [hfires, if_neg Bool.false_ne_true] at hlast
    refine ⟨fun minute hminute => ?_, fun time htime hboundary => ?_⟩
    · obtain ⟨time, htime, hsame⟩ := h.seen minute (hlast.symm.trans hminute)
      exact ⟨time, List.mem_append_left _ htime, hsame⟩
    · rw [hperiod] at hboundary
      rw [hlast]
      rcases List.mem_append.mp htime with hold | hnew
      · exact h.newest time hold hboundary
      · -- It could have fired here, so it remembers this very minute.
        rw [List.mem_singleton.mp hnew] at hboundary ⊢
        have hsame : b.lastMinute = some (now / 60) := by
          by_contra hother
          rw [check_fires.mpr ⟨hboundary, hother⟩] at hfires
          cases hfires
        exact ⟨now / 60, hsame, Nat.le_refl _⟩

/-- By induction on the times from the last one. -/
theorem remembers_asked {period : UInt32} (hordered : times.Pairwise (· ≤ ·)) :
    Remembers times (asked (.new period) times) := by
  induction times using List.reverseRecOn with
  | nil => exact ⟨fun _ => nofun, fun _ htime => nomatch htime⟩
  | append_singleton times now ih =>
    obtain ⟨hearlier, -, hlate⟩ := List.pairwise_append.mp hordered
    rw [asked_append]
    exact (ih hearlier).check fun time htime => hlate time htime now List.mem_cons_self

/-- It fires at the first time in a minute in which it may. A time in the same minute before would
be the one that it remembers, and no later minute has come. -/
theorem Remembers.fires_iff (h : Remembers times b) (hlate : ∀ time ∈ times, time ≤ now) :
    (b.check now).1 = true ↔
      now / 60 % 60 % b.period.toNat = 0 ∧ ∀ time ∈ times, time / 60 ≠ now / 60 := by
  rw [check_fires]
  refine and_congr_right fun hboundary =>
    ⟨fun hfresh time htime hsame => ?_, fun hfirst hlast => ?_⟩
  · -- An earlier time in this minute would have left it, or a later one, behind.
    obtain ⟨minute, hminute, hle⟩ := h.newest time htime (by rwa [hsame])
    obtain ⟨last, hmem, rfl⟩ := h.seen minute hminute
    have hge := Nat.div_le_div_right (c := 60) (hlate last hmem)
    exact hfresh (hminute.trans (congrArg some (by omega)))
  · obtain ⟨time, htime, hsame⟩ := h.seen _ hlast
    exact hfirst time htime hsame

end

/-- Asked at any times, it fires only where it does when it is new. What it remembers can only hold
it back. -/
theorem mayFire_iff {period : UInt32} (hperiod : period ≠ 0) (minute : Nat) :
    MayFire period minute ↔ minute % 60 % period.toNat = 0 := by
  constructor
  · rintro ⟨times, now, rfl, hfires⟩
    have hboundary := (check_fires.mp hfires).1
    rwa [period_asked_new hperiod] at hboundary
  · intro hboundary
    have hminute : 60 * minute / 60 = minute := Nat.mul_div_cancel_left minute (by decide)
    refine ⟨[], 60 * minute, hminute, check_fires.mpr ⟨?_, nofun⟩⟩
    rw [hminute, period_asked_new hperiod]
    exact hboundary

/-! ### The first sample of a buffer -/

/-- A new buffer accepts its first sample, and keeps the start of the period it falls into. -/
theorem first_commit {period : UInt32} (hperiod : period ≠ 0) (value : Int32)
    (time threshold : UInt32) :
    let y := (Buffer.new period).commit value time threshold
    y.1 = true ∧ y.2.first = some ⟨value, periodStart period time⟩ := by
  have hnew := Aggregation.tallied_new hperiod
  have hcommit := hnew.commit ⟨value, time, threshold⟩ (by decide)
  exact ⟨(hnew.commit_fst ⟨value, time, threshold⟩).mpr (.inl (by decide)), hcommit.first⟩

/-! ### The agreement -/

/-- Boundary and buffer agree, whatever is built in or stored.

1. A boundary may fire in exactly those minutes whose start is a multiple of the period. Those are
   the minutes in which the first sample of a new buffer is given the start of its minute.
2. If it is asked at times that do not go back, it fires at the first one in each of these minutes,
   and at no other. -/
theorem boundary_agrees {σ : Type} (built : Built) (a : Access σ) (store : σ) :
    let period := (Settings.load built a store).publishPeriodMins
    (∀ time : UInt32,
      (MayFire period (time.toNat / 60) ↔ 60 * period.toNat ∣ 60 * (time.toNat / 60)) ∧
      ∀ value threshold,
        let y := (Buffer.new period).commit value time threshold
        y.1 = true ∧ ∃ first, y.2.first = some first ∧ first.value = value ∧
          (first.time.toNat = 60 * (time.toNat / 60) ↔
            60 * period.toNat ∣ 60 * (time.toNat / 60))) ∧
    ∀ earlier now later, (earlier ++ now :: later).Pairwise (· ≤ ·) →
      (((asked (.new period) earlier).check now).1 = true ↔
        60 * period.toNat ∣ 60 * (now / 60) ∧ ∀ time ∈ earlier, time / 60 ≠ now / 60) := by
  intro period
  have hperiod : period ≠ 0 := (load_periods built a store).1
  have hdivides : period.toNat ∣ 60 := load_divides built a store
  refine ⟨fun time => ⟨?_, fun value threshold => ?_⟩, fun earlier now later hordered => ?_⟩
  · rw [mayFire_iff hperiod, boundary_iff hdivides]
  · -- The buffer keeps the start of the period in seconds since the epoch.
    obtain ⟨haccepted, hfirst⟩ := first_commit hperiod value time threshold
    refine ⟨haccepted, _, hfirst, rfl, ?_⟩
    have hpositive : 0 < period.toNat := Nat.pos_of_dvd_of_pos hdivides (by decide)
    have hlength : 60 ≤ 60 * period.toNat := Nat.le_mul_of_pos_right 60 hpositive
    rw [Aggregation.toNat_periodStart (load_period_lt built a store)]
    exact start_eq_minute_iff hlength
  · -- The boundary remembers the minute in which it fired, and no time before is later than this
    -- one.
    obtain ⟨hearlier, -, hlate⟩ := List.pairwise_append.mp hordered
    have hremembers : Remembers earlier (asked (.new period) earlier) := remembers_asked hearlier
    rw [hremembers.fires_iff fun time htime => hlate time htime now List.mem_cons_self,
      period_asked_new hperiod, boundary_iff hdivides]

/-- If the times go back, it may fire a second time in a minute. -/
example : ((asked (.new 10) [1200, 1800]).check 1200).1 = true := by decide

end WeatherStation.Proofs.Station
