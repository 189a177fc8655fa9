import WeatherStation.Proofs.Station.Cycle

/-!
# `WeatherStation.Proofs.Station.CycleTimes`: when a cycle starts and when it ends

The readings of a run are in the order of their times (`readings_ordered`), and each cycle ends with
the first reading in a boundary minute. Before that it has no reading in another boundary minute,
except in the one that ended the cycle before, because such a reading would have closed it. `Cycle`
says this of a cycle and `cycle_log` of all cycles of a run. It rests on the minute that the
boundary remembers (`remembered_le`).

A cycle starts where the period of its first reading starts. As the publish period divides the hour,
the boundary minutes are the minutes in which a period starts (`boundary_iff`).
-/

set_option autoImplicit false

namespace WeatherStation.Proofs.Station

open WeatherStation.Config

/-- The minute since the epoch. -/
def Sample.minute (x : Sample) : Nat := x.time / 60

/-- The readings are in the order of their times, newest first. -/
def Ordered (samples : List Sample) : Prop :=
  samples.Pairwise fun later earlier => earlier.time < later.time

/-! ### Starts of periods -/

section
variable {length start time : Nat}

/-- The last start of a period that is not after a time. No other start lies between the two. -/
theorem le_start (hstart : length ∣ start) (hle : start ≤ time) :
    start ≤ time / length * length := by
  obtain ⟨n, rfl⟩ := hstart
  rcases Nat.eq_zero_or_pos length with rfl | hpositive
  · simp
  · rw [Nat.mul_comm]
    exact Nat.mul_le_mul_right _ ((Nat.le_div_iff_mul_le hpositive).mpr (by rwa [Nat.mul_comm]))

/-- A start less than a period before the time is the one. -/
theorem start_eq (hstart : length ∣ start) (hle : start ≤ time) (hlt : time < start + length) :
    time / length * length = start := by
  obtain ⟨n, rfl⟩ := hstart
  have hn : time / length = n :=
    Nat.div_eq_of_lt_le (by rwa [Nat.mul_comm]) (by rwa [Nat.succ_mul, Nat.mul_comm])
  rw [hn, Nat.mul_comm]

/-- The period of a time starts with its minute exactly if a period starts there. Periods are at
least a minute long. -/
theorem start_eq_minute_iff (hlength : 60 ≤ length) :
    time / length * length = 60 * (time / 60) ↔ length ∣ 60 * (time / 60) := by
  constructor
  · intro hsame
    rw [← hsame]
    exact Nat.dvd_mul_left length _
  · intro hstart
    exact start_eq hstart (Nat.mul_div_le time 60) (by omega)

/-- A minute ends a period exactly if its start is the start of a period. The minute of the hour
tells this because the period divides the hour. -/
theorem boundary_iff {period : Nat} (hperiod : period ∣ 60) (minute : Nat) :
    minute % 60 % period = 0 ↔ 60 * period ∣ 60 * minute := by
  rw [Nat.mod_mod_of_dvd _ hperiod, ← Nat.dvd_iff_mod_eq_zero,
    Nat.mul_dvd_mul_iff_left (by decide)]

end

/-! ### The order of the readings -/

section
variable {e : Round × Outcome} {entries : List (Round × Outcome)} {x : Sample}

/-- A sample is of a round that reads. -/
theorem of_sample? (h : sample? e = some x) : reads e = true ∧ e.1.now = x.time := by
  refine ⟨by rw [← isSome_sample?, h]; rfl, ?_⟩
  rw [sample?] at h
  split at h
  · obtain ⟨reading, -, rfl⟩ := Option.map_eq_some_iff.mp h
    rfl
  · cases h

/-- All readings of a run are those of rounds that read. -/
theorem mem_readings (h : x ∈ entries.filterMap sample?) :
    ∃ e ∈ entries, reads e = true ∧ e.1.now = x.time := by
  obtain ⟨e, he, hsample⟩ := List.mem_filterMap.mp h
  exact ⟨e, he, of_sample? hsample⟩

/-- The readings of the open cycle are readings of the run. -/
theorem mem_of_mem_samplesSince (h : x ∈ samplesSince entries) :
    x ∈ entries.filterMap sample? := by
  rw [← flatten_cycles]
  exact List.mem_append_left _ h

/-- The readings of a closed cycle are readings of the run. -/
theorem mem_of_mem_cycles {samples : List Sample} (h : samples ∈ cycles entries)
    (hx : x ∈ samples) : x ∈ entries.filterMap sample? := by
  rw [← flatten_cycles]
  exact List.mem_append_right _ (List.mem_flatten_of_mem h hx)

end

/-- What is known of a cycle: the reading that closes it, and those before. Only the last of its
readings may lie in a boundary minute, or the first ones in the minute that closed the cycle
before. -/
structure Cycle (period : Nat) (readings : List Sample) (closing : Sample)
    (before : List Sample) : Prop where
  boundary : closing.minute % 60 % period = 0
  /-- The reading that closes a cycle is the first one in its minute. -/
  fresh : ∀ y ∈ readings, y.time < closing.time → y.minute ≠ closing.minute
  /-- A reading before it is in a boundary minute only if the cycle begins in that minute. -/
  settled : ∀ y ∈ before, y.minute % 60 % period = 0 → ∀ z ∈ before, y.minute ≤ z.minute

section
variable {σ : Type} (built : Built) (a : Access σ) (store : σ) (uid : String)

/-- The readings of a run are in the order of their times, whatever the order of its rounds: a time
that goes back is too early for another reading. -/
theorem readings_ordered (past : List Round) :
    let s := Station.new (Settings.load built a store) uid
    Ordered ((log s past).filterMap sample?) := by
  intro s
  rw [Ordered, List.pairwise_filterMap]
  refine (List.pairwise_filter.mp (pairwise_log built a store uid past)).imp ?_
  intro later earlier hdistance x hx y hy
  obtain ⟨hlater, hnow⟩ := of_sample? hx
  obtain ⟨hearlier, hthen⟩ := of_sample? hy
  -- Rounds with a reading have run, so they keep the distance, and the distance is positive.
  have hle : earlier.1.now + s.settings.measurePeriodSecs.toNat ≤ later.1.now :=
    hdistance (runs_of_reads hlater) (runs_of_reads hearlier)
  have hpositive : 0 < s.settings.measurePeriodSecs.toNat :=
    Nat.pos_of_ne_zero fun hzero => (load_periods built a store).2 (UInt32.toNat_inj.mp hzero)
  omega

/-- The open cycle has no reading before the minute that the boundary remembers. -/
theorem remembered_le (past : List Round) :
    let s := Station.new (Settings.load built a store) uid
    ∀ minute, (after s past).boundary.lastMinute = some minute →
      ∀ x ∈ samplesSince (log s past), minute ≤ x.minute := by
  intro s
  induction past with
  | nil => exact fun _ _ => nofun
  | cons r past ih =>
    intro minute hminute x hx
    rw [after, lastMinute_perform] at hminute
    rw [log, samplesSince_cons] at hx
    split at hx
    · cases hx
    · rename_i hopen
      rw [if_neg hopen] at hminute
      rcases List.mem_append.mp hx with hnew | hold
      · -- The new reading is not before any that the boundary has seen.
        obtain ⟨hreads, hnow⟩ := of_sample? (Option.mem_toList.mp hnew)
        have hle := (paced_log built a store uid past).minute_le (load_periods built a store).2
          (runs_of_reads hreads) hminute
        rwa [Round.minute, hnow] at hle
      · exact ih minute hminute x hold

/-- In the open cycle only the minute that closed the one before is a boundary minute. A reading in
any other would have closed it. -/
theorem settled_open (past : List Round) :
    let s := Station.new (Settings.load built a store) uid
    ∀ y ∈ samplesSince (log s past),
      y.minute % 60 % s.settings.publishPeriodMins.toNat = 0 →
        ∀ z ∈ samplesSince (log s past), y.minute ≤ z.minute := by
  intro s y hy hboundary z hz
  -- The boundary remembers this minute or a later one, and the open cycle has none before that.
  obtain ⟨e, he, hreads, hnow⟩ := mem_readings (mem_of_mem_samplesSince hy)
  have hsame : e.1.minute = y.minute := by rw [Round.minute, hnow, Sample.minute]
  obtain ⟨minute, hminute, hle⟩ :=
    (paced_log built a store uid past).newest e he hreads (by rwa [hsame])
  have hge := remembered_le built a store uid past minute hminute z hz
  omega

/-- The reading with which a round closes a cycle. -/
theorem cycle_of_closes (past : List Round) (r : Round) :
    let s := Station.new (Settings.load built a store) uid
    let e := (r, (perform (after s past) r).1)
    closes e.2 = true → ∃ closing, sample? e = some closing ∧
      Cycle s.settings.publishPeriodMins.toNat ((log s (r :: past)).filterMap sample?) closing
        (samplesSince (log s past)) := by
  intro s e hcloses
  obtain ⟨hreads, hboundary, hfirst⟩ :=
    ((paced_log built a store uid past).closes_iff (load_periods built a store).2).mp hcloses
  obtain ⟨closing, hclosing⟩ := Option.isSome_iff_exists.mp ((isSome_sample? e).trans hreads)
  have hsame : r.minute = closing.minute := by
    rw [Round.minute, Sample.minute, ← (of_sample? hclosing).2]
  refine ⟨closing, hclosing, hsame ▸ hboundary, fun y hy hlt => ?_,
    settled_open built a store uid past⟩
  obtain ⟨x, hx, hread, hnow⟩ := mem_readings hy
  rcases List.mem_cons.mp hx with rfl | hold
  · rw [← hnow, ← (of_sample? hclosing).2] at hlt
    exact absurd hlt (Nat.lt_irrefl _)
  · have hother := hfirst x hold hread
    rwa [Round.minute, hnow, hsame] at hother

/-- Every cycle of a run is one. -/
theorem cycle_log (past : List Round) :
    let s := Station.new (Settings.load built a store) uid
    ∀ samples ∈ cycles (log s past), ∃ closing before, samples = closing :: before ∧
      Cycle s.settings.publishPeriodMins.toNat ((log s past).filterMap sample?) closing before := by
  intro s
  induction past with
  | nil => exact nofun
  | cons r past ih =>
    intro samples hsamples
    have hlater : samples ∈ cycles (log s past) → ∃ closing before,
        samples = closing :: before ∧ Cycle s.settings.publishPeriodMins.toNat
          ((log s (r :: past)).filterMap sample?) closing before := by
      intro hmem
      obtain ⟨closing, before, rfl, hcycle⟩ := ih samples hmem
      refine ⟨closing, before, rfl, hcycle.boundary, fun y hy hlt => ?_, hcycle.settled⟩
      have hordered : Ordered ((log s (r :: past)).filterMap sample?) :=
        readings_ordered built a store uid (r :: past)
      rw [log, List.filterMap_cons] at hy hordered
      split at hy
      · exact hcycle.fresh y hy hlt
      · rename_i x hx
        rw [hx] at hordered
        rcases List.mem_cons.mp hy with rfl | hold
        · -- The new reading is later than the one that closed the cycle.
          have hafter := (List.pairwise_cons.mp hordered).1 closing
            (mem_of_mem_cycles hmem List.mem_cons_self)
          omega
        · exact hcycle.fresh y hold hlt
    rw [log, cycles] at hsamples
    split at hsamples
    · rename_i hcloses
      rcases List.mem_cons.mp hsamples with rfl | hold
      · obtain ⟨closing, hclosing, hcycle⟩ := cycle_of_closes built a store uid past r hcloses
        exact ⟨closing, _, by rw [hclosing]; rfl, hcycle⟩
      · exact hlater hold
    · exact hlater hsamples

/-- Where the readings of a run are, seen from one of its cycles: behind it, in it, or before it. -/
theorem around_cycle (past : List Round) :
    let s := Station.new (Settings.load built a store) uid
    ∀ samples ∈ cycles (log s past),
      Ordered samples ∧
      ∀ x ∈ (log s past).filterMap sample?,
        (∀ y ∈ samples, y.time < x.time) ∨ x ∈ samples ∨ ∀ y ∈ samples, x.time < y.time := by
  intro s samples hsamples
  obtain ⟨after, before, hcycles⟩ := List.append_of_mem hsamples
  -- The readings fall into three parts: those after the cycle, the cycle and those before it.
  have hreadings : (log s past).filterMap sample? =
      (samplesSince (log s past) ++ after.flatten) ++ (samples ++ before.flatten) := by
    rw [← flatten_cycles, hcycles]
    simp
  have hordered : Ordered ((log s past).filterMap sample?) :=
    readings_ordered built a store uid past
  rw [hreadings] at hordered ⊢
  obtain ⟨-, hpresent, hlate⟩ := List.pairwise_append.mp hordered
  obtain ⟨hsorted, -, hearly⟩ := List.pairwise_append.mp hpresent
  refine ⟨hsorted, fun x hx => ?_⟩
  rcases List.mem_append.mp hx with hx | hx
  · exact .inl fun y hy => hlate x hx y (List.mem_append_left _ hy)
  · rcases List.mem_append.mp hx with hx | hx
    · exact .inr (.inl hx)
    · exact .inr (.inr fun y hy => hearly y hy x hx)

end

/-! ### Where a cycle starts -/

section
variable {period : Nat} {readings before samples : List Sample} {closing first x y : Sample}

/-- Minutes are in the order of the times. -/
theorem Sample.minute_le (h : x.time ≤ y.time) : x.minute ≤ y.minute := Nat.div_le_div_right h

/-- A minute starts before its times. -/
theorem minute_start_le (x : Sample) : 60 * x.minute ≤ x.time := Nat.mul_div_le x.time 60

/-- A minute ends behind its times. -/
theorem lt_minute_end (x : Sample) : x.time < 60 * x.minute + 60 := by
  rw [Sample.minute]
  omega

/-- The first reading of a cycle is not after the others. -/
theorem first_le (hordered : Ordered samples)
    (hfirst : samples.getLast? = some first) (hx : x ∈ samples) : first.time ≤ x.time := by
  obtain ⟨others, rfl⟩ := List.getLast?_eq_some_iff.mp hfirst
  rcases List.mem_append.mp hx with hx | hx
  · exact Nat.le_of_lt ((List.pairwise_append.mp hordered).2.2 x hx first List.mem_cons_self)
  · exact Nat.le_of_eq (by rw [List.mem_singleton.mp hx])

/-- A cycle of one reading starts with the minute of that reading. -/
theorem Cycle.start_single (h : Cycle period readings closing before) (hperiod : period ∣ 60) :
    closing.time / (60 * period) * (60 * period) = 60 * closing.minute := by
  have hpositive : 0 < period := Nat.pos_of_dvd_of_pos hperiod (by decide)
  have hlength : 60 ≤ 60 * period := Nat.le_mul_of_pos_right 60 hpositive
  exact (start_eq_minute_iff hlength).mpr ((boundary_iff hperiod _).mp h.boundary)

/-- A cycle of more readings starts before the minute in which it is closed, as its first reading is
in an earlier period. -/
theorem Cycle.start_lt (h : Cycle period readings closing before)
    (hordered : Ordered (closing :: before))
    (hmem : ∀ x ∈ before, x ∈ readings) (hfirst : before.getLast? = some first) :
    first.time < 60 * closing.minute := by
  have hbefore : first ∈ before := List.mem_of_getLast? hfirst
  have hlt := (List.pairwise_cons.mp hordered).1 first hbefore
  -- Its minute is another one, and an earlier one.
  have hother := h.fresh first (hmem first hbefore) hlt
  have hle := Sample.minute_le (Nat.le_of_lt hlt)
  have hend := lt_minute_end first
  omega

/-- No boundary minute between the start of a cycle and its end has a reading. -/
theorem Cycle.closing_le (h : Cycle period readings closing before) (hperiod : period ∣ 60)
    (hfirst : (closing :: before).getLast? = some first)
    (hsplit : ∀ x ∈ readings, closing.time ≤ x.time ∨ x ∈ before ∨ x.time < first.time)
    (hx : x ∈ readings) (hboundary : x.minute % 60 % period = 0)
    (hstart : first.time / (60 * period) * (60 * period) < 60 * x.minute) :
    closing.minute ≤ x.minute := by
  by_contra hnot
  -- Otherwise the minute is over when the cycle has its first reading.
  have hle : x.minute ≤ first.minute := by
    rcases hsplit x hx with hlate | hbefore | hearly
    · exact absurd (Sample.minute_le hlate) hnot
    · refine h.settled x hbefore hboundary first ?_
      rw [List.getLast?_cons] at hfirst
      cases hlast : before.getLast? with
      | none => rw [List.getLast?_eq_none_iff.mp hlast] at hbefore; cases hbefore
      | some y =>
        rw [hlast, Option.getD_some] at hfirst
        obtain rfl := Option.some.inj hfirst
        exact List.mem_of_getLast? hlast
    · exact Sample.minute_le (Nat.le_of_lt hearly)
  -- So the first reading is in a period that starts no earlier than this minute.
  have hfloor := le_start ((boundary_iff hperiod _).mp hboundary)
    (Nat.le_trans (Nat.mul_le_mul_left 60 hle) (minute_start_le first))
  omega

end

end WeatherStation.Proofs.Station
