import WeatherStation.Proofs.Station.Readings

/-!
# `WeatherStation.Proofs.Station.Cycle`: one publish for each boundary minute

A round that is not throttled keeps its distance from the one before it, whatever the clock does.
So the times of these rounds grow, and the minute that the boundary remembers is never behind the
minute of a later round: this is what keeps a minute from being closed twice when the clock is set
back. `Paced` is the invariant, `perform_paced` its step lemma and `paced_log` the run lemma.

A round that closes a cycle has something to publish because the first reading of a cycle is always
accepted. The channels count their samples in 32 bits, so this holds up to that number of readings
in one cycle (`overflow_log`).

`publishes_once` puts the two together.
-/

set_option autoImplicit false

namespace WeatherStation.Proofs.Station

open WeatherStation.Aggregation WeatherStation.Config WeatherStation.Mqtt WeatherStation.Sensor

/-! ### The boundary -/

section
variable {b : Boundary} {now : Nat}

/-- A boundary fires in a boundary minute other than the one that it remembers. -/
theorem check_fires : (b.check now).1 = true ↔
    now / 60 % 60 % b.period.toNat = 0 ∧ b.lastMinute ≠ some (now / 60) := by
  rw [Boundary.check]
  split
  · rename_i h
    refine ⟨nofun, fun hfires => ?_⟩
    rcases h with hperiod | hminute
    · exact absurd hfires.1 hperiod
    · exact absurd hminute hfires.2
  · rename_i h
    have hfires := not_or.mp h
    exact ⟨fun _ => ⟨Decidable.not_not.mp hfires.1, hfires.2⟩, fun _ => rfl⟩

/-- The boundary remembers the minute in which it fires. -/
theorem lastMinute_check : (b.check now).2.lastMinute =
    if (b.check now).1 then some (now / 60) else b.lastMinute := by
  rw [Boundary.check]
  split <;> rfl

/-- Its period stays what it is. -/
theorem period_check : (b.check now).2.period = b.period := by
  rw [Boundary.check]
  split <;> rfl

end

/-- The boundary remembers the minute of the last round that closed a cycle. -/
theorem lastMinute_perform (s : Station) (r : Round) :
    (perform s r).2.boundary.lastMinute =
      if closes (perform s r).1 then some r.minute else s.boundary.lastMinute := by
  rw [boundary_perform, closes_perform]
  cases reads (r, (perform s r).1) with
  | false => rfl
  | true =>
    rw [if_pos rfl, lastMinute_check, Bool.true_and]
    rfl

/-- No round changes the period. -/
theorem period_perform (s : Station) (r : Round) :
    (perform s r).2.boundary.period = s.boundary.period := by
  rw [boundary_perform]
  split
  · exact period_check
  · rfl

/-! ### Rounds and minutes -/

/-- How the memory of the station and its log belong together. -/
structure Paced (settings : Settings) (s : Station) (entries : List (Round × Outcome)) :
    Prop where
  settings_eq : s.settings = settings
  period_eq : s.boundary.period = settings.publishPeriodMins
  /-- The last round that ran is the latest one. -/
  latest : ∀ e ∈ entries, runs e.2 = true → ∃ last, s.lastSample = some last ∧ e.1.now ≤ last
  /-- The minute that the boundary remembers is one with a reading. -/
  remembered : ∀ minute, s.boundary.lastMinute = some minute →
    ∃ e ∈ entries, reads e = true ∧ e.1.minute = minute
  /-- No later boundary minute has a reading. -/
  newest : ∀ e ∈ entries, reads e = true →
    e.1.minute % 60 % settings.publishPeriodMins.toNat = 0 →
      ∃ minute, s.boundary.lastMinute = some minute ∧ e.1.minute ≤ minute

section
variable {settings : Settings} {s : Station} {entries : List (Round × Outcome)} {r : Round}

/-- A round that is not throttled is a measure period later than the last one that ran. -/
theorem later_of_passed {last now : Nat} (hpositive : s.settings.measurePeriodSecs ≠ 0)
    (hlast : s.lastSample = some last) (hpassed : s.isThrottled now = false) :
    last < now ∧ last + s.settings.measurePeriodSecs.toNat ≤ now := by
  have hperiod : 0 < s.settings.measurePeriodSecs.toNat :=
    Nat.pos_of_ne_zero fun hzero => hpositive (UInt32.toNat_inj.mp hzero)
  rw [Station.isThrottled, hlast] at hpassed
  simp only [decide_eq_false_iff_not] at hpassed
  -- The difference is cut off at zero, so it says something because the period is positive.
  omega

/-- A round that runs is a measure period later than every one before it that ran. -/
theorem Paced.distance (h : Paced settings s entries) (hpositive : settings.measurePeriodSecs ≠ 0)
    (hruns : runs (perform s r).1 = true) :
    ∀ e ∈ entries, runs e.2 = true → e.1.now + settings.measurePeriodSecs.toNat ≤ r.now := by
  intro e he hran
  obtain ⟨last, hlast, hle⟩ := h.latest e he hran
  have hpassed : s.isThrottled r.now = false := by simpa [runs_perform] using hruns
  have hlater := (later_of_passed (h.settings_eq ▸ hpositive) hlast hpassed).2
  rw [h.settings_eq] at hlater
  omega

/-- The boundary remembers a minute that is not past when a round runs. -/
theorem Paced.minute_le (h : Paced settings s entries) (hpositive : settings.measurePeriodSecs ≠ 0)
    (hruns : runs (perform s r).1 = true) {minute : Nat}
    (hminute : s.boundary.lastMinute = some minute) : minute ≤ r.minute := by
  obtain ⟨e, he, hreads, rfl⟩ := h.remembered minute hminute
  have hdistance := h.distance hpositive hruns e he (runs_of_reads hreads)
  exact Nat.div_le_div_right (by omega)

/-- A round closes a cycle exactly if it is the first one to get a reading in its minute, and that
is a boundary minute. -/
theorem Paced.closes_iff (h : Paced settings s entries)
    (hpositive : settings.measurePeriodSecs ≠ 0) :
    closes (perform s r).1 = true ↔
      reads (r, (perform s r).1) = true ∧
        r.minute % 60 % settings.publishPeriodMins.toNat = 0 ∧
        ∀ e ∈ entries, reads e = true → e.1.minute ≠ r.minute := by
  rw [closes_perform, Bool.and_eq_true, check_fires, h.period_eq]
  refine and_congr_right fun hreads => and_congr_right fun hboundary => ?_
  have hruns : runs (perform s r).1 = true := runs_of_reads hreads
  constructor
  · intro hfresh e he hread hsame
    have hend : e.1.minute % 60 % settings.publishPeriodMins.toNat = 0 := by
      rw [hsame]
      exact hboundary
    obtain ⟨minute, hminute, hle⟩ := h.newest e he hread hend
    have hge := h.minute_le hpositive hruns hminute
    exact hfresh (by rw [hminute, Nat.le_antisymm hge (hsame ▸ hle)]; rfl)
  · intro hfirst hminute
    obtain ⟨e, he, hread, hsame⟩ := h.remembered _ hminute
    exact hfirst e he hread hsame

/-- Every round keeps it. -/
theorem perform_paced (h : Paced settings s entries) (hpositive : settings.measurePeriodSecs ≠ 0)
    (r : Round) : Paced settings (perform s r).2 ((r, (perform s r).1) :: entries) := by
  have hcloses := h.closes_iff hpositive (r := r)
  constructor
  · rw [settings_perform, h.settings_eq]
  · rw [period_perform, h.period_eq]
  · intro e he hran
    rw [lastSample_perform]
    cases hthrottled : s.isThrottled r.now with
    | true =>
      rcases List.mem_cons.mp he with rfl | hold
      · rw [runs_perform, hthrottled] at hran
        cases hran
      · exact h.latest e hold hran
    | false =>
      refine ⟨r.now, rfl, ?_⟩
      rcases List.mem_cons.mp he with rfl | hold
      · exact Nat.le_refl _
      · have hruns : runs (perform s r).1 = true := by rw [runs_perform, hthrottled]; rfl
        exact Nat.le_of_add_right_le (h.distance hpositive hruns e hold hran)
  · intro minute hminute
    rw [lastMinute_perform] at hminute
    split at hminute
    · rename_i hclose
      exact ⟨_, List.mem_cons_self, (hcloses.mp hclose).1, Option.some.inj hminute⟩
    · obtain ⟨e, he, hread, hsame⟩ := h.remembered minute hminute
      exact ⟨e, List.mem_cons_of_mem _ he, hread, hsame⟩
  · intro e he hread hend
    rw [lastMinute_perform]
    split
    · -- The round that closes the cycle is the latest one.
      rename_i hclose
      refine ⟨r.minute, rfl, ?_⟩
      rcases List.mem_cons.mp he with rfl | hold
      · exact Nat.le_refl _
      · have hdistance := h.distance hpositive (runs_of_reads (hcloses.mp hclose).1) e hold
          (runs_of_reads hread)
        exact Nat.div_le_div_right (by omega)
    · rename_i hopen
      rcases List.mem_cons.mp he with rfl | hold
      · -- The boundary would have fired in a minute that it does not remember.
        refine ⟨r.minute, Decidable.byContradiction fun hfresh => hopen ?_, Nat.le_refl _⟩
        rw [closes_perform, hread, Bool.true_and, check_fires, h.period_eq]
        exact ⟨hend, hfresh⟩
      · exact h.newest e hold hread hend

end

section
variable {σ : Type} (built : Built) (a : Access σ) (store : σ) (uid : String)

/-- In every run of a station with settings that are built in or stored. -/
theorem paced_log (past : List Round) :
    let s := Station.new (Settings.load built a store) uid
    Paced s.settings (after s past) (log s past) := by
  intro s
  induction past with
  | nil =>
    refine ⟨rfl, ?_, by simp [log], nofun, by simp [log]⟩
    exact if_neg (load_periods built a store).1
  | cons r past ih => exact perform_paced ih (load_periods built a store).2 r

/-- The rounds that are not throttled, each a measure period or more after the one before it. -/
theorem pairwise_log (past : List Round) :
    let s := Station.new (Settings.load built a store) uid
    ((log s past).filter fun e => runs e.2).Pairwise fun later earlier =>
      earlier.1.now + s.settings.measurePeriodSecs.toNat ≤ later.1.now := by
  intro s
  induction past with
  | nil => exact .nil
  | cons r past ih =>
    rw [log, List.filter_cons]
    split
    · rename_i hruns
      refine List.pairwise_cons.mpr ⟨fun e he => ?_, ih⟩
      obtain ⟨he, hran⟩ := List.mem_filter.mp he
      have hpaced := paced_log built a store uid past
      exact hpaced.distance (load_periods built a store).2 hruns e he hran
    · exact ih

/-- The rounds in a minute that end a cycle: the first one with a reading, in a boundary
minute. -/
theorem closes_log (minute : Nat) (past : List Round) :
    let s := Station.new (Settings.load built a store) uid
    (log s past).filter (fun e => e.1.minute == minute && closes e.2) =
      if minute % 60 % s.settings.publishPeriodMins.toNat = 0 then
        ((log s past).filter fun e => e.1.minute == minute && reads e).getLast?.toList
      else [] := by
  intro s
  induction past with
  | nil => rw [log, List.filter_nil, List.filter_nil]; split <;> rfl
  | cons r past ih =>
    have hcloses :=
      (paced_log built a store uid past).closes_iff (load_periods built a store).2 (r := r)
    rw [log, List.filter_cons, List.filter_cons]
    by_cases hminute : r.minute = minute
    · subst hminute
      rw [beq_self_eq_true, Bool.true_and, Bool.true_and]
      by_cases hclose : closes (perform (after s past) r).1 = true
      · -- The first reading of the minute: nothing before it counts.
        obtain ⟨hread, hend, hfirst⟩ := hcloses.mp hclose
        have hnone : (log s past).filter (fun e => e.1.minute == r.minute && reads e) = [] := by
          rw [List.filter_eq_nil_iff]
          intro e he hboth
          obtain ⟨hsame, hreads⟩ := Bool.and_eq_true_iff.mp hboth
          exact hfirst e he hreads (beq_iff_eq.mp hsame)
        rw [if_pos hclose, if_pos hread, ih, hnone, if_pos hend, if_pos hend]
        rfl
      · rw [if_neg hclose, ih]
        split
        · rename_i hend
          split
          · -- Another reading of the minute: the first one is among those before it.
            rename_i hread
            cases hbefore : (log s past).filter fun e => e.1.minute == r.minute && reads e with
            | nil =>
              refine absurd (hcloses.mpr ⟨hread, hend, fun e he hreads hsame => ?_⟩) hclose
              exact List.filter_eq_nil_iff.mp hbefore e he
                (Bool.and_eq_true_iff.mpr ⟨beq_iff_eq.mpr hsame, hreads⟩)
            | cons e entries => rw [List.getLast?_cons_cons]
          · rfl
        · rfl
    · have hother : (r.minute == minute) = false := beq_eq_false_iff_ne.mpr hminute
      rw [hother, Bool.false_and, Bool.false_and]
      exact ih

end

/-! ### Every run -/

section
variable {σ : Type} (built : Built) (a : Access σ) (store : σ) (uid : String)

/-- A cycle that ends with nothing to publish has too many readings to count. -/
theorem overflow_log {past : List Round} {later earlier : List (Round × Outcome)} {r : Round} :
    let s := Station.new (Settings.load built a store) uid
    log s past = later ++ (r, .nothingToPublish) :: earlier →
      UInt32.size ≤ readingsSince earlier + 1 ∧ UInt32.size ≤ (log s past).countP reads := by
  intro s h
  obtain ⟨r', before, he, rfl⟩ := split_log h
  obtain ⟨rfl, hnothing⟩ := Prod.mk.inj he
  have hover := overflow_of_nothing (load_period_lt built a store)
    (gathered_log built a store uid before) hnothing.symm
  replace hover : UInt32.size ≤ readingsSince (log s before) + 1 := by
    rwa [length_samplesSince] at hover
  refine ⟨hover, ?_⟩
  -- The round itself has a reading, since it ended a cycle.
  have hread : reads (r, .nothingToPublish) = true := by
    have hcloses := closes_perform (after s before) r
    rw [← hnothing] at hcloses
    exact (Bool.and_eq_true_iff.mp hcloses.symm).1
  have hle := readingsSince_le (log s before)
  rw [h, List.countP_append, List.countP_cons_of_pos hread]
  omega

/-- For all settings that are built in or stored, and in every run of rounds at any times, in
whatever order, with any readings and answers:

1. The rounds that are not throttled are in the order of their times, and a measure period apart.
2. The rounds in a minute that end a cycle are, if it is a boundary minute, the first one that gets
   a reading in it, and otherwise none. The log is newest first, so the first round is the last
   one of a list.
3. A cycle that ends has something to publish, unless it has as many readings as its counters of
   32 bits cannot hold.
4. So in a run with fewer readings than that the same rounds as in 2 publish, and no others. -/
theorem publishes_once (past : List Round) :
    let s := Station.new (Settings.load built a store) uid
    let entries := log s past
    (0 < s.settings.measurePeriodSecs.toNat ∧
      (entries.filter fun e => runs e.2).Pairwise fun later earlier =>
        earlier.1.now + s.settings.measurePeriodSecs.toNat ≤ later.1.now) ∧
    (∀ minute,
      entries.filter (fun e => e.1.minute == minute && closes e.2) =
        if minute % 60 % s.settings.publishPeriodMins.toNat = 0 then
          (entries.filter fun e => e.1.minute == minute && reads e).getLast?.toList
        else []) ∧
    (∀ later r earlier, entries = later ++ (r, .nothingToPublish) :: earlier →
      UInt32.size ≤ readingsSince earlier + 1) ∧
    (entries.countP reads < UInt32.size → ∀ minute,
      entries.filter (fun e => e.1.minute == minute && publishes e.2) =
        if minute % 60 % s.settings.publishPeriodMins.toNat = 0 then
          (entries.filter fun e => e.1.minute == minute && reads e).getLast?.toList
        else []) := by
  intro s entries
  have hpositive : 0 < s.settings.measurePeriodSecs.toNat :=
    Nat.pos_of_ne_zero fun hzero => (load_periods built a store).2 (UInt32.toNat_inj.mp hzero)
  refine ⟨⟨hpositive, pairwise_log built a store uid past⟩,
    fun minute => closes_log built a store uid minute past,
    fun later r earlier h => (overflow_log built a store uid h).1, fun hfew minute => ?_⟩
  -- With few readings no round that closes a cycle finds nothing to publish, so closing and
  -- publishing are the same.
  rw [← closes_log built a store uid minute past]
  refine List.filter_congr fun e he => ?_
  have hsome : e.2 ≠ .nothingToPublish := by
    intro hnothing
    obtain ⟨later, earlier, hsplit⟩ := List.append_of_mem he
    obtain ⟨r, outcome⟩ := e
    obtain rfl : outcome = .nothingToPublish := hnothing
    exact Nat.not_lt_of_le (overflow_log built a store uid hsplit).2 hfew
  rw [publishes_eq_closes hsome]

end

/-- The default settings: a publish period of ten minutes and a measure period of four seconds. The
clock is set back from second 605 to second 590, and the tenth minute begins again. The rounds that
ran, newest first, with a mark for the one that ended a cycle. -/
example :
    let s := Station.new (Settings.load .plain MemoryStore.access .empty) "uid"
    let past := [610, 606, 600, 590, 605, 600, 596].map fun now =>
      Round.mk now (.ok default) (.ok ())
    ((log s past).filter fun e => runs e.2).map (fun e => (e.1.now, closes e.2)) =
      [(610, false), (605, false), (600, true), (596, false)] := by
  decide +kernel

end WeatherStation.Proofs.Station
