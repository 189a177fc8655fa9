import WeatherStation.Proofs.Station.Payload

/-!
# `WeatherStation.Proofs.Station.Conservation`: every reading counts once

A reading is offered to both channels in the round that gets it, and each channel accepts or rejects
it. It stays with its cycle until a round closes the cycle, and the message of that round tells of
the accepted readings of the cycle and of no others. `samples_conserved` says this of every run with
times in 32 bits. It rests on `gathered_log` for the buffers and on `tells_log` for the messages.
-/

set_option autoImplicit false

namespace WeatherStation.Proofs.Station

open WeatherStation.Aggregation WeatherStation.Config WeatherStation.Mqtt WeatherStation.Sensor
  WeatherStation.Proofs.Aggregation

section
variable {period : UInt32} {samples : List Sample} {s : Station} {r : Round}

/-- Both channels have the same first reading. -/
theorem Gathered.first_time_eq (h : Gathered period samples s)
    (hcount : samples.length < UInt32.size) :
    s.temperature.first.map (·.time) = s.humidity.first.map (·.time) := by
  -- Neither the values nor the threshold has a part in the first time.
  have hfirst {value : Reading → Int32} {threshold : UInt32} :
      (taken (offers value threshold samples)).getLast?.map (fun o => periodStart period o.time) =
        samples.getLast?.map fun x => periodStart period (Station.sampleTime x.time) := by
    rw [getLast?_taken, offers, List.getLast?_map, Option.map_map]
    rfl
  rw [(h.temperature hcount).first, (h.humidity hcount).first, Option.map_map, Option.map_map]
  exact hfirst.trans hfirst.symm

/-- The channels have counted every reading. -/
theorem Gathered.counts (h : Gathered period samples s) (hcount : samples.length < UInt32.size) :
    s.temperature.count.toNat + s.temperature.rejected.toNat = samples.length ∧
      s.humidity.count.toNat + s.humidity.rejected.toNat = samples.length := by
  have htemperature := h.temperature hcount
  have hhumidity := h.humidity hcount
  constructor
  · rw [htemperature.count, htemperature.rejected, temperatures, length_offers]
  · rw [hhumidity.count, hhumidity.rejected, humidities, length_offers]

/-- A round without a reading leaves both channels as they are. -/
theorem channels_perform (h : sample? (r, (perform s r).1) = none) :
    (perform s r).2.temperature = s.temperature ∧ (perform s r).2.humidity = s.humidity := by
  have hdoes := perform_does s r
  generalize perform s r = y at hdoes h
  cases hdoes with
  | throttled | failed => exact ⟨rfl, rfl⟩
  | sampled hpassed hread | published hpassed hread | nothing hpassed hread =>
    simp [sample?, runs, hread, Except.toOption] at h

/-- A round that closes a cycle leaves fresh channels. -/
theorem fresh_perform (h : Gathered period samples s) (hcloses : closes (perform s r).1 = true) :
    (perform s r).2.temperature = .new period ∧ (perform s r).2.humidity = .new period := by
  have hdoes := perform_does s r
  generalize perform s r = y at hdoes hcloses
  cases hdoes with
  | throttled | failed | sampled => cases hcloses
  | published | nothing => exact (h.feed r.now _).buffers_emptied

/-- The outcome tells which of the channels have accepted the reading. -/
theorem flags_perform (h : Gathered period samples s) (hcount : samples.length < UInt32.size)
    {temperature humidity : Bool} (hsampled : (perform s r).1 = .sampled temperature humidity) :
    ∃ reading, r.reading = .ok reading ∧
      (temperature = true ↔ Fits (taken (temperatures samples))
        ⟨reading.temperature.toInt32, Station.sampleTime r.now, temperatureThreshold⟩) ∧
      (humidity = true ↔ Fits (taken (humidities samples))
        ⟨Int32.ofNat reading.humidity.toNat, Station.sampleTime r.now, humidityThreshold⟩) := by
  -- `Does` leaves the two marks open, so the round itself is taken apart.
  rw [perform_eq] at hsampled
  cases hthrottled : s.isThrottled r.now with
  | true =>
    rw [hthrottled, if_pos rfl] at hsampled
    cases hsampled
  | false =>
    rw [hthrottled, if_neg Bool.false_ne_true] at hsampled
    cases hread : r.reading with
    | error e =>
      rw [hread] at hsampled
      cases hsampled
    | ok reading =>
      rw [hread, sample_ok] at hsampled
      cases hfires : (s.boundary.check r.now).1 with
      | true =>
        rw [hfires, if_pos rfl] at hsampled
        rcases closeCycle_cases (fed s r.now reading) with ⟨_, _, -, -, hclose⟩ | ⟨-, hclose⟩ <;>
          rw [hclose] at hsampled <;> cases hsampled
      | false =>
        rw [hfires, if_neg Bool.false_ne_true] at hsampled
        obtain ⟨rfl, rfl⟩ := Outcome.sampled.inj hsampled
        exact ⟨reading, rfl, (h.temperature hcount).commit_fst ⟨_, _, _⟩,
          (h.humidity hcount).commit_fst ⟨_, _, _⟩⟩

end

section
variable {σ : Type} (built : Built) (a : Access σ) (store : σ) (uid : String)

/-- For all settings that are built in or stored, and in every run of rounds at times in 32 bits, in
whatever order, with any readings and answers:

1. Both channels have the same first time, or none.
2. Each channel has accepted or rejected every reading since a cycle was closed last.
3. What the publisher is handed are the messages of the run. There is one for each closed cycle, and
   it tells of the accepted readings of that cycle.
4. Every reading belongs to one cycle, and to one only.
5. After a round that closes a cycle both channels are as new, whatever the publisher answers.
6. A round that is throttled or gets no reading changes neither channel.
7. A round that gets a reading and closes no cycle tells which of the channels accept it.
8. No round finds nothing to publish.

The last four are about the next round after the run, so about every round. -/
theorem samples_conserved (past : List Round) (htimes : ∀ r ∈ past, r.now < UInt32.size) :
    let s := Station.new (Settings.load built a store) uid
    let period := s.settings.publishPeriodMins
    let entries := log s past
    let present := after s past
    let samples := samplesSince entries
    present.temperature.first.map (·.time) = present.humidity.first.map (·.time) ∧
    (present.temperature.count.toNat + present.temperature.rejected.toNat = samples.length ∧
      present.humidity.count.toNat + present.humidity.rejected.toNat = samples.length) ∧
    (outbox s past = (telemetries s past).map (fun sent => written sent.2) ∧
      List.Forall₂ (Tells period uid) (telemetries s past) (cycles entries)) ∧
    samples ++ (cycles entries).flatten = entries.filterMap sample? ∧
    ∀ r : Round, r.now < UInt32.size →
      let next := perform present r
      (closes next.1 = true →
        next.2.temperature = .new period ∧ next.2.humidity = .new period) ∧
      ((next.1 = .throttled ∨ ∃ e, next.1 = .sensorFailed e) →
        next.2.temperature = present.temperature ∧ next.2.humidity = present.humidity) ∧
      (∀ temperature humidity, next.1 = .sampled temperature humidity →
        ∃ reading, r.reading = .ok reading ∧
          (temperature = true ↔ Fits (taken (temperatures samples))
            ⟨reading.temperature.toInt32, Station.sampleTime r.now, temperatureThreshold⟩) ∧
          (humidity = true ↔ Fits (taken (humidities samples))
            ⟨Int32.ofNat reading.humidity.toNat, Station.sampleTime r.now, humidityThreshold⟩)) ∧
      next.1 ≠ .nothingToPublish := by
  intro s period entries present samples
  have hgathered := gathered_log built a store uid past
  have hcount := countable_log built a store uid past htimes
  refine ⟨hgathered.first_time_eq hcount, hgathered.counts hcount,
    ⟨outbox_eq s past, tells_log built a store uid past htimes⟩, flatten_cycles entries,
    fun r htime => ⟨fresh_perform hgathered, fun hidle => channels_perform ?_,
      fun temperature humidity => flags_perform hgathered hcount,
      publishes_of_closes built a store uid past htime⟩⟩
  -- What is left is that a round without a sample leaves the channels alone.
  have hdoes := perform_does present r
  rcases hidle with hthrottled | ⟨e, hfailed⟩
  · rw [hthrottled]
    rfl
  · generalize perform present r = y at hdoes hfailed
    cases hdoes with
    | failed hpassed hread =>
      rw [sample?, hread]
      rfl
    | _ => cases hfailed

end

/-- The sixth reading is too warm for the first five. The next one closes the cycle, and the
publisher does not take the message. -/
theorem samples_conserved_outlier :
    let s := Station.new (Settings.load .plain MemoryStore.access .empty) "uid"
    let past := Round.mk 81 (.ok ⟨300, 450⟩) (.ok ()) ::
      [77, 73, 69, 65, 61].map fun now => Round.mk now (.ok ⟨235, 450⟩) (.ok ())
    let present := after s past
    let next := perform present ⟨600, .ok ⟨236, 450⟩, .error .notConnected⟩
    (∀ r ∈ past, r.now < UInt32.size) ∧
    present.temperature.rejected = 1 ∧ present.humidity.rejected = 0 ∧
    (present.temperature.count.toNat + present.temperature.rejected.toNat = 6 ∧
      present.humidity.count.toNat + present.humidity.rejected.toNat = 6) ∧
    closes next.1 = true ∧ next.2.temperature = .new 10 ∧ next.2.humidity = .new 10 := by
  intro s past present next
  have htimes : ∀ r ∈ past, r.now < UInt32.size := by decide +kernel
  have hsix : (samplesSince (log s past)).length = 6 := by decide +kernel
  have hrejected : present.temperature.rejected = 1 ∧ present.humidity.rejected = 0 := by
    decide +kernel
  have hcloses : closes next.1 = true := by decide +kernel
  have hperiod : s.settings.publishPeriodMins = 10 := by decide +kernel
  -- What follows does not need the rounds themselves.
  clear_value past
  obtain ⟨-, hcounts, -, -, hnext⟩ :=
    samples_conserved .plain MemoryStore.access .empty "uid" past htimes
  have hboth : present.temperature.count.toNat + present.temperature.rejected.toNat = 6 ∧
      present.humidity.count.toNat + present.humidity.rejected.toNat = 6 := by
    rw [← hsix]
    exact hcounts
  have hfresh : next.2.temperature = .new 10 ∧ next.2.humidity = .new 10 := by
    rw [← hperiod]
    exact (hnext ⟨600, .ok ⟨236, 450⟩, .error .notConnected⟩ (by decide)).1 hcloses
  exact ⟨htimes, hrejected.1, hrejected.2, hboth, hcloses, hfresh⟩

end WeatherStation.Proofs.Station
