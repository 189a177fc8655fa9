import WeatherStation.Proofs.Aggregation.Statistics
import WeatherStation.Proofs.Station.Round

/-!
# `WeatherStation.Proofs.Station.Readings`: the readings of a run, and what the buffers hold of them

The readings of a run fall into cycles: `samplesSince` are those of the open one, and `cycles` those
of the closed ones. No reading is in two cycles and none is left out (`flatten_cycles`).

`Gathered` says that the buffers hold what the readings of the open cycle offer to them, both the
same readings. It is kept by every round (`perform_gathered`), as long as the readings of a cycle
can be counted in 32 bits. A cycle that can be counted has a summary of both channels when it is
closed (`overflow_of_nothing`).
-/

set_option autoImplicit false

namespace WeatherStation.Proofs.Station

open WeatherStation.Aggregation WeatherStation.Config WeatherStation.Sensor
  WeatherStation.Proofs.Aggregation

/-! ### Readings and cycles -/

/-- A reading with its time. -/
structure Sample where
  time : Nat
  reading : Reading

/-- The reading that a round got from the sensor. -/
def sample? (e : Round × Outcome) : Option Sample :=
  if runs e.2 then e.1.reading.toOption.map (Sample.mk e.1.now) else none

/-- The readings since a cycle was closed last. -/
def samplesSince (entries : List (Round × Outcome)) : List Sample :=
  (entries.takeWhile fun e => !closes e.2).filterMap sample?

/-- The readings of the cycles that have been closed, each with the reading that closed it. -/
def cycles : List (Round × Outcome) → List (List Sample)
  | [] => []
  | e :: entries =>
    if closes e.2 then ((sample? e).toList ++ samplesSince entries) :: cycles entries
    else cycles entries

/-- A round has a sample exactly if it reads. -/
theorem isSome_sample? (e : Round × Outcome) : (sample? e).isSome = reads e := by
  rw [sample?, reads]
  cases runs e.2 with
  | false => rfl
  | true => cases e.1.reading <;> rfl

/-- A round that closes a cycle leaves none open, and any other adds its sample. -/
theorem samplesSince_cons (e : Round × Outcome) (entries : List (Round × Outcome)) :
    samplesSince (e :: entries) =
      if closes e.2 then [] else (sample? e).toList ++ samplesSince entries := by
  rw [samplesSince, List.takeWhile_cons]
  cases closes e.2 with
  | true => rfl
  | false =>
    show List.filterMap sample? (e :: _) = _
    rw [List.filterMap_cons]
    cases sample? e <;> rfl

/-- There is one sample for each round that has read since. -/
theorem length_samplesSince (entries : List (Round × Outcome)) :
    (samplesSince entries).length = readingsSince entries := by
  induction entries with
  | nil => rfl
  | cons e entries ih =>
    rw [samplesSince_cons, readingsSince_cons]
    split
    · rfl
    · rw [List.length_append, ih, ← isSome_sample?]
      cases sample? e <;> simp [Nat.add_comm]

/-- Every reading belongs to one cycle. -/
theorem flatten_cycles (entries : List (Round × Outcome)) :
    samplesSince entries ++ (cycles entries).flatten = entries.filterMap sample? := by
  induction entries with
  | nil => rfl
  | cons e entries ih =>
    have hcons : (e :: entries).filterMap sample? =
        (sample? e).toList ++ entries.filterMap sample? := by
      rw [List.filterMap_cons]
      cases sample? e <;> rfl
    rw [hcons, samplesSince_cons, cycles, ← ih]
    split
    · rw [List.flatten_cons, List.nil_append, List.append_assoc]
    · rw [List.append_assoc]

/-! ### The buffers hold the open cycle -/

/-- The samples that readings offer to a channel. -/
def offers (value : Reading → Int32) (threshold : UInt32) (samples : List Sample) : List Offer :=
  samples.map fun x => ⟨value x.reading, Station.sampleTime x.time, threshold⟩

/-- The samples of the temperature. -/
def temperatures : List Sample → List Offer :=
  offers (fun reading => reading.temperature.toInt32) temperatureThreshold

/-- The samples of the humidity. -/
def humidities : List Sample → List Offer :=
  offers (fun reading => Int32.ofNat reading.humidity.toNat) humidityThreshold

/-- Both buffers hold the samples of the same readings, if these can be counted. -/
structure Gathered (period : UInt32) (samples : List Sample) (s : Station) : Prop where
  periods : s.temperature.period = period ∧ s.humidity.period = period
  temperature : samples.length < UInt32.size →
    Tallied period (temperatures samples) s.temperature
  humidity : samples.length < UInt32.size → Tallied period (humidities samples) s.humidity

section
variable {value : Reading → Int32} {threshold : UInt32} {samples : List Sample}

/-- Each reading is offered once. -/
theorem length_offers : (offers value threshold samples).length = samples.length :=
  List.length_map ..

/-- A cycle with a reading offers something to each channel. -/
theorem offers_ne_nil (h : samples ≠ []) : offers value threshold samples ≠ [] := by
  simpa [offers] using h

/-- A reading of the sensor has 16 bits, and its values lie well within the 32 bits of a buffer. -/
theorem inner_offers (h : ∀ reading, Inner (value reading)) :
    ∀ o ∈ offers value threshold samples, Inner o.value := by
  intro o ho
  obtain ⟨x, -, rfl⟩ := List.mem_map.mp ho
  exact h x.reading

end

/-- A temperature has 16 bits. -/
theorem inner_temperature (reading : Reading) : Inner reading.temperature.toInt32 := by
  have hlow := reading.temperature.le_toInt
  have hhigh := reading.temperature.toInt_lt
  have hvalue := reading.temperature.toInt_toInt32
  -- Both excluded values need 32 bits.
  constructor <;> intro h <;> rw [h] at hvalue
  · have hmin : Int32.minValue.toInt = -2147483648 := rfl
    omega
  · have hmax : Int32.maxValue.toInt = 2147483647 := rfl
    omega

/-- A humidity has 16 bits, so it is neither of the two numbers that a buffer starts from. -/
theorem inner_humidity (reading : Reading) : Inner (Int32.ofNat reading.humidity.toNat) := by
  have hlt : reading.humidity.toNat < 65536 := reading.humidity.toNat_lt
  have hvalue : (Int32.ofNat reading.humidity.toNat).toInt = reading.humidity.toNat :=
    Int32.toInt_ofNat_of_lt (by omega)
  constructor <;> intro h <;> rw [h] at hvalue
  · have hmin : Int32.minValue.toInt = -2147483648 := rfl
    omega
  · have hmax : Int32.maxValue.toInt = 2147483647 := rfl
    omega

section
variable {period : UInt32} {samples : List Sample} {s : Station} {r : Round}
  {entries : List (Round × Outcome)}

/-- New buffers hold the readings of a cycle that has none. -/
theorem gathered_of_new (hperiod : period ≠ 0) (htemperature : s.temperature = .new period)
    (hhumidity : s.humidity = .new period) : Gathered period [] s := by
  have hkept : (Buffer.new period).period = period := if_neg hperiod
  refine ⟨?_, fun _ => ?_, fun _ => ?_⟩
  · rw [htemperature, hhumidity]
    exact ⟨hkept, hkept⟩
  · rw [htemperature]
    exact tallied_new hperiod
  · rw [hhumidity]
    exact tallied_new hperiod

/-- An emptied station has fresh buffers. -/
theorem Gathered.buffers_emptied (h : Gathered period samples s) :
    (emptied s).temperature = .new period ∧ (emptied s).humidity = .new period :=
  ⟨congrArg Buffer.new h.periods.1, congrArg Buffer.new h.periods.2⟩

/-- Another reading. -/
theorem Gathered.feed (h : Gathered period samples s) (now : Nat) (reading : Reading) :
    Gathered period (⟨now, reading⟩ :: samples) (fed s now reading) := by
  refine ⟨⟨?_, ?_⟩, fun hcount => ?_, fun hcount => ?_⟩
  · exact period_commit.trans h.periods.1
  · exact period_commit.trans h.periods.2
  · rw [List.length_cons] at hcount
    exact (h.temperature (by omega)).commit
      ⟨reading.temperature.toInt32, Station.sampleTime now, temperatureThreshold⟩
      (by rwa [temperatures, length_offers])
  · rw [List.length_cons] at hcount
    exact (h.humidity (by omega)).commit
      ⟨Int32.ofNat reading.humidity.toNat, Station.sampleTime now, humidityThreshold⟩
      (by rwa [humidities, length_offers])

/-- Every round keeps it. -/
theorem perform_gathered (hperiod : period ≠ 0) (h : Gathered period (samplesSince entries) s)
    (r : Round) :
    Gathered period (samplesSince ((r, (perform s r).1) :: entries)) (perform s r).2 := by
  have hdoes := perform_does s r
  generalize perform s r = y at hdoes
  rw [samplesSince_cons]
  cases hdoes with
  | throttled hthrottled => exact h
  | @failed e hpassed hread =>
    have hnone : sample? (r, .sensorFailed e) = none := by
      rw [sample?, hread]
      rfl
    rw [hnone]
    exact ⟨h.periods, h.temperature, h.humidity⟩
  | @sampled reading temperature humidity hpassed hread hquiet =>
    have hsome : sample? (r, .sampled temperature humidity) = some ⟨r.now, reading⟩ := by
      rw [sample?, hread]
      rfl
    rw [hsome]
    exact h.feed r.now reading
  -- A round that closes the cycle feeds the buffers first and empties them then.
  | published hpassed hread hfires htemperature hhumidity =>
    obtain ⟨htemperature, hhumidity⟩ := (h.feed r.now _).buffers_emptied
    exact gathered_of_new hperiod htemperature hhumidity
  | nothing hpassed hread hfires hempty =>
    obtain ⟨htemperature, hhumidity⟩ := (h.feed r.now _).buffers_emptied
    exact gathered_of_new hperiod htemperature hhumidity

/-- With a reading both channels have a summary, and it describes the accepted samples. -/
theorem Gathered.summaries (h : Gathered period samples s)
    (hperiod : 60 * period.toNat < UInt32.size) (hsome : samples ≠ [])
    (hcount : samples.length < UInt32.size) :
    ∃ temperature humidity,
      s.temperature.summary? = some temperature ∧ s.humidity.summary? = some humidity ∧
      Describes period (taken (temperatures samples)) temperature ∧
      Describes period (taken (humidities samples)) humidity := by
  obtain ⟨temperature, htemperature, hdescribes⟩ := (h.temperature hcount).describes
    (offers_ne_nil hsome) (by rwa [temperatures, length_offers]) hperiod
    (inner_offers inner_temperature)
  obtain ⟨humidity, hhumidity, hdescribes'⟩ := (h.humidity hcount).describes
    (offers_ne_nil hsome) (by rwa [humidities, length_offers]) hperiod (inner_offers inner_humidity)
  exact ⟨temperature, humidity, htemperature, hhumidity, hdescribes, hdescribes'⟩

/-- A round has nothing to publish only if its cycle has too many readings to count. -/
theorem overflow_of_nothing (hperiod : 60 * period.toNat < UInt32.size)
    (h : Gathered period (samplesSince entries) s)
    (hnothing : (perform s r).1 = .nothingToPublish) :
    UInt32.size ≤ (samplesSince entries).length + 1 := by
  have hdoes := perform_does s r
  generalize perform s r = y at hdoes hnothing
  cases hdoes with
  | @nothing reading hpassed hread hfires hempty =>
    -- The round has just fed a reading to both channels.
    refine Nat.le_of_not_lt fun hcount => ?_
    obtain ⟨temperature, humidity, htemperature, hhumidity, -, -⟩ :=
      (h.feed r.now reading).summaries hperiod (List.cons_ne_nil _ _) hcount
    rw [htemperature, hhumidity] at hempty
    simp at hempty
  | _ => cases hnothing

end

section
variable {σ : Type} (built : Built) (a : Access σ) (store : σ) (uid : String)

/-- In every run of a station with settings that are built in or stored. -/
theorem gathered_log (past : List Round) :
    let s := Station.new (Settings.load built a store) uid
    Gathered s.settings.publishPeriodMins (samplesSince (log s past)) (after s past) := by
  intro s
  induction past with
  | nil => exact gathered_of_new (load_periods built a store).1 rfl rfl
  | cons r past ih => exact perform_gathered (load_periods built a store).1 ih r

end

end WeatherStation.Proofs.Station
