import WeatherStation.Proofs.Config.StoredSettings
import WeatherStation.Station.Basic

/-!
# `WeatherStation.Proofs.Station.Round`: one round of the station after the other

A `Round` is what a round of the station meets: its time, what a read of the sensor gives and what
the publisher answers. Times come in any order, and so do readings and answers, so a list of
rounds stands for any clock, any sensor and any publisher. Lists of rounds are newest first.

`Does` says everything that a round can do, one constructor for each outcome, and `perform_does`
that it does nothing else. `log` pairs the rounds with their outcomes, and the outcomes tell which
rounds ran, which got a reading and which closed a cycle. `load_periods` and `load_divides` have
what is certain of all settings that are loaded, whatever was built in or stored: neither of the two
periods is zero, and the publish period divides the hour.
-/

set_option autoImplicit false

namespace WeatherStation.Proofs.Station

open WeatherStation.Aggregation WeatherStation.Config WeatherStation.Mqtt WeatherStation.Sensor

/-- What a round meets: its time in seconds since the epoch, what a read of the sensor gives and
what the publisher answers. Every round has all three, also one that does not get as far as to ask
for them. -/
structure Round where
  now : Nat
  reading : Except ReadError Reading
  answer : Except PublishError Unit

/-- The minute since the epoch. Boundaries go by minutes and the throttle by seconds, so most laws
about runs need both. -/
def Round.minute (r : Round) : Nat := r.now / 60

/-- The outcome of a round, and the station after it. The two collaborators of `Station.tick` give
what the round says, so that no effects are left. -/
def perform (s : Station) (r : Round) : Outcome × Station :=
  Id.run (s.tick (pure r.reading) (fun _ _ => pure r.answer) r.now)

/-- The station after some rounds. The newest round is at the head of the list, and an induction on
the list takes away the round that came last. -/
def after (s : Station) : List Round → Station
  | [] => s
  | r :: past => (perform (after s past) r).2

/-- The rounds with their outcomes, newest first like the rounds. What the later modules say of a
run they say of its log. -/
def log (s : Station) : List Round → List (Round × Outcome)
  | [] => []
  | r :: past => (r, (perform (after s past) r).1) :: log s past

/-! ### What a round does -/

/-- The station when a reading has been offered to both channels and the boundary has been asked.
Whether the cycle ends here is decided afterwards, and the state is the same in both cases. -/
def fed (s : Station) (now : Nat) (reading : Reading) : Station :=
  { s with
    lastSample := some now
    temperature := (s.temperature.commit reading.temperature.toInt32 (Station.sampleTime now)
      temperatureThreshold).2
    humidity := (s.humidity.commit (Int32.ofNat reading.humidity.toNat) (Station.sampleTime now)
      humidityThreshold).2
    boundary := (s.boundary.check now).2 }

/-- The station with both channels empty, as the end of a cycle leaves it whatever becomes of the
message. -/
def emptied (s : Station) : Station :=
  { s with temperature := s.temperature.reset, humidity := s.humidity.reset }

/-- Everything that a round can do: one constructor for each outcome, with the guards that lead to
it and the station after it. What holds of all rounds is proved by cases on it, and nothing but
`perform_does` looks into a round. -/
inductive Does (s : Station) (r : Round) : Outcome × Station → Prop where
  | throttled (h : s.isThrottled r.now = true) : Does s r (.throttled, s)
  | failed {e : ReadError} (h : s.isThrottled r.now = false) (hread : r.reading = .error e) :
    Does s r (.sensorFailed e, { s with lastSample := some r.now })
  | sampled {reading : Reading} {temperature humidity : Bool} (h : s.isThrottled r.now = false)
      (hread : r.reading = .ok reading) (hquiet : (s.boundary.check r.now).1 = false) :
    Does s r (.sampled temperature humidity, fed s r.now reading)
  | published {reading : Reading} {temperature humidity : Summary}
      (h : s.isThrottled r.now = false) (hread : r.reading = .ok reading)
      (hfires : (s.boundary.check r.now).1 = true)
      (htemperature : (fed s r.now reading).temperature.summary? = some temperature)
      (hhumidity : (fed s r.now reading).humidity.summary? = some humidity) :
    Does s r (.published r.answer, emptied (fed s r.now reading))
  | nothing {reading : Reading} (h : s.isThrottled r.now = false)
      (hread : r.reading = .ok reading) (hfires : (s.boundary.check r.now).1 = true)
      (hempty : (fed s r.now reading).temperature.summary? = none ∨
        (fed s r.now reading).humidity.summary? = none) :
    Does s r (.nothingToPublish, emptied (fed s r.now reading))

/-- A reading that was got is offered to both channels. The round ends with this, unless the
boundary fires and the cycle is closed. -/
theorem sample_ok (s : Station) (now : Nat) (reading : Reading) :
    s.sample now (.ok reading) =
      if (s.boundary.check now).1 then (fed s now reading).closeCycle
      else (.ended (.sampled
        (s.temperature.commit reading.temperature.toInt32 (Station.sampleTime now)
          temperatureThreshold).1
        (s.humidity.commit (Int32.ofNat reading.humidity.toNat) (Station.sampleTime now)
          humidityThreshold).1), fed s now reading) := rfl

/-- The end of a cycle. Either both channels have a summary and a message is made of them, or one
has none and there is nothing to publish. Both channels are empty afterwards in either case. -/
theorem closeCycle_cases (s : Station) :
    (∃ temperature humidity, s.temperature.summary? = some temperature ∧
      s.humidity.summary? = some humidity ∧
      s.closeCycle = (.due (.ofSummaries s.uid temperature humidity), emptied s)) ∨
    ((s.temperature.summary? = none ∨ s.humidity.summary? = none) ∧
      s.closeCycle = (.ended .nothingToPublish, emptied s)) := by
  unfold Station.closeCycle Buffer.flush
  cases s.temperature.summary? with
  | none => exact .inr ⟨.inl rfl, rfl⟩
  | some temperature =>
    cases s.humidity.summary? with
    | none => exact .inr ⟨.inr rfl, rfl⟩
    | some humidity => exact .inl ⟨temperature, humidity, rfl, rfl, rfl⟩

/-- A round without its effects: throttled, ended by itself, or ended by what the publisher answers
to the message that is due. -/
theorem perform_eq (s : Station) (r : Round) :
    perform s r =
      if s.isThrottled r.now then (.throttled, s)
      else match s.sample r.now r.reading with
        | (.ended outcome, s) => (outcome, s)
        | (.due _, s) => (.published r.answer, s) := by
  rw [perform, Station.tick]
  cases s.isThrottled r.now with
  | true => rfl
  | false =>
    show Id.run (match s.sample r.now r.reading with
      | (.ended outcome, s) => pure (outcome, s)
      | (.due _, s) => pure (.published r.answer, s)) = _
    rw [if_neg Bool.false_ne_true]
    split <;> rfl

/-- A round does nothing but what `Does` lists. The cases are the guards of a round in the order in
which it looks at them: the throttle, the reading, the boundary and the summaries. -/
theorem perform_does (s : Station) (r : Round) : Does s r (perform s r) := by
  rw [perform_eq]
  cases hthrottled : s.isThrottled r.now with
  | true => exact .throttled hthrottled
  | false =>
    rw [if_neg Bool.false_ne_true]
    cases hread : r.reading with
    | error e => exact .failed hthrottled hread
    | ok reading =>
      rw [sample_ok]
      cases hfires : (s.boundary.check r.now).1 with
      | false => exact .sampled hthrottled hread hfires
      | true =>
        rw [if_pos rfl]
        rcases closeCycle_cases (fed s r.now reading) with
          ⟨t, h, ht, hh, hclose⟩ | ⟨hempty, hclose⟩
        · rw [hclose]
          exact .published hthrottled hread hfires ht hh
        · rw [hclose]
          exact .nothing hthrottled hread hfires hempty

/-! ### What the log tells -/

/-- Whether the round was more than throttled. Such a round moves the time from which the next one
is throttled. -/
def runs : Outcome → Bool
  | .throttled => false
  | _ => true

/-- Whether the round ended a cycle. It may have had nothing to publish, but both channels are empty
after it. -/
def closes : Outcome → Bool
  | .published _ => true
  | .nothingToPublish => true
  | _ => false

/-- Whether the round handed a message to the publisher, whatever the publisher answered. -/
def publishes : Outcome → Bool
  | .published _ => true
  | _ => false

/-- Whether the round read the sensor and got a reading. Only such rounds offer anything to the
channels, and only they look at the boundary. -/
def reads (e : Round × Outcome) : Bool := runs e.2 && e.1.reading.isOk

/-- How many readings there were since a cycle ended last. The channels count the same readings in
32 bits, and a cycle of more readings than that is the one case in which they may seem empty. -/
def readingsSince (entries : List (Round × Outcome)) : Nat :=
  (entries.takeWhile fun e => !closes e.2).countP reads

section
variable {s : Station} {r : Round}

/-- A round runs exactly if the throttle lets it. What the sensor and the publisher do has no part
in it. -/
theorem runs_perform (s : Station) (r : Round) :
    runs (perform s r).1 = !s.isThrottled r.now := by
  have h := perform_does s r
  generalize perform s r = y at h
  cases h <;> simp [runs, *]

/-- A round that got a reading looks at the boundary, and closes the cycle if it fires. Without a
reading no cycle is closed, also in a boundary minute. -/
theorem closes_perform (s : Station) (r : Round) :
    closes (perform s r).1 = (reads (r, (perform s r).1) && (s.boundary.check r.now).1) := by
  have h := perform_does s r
  generalize perform s r = y at h
  cases h <;> simp [closes, reads, runs, Except.isOk, Except.toBool, *]

/-- The boundary remembers a minute only if it was asked, so it is as before after a round without a
reading. -/
theorem boundary_perform (s : Station) (r : Round) :
    (perform s r).2.boundary =
      if reads (r, (perform s r).1) then (s.boundary.check r.now).2 else s.boundary := by
  have h := perform_does s r
  generalize perform s r = y at h
  cases h <;> simp [reads, runs, Except.isOk, Except.toBool, fed, emptied, *]

/-- The time of the last round that was more than throttled is what the throttle goes by. A failed
read counts like one that gave a reading. -/
theorem lastSample_perform (s : Station) (r : Round) :
    (perform s r).2.lastSample = if s.isThrottled r.now then s.lastSample else some r.now := by
  have h := perform_does s r
  generalize perform s r = y at h
  cases h <;> simp [fed, emptied, *]

/-- No round changes the settings. -/
theorem settings_perform (s : Station) (r : Round) : (perform s r).2.settings = s.settings := by
  have h := perform_does s r
  generalize perform s r = y at h
  cases h <;> rfl

/-- So a run has the settings it began with, and what is known of loaded settings is known at any
moment of a run. -/
theorem settings_after (s : Station) (past : List Round) :
    (after s past).settings = s.settings := by
  induction past with
  | nil => rfl
  | cons r past ih => rw [after, settings_perform, ih]

/-- No round changes the id that the messages carry. -/
theorem uid_perform (s : Station) (r : Round) : (perform s r).2.uid = s.uid := by
  have h := perform_does s r
  generalize perform s r = y at h
  cases h <;> rfl

/-- So all messages of a run carry the id that the station began with. -/
theorem uid_after (s : Station) (past : List Round) : (after s past).uid = s.uid := by
  induction past with
  | nil => rfl
  | cons r past ih => rw [after, uid_perform, ih]

end

section
variable {s : Station} {past : List Round} {e : Round × Outcome} {entries : List (Round × Outcome)}

/-- A round that closes a cycle publishes, if it has anything to publish. -/
theorem publishes_eq_closes {outcome : Outcome} (h : outcome ≠ .nothingToPublish) :
    publishes outcome = closes outcome := by
  cases outcome with
  | nothingToPublish => exact absurd rfl h
  | _ => rfl

/-- A round that got a reading was not throttled. -/
theorem runs_of_reads (h : reads e = true) : runs e.2 = true := (Bool.and_eq_true_iff.mp h).1

/-- One round more: the count starts over if it ends a cycle, and grows by its reading if it got
one. This is the step by which the channels are compared with the count. -/
theorem readingsSince_cons (e : Round × Outcome) (entries : List (Round × Outcome)) :
    readingsSince (e :: entries) =
      if closes e.2 then 0 else readingsSince entries + if reads e then 1 else 0 := by
  rw [readingsSince, List.takeWhile_cons]
  cases closes e.2 with
  | true => rfl
  | false => exact List.countP_cons

/-- There are no more readings since the last cycle than in the whole log, which is what bounds the
count of a channel in a short run. -/
theorem readingsSince_le (entries : List (Round × Outcome)) :
    readingsSince entries ≤ entries.countP reads := (List.takeWhile_sublist _).countP_le

/-- The log is about the rounds of the run and no others, so a bound on the times of the rounds is
one on the times in the log. -/
theorem mem_of_mem_log (h : e ∈ log s past) : e.1 ∈ past := by
  induction past with
  | nil => cases h
  | cons r past ih =>
    rcases List.mem_cons.mp h with rfl | hold
    · exact List.mem_cons_self
    · exact List.mem_cons_of_mem _ (ih hold)

/-- Every entry of the log comes from a round after those behind it. So a law about the newest round
holds at every place of the log. -/
theorem split_log {later earlier : List (Round × Outcome)}
    (h : log s past = later ++ e :: earlier) :
    ∃ r before, e = (r, (perform (after s before) r).1) ∧ earlier = log s before := by
  induction past generalizing later with
  | nil => simp [log] at h
  | cons r past ih =>
    rw [log] at h
    cases later with
    | nil =>
      obtain ⟨rfl, rfl⟩ := List.cons.inj h
      exact ⟨r, past, rfl, rfl⟩
    | cons x later => exact ih (List.cons.inj h).2

end

/-! ### The settings that are loaded -/

/-- Neither of the two periods is zero, whatever is built in or stored. A station without a measure
period would never be throttled, and one without a publish period would divide by it. -/
theorem load_periods {σ : Type} (built : Built) (a : Access σ) (store : σ) :
    (Settings.load built a store).publishPeriodMins ≠ 0 ∧
      (Settings.load built a store).measurePeriodSecs ≠ 0 := by
  have hne : ∀ {n : UInt32}, 1 ≤ n.toNat → n ≠ 0 := by
    rintro n hn rfl
    exact absurd hn (by decide)
  obtain ⟨-, hpublish, hmeasure, -⟩ := Config.load_bounds built a store
  exact ⟨hne hpublish, hne hmeasure⟩

/-- The publish period divides the hour, whatever is built in or stored. So boundaries, which go by
the minute of the hour, are as far apart at the end of an hour as anywhere else. -/
theorem load_divides {σ : Type} (built : Built) (a : Access σ) (store : σ) :
    (Settings.load built a store).publishPeriodMins.toNat ∣ 60 :=
  (Config.load_bounds built a store).1

/-- So its seconds can be counted in 32 bits, as the channels do when they find the start of a
period. -/
theorem load_period_lt {σ : Type} (built : Built) (a : Access σ) (store : σ) :
    60 * (Settings.load built a store).publishPeriodMins.toNat < UInt32.size := by
  have hle := Nat.le_of_dvd (by decide) (load_divides built a store)
  have hsize : UInt32.size = 4294967296 := rfl
  omega

end WeatherStation.Proofs.Station
