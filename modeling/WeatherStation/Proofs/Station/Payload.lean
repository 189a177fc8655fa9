import Mathlib.Data.List.Forall2
import WeatherStation.Proofs.Station.Cycle

/-!
# `WeatherStation.Proofs.Station.Payload`: what the station hands to its publisher

`outbox` is what a publisher gets to see: the topics and texts of a run, written down by `record`.
`telemetries` has the messages behind the texts, each with the round that sent it, and
`outbox_eq` says that the two agree.

The buffers hold the open cycle as long as its readings can be counted in 32 bits, and times in 32
bits see to that: a cycle has no more readings than the seconds that have passed (`Sparse`). So
every closed cycle has its message, and the message tells of the accepted readings of the cycle
(`tells_log`).
-/

set_option autoImplicit false

namespace WeatherStation.Proofs.Station

open WeatherStation.Aggregation WeatherStation.Config WeatherStation.Message WeatherStation.Mqtt
  WeatherStation.Sensor WeatherStation.Proofs.Aggregation

/-! ### What the publisher sees -/

/-- A publisher that writes down what it is handed, topic and text, newest first. -/
def record (answer : Except PublishError Unit) :
    Station.Publisher (StateM (List (String × String))) := fun topic text => do
  modify ((topic, text) :: ·)
  return answer

/-- Everything that the publisher is handed in some rounds. -/
def outbox (s : Station) : List Round → List (String × String)
  | [] => []
  | r :: past =>
    (((after s past).tick (pure r.reading) (record r.answer) r.now).run (outbox s past)).2

/-- The message that a round hands to the publisher. -/
def due? (s : Station) (r : Round) : Option Telemetry :=
  if s.isThrottled r.now then none
  else match (s.sample r.now r.reading).1 with
    | .due telemetry => some telemetry
    | .ended _ => none

/-- The messages of some rounds, each with its round. -/
def telemetries (s : Station) : List Round → List (Round × Telemetry)
  | [] => []
  | r :: past => ((due? (after s past) r).map fun t => (r, t)).toList ++ telemetries s past

/-- A message as the publisher gets it. -/
def written (t : Telemetry) : String × String := (telemetryTopic, t.toJson.render)

/-- A round does the same with this publisher as with one that only answers. -/
theorem tick_record (s : Station) (r : Round) (before : List (String × String)) :
    (s.tick (pure r.reading) (record r.answer) r.now).run before =
      (perform s r, (due? s r).toList.map written ++ before) := by
  rw [perform_eq, due?, Station.tick]
  cases s.isThrottled r.now with
  | true => rfl
  | false =>
    -- Only a message that is due reaches the publisher, so the rest adds nothing to the list.
    rw [if_neg Bool.false_ne_true, if_neg Bool.false_ne_true, if_neg Bool.false_ne_true, pure_bind]
    obtain ⟨sampling, next⟩ := s.sample r.now r.reading
    cases sampling <;> rfl

/-- What the publisher sees are the messages. -/
theorem outbox_eq (s : Station) (past : List Round) :
    outbox s past = (telemetries s past).map fun sent => written sent.2 := by
  induction past with
  | nil => rfl
  | cons r past ih =>
    rw [outbox, tick_record, telemetries, List.map_append, ih]
    cases due? (after s past) r <;> rfl

/-- A round has a message exactly if it publishes. -/
theorem due?_cases (s : Station) (r : Round) :
    (publishes (perform s r).1 = false ∧ due? s r = none) ∨
    ∃ reading temperature humidity,
      s.isThrottled r.now = false ∧ r.reading = .ok reading ∧
      (fed s r.now reading).temperature.summary? = some temperature ∧
      (fed s r.now reading).humidity.summary? = some humidity ∧
      perform s r = (.published r.answer, emptied (fed s r.now reading)) ∧
      due? s r = some (.ofSummaries s.uid temperature humidity) := by
  rw [perform_eq, due?]
  cases hthrottled : s.isThrottled r.now with
  | true => exact .inl ⟨rfl, rfl⟩
  | false =>
    rw [if_neg Bool.false_ne_true, if_neg Bool.false_ne_true]
    cases hread : r.reading with
    | error e => exact .inl ⟨rfl, rfl⟩
    | ok reading =>
      rw [sample_ok]
      cases (s.boundary.check r.now).1 with
      | false => exact .inl ⟨rfl, rfl⟩
      | true =>
        rw [if_pos rfl]
        rcases closeCycle_cases (fed s r.now reading) with
          ⟨t, h, ht, hh, hclose⟩ | ⟨-, hclose⟩
        · rw [hclose]
          exact .inr ⟨reading, t, h, rfl, rfl, ht, hh, rfl, rfl⟩
        · rw [hclose]
          exact .inl ⟨rfl, rfl⟩

/-! ### The number of readings -/

/-- The open cycle has no more readings than seconds have passed until the last round that ran. -/
def Sparse (s : Station) (entries : List (Round × Outcome)) : Prop :=
  readingsSince entries ≤ s.lastSample.getD 0

section
variable {settings : Settings} {s : Station} {entries : List (Round × Outcome)} {r : Round}

/-- The number of readings before a round that runs: none in its own second, unless the clock has
never been asked. -/
theorem Sparse.before (h : Sparse s entries) (hpositive : s.settings.measurePeriodSecs ≠ 0)
    (hpassed : s.isThrottled r.now = false) :
    readingsSince entries < r.now ∨ (readingsSince entries = 0 ∧ s.lastSample = none) := by
  rw [Sparse] at h
  cases hlast : s.lastSample with
  | none =>
    rw [hlast, Option.getD_none] at h
    exact .inr ⟨Nat.le_zero.mp h, rfl⟩
  | some last =>
    rw [hlast, Option.getD_some] at h
    have hlater := (later_of_passed hpositive hlast hpassed).1
    exact .inl (by omega)

/-- Every round keeps it. -/
theorem perform_sparse (h : Sparse s entries) (hpaced : Paced settings s entries)
    (hpositive : settings.measurePeriodSecs ≠ 0) (r : Round) :
    Sparse (perform s r).2 ((r, (perform s r).1) :: entries) := by
  have hruns := runs_perform s r
  rw [Sparse, readingsSince_cons, lastSample_perform]
  cases hthrottled : s.isThrottled r.now with
  | true =>
    have hreads : reads (r, (perform s r).1) = false := by
      simp [reads, hruns, hthrottled]
    have hopen : closes (perform s r).1 = false := by
      rw [closes_perform, hreads, Bool.false_and]
    rw [hopen, hreads]
    exact h
  | false =>
    rw [if_neg Bool.false_ne_true, Option.getD_some]
    split
    · exact Nat.zero_le _
    · rename_i hopen
      rcases h.before (hpaced.settings_eq ▸ hpositive) hthrottled with hlt | ⟨hzero, hnone⟩
      · split <;> omega
      · rw [hzero]
        split
        · -- The first minute of all is a boundary minute, so its first reading closes a cycle.
          rename_i hreads
          refine Nat.pos_of_ne_zero fun hnow => hopen ?_
          refine (hpaced.closes_iff hpositive).mpr ⟨hreads, ?_, fun e he hread => ?_⟩
          · simp [Round.minute, hnow]
          · obtain ⟨last, hlast, -⟩ := hpaced.latest e he (runs_of_reads hread)
            rw [hnone] at hlast
            cases hlast
        · exact Nat.zero_le _

end

section
variable {σ : Type} (built : Built) (a : Access σ) (store : σ) (uid : String)

/-- In every run an open cycle has no more readings than seconds until the last round that ran,
since two of them are a measure period apart. -/
theorem sparse_log (past : List Round) :
    let s := Station.new (Settings.load built a store) uid
    Sparse (after s past) (log s past) := by
  intro s
  induction past with
  | nil => exact Nat.le_refl 0
  | cons r past ih =>
    exact perform_sparse ih (paced_log built a store uid past) (load_periods built a store).2 r

/-- At a time in 32 bits, the readings of a cycle can be counted in 32 bits, the one of a round that
runs included. -/
theorem countable_of_passed (past : List Round) {r : Round} (htime : r.now < UInt32.size) :
    let s := Station.new (Settings.load built a store) uid
    (after s past).isThrottled r.now = false →
      (samplesSince (log s past)).length + 1 < UInt32.size := by
  intro s hpassed
  have hpositive : (after s past).settings.measurePeriodSecs ≠ 0 := by
    rw [(paced_log built a store uid past).settings_eq]
    exact (load_periods built a store).2
  rw [length_samplesSince]
  rcases (sparse_log built a store uid past).before hpositive hpassed with hlt | ⟨hzero, -⟩
  · exact Nat.lt_of_le_of_lt hlt htime
  · rw [hzero]
    decide

/-- Times of 32 bits see to it that no cycle has more readings than the channels can count. -/
theorem countable_log (past : List Round) (htimes : ∀ r ∈ past, r.now < UInt32.size) :
    let s := Station.new (Settings.load built a store) uid
    (samplesSince (log s past)).length < UInt32.size := by
  intro s
  induction past with
  | nil => exact Nat.zero_lt_succ _
  | cons r past ih =>
    have hold := ih fun x hx => htimes x (List.mem_cons_of_mem _ hx)
    rw [log, length_samplesSince, readingsSince_cons, ← length_samplesSince]
    split
    · exact Nat.zero_lt_succ _
    · split
      · rename_i hreads
        have hpassed : (after s past).isThrottled r.now = false := by
          simpa [runs_perform] using runs_of_reads hreads
        exact countable_of_passed built a store uid past (htimes r List.mem_cons_self) hpassed
      · exact hold

/-- A cycle that is closed has something to publish. -/
theorem publishes_of_closes (past : List Round) {r : Round} (htime : r.now < UInt32.size) :
    let s := Station.new (Settings.load built a store) uid
    (perform (after s past) r).1 ≠ .nothingToPublish := by
  intro s hnothing
  have hover :=
    overflow_of_nothing (load_period_lt built a store) (gathered_log built a store uid past)
      hnothing
  have hpassed : (after s past).isThrottled r.now = false := by
    have hruns := runs_perform (after s past) r
    rw [hnothing] at hruns
    simpa [runs] using hruns.symm
  exact Nat.not_lt_of_le hover (countable_of_passed built a store uid past htime hpassed)

end

/-! ### What the messages tell -/

/-- What a message tells: of both channels, the statistics of the accepted readings. The round that
sends it has the last one of the readings. -/
structure Tells (period : UInt32) (uid : String) (sent : Round × Telemetry)
    (samples : List Sample) : Prop where
  last : ∃ reading before, sent.1.reading = .ok reading ∧
    samples = ⟨sent.1.now, reading⟩ :: before
  summaries : ∃ temperature humidity : Summary,
    Describes period (taken (temperatures samples)) temperature ∧
    Describes period (taken (humidities samples)) humidity ∧
    sent.2 = .ofSummaries uid temperature humidity

/-- A round that closes no cycle has no message. -/
theorem due?_of_open {s : Station} {r : Round} (hopen : closes (perform s r).1 = false) :
    due? s r = none := by
  rcases due?_cases s r with ⟨-, hnone⟩ | ⟨reading, t, h, -, -, -, -, hperform, -⟩
  · exact hnone
  · rw [hperform] at hopen
    cases hopen

section
variable {σ : Type} (built : Built) (a : Access σ) (store : σ) (uid : String)

/-- A round that closes a cycle has the message of that cycle. -/
theorem tells_of_closes (past : List Round) {r : Round} (htime : r.now < UInt32.size) :
    let s := Station.new (Settings.load built a store) uid
    let e := (r, (perform (after s past) r).1)
    closes e.2 = true →
      ∃ t, due? (after s past) r = some t ∧
        Tells s.settings.publishPeriodMins uid (r, t)
          ((sample? e).toList ++ samplesSince (log s past)) := by
  intro s e hcloses
  have hsome := publishes_of_closes built a store uid past htime
  rcases due?_cases (after s past) r with ⟨hquiet, -⟩ |
    ⟨reading, temperature, humidity, hpassed, hread, htemperature, hhumidity, hperform, hdue⟩
  · rw [publishes_eq_closes hsome] at hquiet
    exact absurd hcloses (Bool.eq_false_iff.mp hquiet)
  · have hcount := countable_of_passed built a store uid past htime hpassed
    have hsample : sample? e = some ⟨r.now, reading⟩ := by
      show sample? (r, (perform (after s past) r).1) = _
      rw [hperform, sample?, hread]
      rfl
    -- The buffers have one summary, so what is known of some summary holds of the one sent.
    have hgathered := (gathered_log built a store uid past).feed r.now reading
    obtain ⟨t, h, ht, hh, htells, htells'⟩ :=
      hgathered.summaries (load_period_lt built a store) (List.cons_ne_nil _ _) hcount
    rw [htemperature] at ht
    rw [hhumidity] at hh
    obtain rfl := Option.some.inj ht
    obtain rfl := Option.some.inj hh
    refine ⟨_, hdue, ⟨reading, _, hread, by rw [hsample]; rfl⟩, temperature, humidity, ?_, ?_, ?_⟩
    · rw [hsample]
      exact htells
    · rw [hsample]
      exact htells'
    · rw [uid_after]
      rfl

/-- The messages of a run are those of its cycles. -/
theorem tells_log (past : List Round) (htimes : ∀ r ∈ past, r.now < UInt32.size) :
    let s := Station.new (Settings.load built a store) uid
    List.Forall₂ (Tells s.settings.publishPeriodMins uid) (telemetries s past)
      (cycles (log s past)) := by
  intro s
  induction past with
  | nil => exact .nil
  | cons r past ih =>
    have hrest := ih fun x hx => htimes x (List.mem_cons_of_mem _ hx)
    rw [telemetries, log, cycles]
    cases hcloses : closes (perform (after s past) r).1 with
    | false =>
      rw [due?_of_open hcloses]
      exact hrest
    | true =>
      obtain ⟨t, hdue, htells⟩ :=
        tells_of_closes built a store uid past (htimes r List.mem_cons_self) hcloses
      rw [hdue]
      exact .cons htells hrest

end

end WeatherStation.Proofs.Station
