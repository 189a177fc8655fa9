import WeatherStation.Proofs.Station.CycleTimes
import WeatherStation.Proofs.Station.Payload

/-!
# `WeatherStation.Proofs.Station.Period`: which period a message tells of

A message starts where its cycle starts, and it is sent in the minute in which its cycle is closed.
`Reported` puts a message, its cycle and these times together.

A cycle of one reading, the one that closes it, starts with the minute in which it is closed, so the
next cycle may start there as well. `starts_ordered` says when two messages have the same start. A
boundary minute without a reading passes unnoticed, so a cycle lasts until the next one that has a
reading. `extrema_within` says how far the times in a message reach.
-/

set_option autoImplicit false

namespace WeatherStation.Proofs.Station

open WeatherStation.Aggregation WeatherStation.Config WeatherStation.Message WeatherStation.Mqtt
  WeatherStation.Sensor WeatherStation.Proofs.Aggregation

/-! ### The messages and their cycles -/

/-- The messages of a run, each with the readings of its cycle. -/
def reports (s : Station) (past : List Round) : List ((Round × Telemetry) × List Sample) :=
  (telemetries s past).zip (cycles (log s past))

/-- A time below 2 ^ 32 is kept as it is. -/
theorem toNat_sampleTime {now : Nat} (h : now < UInt32.size) :
    (Station.sampleTime now).toNat = now := by
  have hle : now ≤ 0xFFFFFFFF := Nat.le_of_lt_succ h
  rw [Station.sampleTime, Nat.min_eq_left hle]
  exact UInt32.toNat_ofNat_of_lt' h

section
variable {period threshold : UInt32} {value : Reading → Int32} {samples : List Sample}
  {summary : Summary} {uid : String} {sent : Round × Telemetry}

/-- The times in a summary are those of readings. -/
theorem times_of_describes (h : Describes period (taken (offers value threshold samples)) summary)
    (htimes : ∀ x ∈ samples, x.time < UInt32.size) :
    (∃ first, samples.getLast? = some first ∧ summary.firstTime.toNat =
      first.time / (60 * period.toNat) * (60 * period.toNat)) ∧
    (∃ x ∈ samples, summary.minTime.toNat = 60 * x.minute) ∧
    ∃ x ∈ samples, summary.maxTime.toNat = 60 * x.minute := by
  -- An extremum is one of the accepted samples, and these are samples of the cycle.
  have hextremum {key : Int32 → Int} {o : Offer}
      (ho : FirstLeast key o (taken (offers value threshold samples))) :
      ∃ x ∈ samples, o.time.toNat / 60 * 60 = 60 * x.minute := by
    obtain ⟨x, hx, rfl⟩ := List.mem_map.mp (mem_of_mem_taken ho.mem)
    refine ⟨x, hx, ?_⟩
    show (Station.sampleTime x.time).toNat / 60 * 60 = _
    rw [toNat_sampleTime (htimes x hx), Nat.mul_comm, Sample.minute]
  refine ⟨?_, ?_, ?_⟩
  · obtain ⟨o, ho, -, htime⟩ := h.first
    rw [getLast?_taken, offers, List.getLast?_map] at ho
    obtain ⟨first, hfirst, rfl⟩ := Option.map_eq_some_iff.mp ho
    have hsmall := htimes first (List.mem_of_getLast? hfirst)
    refine ⟨first, hfirst, htime.trans ?_⟩
    show (Station.sampleTime first.time).toNat / _ * _ = _
    rw [toNat_sampleTime hsmall]
  · obtain ⟨o, ho, -, htime⟩ := h.min
    obtain ⟨x, hx, hsame⟩ := hextremum ho
    exact ⟨x, hx, htime.trans hsame⟩
  · obtain ⟨o, ho, -, htime⟩ := h.max
    obtain ⟨x, hx, hsame⟩ := hextremum ho
    exact ⟨x, hx, htime.trans hsame⟩

/-- The times in a message are those of readings of its cycle, for both channels. -/
theorem times_of_tells (h : Tells period uid sent samples)
    (htimes : ∀ x ∈ samples, x.time < UInt32.size) :
    (∃ first, samples.getLast? = some first ∧ sent.2.time.toNat =
      first.time / (60 * period.toNat) * (60 * period.toNat)) ∧
    ∀ stats ∈ [sent.2.temperature, sent.2.humidity],
      (∃ x ∈ samples, stats.minTime.toNat = 60 * x.minute) ∧
      ∃ x ∈ samples, stats.maxTime.toNat = 60 * x.minute := by
  obtain ⟨temperature, humidity, htemperature, hhumidity, hsent⟩ := h.summaries
  obtain ⟨hfirst, hextrema⟩ := times_of_describes htemperature htimes
  obtain ⟨-, hextrema'⟩ := times_of_describes hhumidity htimes
  rw [hsent]
  refine ⟨hfirst, fun stats hstats => ?_⟩
  rcases List.mem_cons.mp hstats with rfl | hstats
  · exact hextrema
  · rw [List.mem_singleton.mp hstats]
    exact hextrema'

end

/-- What is known of a message and the readings of its cycle. -/
structure Reported (period : UInt32) (readings : List Sample)
    (report : (Round × Telemetry) × List Sample) (closing first : Sample) (before : List Sample) :
    Prop where
  samples_eq : report.2 = closing :: before
  now_eq : report.1.1.now = closing.time
  mem : ∀ x ∈ report.2, x ∈ readings
  ordered : Ordered report.2
  cycle : Cycle period.toNat readings closing before
  first_eq : report.2.getLast? = some first
  time_eq : report.1.2.time.toNat = first.time / (60 * period.toNat) * (60 * period.toNat)
  extrema : ∀ stats ∈ [report.1.2.temperature, report.1.2.humidity],
    (∃ x ∈ report.2, stats.minTime.toNat = 60 * x.minute) ∧
    ∃ x ∈ report.2, stats.maxTime.toNat = 60 * x.minute

section
variable {period : UInt32} {readings before before' : List Sample}
  {report earlier later : (Round × Telemetry) × List Sample}
  {closing closing' first first' : Sample}

/-- A message starts with the minute in which it is sent if its cycle has one reading, and before
that minute if it has more. -/
theorem Reported.start_cases (h : Reported period readings report closing first before)
    (hperiod : period.toNat ∣ 60) :
    (before = [] ∧ report.1.2.time.toNat = 60 * closing.minute) ∨
      (before ≠ [] ∧ report.1.2.time.toNat < 60 * closing.minute) := by
  have hfirst := h.first_eq
  have hordered := h.ordered
  have hmem := h.mem
  rw [h.samples_eq] at hfirst hordered hmem
  rw [h.time_eq]
  cases hbefore : before.getLast? with
  | none =>
    have hnone := List.getLast?_eq_none_iff.mp hbefore
    rw [hnone, List.getLast?_singleton] at hfirst
    obtain rfl := Option.some.inj hfirst
    exact .inl ⟨hnone, h.cycle.start_single hperiod⟩
  | some y =>
    -- The first reading of all is the first one of those before the last.
    have hsome : before ≠ [] := by
      intro hnone
      rw [hnone] at hbefore
      cases hbefore
    rw [List.getLast?_cons, hbefore, Option.getD_some] at hfirst
    obtain rfl := Option.some.inj hfirst
    have hlt := h.cycle.start_lt hordered (fun x hx => hmem x (List.mem_cons_of_mem _ hx)) hbefore
    exact .inr ⟨hsome, Nat.lt_of_le_of_lt (Nat.div_mul_le_self _ _) hlt⟩

/-- The next cycle starts with the minute in which the one before was closed, or later. -/
theorem Reported.le_start_later (h : Reported period readings earlier closing first before)
    (h' : Reported period readings later closing' first' before') (hperiod : period.toNat ∣ 60)
    (hlater : ∀ x ∈ later.2, ∀ y ∈ earlier.2, y.time < x.time) :
    60 * closing.minute ≤ later.1.2.time.toNat := by
  have hclosing : closing ∈ earlier.2 := by
    rw [h.samples_eq]
    exact List.mem_cons_self
  have hlt := hlater first' (List.mem_of_getLast? h'.first_eq) closing hclosing
  rw [h'.time_eq]
  exact le_start ((boundary_iff hperiod _).mp h.cycle.boundary)
    (Nat.le_trans (minute_start_le closing) (Nat.le_of_lt hlt))

/-- Two messages with the same start: the cycle of the earlier one has one reading, and the other
cycle begins in the period that starts with it. -/
theorem Reported.same_start_iff (h : Reported period readings earlier closing first before)
    (h' : Reported period readings later closing' first' before') (hperiod : period.toNat ∣ 60)
    (hlater : ∀ x ∈ later.2, ∀ y ∈ earlier.2, y.time < x.time) :
    earlier.1.2.time = later.1.2.time ↔
      (∃ x, earlier.2 = [x]) ∧ ∃ x, later.2.getLast? = some x ∧
        x.time < earlier.1.2.time.toNat + 60 * period.toNat := by
  have hle := h.le_start_later h' hperiod hlater
  have hpositive : 0 < 60 * period.toNat :=
    Nat.mul_pos (by decide) (Nat.pos_of_dvd_of_pos hperiod (by decide))
  rw [← UInt32.toNat_inj]
  constructor
  · intro hsame
    rcases h.start_cases hperiod with ⟨hnone, hstart⟩ | ⟨-, hstart⟩
    · refine ⟨⟨closing, by rw [h.samples_eq, hnone]⟩, first', h'.first_eq, ?_⟩
      rw [hsame, h'.time_eq]
      exact Nat.lt_div_mul_add hpositive
    · -- With more readings it starts before the minute in which it is closed.
      omega
  · rintro ⟨⟨x, hsingle⟩, y, hfirst, hlt⟩
    rw [h'.first_eq] at hfirst
    obtain rfl := Option.some.inj hfirst
    rw [h.samples_eq] at hsingle
    obtain ⟨rfl, hnone⟩ := List.cons.inj hsingle
    -- The first reading of the other cycle is in the period that starts with this minute.
    rcases h.start_cases hperiod with ⟨-, hstart⟩ | ⟨hsome, -⟩
    · rw [hstart] at hlt
      have hfloor := Nat.div_mul_le_self first'.time (60 * period.toNat)
      rw [h'.time_eq] at hle
      rw [hstart, h'.time_eq,
        start_eq ((boundary_iff hperiod _).mp h.cycle.boundary) (by omega) hlt]
    · exact absurd hnone hsome

/-- The later of two messages with the same start has a cycle of more than one reading. -/
theorem Reported.not_single (h : Reported period readings earlier closing first before)
    (h' : Reported period readings later closing' first' before') (hperiod : period.toNat ∣ 60)
    (hlater : ∀ x ∈ later.2, ∀ y ∈ earlier.2, y.time < x.time)
    (hsame : earlier.1.2.time = later.1.2.time) : ¬ ∃ x, later.2 = [x] := by
  rintro ⟨x, hsingle⟩
  have hle := h.le_start_later h' hperiod hlater
  have hmem : closing ∈ earlier.2 ∧ closing' ∈ later.2 := by
    rw [h.samples_eq, h'.samples_eq]
    exact ⟨List.mem_cons_self, List.mem_cons_self⟩
  have hlt := hlater closing' hmem.2 closing hmem.1
  -- Both cycles would be closed in the minute in which both messages start.
  have hother := h'.cycle.fresh closing (h.mem closing hmem.1) hlt
  rw [h'.samples_eq] at hsingle
  rcases h'.start_cases hperiod with ⟨-, hstart'⟩ | ⟨hsome, -⟩
  · rcases h.start_cases hperiod with ⟨-, hstart⟩ | ⟨-, hstart⟩ <;> rw [hsame] at hstart <;> omega
  · exact hsome (List.cons.inj hsingle).2

end

section
variable {σ : Type} (built : Built) (a : Access σ) (store : σ) (uid : String)

/-- There is a report for each cycle that was closed. -/
theorem map_snd_reports (past : List Round) (htimes : ∀ r ∈ past, r.now < UInt32.size) :
    let s := Station.new (Settings.load built a store) uid
    (reports s past).map Prod.snd = cycles (log s past) := by
  intro s
  exact List.map_snd_zip (Nat.le_of_eq (tells_log built a store uid past htimes).length_eq.symm)

/-- There is a report for each message, as every closed cycle has one. -/
theorem map_fst_reports (past : List Round) (htimes : ∀ r ∈ past, r.now < UInt32.size) :
    let s := Station.new (Settings.load built a store) uid
    (reports s past).map Prod.fst = telemetries s past := by
  intro s
  exact List.map_fst_zip (Nat.le_of_eq (tells_log built a store uid past htimes).length_eq)

/-- Every message of a run with its cycle. -/
theorem reported_log (past : List Round) (htimes : ∀ r ∈ past, r.now < UInt32.size) :
    let s := Station.new (Settings.load built a store) uid
    ∀ report ∈ reports s past, ∃ closing first before,
      Reported s.settings.publishPeriodMins ((log s past).filterMap sample?) report closing first
        before := by
  intro s report hreport
  obtain ⟨sent, samples⟩ := report
  have hsamples : samples ∈ cycles (log s past) := (List.of_mem_zip hreport).2
  have htells := (List.forall₂_iff_zip.mp (tells_log built a store uid past htimes)).2 hreport
  have hmem : ∀ x ∈ samples, x ∈ (log s past).filterMap sample? :=
    fun x hx => mem_of_mem_cycles hsamples hx
  have hsmall : ∀ x ∈ samples, x.time < UInt32.size := by
    intro x hx
    obtain ⟨e, he, -, hnow⟩ := mem_readings (hmem x hx)
    rw [← hnow]
    exact htimes e.1 (mem_of_mem_log he)
  -- The message says which reading is the last one, the cycle how it stands to the others.
  obtain ⟨closing, before, rfl, hcycle⟩ := cycle_log built a store uid past samples hsamples
  obtain ⟨reading, others, -, hlast⟩ := htells.last
  obtain ⟨⟨first, hfirst, htime⟩, hextrema⟩ := times_of_tells htells hsmall
  refine ⟨closing, first, before, rfl, ?_, hmem, (around_cycle built a store uid past _ hsamples).1,
    hcycle, hfirst, htime, hextrema⟩
  rw [(List.cons.inj hlast).1]

/-- The readings of a later message are later. -/
theorem reports_ordered (past : List Round) (htimes : ∀ r ∈ past, r.now < UInt32.size) :
    let s := Station.new (Settings.load built a store) uid
    (reports s past).Pairwise fun later earlier =>
      ∀ x ∈ later.2, ∀ y ∈ earlier.2, y.time < x.time := by
  intro s
  have hordered : Ordered ((log s past).filterMap sample?) :=
    readings_ordered built a store uid past
  rw [← flatten_cycles, ← map_snd_reports built a store uid past htimes] at hordered
  -- Later cycles are further to the front of the list, and so are their readings.
  have hcycles := (List.pairwise_flatten.mp (List.pairwise_append.mp hordered).2.1).2
  exact List.pairwise_map.mp hcycles

end

/-! ### Where messages start -/

/-- Of three entries with the same key, the middle one is single and not single. -/
theorem countP_le_two {α : Type} {entries : List α} {key : α → Bool} (single : α → Prop)
    (h : entries.Pairwise fun later earlier =>
      key later = true → key earlier = true → single earlier ∧ ¬ single later) :
    entries.countP key ≤ 2 := by
  rw [List.countP_eq_length_filter]
  have hpairs := List.pairwise_filter.mpr h
  cases hfilter : entries.filter key with
  | nil => simp
  | cons x rest =>
    cases rest with
    | nil => simp
    | cons y rest =>
      cases rest with
      | nil => simp
      | cons z rest =>
        rw [hfilter] at hpairs
        -- The first two say that the second is single, the last two that it is not.
        obtain ⟨hx, hrest⟩ := List.pairwise_cons.mp hpairs
        have hy := (List.pairwise_cons.mp hrest).1 z List.mem_cons_self
        exact absurd (hx y List.mem_cons_self).1 hy.2

section
variable {σ : Type} (built : Built) (a : Access σ) (store : σ) (uid : String)

/-- Two messages of a run, the one of the later cycle first. -/
theorem starts_log (past : List Round) (htimes : ∀ r ∈ past, r.now < UInt32.size) :
    let s := Station.new (Settings.load built a store) uid
    (reports s past).Pairwise fun later earlier =>
      earlier.1.2.time ≤ later.1.2.time ∧
      (earlier.1.2.time = later.1.2.time ↔
        (∃ x, earlier.2 = [x]) ∧ ∃ first, later.2.getLast? = some first ∧
          first.time < earlier.1.2.time.toNat + 60 * s.settings.publishPeriodMins.toNat) ∧
      (earlier.1.2.time = later.1.2.time → ¬ ∃ x, later.2 = [x]) := by
  intro s
  have hperiod := load_divides built a store
  refine (reports_ordered built a store uid past htimes).imp_of_mem fun hlater hearlier horder => ?_
  obtain ⟨closing', first', before', h'⟩ := reported_log built a store uid past htimes _ hlater
  obtain ⟨closing, first, before, h⟩ := reported_log built a store uid past htimes _ hearlier
  refine ⟨?_, h.same_start_iff h' hperiod horder, h.not_single h' hperiod horder⟩
  have hle := h.le_start_later h' hperiod horder
  rw [UInt32.le_iff_toNat_le]
  rcases h.start_cases hperiod with ⟨-, hstart⟩ | ⟨-, hstart⟩ <;> omega

/-- What the publisher is handed are the messages of the reports. -/
theorem outbox_reports (past : List Round) (htimes : ∀ r ∈ past, r.now < UInt32.size) :
    let s := Station.new (Settings.load built a store) uid
    outbox s past = (reports s past).map fun report => written report.1.2 := by
  intro s
  have hmap : (reports s past).map Prod.fst = telemetries s past :=
    map_fst_reports built a store uid past htimes
  rw [outbox_eq, ← hmap, List.map_map]
  rfl

/-- For all settings that are built in or stored, and in every run of rounds at times in 32 bits, in
whatever order, with any readings and answers:

1. What the publisher is handed are the messages of the reports.
2. The start of a message is never before the start of an earlier one. Both have the same start
   exactly if the earlier cycle has one reading, the one in the boundary minute that closed it, and
   the first reading of the later cycle is still in the period that starts with this minute.
3. No three messages have the same start. -/
theorem starts_ordered (past : List Round) (htimes : ∀ r ∈ past, r.now < UInt32.size) :
    let s := Station.new (Settings.load built a store) uid
    outbox s past = (reports s past).map (fun report => written report.1.2) ∧
    (reports s past).Pairwise (fun later earlier =>
      earlier.1.2.time ≤ later.1.2.time ∧
      (earlier.1.2.time = later.1.2.time ↔
        (∃ x, earlier.2 = [x]) ∧ ∃ first, later.2.getLast? = some first ∧
          first.time < earlier.1.2.time.toNat + 60 * s.settings.publishPeriodMins.toNat)) ∧
    ∀ time, (reports s past).countP (fun report => report.1.2.time == time) ≤ 2 := by
  intro s
  have hstarts := starts_log built a store uid past htimes
  refine ⟨outbox_reports built a store uid past htimes, hstarts.imp fun h => ⟨h.1, h.2.1⟩,
    fun time => countP_le_two (fun report => ∃ x, report.2 = [x]) ?_⟩
  refine hstarts.imp fun {later earlier} h hlater hearlier => ?_
  have hsame : earlier.1.2.time = later.1.2.time :=
    (beq_iff_eq.mp hearlier).trans (beq_iff_eq.mp hlater).symm
  exact ⟨(h.2.1.mp hsame).1, h.2.2 hsame⟩

end

/-- A publish period of ten minutes and a station that starts in a boundary minute. Its first
reading is a cycle of its own, and the next cycle starts in the same minute. -/
theorem starts_ordered_boot :
    let s := Station.new (Settings.load .plain MemoryStore.access .empty) "uid"
    let past := [1700001600, 1700001004, 1700001000, 1700000404, 1700000400].map fun now =>
      Round.mk now (.ok ⟨235, 450⟩) (.ok ())
    (∀ r ∈ past, r.now < UInt32.size) ∧
    (reports s past).map (fun report => (report.1.2.time, report.2.map Sample.time)) =
      [(1700001000, [1700001600, 1700001004]), (1700000400, [1700001000, 1700000404]),
        (1700000400, [1700000400])] ∧
    (outbox s past).length = (reports s past).length ∧
    ∀ time, (reports s past).countP (fun report => report.1.2.time == time) ≤ 2 := by
  intro s past
  have htimes : ∀ r ∈ past, r.now < UInt32.size := by decide +kernel
  have hordered := starts_ordered .plain MemoryStore.access .empty "uid" past htimes
  have houtbox : outbox s past = (reports s past).map fun report => written report.1.2 :=
    hordered.1
  refine ⟨htimes, by decide +kernel, ?_, hordered.2.2⟩
  rw [houtbox, List.length_map]

/-- So the starts of the messages do not always grow, even if the times of the rounds do. -/
theorem starts_shared :
    let s := Station.new (Settings.load .plain MemoryStore.access .empty) "uid"
    let past := [1700001000, 1700000404, 1700000400].map fun now =>
      Round.mk now (.ok ⟨235, 450⟩) (.ok ())
    past.Pairwise (fun later earlier => earlier.now ≤ later.now) ∧
    (∀ r ∈ past, r.now < UInt32.size) ∧
    (telemetries s past).map (fun sent => sent.2.time) = [1700000400, 1700000400] ∧
    ¬ (telemetries s past).Pairwise fun later earlier => earlier.2.time < later.2.time := by
  decide +kernel

/-! ### How far a message reaches -/

/-- Whether both extrema of a channel are in a range of times. -/
def Within (start final : Nat) (stats : ChannelStats) : Prop :=
  (start ≤ stats.minTime.toNat ∧ stats.minTime.toNat ≤ final) ∧
    start ≤ stats.maxTime.toNat ∧ stats.maxTime.toNat ≤ final

instance (start final : Nat) (stats : ChannelStats) : Decidable (Within start final stats) :=
  inferInstanceAs (Decidable (_ ∧ _))

/-- A later end leaves room for more. -/
theorem Within.mono {start final final' : Nat} {stats : ChannelStats}
    (h : Within start final stats) (hle : final ≤ final') : Within start final' stats :=
  ⟨⟨h.1.1, Nat.le_trans h.1.2 hle⟩, h.2.1, Nat.le_trans h.2.2 hle⟩

section
variable {period : UInt32} {readings before : List Sample}
  {report : (Round × Telemetry) × List Sample} {closing first : Sample}

/-- A message is sent in the minute of the reading that closes its cycle. -/
theorem Reported.minute_eq (h : Reported period readings report closing first before) :
    report.1.1.minute = closing.minute := by
  rw [Round.minute, h.now_eq, Sample.minute]

/-- The readings of a cycle are not before its start and not after the minute in which it is
closed. -/
theorem Reported.reading_within (h : Reported period readings report closing first before)
    {x : Sample} (hx : x ∈ report.2) :
    report.1.2.time.toNat ≤ 60 * x.minute ∧ 60 * x.minute ≤ 60 * report.1.1.minute := by
  have hfirst := Sample.minute_le (first_le h.ordered h.first_eq hx)
  have hlast : x.time ≤ closing.time := by
    have hordered := h.ordered
    rw [h.samples_eq] at hordered hx
    rcases List.mem_cons.mp hx with rfl | hx
    · exact Nat.le_refl _
    · exact Nat.le_of_lt ((List.pairwise_cons.mp hordered).1 x hx)
  rw [h.minute_eq, h.time_eq]
  refine ⟨Nat.le_trans ?_ (Nat.mul_le_mul_left 60 hfirst),
    Nat.mul_le_mul_left 60 (Sample.minute_le hlast)⟩
  -- A period starts with a minute.
  rw [← Nat.div_div_eq_div_mul, Nat.mul_comm 60, ← Nat.mul_assoc, Nat.mul_comm 60]
  exact Nat.mul_le_mul_right 60 (Nat.div_mul_le_self _ _)

/-- Its times are those of readings of the cycle, cut down to the minute. None of them is before the
start or after that minute. -/
theorem Reported.within (h : Reported period readings report closing first before) :
    ∀ stats ∈ [report.1.2.temperature, report.1.2.humidity],
      Within report.1.2.time.toNat (60 * report.1.1.minute) stats := by
  intro stats hstats
  obtain ⟨⟨x, hx, hmin⟩, y, hy, hmax⟩ := h.extrema stats hstats
  rw [Within, hmin, hmax]
  exact ⟨h.reading_within hx, h.reading_within hy⟩

end

section
variable {σ : Type} (built : Built) (a : Access σ) (store : σ) (uid : String)

/-- The minute in which a message is sent is the first boundary minute after its start that has a
reading, if it is after the start at all. -/
theorem closing_first (past : List Round) (htimes : ∀ r ∈ past, r.now < UInt32.size) :
    let s := Station.new (Settings.load built a store) uid
    ∀ report ∈ reports s past, ∀ x ∈ (log s past).filterMap sample?,
      x.minute % 60 % s.settings.publishPeriodMins.toNat = 0 →
      report.1.2.time.toNat < 60 * x.minute → report.1.1.minute ≤ x.minute := by
  intro s report hreport x hx hboundary hstart
  obtain ⟨closing, first, before, h⟩ := reported_log built a store uid past htimes report hreport
  have hsamples : report.2 ∈ cycles (log s past) := (List.of_mem_zip hreport).2
  have haround := (around_cycle built a store uid past _ hsamples).2
  have hfirst := h.first_eq
  have hmem := List.mem_of_getLast? h.first_eq
  rw [h.samples_eq] at haround hfirst hmem
  rw [h.minute_eq]
  refine h.cycle.closing_le (load_divides built a store) hfirst (fun y hy => ?_) hx hboundary
    (h.time_eq ▸ hstart)
  rcases haround y hy with hlate | hinside | hearly
  · exact .inl (Nat.le_of_lt (hlate closing List.mem_cons_self))
  · rcases List.mem_cons.mp hinside with rfl | hbefore
    · exact .inl (Nat.le_refl _)
    · exact .inr (.inl hbefore)
  · exact .inr (.inr (hearly first hmem))

/-- For all settings that are built in or stored, and in every run of rounds at times in 32 bits, in
whatever order, with any readings and answers:

1. What the publisher is handed are the messages of the reports.
2. A message is sent in a boundary minute, by the round that gets the last reading of its cycle.
   None of these readings is before the start.
3. The times of both extrema, of both channels, are from its start to the start of that minute.
4. That minute is the first boundary minute after the start that has a reading, or the start
   itself.
5. So if the minute that ends the period has a reading, these times are in the period that begins
   with the start, or they are its end. -/
theorem extrema_within (past : List Round) (htimes : ∀ r ∈ past, r.now < UInt32.size) :
    let s := Station.new (Settings.load built a store) uid
    let period := s.settings.publishPeriodMins.toNat
    let readings := (log s past).filterMap sample?
    outbox s past = (reports s past).map (fun report => written report.1.2) ∧
    ∀ report ∈ reports s past,
      let start := report.1.2.time.toNat
      let channels := [report.1.2.temperature, report.1.2.humidity]
      (report.1.1.minute % 60 % period = 0 ∧ (∃ x ∈ report.2, x.time = report.1.1.now) ∧
        ∀ x ∈ report.2, start ≤ x.time ∧ x.minute ≤ report.1.1.minute) ∧
      (∀ stats ∈ channels, Within start (60 * report.1.1.minute) stats) ∧
      (∀ x ∈ readings, x.minute % 60 % period = 0 → start < 60 * x.minute →
        report.1.1.minute ≤ x.minute) ∧
      ((∃ x ∈ readings, 60 * x.minute = start + 60 * period) →
        ∀ stats ∈ channels, Within start (start + 60 * period) stats) := by
  intro s period readings
  refine ⟨outbox_reports built a store uid past htimes, fun report hreport => ?_⟩
  intro start channels
  have hperiod : period ∣ 60 := load_divides built a store
  obtain ⟨closing, first, before, h⟩ := reported_log built a store uid past htimes report hreport
  have hwithin : ∀ stats ∈ channels, Within start (60 * report.1.1.minute) stats :=
    h.within
  have hclosing : ∀ x ∈ readings, x.minute % 60 % period = 0 → start < 60 * x.minute →
      report.1.1.minute ≤ x.minute := closing_first built a store uid past htimes report hreport
  refine ⟨⟨?_, ⟨closing, ?_, h.now_eq.symm⟩, fun x hx => ?_⟩, hwithin, hclosing, ?_⟩
  · rw [h.minute_eq]
    exact h.cycle.boundary
  · rw [h.samples_eq]
    exact List.mem_cons_self
  · obtain ⟨hstart, hend⟩ := h.reading_within hx
    exact ⟨Nat.le_trans hstart (minute_start_le x), Nat.le_of_mul_le_mul_left hend (by decide)⟩
  · rintro ⟨x, hx, hend⟩ stats hstats
    -- The minute that ends the period is a boundary minute after the start.
    have hpositive : 0 < period := Nat.pos_of_dvd_of_pos hperiod (by decide)
    have hstart : 60 * period ∣ start := by
      show 60 * period ∣ report.1.2.time.toNat
      rw [h.time_eq]
      exact Nat.dvd_mul_left _ _
    have hboundary : 60 * period ∣ 60 * x.minute := by
      rw [hend]
      exact Nat.dvd_add hstart (Nat.dvd_refl _)
    have hle := hclosing x hx ((boundary_iff hperiod _).mpr hboundary) (by omega)
    exact (hwithin stats hstats).mono (hend ▸ Nat.mul_le_mul_left 60 hle)

end

/-- A reading in the tenth minute closes the cycle, and it is the warmest one. -/
theorem extrema_within_closed :
    let s := Station.new (Settings.load .plain MemoryStore.access .empty) "uid"
    let past := [Round.mk 1700001000 (.ok ⟨240, 460⟩) (.ok ()),
      Round.mk 1700000460 (.ok ⟨235, 450⟩) (.ok ())]
    (∀ r ∈ past, r.now < UInt32.size) ∧
    (∃ x ∈ (log s past).filterMap sample?, 60 * x.minute = 1700000400 + 600) ∧
    (reports s past).map (fun report =>
      (report.1.2.time, report.1.2.temperature.minTime, report.1.2.temperature.maxTime)) =
        [(1700000400, 1700000460, 1700001000)] ∧
    ∀ report ∈ reports s past, ∀ stats ∈ [report.1.2.temperature, report.1.2.humidity],
      Within 1700000400 (1700000400 + 600) stats := by
  intro s past
  have htimes : ∀ r ∈ past, r.now < UInt32.size := by decide +kernel
  have hend : ∃ x ∈ (log s past).filterMap sample?, 60 * x.minute = 1700000400 + 600 := by
    decide +kernel
  have hstart : ∀ report ∈ reports s past, report.1.2.time.toNat = 1700000400 := by decide +kernel
  refine ⟨htimes, hend, by decide +kernel, fun report hreport => ?_⟩
  obtain ⟨-, -, -, hwithin⟩ :=
    (extrema_within .plain MemoryStore.access .empty "uid" past htimes).2 report hreport
  rw [hstart report hreport] at hwithin
  exact hwithin hend

/-- The sensor gives nothing in the tenth minute, so the cycle goes on to the twentieth, and the
warmest reading is after the period that begins with the start of the message. -/
example :
    let s := Station.new (Settings.load .plain MemoryStore.access .empty) "uid"
    let past := [Round.mk 1700001600 (.ok ⟨236, 455⟩) (.ok ()),
      Round.mk 1700001060 (.ok ⟨240, 460⟩) (.ok ()),
      Round.mk 1700001000 (.error .timeout) (.ok ()),
      Round.mk 1700000460 (.ok ⟨235, 450⟩) (.ok ())]
    past.Pairwise (fun later earlier => earlier.now ≤ later.now) ∧
    (∀ r ∈ past, r.now < UInt32.size) ∧ s.settings.publishPeriodMins = 10 ∧
    ∃ sent ∈ telemetries s past, sent.2.time = 1700000400 ∧
      sent.2.temperature.maxTime = 1700001060 ∧
      ¬ Within 1700000400 (1700000400 + 60 * 10) sent.2.temperature := by
  decide +kernel

end WeatherStation.Proofs.Station
