import WeatherStation.Proofs.Aggregation.Statistics

/-!
# `WeatherStation.Proofs.Aggregation.Refinement`: a buffer from one cycle to the next

A buffer gets three kinds of requests, in any order: to take a sample, to hand out the statistics
and to drop them. `Watched` is a buffer beside two lists that start anew with each cycle: the
samples it was offered, and those of them that it said it has accepted.

`requests_answered` is what the buffer owes to these lists. Whether it accepts a sample depends on
the smallest and the largest accepted one, the statistics describe the accepted samples, and what
is left behind is a new buffer.

Within a cycle `InStep` ties the buffer to the reference of `Statistics`, as long as 32 bits can
count the samples. If they cannot, the tie is lost up to the end of the cycle only: flush and
reset keep nothing but the period.
-/

set_option autoImplicit false

namespace WeatherStation.Proofs.Aggregation

open WeatherStation.Aggregation

/-! ### Requests -/

/-- What a buffer is asked for. -/
inductive Request where
  /-- Take a sample. -/
  | commit (o : Offer)
  /-- Hand out the statistics. -/
  | flush
  /-- Drop the statistics. -/
  | reset

/-- A buffer and the samples of its cycle, newest first. The lists are kept by who uses the buffer,
from its answers alone, and so the laws about them say what these answers are worth. -/
structure Watched where
  buffer : Buffer
  /-- The samples offered since the buffer was emptied. -/
  offers : List Offer
  /-- Those of them that the buffer answered it has accepted. -/
  accepted : List Offer

namespace Watched

/-- A new buffer. -/
def new (period : UInt32) : Watched := ⟨.new period, [], []⟩

/-- The buffer and the lists after a request. -/
def after (w : Watched) : Request → Watched
  | .commit o =>
    let answer := w.buffer.commit o.value o.time o.threshold
    ⟨answer.2, o :: w.offers, if answer.1 then o :: w.accepted else w.accepted⟩
  | .flush => ⟨w.buffer.flush.2, [], []⟩
  | .reset => ⟨w.buffer.reset, [], []⟩

/-- The buffer and the lists after a list of requests. -/
def run (w : Watched) (requests : List Request) : Watched := requests.foldl after w

end Watched

/-- Whether a sample lies between the smallest and the largest of these, each one moved outward by
the threshold. -/
def WithinReach (samples : List Offer) (o : Offer) : Prop :=
  ∃ lowest ∈ samples, ∃ highest ∈ samples,
    (∀ x ∈ samples, lowest.value.toInt ≤ x.value.toInt ∧ x.value.toInt ≤ highest.value.toInt) ∧
      lowest.value.toInt - o.threshold.toNat ≤ o.value.toInt ∧
      o.value.toInt ≤ highest.value.toInt + o.threshold.toNat

/-! ### The period -/

/-- No buffer has a period of zero minutes, so its statistics can be cut to the start of one. -/
theorem period_new_ne_zero (period : UInt32) : (Buffer.new period).period ≠ 0 := by
  unfold Buffer.new
  by_cases h : period = 0 <;> simp [h]

/-- Any other period is taken as it is. -/
theorem period_new {period : UInt32} (h : period ≠ 0) : (Buffer.new period).period = period := by
  simp [Buffer.new, h]

/-- A period of zero minutes is replaced once and for all: a buffer that starts anew with the period
it has is the same as at first. -/
theorem new_period_new (period : UInt32) :
    Buffer.new (Buffer.new period).period = Buffer.new period := by
  unfold Buffer.new
  by_cases h : period = 0 <;> simp [h]

/-! ### One request -/

/-- The buffer is in step with the reference, unless its counters may have wrapped. In that case
only the period is known, up to the end of the cycle. -/
structure InStep (period : UInt32) (w : Watched) : Prop where
  period_eq : w.buffer.period = period
  tallied : w.offers.length < UInt32.size → Tallied period w.offers w.buffer
  accepted_eq : w.offers.length < UInt32.size → w.accepted = taken w.offers

/-- A new buffer has been offered nothing. -/
theorem inStep_new {period : UInt32} (h : period ≠ 0) : InStep period (.new period) where
  period_eq := period_new h
  tallied := fun _ => tallied_new h
  accepted_eq := fun _ => rfl

section
variable {period : UInt32} {w : Watched}

/-- One more sample. If it is the one too many, nothing has to be shown any more. -/
theorem InStep.commit (h : InStep period w) (o : Offer) : InStep period (w.after (.commit o)) := by
  constructor
  · show (w.buffer.commit o.value o.time o.threshold).2.period = period
    rw [period_commit, h.period_eq]
  · intro hcount
    have hnext : w.offers.length + 1 < UInt32.size := by simpa [Watched.after] using hcount
    exact (h.tallied (by omega)).commit o hnext
  · intro hcount
    have hnext : w.offers.length + 1 < UInt32.size := by simpa [Watched.after] using hcount
    have hanswer := (h.tallied (by omega)).commit_fst o
    have haccepted := h.accepted_eq (by omega)
    -- The answer of the buffer is the choice of the reference.
    by_cases hfits : Fits (taken w.offers) o
    · simp [Watched.after, taken, hfits, hanswer.mpr hfits, haccepted]
    · have hrefused := mt hanswer.mp hfits
      simp [Watched.after, taken, hfits, hrefused, haccepted]

/-- Any request. A flush and a reset leave a new buffer and empty lists, whatever the counters
held. -/
theorem InStep.after (h : InStep period w) (hperiod : period ≠ 0) (request : Request) :
    InStep period (w.after request) := by
  -- Whatever the cycle held, the next one begins with a new buffer of the same period.
  have hfresh : InStep period ⟨.new w.buffer.period, [], []⟩ := by
    rw [h.period_eq]
    exact inStep_new hperiod
  cases request with
  | commit o => exact h.commit o
  | flush => exact hfresh
  | reset => exact hfresh

/-- By induction on the requests. -/
theorem InStep.run (h : InStep period w) (hperiod : period ≠ 0) (requests : List Request) :
    InStep period (w.run requests) := by
  induction requests generalizing w with
  | nil => exact h
  | cons request requests ih => exact ih (h.after hperiod request)

/-- A new buffer, whatever its period, is in step at every moment. -/
theorem inStep_run (period : UInt32) (requests : List Request) :
    InStep (Buffer.new period).period ((Watched.new period).run requests) := by
  have hnew : Watched.new period = .new (Buffer.new period).period := by
    simp [Watched.new, new_period_new]
  rw [hnew]
  exact (inStep_new (period_new_ne_zero period)).run (period_new_ne_zero period) requests

end

/-! ### Answers -/

section
variable {period : UInt32} {offers : List Offer} {b : Buffer}

/-- The extrema of the buffer are those of the accepted samples. A sample with the value that the
buffer starts from moves nothing and is the extremum all the same. -/
theorem Tallied.extrema (h : Tallied period offers b) (hsome : taken offers ≠ []) :
    (∃ o ∈ taken offers, b.min = o.value) ∧ (∃ o ∈ taken offers, b.max = o.value) ∧
      ∀ x ∈ taken offers, b.min.toInt ≤ x.value.toInt ∧ x.value.toInt ≤ b.max.toInt := by
  obtain ⟨lowest, hlowest, hmin, -⟩ := h.min.of_ne_nil hsome
  obtain ⟨highest, hhighest, hmax, -⟩ := h.max.of_ne_nil hsome
  refine ⟨⟨lowest, hlowest.mem, hmin⟩, ⟨highest, hhighest.mem, hmax⟩, ?_⟩
  intro x hx
  rw [hmin, hmax]
  exact ⟨hlowest.le hx, Int.neg_le_neg_iff.mp (hhighest.le hx)⟩

/-- The answer, over the integers. -/
theorem commit_fst_iff (b : Buffer) (o : Offer) :
    (b.commit o.value o.time o.threshold).1 = true ↔
      b.count.toNat < 5 ∨
        b.min.toInt - o.threshold.toNat ≤ o.value.toInt ∧
          o.value.toInt ≤ b.max.toInt + o.threshold.toNat := by
  have houtlier := isOutlier_iff_toInt b o
  have hwarm : warmUpSamples.toNat = 4 := rfl
  unfold Buffer.commit
  by_cases hfar : b.isOutlier o.value o.threshold = true
  · have hbeyond := houtlier.mp hfar
    simp only [hfar, if_true, Bool.false_eq_true, false_iff]
    omega
  · have hnear := mt houtlier.mpr hfar
    rw [if_neg hfar]
    simp only [true_iff]
    omega

/-- A refused sample is counted, and nothing else. -/
theorem commit_snd_of_refused {value : Int32} {time threshold : UInt32}
    (h : (b.commit value time threshold).1 = false) :
    (b.commit value time threshold).2 = { b with rejected := b.rejected + 1 } := by
  unfold Buffer.commit at h ⊢
  by_cases hfar : b.isOutlier value threshold = true
  · simp [hfar]
  · simp [hfar] at h

/-- A sample is accepted in the warm-up, and after it within the threshold around the range of the
accepted ones. -/
theorem Tallied.commit_iff (h : Tallied period offers b) (o : Offer) :
    (b.commit o.value o.time o.threshold).1 = true ↔
      (taken offers).length < 5 ∨ WithinReach (taken offers) o := by
  rw [commit_fst_iff, h.count]
  refine or_congr_right' fun hwarm => ?_
  have hsome : taken offers ≠ [] := by
    intro hnone
    simp [hnone] at hwarm
  obtain ⟨⟨lowest, hlowest, hmin⟩, ⟨highest, hhighest, hmax⟩, hall⟩ := h.extrema hsome
  rw [hmin, hmax] at hall ⊢
  constructor
  · intro hreach
    exact ⟨lowest, hlowest, highest, hhighest, hall, hreach⟩
  · rintro ⟨lowest', hlowest', highest', hhighest', hall', hreach⟩
    -- Two smallest samples have the same value, and so have two largest ones.
    have := hall lowest' hlowest'
    have := hall highest' hhighest'
    have := hall' lowest hlowest
    have := hall' highest hhighest
    omega

/-- There are no statistics exactly if no sample was accepted. -/
theorem Tallied.summary?_eq_none_iff (h : Tallied period offers b) :
    b.summary? = none ↔ taken offers = [] := by
  have hcount : b.count = 0 ↔ taken offers = [] := by
    rw [← UInt32.toNat_inj, h.count, UInt32.toNat_zero, List.length_eq_zero_iff]
  unfold Buffer.summary?
  by_cases hnone : taken offers = []
  · simp [hcount.mpr hnone, hnone]
  · simp [hcount, hnone, h.first]

/-- A buffer of any period with less than 2 ^ 32 seconds, after any requests that have offered it
fewer than 2 ^ 32 samples in the present cycle, none of them the smallest or the largest number:

1. It accepts a sample if and only if it has accepted fewer than five in this cycle, or the sample
   lies within its threshold of what the accepted ones span.
2. A refused sample is counted as rejected and changes nothing else.
3. The count of the rejected samples is that of the samples offered and not accepted.
4. There are no statistics if and only if nothing was accepted.
5. If there are, they describe the accepted samples.
6. Flush and reset leave a new buffer of the same period. -/
theorem requests_answered {period : UInt32} (hperiod : 0 < 60 * period.toNat)
    (hlength : 60 * period.toNat < UInt32.size) {requests : List Request}
    (hcount : ((Watched.new period).run requests).offers.length < UInt32.size)
    (hinner : ∀ o ∈ ((Watched.new period).run requests).offers, Inner o.value) :
    let w := (Watched.new period).run requests
    (∀ o : Offer, (w.buffer.commit o.value o.time o.threshold).1 = true ↔
      w.accepted.length < 5 ∨ WithinReach w.accepted o) ∧
    (∀ o : Offer, (w.buffer.commit o.value o.time o.threshold).1 = false →
      (w.buffer.commit o.value o.time o.threshold).2 =
        { w.buffer with rejected := w.buffer.rejected + 1 }) ∧
    w.accepted.length + w.buffer.rejected.toNat = w.offers.length ∧
    (w.buffer.flush.1 = none ↔ w.accepted = []) ∧
    (∀ s, w.buffer.flush.1 = some s → Describes period w.accepted s) ∧
    w.buffer.flush.2 = .new period ∧ w.buffer.reset = .new period := by
  intro w
  have hne : period ≠ 0 := by
    rintro rfl
    simp at hperiod
  have hstep : InStep period w := by
    have hrun := inStep_run period requests
    rwa [period_new hne] at hrun
  have htallied := hstep.tallied hcount
  have hfresh : Buffer.new w.buffer.period = .new period := by rw [hstep.period_eq]
  rw [hstep.accepted_eq hcount]
  refine ⟨htallied.commit_iff, fun o => commit_snd_of_refused, htallied.rejected,
    htallied.summary?_eq_none_iff, ?_, hfresh, hfresh⟩
  intro s hs
  -- The statistics of a buffer that has some are the ones that describe its samples.
  have hsome : w.offers ≠ [] := by
    intro hnone
    have hnothing := htallied.summary?_eq_none_iff.mpr (taken_eq_nil.mpr hnone)
    exact absurd (hs.symm.trans hnothing) (by simp)
  obtain ⟨s', hs', hdescribes⟩ := htallied.describes hsome hcount hlength hinner
  obtain rfl : s' = s := Option.some.inj (hs'.symm.trans hs)
  exact hdescribes

/-- A sample of the cycle before, five negative samples with a mean of -6.4, and one that is too
far off. The minimum is reached twice. -/
theorem requests_answered_negative :
    let requests : List Request := [.commit ⟨99, 1700000000, 8⟩, .flush,
      .commit ⟨-5, 1700000123, 8⟩, .commit ⟨-6, 1700000183, 8⟩, .commit ⟨-8, 1700000243, 8⟩,
      .commit ⟨-8, 1700000303, 8⟩, .commit ⟨-5, 1700000363, 8⟩, .commit ⟨4, 1700000423, 8⟩]
    let w := (Watched.new 10).run requests
    0 < 60 * (10 : UInt32).toNat ∧ 60 * (10 : UInt32).toNat < UInt32.size ∧
    w.offers.length < UInt32.size ∧ (∀ o ∈ w.offers, Inner o.value) ∧
    w.accepted.map Offer.value = [-5, -8, -8, -6, -5] ∧
    w.buffer.flush.1 = some ⟨-6, -5, 1699999800, -8, 1700000220, -5, 1700000100, 5⟩ ∧
    Describes 10 w.accepted ⟨-6, -5, 1699999800, -8, 1700000220, -5, 1700000100, 5⟩ ∧
    ¬ WithinReach w.accepted ⟨4, 1700000423, 8⟩ := by
  intro requests w
  have hcount : w.offers.length < UInt32.size := by decide +kernel
  have hinner : ∀ o ∈ w.offers, Inner o.value := by
    unfold Inner
    decide +kernel
  have hstatistics : w.buffer.flush.1 =
      some ⟨-6, -5, 1699999800, -8, 1700000220, -5, 1700000100, 5⟩ := by decide +kernel
  have hperiod : 0 < 60 * (10 : UInt32).toNat := by decide
  have hlength : 60 * (10 : UInt32).toNat < UInt32.size := by decide
  obtain ⟨hcommit, -, -, -, hdescribes, -, -⟩ :=
    requests_answered hperiod hlength hcount hinner
  have hrefused : ¬ (w.buffer.commit 4 1700000423 8).1 = true := by decide +kernel
  have hfar := mt (hcommit ⟨4, 1700000423, 8⟩).mpr hrefused
  exact ⟨hperiod, hlength, hcount, hinner, by decide +kernel, hstatistics,
    hdescribes _ hstatistics, fun hreach => hfar (.inr hreach)⟩

end

end WeatherStation.Proofs.Aggregation
