import WeatherStation.Proofs.Aggregation.Refinement

/-!
# `WeatherStation.Proofs.Aggregation.Exactness`: nothing overflows in a cycle

A buffer adds 32-bit samples to a 64-bit sum, compares them in 64 bits and hands out a 32-bit mean.
`arithmetic_exact` says that none of this loses anything while 32 bits can count the samples,
whatever the samples are: here the smallest and the largest number are allowed.

The sum has room to spare for fewer than 2 ^ 32 samples and for no more (`total_bounds`). For the
mean that bound would not do, since it only says that the quotient has 32 bits. The quotient lies
between the extrema because the sum lies between their multiples (`total_between`), and cutting off
does not lead out of an interval with whole ends (`tdiv_between`).
-/

set_option autoImplicit false

namespace WeatherStation.Proofs.Aggregation

open WeatherStation.Aggregation

/-- Whether 64 bits hold a number. -/
def InWord (n : Int) : Prop := Int64.minValue.toInt ≤ n ∧ n ≤ Int64.maxValue.toInt

/-- The bounds in numbers. -/
theorem inWord_iff {n : Int} : InWord n ↔ -2 ^ 63 ≤ n ∧ n < 2 ^ 63 := by
  have hlow : Int64.minValue.toInt = -2 ^ 63 := by decide
  have hhigh : Int64.maxValue.toInt = 2 ^ 63 - 1 := by decide
  unfold InWord
  omega

/-- One more sample, of whatever value: the sum stays in 64 bits, for there are fewer than 2 ^ 32
samples of 32 bits. -/
theorem inWord_total_add {samples : List Offer} (h : samples.length + 1 < UInt32.size)
    (o : Offer) : InWord (total samples + o.value.toInt) := by
  have hsize : UInt32.size = 2 ^ 32 := rfl
  have hlow := o.value.le_toInt
  have hhigh := o.value.toInt_lt
  obtain ⟨hfrom, hto⟩ := total_bounds samples
  rw [inWord_iff]
  omega

/-- A sample and a threshold of 32 bits have a sum and a difference that fit 64 bits by far, so no
comparison wraps. -/
theorem inWord_beside_threshold (o : Offer) :
    InWord (o.value.toInt - o.threshold.toNat) ∧ InWord (o.value.toInt + o.threshold.toNat) := by
  have hlow := o.value.le_toInt
  have hhigh := o.value.toInt_lt
  have hthreshold : o.threshold.toNat < 2 ^ 32 := o.threshold.toNat_lt
  simp only [inWord_iff]
  omega

section
variable {period : UInt32} {offers : List Offer} {b : Buffer}

/-- The statistics of a cycle are in order of size, and their mean is a whole quotient. -/
theorem Tallied.summary_ordered (h : Tallied period offers b) (hsome : taken offers ≠ [])
    (hcount : offers.length < UInt32.size) :
    ∃ s, b.summary? = some s ∧
      s.min ≤ s.firstValue ∧ s.firstValue ≤ s.max ∧ s.min ≤ s.average ∧ s.average ≤ s.max ∧
      s.average.toInt = (total (taken offers)).tdiv (taken offers).length ∧
      s.average.toInt64 = b.sum / Int64.ofNat b.count.toNat := by
  obtain ⟨-, -, hall⟩ := h.extrema hsome
  obtain ⟨first, hfirst, hsummary⟩ := h.summary?_eq_some hsome
  have hsize : (taken offers).length < UInt32.size :=
    Nat.lt_of_le_of_lt (taken_length_le offers) hcount
  have hpositive : 0 < (taken offers).length := List.length_pos_iff.mpr hsome
  obtain ⟨hlow, hhigh⟩ := total_bounds (taken offers)
  rw [← h.sum] at hlow hhigh
  have hquotient := toInt_quotient hpositive hsize hlow hhigh
  have haverage := toInt_average hpositive hsize hlow hhigh
  -- The sum lies between multiples of the extrema, so the mean lies between these.
  obtain ⟨hfrom, hto⟩ := total_between hall
  obtain ⟨hmin, hmax⟩ := tdiv_between hpositive hfrom hto
  obtain ⟨hfirstMin, hfirstMax⟩ := hall first (List.mem_of_getLast? hfirst)
  rw [← h.sum, ← haverage] at hmin hmax
  refine ⟨_, hsummary, ?_⟩
  simp only [Int32.le_iff_toInt_le, h.count, ← h.sum]
  refine ⟨hfirstMin, hfirstMax, hmin, hmax, haverage, ?_⟩
  rw [← Int64.toInt_inj, Int32.toInt_toInt64, haverage, hquotient]

/-- A buffer of any period, after any requests that have offered it fewer than 2 ^ 32 samples of any
values in the present cycle:

1. Its sum is that of the accepted samples over the integers, and its count is their number.
2. A further sample does not take the sum out of the 64 bits, as long as it can be counted.
3. Neither end of the interval around a sample leaves the 64 bits, and the sample is refused if and
   only if over the integers this interval misses the extrema.
4. If anything was accepted there are statistics. The first value and the mean lie between the
   extrema, the mean is the quotient over the integers, cut off toward zero, and having it in 32
   bits loses nothing of the quotient in 64. -/
theorem arithmetic_exact (period : UInt32) {requests : List Request}
    (hcount : ((Watched.new period).run requests).offers.length < UInt32.size) :
    let w := (Watched.new period).run requests
    (w.buffer.sum.toInt = total w.accepted ∧ w.buffer.count.toNat = w.accepted.length) ∧
    (w.offers.length + 1 < UInt32.size →
      ∀ o : Offer, InWord (w.buffer.sum.toInt + o.value.toInt)) ∧
    (∀ o : Offer, InWord (o.value.toInt - o.threshold.toNat) ∧
      InWord (o.value.toInt + o.threshold.toNat) ∧
      (w.buffer.isOutlier o.value o.threshold = true ↔ 4 < w.accepted.length ∧
        (w.buffer.max.toInt < o.value.toInt - o.threshold.toNat ∨
          o.value.toInt + o.threshold.toNat < w.buffer.min.toInt))) ∧
    (w.accepted ≠ [] → ∃ s, w.buffer.flush.1 = some s ∧
      s.min ≤ s.firstValue ∧ s.firstValue ≤ s.max ∧ s.min ≤ s.average ∧ s.average ≤ s.max ∧
      s.average.toInt = (total w.accepted).tdiv w.accepted.length ∧
      s.average.toInt64 = w.buffer.sum / Int64.ofNat w.buffer.count.toNat) := by
  intro w
  have hstep : InStep (Buffer.new period).period w := inStep_run period requests
  have htallied := hstep.tallied hcount
  have hle := taken_length_le w.offers
  rw [hstep.accepted_eq hcount]
  refine ⟨⟨htallied.sum, htallied.count⟩, ?_, ?_,
    fun hsome => htallied.summary_ordered hsome hcount⟩
  · intro hnext o
    rw [htallied.sum]
    exact inWord_total_add (by omega) o
  · intro o
    -- Where nothing wraps, the comparison of the buffer is the one of numbers.
    obtain ⟨hbelow, habove⟩ := inWord_beside_threshold o
    have hwarm : warmUpSamples.toNat = 4 := rfl
    refine ⟨hbelow, habove, ?_⟩
    rw [isOutlier_iff_toInt, htallied.count, hwarm]
    omega

/-- The smallest number five times, and then the largest one within the largest threshold. The
sentinels of the extrema are among the samples. -/
theorem arithmetic_exact_extreme :
    let lowest : Offer := ⟨Int32.minValue, 1700000000, 0⟩
    let highest : Offer := ⟨Int32.maxValue, 1700000060, 0xFFFFFFFF⟩
    let w := (Watched.new 10).run ((List.replicate 5 lowest ++ [highest]).map .commit)
    w.offers.length < UInt32.size ∧ w.accepted ≠ [] ∧
    w.buffer.sum.toInt = -5 * 2 ^ 31 + (2 ^ 31 - 1) ∧
    ∃ s, w.buffer.flush.1 = some s ∧ s.min = Int32.minValue ∧ s.max = Int32.maxValue ∧
      s.average.toInt = (-5 * 2 ^ 31 + (2 ^ 31 - 1) : Int).tdiv 6 := by
  intro lowest highest w
  have hcount : w.offers.length < UInt32.size := by decide +kernel
  have hsome : w.accepted ≠ [] := by decide +kernel
  have htotal : total w.accepted = -5 * 2 ^ 31 + (2 ^ 31 - 1) := by decide +kernel
  have hlength : w.accepted.length = 6 := by decide +kernel
  obtain ⟨⟨hsum, -⟩, -, -, hstatistics⟩ := arithmetic_exact 10 hcount
  obtain ⟨s, hs, -, -, -, -, haverage, -⟩ := hstatistics hsome
  have hextrema : (w.buffer.flush.1.map fun s => (s.min, s.max)) =
      some (Int32.minValue, Int32.maxValue) := by decide +kernel
  rw [show w.buffer.flush.1 = some s from hs] at hextrema
  simp only [Option.map_some, Option.some.injEq, Prod.mk.injEq] at hextrema
  refine ⟨hcount, hsome, hsum.trans htotal, s, hs, hextrema.1, hextrema.2, ?_⟩
  rw [haverage, htotal, hlength]
  rfl

end

end WeatherStation.Proofs.Aggregation
