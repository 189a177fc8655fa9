import Mathlib.Algebra.Order.Ring.Int
import WeatherStation.Aggregation

/-!
# `WeatherStation.Proofs.Aggregation.Statistics`: a buffer and the samples offered to it

The reference keeps the samples themselves. `taken` is the list of those that are accepted: `Fits`
compares a sample over the integers with the ones taken before it. `Describes` says what a summary
tells of such a list: how many samples it has, their mean, the first one, and for each extremum the
first sample that reaches it. Lists of samples are newest first.

`Tallied` ties a buffer to the samples offered to it. `Tallied.commit` is its step lemma, for any
samples, times and thresholds, up to the number of samples that 32 bits can count. With
`Tallied.isOutlier_iff` the buffer and the reference accept the same samples, and with
`Tallied.describes` the summary of the buffer describes them.

The buffer starts with the largest number as its minimum and the smallest as its maximum, so a
sample with one of these values moves nothing. It is an extremum all the same, only its time is
not noted (`Extreme`). `Inner` leaves these two values out.
-/

set_option autoImplicit false

namespace WeatherStation.Proofs.Aggregation

open WeatherStation.Aggregation

/-! ### The reference -/

/-- A sample as it is offered to a buffer. -/
structure Offer where
  value : Int32
  time : UInt32
  threshold : UInt32

/-- Whether a sample is accepted beside the ones taken before: in the warm-up always, and then if it
lies no further than its threshold beyond the largest and the smallest of them. It is compared over
the integers, where nothing wraps. -/
def Fits (before : List Offer) (o : Offer) : Prop :=
  before.length ≤ warmUpSamples.toNat ∨
    (∃ x ∈ before, o.value.toInt ≤ x.value.toInt + o.threshold.toNat) ∧
      ∃ x ∈ before, x.value.toInt - o.threshold.toNat ≤ o.value.toInt

instance (before : List Offer) (o : Offer) : Decidable (Fits before o) :=
  inferInstanceAs (Decidable (_ ∨ _))

/-- The samples that are accepted. -/
def taken : List Offer → List Offer
  | [] => []
  | o :: past => if Fits (taken past) o then o :: taken past else taken past

/-- The first of the samples that reach the least key. -/
def FirstLeast (key : Int32 → Int) (o : Offer) (samples : List Offer) : Prop :=
  ∃ later earlier, samples = later ++ o :: earlier ∧
    (∀ x ∈ later, key o.value ≤ key x.value) ∧ ∀ x ∈ earlier, key o.value < key x.value

/-- The sum over the integers. -/
def total (samples : List Offer) : Int := (samples.map fun o => o.value.toInt).sum

/-- What a summary tells of the samples of a cycle. The largest sample is the one with the least
negative. -/
structure Describes (period : UInt32) (samples : List Offer) (s : Summary) : Prop where
  count : s.count.toNat = samples.length
  average : s.average.toInt = (total samples).tdiv samples.length
  first : ∃ o, samples.getLast? = some o ∧ s.firstValue = o.value ∧
    s.firstTime.toNat = o.time.toNat / (60 * period.toNat) * (60 * period.toNat)
  min : ∃ o, FirstLeast (fun v => v.toInt) o samples ∧ s.min = o.value ∧
    s.minTime.toNat = o.time.toNat / 60 * 60
  max : ∃ o, FirstLeast (fun v => -v.toInt) o samples ∧ s.max = o.value ∧
    s.maxTime.toNat = o.time.toNat / 60 * 60

/-- Neither the smallest nor the largest number. -/
def Inner (v : Int32) : Prop := v ≠ Int32.minValue ∧ v ≠ Int32.maxValue

/-! ### Starts of minutes and periods -/

/-- The start of a minute is the largest multiple of 60 up to the time. -/
theorem toNat_minuteStart (time : UInt32) :
    (minuteStart time).toNat = time.toNat / 60 * 60 := by
  have hle : time % 60 ≤ time := by
    rw [UInt32.le_iff_toNat_le, UInt32.toNat_mod]
    exact Nat.mod_le _ _
  have hsixty : (60 : UInt32).toNat = 60 := rfl
  rw [minuteStart, UInt32.toNat_sub_of_le _ _ hle, UInt32.toNat_mod, hsixty]
  omega

/-- The start of a period, as long as its length in seconds has 32 bits. -/
theorem toNat_periodStart {period : UInt32} (hperiod : 60 * period.toNat < UInt32.size)
    (time : UInt32) :
    (periodStart period time).toNat =
      time.toNat / (60 * period.toNat) * (60 * period.toNat) := by
  have hlength : (60 * period).toNat = 60 * period.toNat := by
    rw [UInt32.toNat_mul]
    exact Nat.mod_eq_of_lt hperiod
  have hle : time % (60 * period) ≤ time := by
    rw [UInt32.le_iff_toNat_le, UInt32.toNat_mod]
    exact Nat.mod_le _ _
  rw [periodStart, UInt32.toNat_sub_of_le _ _ hle, UInt32.toNat_mod, hlength]
  have hdivision := Nat.div_add_mod' time.toNat (60 * period.toNat)
  omega

/-! ### The accepted samples -/

section
variable {samples past : List Offer} {o x : Offer} {key : Int32 → Int}

/-- No more samples are accepted than offered. -/
theorem taken_length_le (past : List Offer) : (taken past).length ≤ past.length := by
  induction past with
  | nil => simp [taken]
  | cons o past ih =>
    rw [taken]
    split <;> simp only [List.length_cons] <;> omega

/-- Only samples that were offered are accepted. -/
theorem mem_of_mem_taken (h : x ∈ taken past) : x ∈ past := by
  induction past with
  | nil => simp [taken] at h
  | cons o past ih =>
    rw [taken] at h
    split at h
    · rcases List.mem_cons.mp h with rfl | hpast
      · exact List.mem_cons_self
      · exact List.mem_cons_of_mem _ (ih hpast)
    · exact List.mem_cons_of_mem _ (ih h)

/-- The first sample offered is always accepted, since the warm-up begins with it. -/
theorem getLast?_taken (past : List Offer) : (taken past).getLast? = past.getLast? := by
  induction past with
  | nil => rfl
  | cons o past ih =>
    rw [taken]
    split
    · rw [List.getLast?_cons, List.getLast?_cons, ih]
    · -- A sample is rejected only beside others, so the first one is not among the rejected.
      rename_i hfits
      have hsome : taken past ≠ [] := by
        intro hnone
        exact hfits (.inl (by simp [hnone]))
      cases past with
      | nil => exact absurd rfl hsome
      | cons y past => rw [ih, List.getLast?_cons_cons]

/-- Nothing was accepted only if nothing was offered, as the first sample always is. -/
theorem taken_eq_nil : taken past = [] ↔ past = [] := by
  rw [← List.getLast?_eq_none_iff, getLast?_taken, List.getLast?_eq_none_iff]

/-- A sum keeps the bounds of its summands. -/
theorem total_between {low high : Int}
    (h : ∀ x ∈ samples, low ≤ x.value.toInt ∧ x.value.toInt ≤ high) :
    low * (samples.length : Int) ≤ total samples ∧
      total samples ≤ high * (samples.length : Int) := by
  induction samples with
  | nil => simp [total]
  | cons o samples ih =>
    have hnew := h o List.mem_cons_self
    have hsum := ih fun x hx => h x (List.mem_cons_of_mem _ hx)
    have htotal : total (o :: samples) = o.value.toInt + total samples := by simp [total]
    rw [htotal, List.length_cons, Int.natCast_succ, Int.mul_add, Int.mul_add]
    omega

/-- No sum leaves the range that the smallest and the largest number span. -/
theorem total_bounds (samples : List Offer) :
    -2 ^ 31 * (samples.length : Int) ≤ total samples ∧
      total samples ≤ (2 ^ 31 - 1) * (samples.length : Int) := by
  refine total_between fun x _ => ?_
  have hlow := x.value.le_toInt
  have hhigh := x.value.toInt_lt
  omega

/-! ### Extrema -/

/-- The sample is one of them. -/
theorem FirstLeast.mem (h : FirstLeast key o samples) : o ∈ samples := by
  obtain ⟨later, earlier, rfl, -, -⟩ := h
  simp

/-- None of the others is below it. -/
theorem FirstLeast.le (h : FirstLeast key o samples) (hx : x ∈ samples) :
    key o.value ≤ key x.value := by
  obtain ⟨later, earlier, rfl, hlater, hearlier⟩ := h
  rcases List.mem_append.mp hx with hx | hx
  · exact hlater x hx
  · rcases List.mem_cons.mp hx with rfl | hx
    · exact Int.le_refl _
    · exact Int.le_of_lt (hearlier x hx)

/-- A sample below all others is the first to reach the least key, even though it came last. -/
theorem FirstLeast.new (h : ∀ y ∈ samples, key x.value < key y.value) :
    FirstLeast key x (x :: samples) := ⟨[], samples, rfl, nofun, h⟩

/-- A sample that is not below it does not take its place, even if it is as low. -/
theorem FirstLeast.cons (h : FirstLeast key o samples) (hx : key o.value ≤ key x.value) :
    FirstLeast key o (x :: samples) := by
  obtain ⟨later, earlier, rfl, hlater, hearlier⟩ := h
  refine ⟨x :: later, earlier, rfl, fun y hy => ?_, hearlier⟩
  rcases List.mem_cons.mp hy with rfl | hy
  · exact hx
  · exact hlater y hy

end

/-- What a buffer remembers of an extremum. It starts with `start`, which no key exceeds, so a
sample with that value is not noticed, and its time not noted. -/
inductive Extreme (key : Int32 → Int) (start : Int32) : List Offer → Int32 → UInt32 → Prop where
  | none {time : UInt32} : Extreme key start [] start time
  | reached {samples : List Offer} {o : Offer} {time : UInt32} (h : FirstLeast key o samples)
      (htime : o.value ≠ start → time = minuteStart o.time) : Extreme key start samples o.value time

section
variable {key : Int32 → Int} {start value : Int32} {time : UInt32} {samples : List Offer}
  {x : Offer}

/-- Another sample. The buffer compares it with what it remembers, which is the least key so far or
`start`. -/
theorem Extreme.cons (h : Extreme key start samples value time)
    (hstart : ∀ v, key start ≤ key v → v = start) :
    Extreme key start (x :: samples) (if key x.value < key value then x.value else value)
      (if key x.value < key value then minuteStart x.time else time) := by
  split
  · rename_i hless
    refine .reached (.new fun y hy => ?_) fun _ => rfl
    cases h with
    | none => cases hy
    | reached h htime => exact Int.lt_of_lt_of_le hless (h.le hy)
  · rename_i hless
    cases h with
    | none =>
      -- The sample has the value that the buffer starts with.
      obtain rfl := hstart x.value (Int.not_lt.mp hless)
      exact .reached (.new nofun) fun hne => absurd rfl hne
    | reached h htime => exact .reached (h.cons (Int.not_lt.mp hless)) htime

/-- What is remembered of some samples is the first of the least ones, and its minute unless it has
the value to start from. -/
theorem Extreme.of_ne_nil (h : Extreme key start samples value time) (hsome : samples ≠ []) :
    ∃ o, FirstLeast key o samples ∧ value = o.value ∧
      (o.value ≠ start → time = minuteStart o.time) := by
  cases h with
  | none => exact absurd rfl hsome
  | reached h htime => exact ⟨_, h, rfl, htime⟩

end

/-! ### A buffer with the samples offered to it -/

/-- What a buffer keeps of the samples offered since it was emptied. The sum and the counters are
exact as long as 32 bits can count the samples, which is what each step has to see to. -/
structure Tallied (period : UInt32) (offers : List Offer) (b : Buffer) : Prop where
  period_eq : b.period = period
  count : b.count.toNat = (taken offers).length
  rejected : (taken offers).length + b.rejected.toNat = offers.length
  sum : b.sum.toInt = total (taken offers)
  first : b.first = (taken offers).getLast?.map fun o => ⟨o.value, periodStart period o.time⟩
  min : Extreme (fun v => v.toInt) Int32.maxValue (taken offers) b.min b.minTime
  max : Extreme (fun v => -v.toInt) Int32.minValue (taken offers) b.max b.maxTime

/-- A buffer that has been offered nothing. -/
theorem tallied_new {period : UInt32} (hperiod : period ≠ 0) :
    Tallied period [] (.new period) := by
  refine ⟨if_neg hperiod, rfl, rfl, rfl, rfl, .none, .none⟩

section
variable {period : UInt32} {offers : List Offer} {b : Buffer} {o : Offer}

/-- The comparison in 64 bits is the one over the integers, as sample and threshold have 32 bits and
their sum far less than 64. -/
theorem isOutlier_iff_toInt (b : Buffer) (o : Offer) :
    b.isOutlier o.value o.threshold = true ↔
      warmUpSamples.toNat < b.count.toNat ∧
        (b.max.toInt + o.threshold.toNat < o.value.toInt ∨
          o.value.toInt + o.threshold.toNat < b.min.toInt) := by
  -- Values and thresholds have 32 bits, so neither side leaves the 64 bits.
  have hlow := o.value.le_toInt
  have hhigh := o.value.toInt_lt
  have hwide : o.threshold.toNat < 2 ^ 32 := o.threshold.toNat_lt
  have hthreshold : (Int64.ofNat o.threshold.toNat).toInt = o.threshold.toNat :=
    Int64.toInt_ofNat_of_lt (by omega)
  have hbelow : (o.value.toInt64 - Int64.ofNat o.threshold.toNat).toInt =
      o.value.toInt - o.threshold.toNat := by
    rw [Int64.toInt_sub, Int32.toInt_toInt64, hthreshold]
    exact Int.bmod_eq_of_le (by omega) (by omega)
  have habove : (o.value.toInt64 + Int64.ofNat o.threshold.toNat).toInt =
      o.value.toInt + o.threshold.toNat := by
    rw [Int64.toInt_add, Int32.toInt_toInt64, hthreshold]
    exact Int.bmod_eq_of_le (by omega) (by omega)
  simp only [Buffer.isOutlier, Bool.and_eq_true, Bool.or_eq_true, decide_eq_true_eq,
    UInt32.lt_iff_toNat_lt, Int64.lt_iff_toInt_lt, hbelow, habove, Int32.toInt_toInt64]
  omega

/-- The buffer rejects what the reference does. Its count, its minimum and its maximum are those of
the accepted samples, with which the reference compares. -/
theorem Tallied.isOutlier_iff (h : Tallied period offers b) (o : Offer) :
    b.isOutlier o.value o.threshold = true ↔ ¬ Fits (taken offers) o := by
  rw [isOutlier_iff_toInt, h.count, Fits, not_or, Nat.not_le]
  refine and_congr_right fun hwarm => ?_
  have hsome : taken offers ≠ [] := by
    intro hnone
    simp [hnone] at hwarm
  obtain ⟨lowest, hlowest, hmin, -⟩ := h.min.of_ne_nil hsome
  obtain ⟨highest, hhighest, hmax, -⟩ := h.max.of_ne_nil hsome
  rw [hmin, hmax]
  -- A sample near any other is near the largest or the smallest one.
  constructor
  · rintro (habove | hbelow) ⟨⟨x, hx, hxle⟩, ⟨y, hy, hyle⟩⟩
    · have hle := hhighest.le hx
      omega
    · have hle := hlowest.le hy
      omega
  · intro hfar
    by_contra hnear
    exact hfar ⟨⟨highest, hhighest.mem, by omega⟩, ⟨lowest, hlowest.mem, by omega⟩⟩

/-- An accepted sample. Each field takes its part of it: the sum, the count, the extrema, and the
first value if there was none. -/
theorem Tallied.accept (h : Tallied period offers b) (hfits : Fits (taken offers) o)
    (hcount : offers.length + 1 < UInt32.size) :
    Tallied period (o :: offers) (b.accept o.value o.time) := by
  have htaken : taken (o :: offers) = o :: taken offers := by rw [taken, if_pos hfits]
  have hle := taken_length_le offers
  have hsize : UInt32.size = 4294967296 := rfl
  constructor
  · exact h.period_eq
  · show (b.count + 1).toNat = _
    rw [UInt32.toNat_add, UInt32.toNat_one, h.count, htaken, List.length_cons]
    exact Nat.mod_eq_of_lt (by omega)
  · show _ + b.rejected.toNat = _
    have hrejected := h.rejected
    rw [htaken, List.length_cons, List.length_cons]
    omega
  · show (b.sum + o.value.toInt64).toInt = _
    obtain ⟨hlow, hhigh⟩ := total_bounds (o :: taken offers)
    have htotal : total (o :: taken offers) = total (taken offers) + o.value.toInt := by
      simp [total, Int.add_comm]
    rw [Int64.toInt_add, Int32.toInt_toInt64, h.sum, htaken, ← htotal]
    -- There are fewer than 2 ^ 32 summands, each in 32 bits.
    rw [List.length_cons] at hlow hhigh
    exact Int.bmod_eq_of_le (by omega) (by omega)
  · show (b.first <|> some ⟨o.value, periodStart b.period o.time⟩) = _
    rw [h.first, htaken, h.period_eq, List.getLast?_cons]
    cases (taken offers).getLast? <;> rfl
  · rw [htaken]
    simpa only [Buffer.accept, Int32.lt_iff_toInt_lt] using
      h.min.cons (x := o) fun v hv => Int32.toInt_inj.mp (Int.le_antisymm v.toInt_le hv)
  · rw [htaken]
    have hlowest : ∀ v : Int32, -Int32.minValue.toInt ≤ -v.toInt → v = Int32.minValue :=
      fun v hv =>
        Int32.toInt_inj.mp (Int.le_antisymm (Int.neg_le_neg_iff.mp hv) v.minValue_le_toInt)
    simpa only [Buffer.accept, Int32.lt_iff_toInt_lt, Int.neg_lt_neg_iff] using
      h.max.cons (x := o) hlowest

/-- A rejected sample is only counted. -/
theorem Tallied.reject (h : Tallied period offers b) (hfits : ¬ Fits (taken offers) o)
    (hcount : offers.length + 1 < UInt32.size) :
    Tallied period (o :: offers) { b with rejected := b.rejected + 1 } := by
  have htaken : taken (o :: offers) = taken offers := by rw [taken, if_neg hfits]
  have hrejected := h.rejected
  have hsize : UInt32.size = 4294967296 := rfl
  refine ⟨h.period_eq, ?_, ?_, ?_, ?_, ?_, ?_⟩ <;> rw [htaken]
  · exact h.count
  · show _ + (b.rejected + 1).toNat = _
    rw [UInt32.toNat_add, UInt32.toNat_one, Nat.mod_eq_of_lt (by omega), List.length_cons]
    omega
  · exact h.sum
  · exact h.first
  · exact h.min
  · exact h.max

/-- No sample changes the period. -/
theorem period_commit {value : Int32} {time threshold : UInt32} :
    (b.commit value time threshold).2.period = b.period := by
  rw [Buffer.commit]
  split <;> rfl

/-- The buffer tells whether it has accepted the sample. -/
theorem Tallied.commit_fst (h : Tallied period offers b) (o : Offer) :
    (b.commit o.value o.time o.threshold).1 = true ↔ Fits (taken offers) o := by
  have houtlier := h.isOutlier_iff o
  rw [Buffer.commit]
  split
  · rename_i hfar
    exact ⟨nofun, fun hfits => absurd hfits (houtlier.mp hfar)⟩
  · rename_i hnear
    exact ⟨fun _ => not_not.mp fun hfits => hnear (houtlier.mpr hfits), fun _ => rfl⟩

/-- Another sample, as long as the number of samples stays below the limit of the counters. -/
theorem Tallied.commit (h : Tallied period offers b) (o : Offer)
    (hcount : offers.length + 1 < UInt32.size) :
    Tallied period (o :: offers) (b.commit o.value o.time o.threshold).2 := by
  have houtlier := h.isOutlier_iff o
  rw [Buffer.commit]
  split
  · rename_i hfar
    exact h.reject (houtlier.mp hfar) hcount
  · rename_i hnear
    exact h.accept (not_not.mp fun hfits => hnear (houtlier.mpr hfits)) hcount

/-! ### The summary -/

/-- A quotient that is cut off toward zero stays between bounds, as these are whole numbers. -/
theorem tdiv_between {n : Nat} {sum low high : Int} (hn : 0 < n) (hlow : low * (n : Int) ≤ sum)
    (hhigh : sum ≤ high * (n : Int)) : low ≤ sum.tdiv n ∧ sum.tdiv n ≤ high := by
  have hpositive : (0 : Int) < n := by omega
  have hto := Int.tdiv_le_tdiv hpositive hhigh
  rw [Int.mul_tdiv_cancel _ (by omega)] at hto
  exact ⟨Int.le_tdiv_of_mul_le hpositive hlow, hto⟩

/-- The quotient in 64 bits is the one over the integers. -/
theorem toInt_quotient {n : Nat} {sum : Int64} (hn : 0 < n) (hsize : n < UInt32.size)
    (hlow : -2 ^ 31 * (n : Int) ≤ sum.toInt) (hhigh : sum.toInt ≤ (2 ^ 31 - 1) * (n : Int)) :
    (sum / Int64.ofNat n).toInt = sum.toInt.tdiv n := by
  obtain ⟨hfrom, hto⟩ := tdiv_between hn hlow hhigh
  have hcount : (Int64.ofNat n).toInt = n :=
    Int64.toInt_ofNat_of_lt (Nat.lt_trans hsize (by decide))
  rw [Int64.toInt_div, hcount]
  exact Int.bmod_eq_of_le (by omega) (by omega)

/-- A mean in 32 bits, which is one because it lies between the smallest and the largest
number. -/
theorem toInt_average {n : Nat} {sum : Int64} (hn : 0 < n) (hsize : n < UInt32.size)
    (hlow : -2 ^ 31 * (n : Int) ≤ sum.toInt) (hhigh : sum.toInt ≤ (2 ^ 31 - 1) * (n : Int)) :
    (sum / Int64.ofNat n).toInt32.toInt = sum.toInt.tdiv n := by
  -- The quotient keeps the bounds of the sum, so it fits where the sum does not.
  obtain ⟨hfrom, hto⟩ := tdiv_between hn hlow hhigh
  rw [Int64.toInt_toInt32, toInt_quotient hn hsize hlow hhigh]
  exact Int.bmod_eq_of_le (by omega) (by omega)

/-- The summary of a buffer that has accepted samples. -/
theorem Tallied.summary?_eq_some (h : Tallied period offers b) (hsome : taken offers ≠ []) :
    ∃ first, (taken offers).getLast? = some first ∧
      b.summary? = some
        { average := (b.sum / Int64.ofNat b.count.toNat).toInt32
          firstValue := first.value
          firstTime := periodStart period first.time
          min := b.min
          minTime := b.minTime
          max := b.max
          maxTime := b.maxTime
          count := b.count } := by
  have hne : b.count ≠ 0 := by
    intro hzero
    have hlength := h.count
    rw [hzero, UInt32.toNat_zero] at hlength
    exact hsome (List.eq_nil_of_length_eq_zero hlength.symm)
  obtain ⟨first, hfirst⟩ := Option.ne_none_iff_exists'.mp (mt List.getLast?_eq_none_iff.mp hsome)
  refine ⟨first, hfirst, ?_⟩
  rw [Buffer.summary?, if_neg hne, h.first, hfirst]
  rfl

/-- The summary of a buffer describes the samples that it has accepted. -/
theorem Tallied.describes (h : Tallied period offers b) (hsome : offers ≠ [])
    (hcount : offers.length < UInt32.size) (hperiod : 60 * period.toNat < UInt32.size)
    (hinner : ∀ o ∈ offers, Inner o.value) :
    ∃ s, b.summary? = some s ∧ Describes period (taken offers) s := by
  have htaken : taken offers ≠ [] := fun hnone => hsome (taken_eq_nil.mp hnone)
  have hle := taken_length_le offers
  have hpositive : 0 < (taken offers).length := List.length_pos_iff.mpr htaken
  obtain ⟨hlow, hhigh⟩ := total_bounds (taken offers)
  obtain ⟨lowest, hlowest, hmin, hminTime⟩ := h.min.of_ne_nil htaken
  obtain ⟨highest, hhighest, hmax, hmaxTime⟩ := h.max.of_ne_nil htaken
  -- The times are noted because no sample has a value that the buffer starts with.
  have hminTime := hminTime (hinner _ (mem_of_mem_taken hlowest.mem)).2
  have hmaxTime := hmaxTime (hinner _ (mem_of_mem_taken hhighest.mem)).1
  obtain ⟨first, hfirst, hsummary⟩ := h.summary?_eq_some htaken
  refine ⟨_, hsummary, ?_⟩
  constructor
  · exact h.count
  · show (b.sum / Int64.ofNat b.count.toNat).toInt32.toInt = _
    rw [h.count, ← h.sum]
    rw [← h.sum] at hlow hhigh
    exact toInt_average hpositive (Nat.lt_of_le_of_lt hle hcount) hlow hhigh
  · exact ⟨first, hfirst, rfl, toNat_periodStart hperiod _⟩
  · exact ⟨lowest, hlowest, hmin, by rw [← toNat_minuteStart, ← hminTime]⟩
  · exact ⟨highest, hhighest, hmax, by rw [← toNat_minuteStart, ← hmaxTime]⟩

end

end WeatherStation.Proofs.Aggregation
