import Mathlib.Data.Nat.Digits.Lemmas
import WeatherStation.Sensor.Capture

/-!
# `WeatherStation.Proofs.Sensor.Waveform`: the frame that a list of intervals stands for

The capture sees an edge at a time and keeps a frame and the time of the last edge. `reference`
says without a capture what the frame is once edges have come at given intervals: short intervals
and the first long one are passed over, and each of the next forty is a bit.

* `decodes_waveform`: an armed capture holds the reference frame after any list of intervals,
  whatever it held before and wherever the clock wraps. A complete frame is not touched any more,
  and the waveform of five octets gives these octets back.

The induction is on the intervals, last one first (`reference_concat`), as each edge depends on all
that came before it. What carries it is that an incomplete capture knows the time of the last edge
(`Follows`).
-/

set_option autoImplicit false

namespace WeatherStation.Proofs.Sensor

open WeatherStation.Sensor

/-! ### Edges -/

/-- The clock readings of edges that come at these intervals, the first one an interval after
`start`. The clock wraps. -/
def edgeTimes (start : UInt32) : List UInt32 → List UInt32
  | [] => []
  | d :: ds => (start + d) :: edgeTimes (start + d) ds

/-- Falling edges at these times, one after the other. -/
def report (c : Capture) (times : List UInt32) : Capture := times.foldl Capture.fallingEdge c

/-- The last edge comes when all intervals have gone by. -/
theorem edgeTimes_concat (start d : UInt32) (ds : List UInt32) :
    edgeTimes start (ds ++ [d]) = edgeTimes start ds ++ [ds.foldl (· + ·) start + d] := by
  induction ds generalizing start with
  | nil => rfl
  | cons x xs ih => exact congrArg (List.cons (start + x)) (ih (start + x))

/-- Edges are reported one after the other. -/
@[simp] theorem report_concat (c : Capture) (times : List UInt32) (time : UInt32) :
    report c (times ++ [time]) = (report c times).fallingEdge time := List.foldl_concat ..

section
variable {c : Capture} {time : UInt32}

/-- A capture that is not armed ignores an edge. -/
theorem fallingEdge_of_disarmed (h : c.armed = false) : c.fallingEdge time = c := by
  simp [Capture.fallingEdge, h]

/-- A capture whose frame is complete ignores an edge. -/
theorem fallingEdge_of_complete (h : c.frame.edges = expectedEdges) : c.fallingEdge time = c := by
  simp [Capture.fallingEdge, h]

/-- An armed capture takes an edge while bits are missing. The difference of two readings of the
clock is the interval also where the clock has wrapped in between. -/
theorem fallingEdge_of_incomplete (harmed : c.armed = true) (h : c.frame.edges < expectedEdges) :
    c.fallingEdge time =
      let frame := Capture.extend c.frame (time - c.lastEdge)
      ⟨frame, time, true, c.done || frame.isComplete⟩ := by
  rw [Capture.fallingEdge, if_neg]
  simpa [harmed] using h

/-- Once the frame is complete nothing that comes later changes the capture. -/
theorem report_of_complete (h : c.frame.edges = expectedEdges) (times : List UInt32) :
    report c times = c := by
  induction times with
  | nil => rfl
  | cons time times ih =>
    show report (c.fallingEdge time) times = c
    rw [fallingEdge_of_complete h, ih]

end

/-! ### The reference -/

/-- Whether an interval is too short to end the preamble. -/
def isShort (d : UInt32) : Bool := d ≤ preambleMin

/-- The bit that an interval stands for. -/
def bitOf (d : UInt32) : Bool := bitOneMin ≤ d

/-- The number that bits write, the most significant one first. -/
def valueOf (bits : List Bool) : Nat := Nat.ofDigits 2 (bits.map Bool.toNat).reverse

/-- The frame of a preamble that ends with the interval `long` and of the intervals behind it. -/
def dataFrame (long : UInt32) (data : List UInt32) : Frame where
  bits := .ofNat (valueOf (data.map bitOf))
  edges := preambleEdges + .ofNat data.length
  lastInterval := data.getLast?.getD long

/-- The frame of edges at these intervals: the first intervals, as long as they are short, and the
long one behind them carry no data, the next forty are the bits, and the rest does not count. -/
def reference (ds : List UInt32) : Frame :=
  match ds.dropWhile isShort with
  | [] => ⟨0, 0, ds.getLast?.getD 0⟩
  | long :: rest => dataFrame long (rest.take dataBits.toNat)

/-- The eight bits of an octet, the most significant one first. -/
def octetBits (octet : UInt8) : List Bool :=
  (List.range 8).map fun i => octet.toNat.testBit (7 - i)

/-- The bits of five octets, in the order they are sent. -/
def bitsOf (octets : Octets) : List Bool := octets.toList.flatMap octetBits

/-! ### Numbers -/

/-- The bits in front count more, by a factor for each bit behind them. -/
theorem valueOf_append (xs ys : List Bool) :
    valueOf (xs ++ ys) = valueOf xs * 2 ^ ys.length + valueOf ys := by
  rw [valueOf, List.map_append, List.reverse_append, Nat.ofDigits_append, List.length_reverse,
    List.length_map, Nat.mul_comm, Nat.add_comm]
  rfl

/-- One more bit at the end. -/
theorem valueOf_concat (bits : List Bool) (b : Bool) :
    valueOf (bits ++ [b]) = 2 * valueOf bits + b.toNat := by
  have hone : valueOf [b] = b.toNat := by simp [valueOf]
  rw [valueOf_append, hone, List.length_singleton]
  omega

/-- So many bits write a number below that power of two. -/
theorem valueOf_lt (bits : List Bool) : valueOf bits < 2 ^ bits.length := by
  have hdigits : ∀ x ∈ (bits.map Bool.toNat).reverse, x < 2 := by
    intro x hx
    obtain ⟨b, -, rfl⟩ := List.mem_map.mp (List.mem_reverse.mp hx)
    exact Bool.toNat_lt b
  have hlt := Nat.ofDigits_lt_base_pow_length Nat.one_lt_two hdigits
  rwa [List.length_reverse, List.length_map] at hlt

/-- One more bit, as the capture adds it: it shifts the number to the left and sets the lowest bit.
With less than 63 bits so far none is lost at the top. -/
theorem ofNat_valueOf_concat (bits : List Bool) (b : Bool) (h : bits.length < 63) :
    UInt64.ofNat (valueOf (bits ++ [b])) =
      UInt64.ofNat (valueOf bits) <<< 1 ||| (if b then 1 else 0) := by
  have hlt : valueOf bits < 2 ^ 63 :=
    Nat.lt_of_lt_of_le (valueOf_lt bits) (Nat.pow_le_pow_right Nat.two_pos (by omega))
  have hone : b.toNat < 2 ^ 1 := Bool.toNat_lt b
  have hbit : (if b then 1 else 0 : UInt64).toNat = b.toNat := by cases b <;> rfl
  have hshift : (UInt64.ofNat (valueOf bits) <<< 1).toNat = 2 ^ 1 * valueOf bits := by
    rw [UInt64.toNat_shiftLeft, UInt64.toNat_ofNat', show (1 : UInt64).toNat % 64 = 1 from rfl,
      Nat.shiftLeft_eq]
    omega
  apply UInt64.toNat_inj.mp
  rw [UInt64.toNat_or, hshift, hbit, ← Nat.two_pow_add_eq_or_of_lt hone, UInt64.toNat_ofNat',
    valueOf_concat]
  omega

/-- There are eight of them. -/
theorem length_octetBits (octet : UInt8) : (octetBits octet).length = 8 := by
  simp [octetBits]

/-- The bits of an octet write the octet. -/
theorem valueOf_octetBits (octet : UInt8) : valueOf (octetBits octet) = octet.toNat := by
  have hlt := octet.toNat_lt
  have hbits : octetBits octet = [octet.toNat.testBit 7, octet.toNat.testBit 6,
      octet.toNat.testBit 5, octet.toNat.testBit 4, octet.toNat.testBit 3, octet.toNat.testBit 2,
      octet.toNat.testBit 1, octet.toNat.testBit 0] := rfl
  simp only [hbits, valueOf, List.map_cons, List.map_nil, List.reverse_cons, List.reverse_nil,
    List.nil_append, List.cons_append, Nat.ofDigits_cons, Nat.ofDigits_nil, Nat.toNat_testBit]
  omega

/-- The number that the bits of five octets write. -/
theorem valueOf_bitsOf (o : Octets) :
    valueOf (bitsOf o) = (((o.humidityHigh.toNat * 256 + o.humidityLow.toNat) * 256 +
      o.temperatureHigh.toNat) * 256 + o.temperatureLow.toNat) * 256 + o.checksum.toNat := by
  have hbits : bitsOf o = octetBits o.humidityHigh ++ (octetBits o.humidityLow ++
      (octetBits o.temperatureHigh ++ (octetBits o.temperatureLow ++
        octetBits o.checksum))) := by
    simp [bitsOf, Octets.toList]
  simp only [hbits, valueOf_append, valueOf_octetBits, List.length_append, length_octetBits]
  omega

/-! ### One more interval -/

/-- Without a long interval there is no data. The capture only keeps the last interval. -/
theorem reference_of_short {ds : List UInt32} (h : ds.dropWhile isShort = []) :
    reference ds = ⟨0, 0, ds.getLast?.getD 0⟩ := by
  rw [reference, h]

/-- The first long interval ends the preamble, and what comes behind it is data. -/
theorem reference_of_long {ds rest : List UInt32} {long : UInt32}
    (h : ds.dropWhile isShort = long :: rest) :
    reference ds = dataFrame long (rest.take dataBits.toNat) := by
  rw [reference, h]

/-- Two edges of the preamble count, however many there were, and one for each bit. -/
theorem toNat_edges_dataFrame (long : UInt32) {data : List UInt32} (h : data.length ≤ 40) :
    (dataFrame long data).edges.toNat = 2 + data.length := by
  rw [dataFrame, UInt32.toNat_add, UInt32.toNat_ofNat', show preambleEdges.toNat = 2 from rfl]
  omega

/-- A frame of data is complete with its fortieth bit. -/
theorem edges_dataFrame_iff (long : UInt32) {data : List UInt32} (h : data.length ≤ 40) :
    (dataFrame long data).edges = expectedEdges ↔ data.length = 40 := by
  rw [← UInt32.toNat_inj, toNat_edges_dataFrame long h, show expectedEdges.toNat = 42 from rfl]
  omega

/-- The end of the preamble and forty bits make a frame, and nothing less does. Intervals behind the
fortieth bit do not matter. -/
theorem edges_reference_iff (ds : List UInt32) :
    (reference ds).edges = expectedEdges ↔ 40 < (ds.dropWhile isShort).length := by
  cases h : ds.dropWhile isShort with
  | nil =>
    rw [reference_of_short h]
    show (0 : UInt32) = expectedEdges ↔ 40 < 0
    decide
  | cons long rest =>
    have hlength : (rest.take dataBits.toNat).length ≤ 40 := List.length_take_le ..
    rw [reference_of_long h, edges_dataFrame_iff long hlength, List.length_take, List.length_cons,
      show dataBits.toNat = 40 from rfl]
    omega

/-- Behind the preamble every edge is a bit, which is one if its interval is long enough for
that. -/
theorem extend_dataFrame (long d : UInt32) {data : List UInt32} (h : data.length < 40) :
    Capture.extend (dataFrame long data) d = dataFrame long (data ++ [d]) := by
  have hedges : ¬ (dataFrame long data).edges < preambleEdges := by
    rw [UInt32.lt_iff_toNat_lt, toNat_edges_dataFrame long (Nat.le_of_lt h),
      show preambleEdges.toNat = 2 from rfl]
    omega
  have hbits := ofNat_valueOf_concat (data.map bitOf) (bitOf d) (by rw [List.length_map]; omega)
  have hbit : (if bitOf d then 1 else 0 : UInt64) = if bitOneMin ≤ d then 1 else 0 := by
    simp [bitOf]
  rw [Capture.extend, if_neg hedges, dataFrame, dataFrame, List.map_append, List.map_singleton,
    hbits, hbit, List.length_append, List.length_singleton, UInt32.ofNat_add, UInt32.add_assoc,
    List.getLast?_concat]
  rfl

/-- An edge of the preamble leaves the preamble where the reference does. Short intervals are passed
over and the first long one is the end of it. -/
theorem extend_preamble (last d : UInt32) :
    Capture.extend ⟨0, 0, last⟩ d = if isShort d then ⟨0, 0, d⟩ else dataFrame d [] := by
  have hzero : (0 : UInt32) < preambleEdges := by decide
  rw [Capture.extend, if_pos hzero]
  by_cases h : preambleMin < d
  · have hlong : isShort d = false := decide_eq_false (UInt32.not_le.mpr h)
    rw [hlong, if_pos h]
    rfl
  · have hshort : isShort d = true := decide_eq_true (UInt32.not_lt.mp h)
    rw [hshort, if_neg h]
    rfl

/-- The reference takes one more interval the way the capture takes one more edge. The cases are
those of the capture: in the preamble, among the data, and behind it, where nothing changes any
more. -/
theorem reference_concat (ds : List UInt32) (d : UInt32) :
    reference (ds ++ [d]) =
      if (reference ds).edges = expectedEdges then reference ds
      else Capture.extend (reference ds) d := by
  cases h : ds.dropWhile isShort with
  | nil =>
    have hedges : (reference ds).edges ≠ expectedEdges := by
      rw [reference_of_short h]
      show (0 : UInt32) ≠ expectedEdges
      decide
    have hdrop : (ds ++ [d]).dropWhile isShort = if isShort d then [] else [d] := by
      rw [List.dropWhile_append, h]
      cases hd : isShort d <;> simp [hd]
    rw [if_neg hedges, reference_of_short h, extend_preamble]
    cases hd : isShort d with
    | true =>
      rw [reference_of_short (by simpa [hd] using hdrop), List.getLast?_concat]
      rfl
    | false => exact reference_of_long (by simpa [hd] using hdrop)
  | cons long rest =>
    have hdrop : (ds ++ [d]).dropWhile isShort = long :: (rest ++ [d]) := by
      rw [List.dropWhile_append, h]
      rfl
    have hlength : (rest.take dataBits.toNat).length ≤ 40 := List.length_take_le ..
    rw [reference_of_long h, reference_of_long hdrop]
    by_cases hfull : 40 ≤ rest.length
    · -- The forty bits are there already.
      have htake : (rest ++ [d]).take dataBits.toNat = rest.take dataBits.toNat :=
        List.take_append_of_le_length hfull
      have hforty : (rest.take dataBits.toNat).length = 40 := List.length_take_of_le hfull
      rw [htake, if_pos ((edges_dataFrame_iff long hlength).mpr hforty)]
    · have hrest : rest.take dataBits.toNat = rest :=
        List.take_of_length_le (by show rest.length ≤ 40; omega)
      have htake : (rest ++ [d]).take dataBits.toNat = rest ++ [d] :=
        List.take_of_length_le (by
          rw [List.length_append, List.length_singleton]
          show rest.length + 1 ≤ 40
          omega)
      have hopen : (dataFrame long rest).edges ≠ expectedEdges := by
        rw [Ne, edges_dataFrame_iff long (by omega)]
        omega
      rw [hrest, htake, if_neg hopen, extend_dataFrame long d (by omega)]

/-! ### The capture -/

/-- The capture has seen edges at these intervals since `start`. Only while the frame is incomplete
does it keep the time of the last edge. -/
structure Follows (start : UInt32) (ds : List UInt32) (c : Capture) : Prop where
  armed : c.armed = true
  frame : c.frame = reference ds
  lastEdge : c.frame.edges ≠ expectedEdges → c.lastEdge = ds.foldl (· + ·) start

/-- No frame has more edges than a complete one. -/
theorem edges_reference_le (ds : List UInt32) : (reference ds).edges ≤ expectedEdges := by
  cases h : ds.dropWhile isShort with
  | nil =>
    rw [reference_of_short h]
    exact UInt32.zero_le
  | cons long rest =>
    have hlength : (rest.take dataBits.toNat).length ≤ 40 := List.length_take_le ..
    rw [reference_of_long h, UInt32.le_iff_toNat_le, toNat_edges_dataFrame long hlength,
      show expectedEdges.toNat = 42 from rfl]
    omega

/-- One more edge. A frame that it does not complete was not complete before, so the time of the
edge before it is known and gives the interval. -/
theorem Follows.concat {start : UInt32} {ds : List UInt32} {c : Capture} (h : Follows start ds c)
    (d : UInt32) : Follows start (ds ++ [d]) (c.fallingEdge (ds.foldl (· + ·) start + d)) := by
  by_cases hedges : c.frame.edges = expectedEdges
  · rw [fallingEdge_of_complete hedges]
    refine ⟨h.armed, ?_, fun hopen => absurd hedges hopen⟩
    rw [reference_concat, if_pos (h.frame ▸ hedges), h.frame]
  · have hlt : c.frame.edges < expectedEdges :=
      UInt32.lt_of_le_of_ne (h.frame ▸ edges_reference_le ds) hedges
    have helapsed : ds.foldl (· + ·) start + d - c.lastEdge = d := by
      rw [h.lastEdge hedges, UInt32.add_comm, UInt32.add_sub_cancel]
    rw [fallingEdge_of_incomplete h.armed hlt]
    refine ⟨rfl, ?_, fun _ => by rw [List.foldl_concat]⟩
    rw [helapsed, reference_concat, if_neg (h.frame ▸ hedges), h.frame]

/-- By induction on the intervals from the last one, as each edge depends on those before it. -/
theorem follows_report (c : Capture) (start : UInt32) (ds : List UInt32) :
    Follows start ds (report (c.arm start) (edgeTimes start ds)) := by
  induction ds using List.reverseRecOn with
  | nil => exact ⟨rfl, rfl, fun _ => rfl⟩
  | append_singleton ds d ih =>
    rw [edgeTimes_concat, report_concat]
    exact ih.concat d

/-! ### Five octets -/

/-- A shift to the right divides by a power of two. -/
theorem toNat_shift {bits k : UInt64} (hk : k.toNat < 64) :
    (bits >>> k).toNat = bits.toNat / 2 ^ k.toNat := by
  rw [UInt64.toNat_shiftRight, Nat.mod_eq_of_lt hk, Nat.shiftRight_eq_div_pow]

/-- The octets of a number, the high one first. Each is what is left of the number modulo 256 behind
a shift. -/
theorem octets_of_toNat {f : Frame} {octets : Octets}
    (h : f.bits.toNat = (((octets.humidityHigh.toNat * 256 + octets.humidityLow.toNat) * 256 +
      octets.temperatureHigh.toNat) * 256 + octets.temperatureLow.toNat) * 256 +
        octets.checksum.toNat) : f.octets = octets := by
  obtain ⟨h₁, h₂, t₁, t₂, c⟩ := octets
  have := h₁.toNat_lt
  have := h₂.toNat_lt
  have := t₁.toNat_lt
  have := t₂.toNat_lt
  have := c.toNat_lt
  dsimp only at h
  have hshift (k : UInt64) (hk : k.toNat < 64) :
      (f.bits >>> k).toUInt8.toNat = f.bits.toNat / 2 ^ k.toNat % 256 := by
    rw [UInt64.toNat_toUInt8, toNat_shift hk]
  have h32 : (32 : UInt64).toNat = 32 := rfl
  have h24 : (24 : UInt64).toNat = 24 := rfl
  have h16 : (16 : UInt64).toNat = 16 := rfl
  have h8 : (8 : UInt64).toNat = 8 := rfl
  rw [Frame.octets, Octets.mk.injEq]
  simp only [← UInt8.toNat_inj, hshift 32 (by decide), hshift 24 (by decide),
    hshift 16 (by decide), hshift 8 (by decide), UInt64.toNat_toUInt8, h32, h24, h16, h8, h]
  omega

/-- The octets of the number that five octets write. -/
theorem octets_of_bits {f : Frame} {octets : Octets}
    (h : f.bits = .ofNat (valueOf (bitsOf octets))) : f.octets = octets := by
  have := octets.humidityHigh.toNat_lt
  have := octets.humidityLow.toNat_lt
  have := octets.temperatureHigh.toNat_lt
  have := octets.temperatureLow.toNat_lt
  have := octets.checksum.toNat_lt
  apply octets_of_toNat
  rw [h, UInt64.toNat_ofNat', valueOf_bitsOf]
  omega

/-- Five octets have forty bits, as many as a frame. -/
theorem length_bitsOf (octets : Octets) : (bitsOf octets).length = 40 := by
  simp [bitsOf, Octets.toList, length_octetBits]

/-- A preamble, with as many short intervals as there may be, then the bits of five octets, then
anything. -/
theorem reference_of_octets {octets : Octets} {preamble data later : List UInt32} {long : UInt32}
    (hpreamble : ∀ d ∈ preamble, d ≤ preambleMin) (hlong : preambleMin < long)
    (hdata : data.map bitOf = bitsOf octets) :
    (reference (preamble ++ long :: data ++ later)).octets = octets ∧
      (reference (preamble ++ long :: data ++ later)).isComplete = true := by
  have hlength : data.length = 40 := by
    rw [← length_bitsOf octets, ← hdata, List.length_map]
  have hshort : ∀ d ∈ preamble, isShort d = true := fun d hd => decide_eq_true (hpreamble d hd)
  have hends : ¬ isShort long = true := by simpa [isShort] using hlong
  have hdrop : (preamble ++ long :: data ++ later).dropWhile isShort = long :: (data ++ later) := by
    rw [List.append_assoc, List.dropWhile_append_of_pos hshort, List.cons_append,
      List.dropWhile_cons_of_neg hends]
  have htake : (data ++ later).take dataBits.toNat = data := by
    rw [show dataBits.toNat = data.length from hlength.symm, List.take_left]
  rw [reference_of_long hdrop, htake]
  refine ⟨octets_of_bits (by rw [dataFrame, hdata]), ?_⟩
  rw [Frame.isComplete, beq_iff_eq, edges_dataFrame_iff long (Nat.le_of_eq hlength), hlength]

/-! ### Every list of intervals -/

/-- A capture that is armed, at whatever time and whatever it held before, and sees edges at any
intervals gives the reference frame.

1. It holds this frame when it is disarmed, wherever the clock wraps.
2. From the fortieth bit on it does not change any more, whatever edges come.
3. Where the intervals are a preamble, with or without short ones in it, and then the bits of five
   octets, it gives these octets back and is complete. -/
theorem decodes_waveform (c : Capture) (start : UInt32) (ds : List UInt32) :
    let caught := report (c.arm start) (edgeTimes start ds)
    caught.disarm.frame = reference ds ∧
    (40 < (ds.dropWhile isShort).length → ∀ times, report caught times = caught) ∧
    (∀ (octets : Octets) (preamble data later : List UInt32) (long : UInt32),
      ds = preamble ++ long :: data ++ later → (∀ d ∈ preamble, d ≤ preambleMin) →
      preambleMin < long → data.map bitOf = bitsOf octets →
      caught.disarm.frame.octets = octets ∧ caught.disarm.frame.isComplete = true) := by
  intro caught
  have hfollows : Follows start ds caught := follows_report c start ds
  refine ⟨hfollows.frame, ?_, ?_⟩
  · -- Behind the long interval there are forty others, so the frame is complete and no edge is
    -- taken any more.
    intro hlength times
    obtain ⟨long, rest, hdrop⟩ :=
      List.exists_cons_of_length_pos (Nat.lt_of_le_of_lt (Nat.zero_le _) hlength)
    have hforty : (rest.take dataBits.toNat).length = 40 := by
      rw [hdrop, List.length_cons] at hlength
      exact List.length_take_of_le (Nat.le_of_lt_succ hlength)
    have hcomplete : caught.frame.edges = expectedEdges := by
      rw [hfollows.frame, reference_of_long hdrop, edges_dataFrame_iff long (Nat.le_of_eq hforty),
        hforty]
    exact report_of_complete hcomplete times
  · rintro octets preamble data later long rfl hpreamble hlong hdata
    have hframe : caught.disarm.frame = reference _ := hfollows.frame
    rw [hframe]
    exact reference_of_octets hpreamble hlong hdata

/-- A sample of -17.0 degrees and 52.0 percent, while the clock wraps, with one edge too many. -/
theorem decodes_waveform_wrapped :
    let octets : Octets := ⟨0x02, 0x08, 0x80, 0xAA, 0x34⟩
    let data := (bitsOf octets).map fun b => if b then 120 else 78
    let ds := [30] ++ 160 :: data ++ [50]
    let caught := report (Capture.idle.arm 0xFFFFFC17) (edgeTimes 0xFFFFFC17 ds)
    (∀ d ∈ [30], d ≤ preambleMin) ∧ preambleMin < 160 ∧ data.map bitOf = bitsOf octets ∧
    40 < (ds.dropWhile isShort).length ∧
    caught.disarm.frame.octets = octets ∧ ∀ times, report caught times = caught := by
  intro octets data ds caught
  have hshort : ∀ d ∈ [30], d ≤ preambleMin := List.forall_mem_singleton.mpr (by decide)
  have hlong : preambleMin < 160 := by decide
  have hdata : data.map bitOf = bitsOf octets := by decide
  have hlength : 40 < (ds.dropWhile isShort).length := by decide
  obtain ⟨-, hfull, hoctets⟩ := decodes_waveform .idle 0xFFFFFC17 ds
  exact ⟨hshort, hlong, hdata, hlength,
    (hoctets octets [30] data [50] 160 rfl hshort hlong hdata).1, hfull hlength⟩

end WeatherStation.Proofs.Sensor
