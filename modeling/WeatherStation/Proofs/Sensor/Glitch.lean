import Mathlib.Data.List.TakeWhile
import WeatherStation.Proofs.Sensor.Encoding
import WeatherStation.Proofs.Sensor.Handoff

/-!
# `WeatherStation.Proofs.Sensor.Glitch`: a disturbed line gives no reading

The waveform of an accepted frame can be disturbed in two ways. An interval is taken for the other
bit, or an edge is not seen at all. `glitch_detected` says that neither leads to a reading.

* A single wrong bit is found by the checksum. Five octets that differ in one place from octets with
  a right checksum have a wrong one (`not_summed_of_differ`), and a wrong bit is in one octet only
  (`differ_of_flip`).
* A missing edge is not found by the checksum, since all later bits move up by one. Here the number
  of edges tells: two intervals become one (`eraseIdx_edgeTimes`), so that the frame stays one edge
  short (`open_withoutEdge`), the completion signal is never raised, and the read waits until its
  time is over (`waits_out`).
-/

set_option autoImplicit false

namespace WeatherStation.Proofs.Sensor

open WeatherStation.Sensor

/-! ### Disturbances -/

/-- The bits behind the preamble, at most forty. -/
def bitsIn (ds : List UInt32) : List Bool :=
  ((ds.dropWhile isShort).tail.take dataBits.toNat).map bitOf

/-- Whether the data intervals of two waveforms stand for the same bits but for one. Their lengths
may differ as far as the bits allow, and so may their preambles and what comes later. -/
def Flipped (ds ds' : List UInt32) : Prop :=
  ∃ before bit after, bitsIn ds = before ++ bit :: after ∧ bitsIn ds' = before ++ (!bit) :: after

/-- The number of edges up to the one that ends the preamble. -/
def preambleLength (ds : List UInt32) : Nat := (ds.takeWhile isShort).length + 1

/-- The edges that the line reports when it misses the data edge number `i` and nothing comes
behind the fortieth. -/
def withoutEdge (start : UInt32) (ds : List UInt32) (i : Nat) : List UInt32 :=
  ((edgeTimes start ds).take (preambleLength ds + dataBits.toNat)).eraseIdx (preambleLength ds + i)

/-- Whether two lists differ in one place. -/
def DifferInOne (xs ys : List UInt8) : Prop :=
  ∃ before x y after, xs = before ++ x :: after ∧ ys = before ++ y :: after ∧ x ≠ y

/-! ### Bits and octets -/

/-- A number has the bits that write it, the last one at the place zero. -/
theorem testBit_valueOf (bits : List Bool) (i : Nat) (h : i < bits.length) :
    (valueOf bits).testBit (bits.length - 1 - i) = bits[i] := by
  induction bits using List.reverseRecOn with
  | nil => simp at h
  | append_singleton bits b ih =>
    have hlast := Bool.toNat_lt b
    have hhalf : (2 * valueOf bits + b.toNat) / 2 = valueOf bits := by omega
    rw [valueOf_concat]
    simp only [List.length_append, List.length_singleton] at h ⊢
    -- The last bit is the parity of the number, and the bits before it write its half.
    by_cases hi : i < bits.length
    · rw [show bits.length + 1 - 1 - i = bits.length - 1 - i + 1 by omega, Nat.testBit_add_one,
        hhalf, ih hi, List.getElem_append_left hi]
    · rw [show bits.length + 1 - 1 - i = 0 by omega, Nat.testBit_zero,
        List.getElem_append_right (by omega)]
      cases b <;> simp

/-- Eight bits are those of the octet that they write. -/
theorem octetBits_ofNat {bits : List Bool} (h : bits.length = 8) :
    octetBits (.ofNat (valueOf bits)) = bits := by
  have hlt := valueOf_lt bits
  rw [h] at hlt
  have hvalue : (UInt8.ofNat (valueOf bits)).toNat = valueOf bits := by
    rw [UInt8.toNat_ofNat']
    omega
  apply List.ext_getElem
  · rw [length_octetBits, h]
  · intro i hi hi'
    have hbit := testBit_valueOf bits i hi'
    rw [h] at hbit
    simp [octetBits, hvalue, hbit]

/-- The bits of an octet tell the octet. -/
theorem octetBits_inj {x y : UInt8} (h : octetBits x = octetBits y) : x = y := by
  rw [← UInt8.toNat_inj, ← valueOf_octetBits, ← valueOf_octetBits, h]

/-- The bits of octets one after the other tell all of them, since each octet has eight. -/
theorem flatMap_octetBits_inj {xs ys : List UInt8} (hlength : xs.length = ys.length)
    (h : xs.flatMap octetBits = ys.flatMap octetBits) : xs = ys := by
  induction xs generalizing ys with
  | nil => exact (List.eq_nil_of_length_eq_zero hlength.symm).symm
  | cons x xs ih =>
    cases ys with
    | nil => simp at hlength
    | cons y ys =>
      rw [List.flatMap_cons, List.flatMap_cons] at h
      obtain ⟨hhead, htail⟩ := List.append_inj h (by simp [length_octetBits])
      rw [octetBits_inj hhead, ih (by simpa using hlength) htail]

/-- Bits in groups of eight are the bits of octets. With this the bits on the line can be compared
by octets, as the checksum does. -/
theorem exists_octets {n : Nat} {bits : List Bool} (h : bits.length = 8 * n) :
    ∃ octets : List UInt8, octets.length = n ∧ octets.flatMap octetBits = bits := by
  induction n generalizing bits with
  | zero =>
    obtain rfl := List.eq_nil_of_length_eq_zero h
    exact ⟨[], rfl, rfl⟩
  | succ n ih =>
    have hhead : (bits.take 8).length = 8 := by
      rw [List.length_take]
      omega
    have htail : (bits.drop 8).length = 8 * n := by
      rw [List.length_drop]
      omega
    obtain ⟨octets, hlength, hbits⟩ := ih htail
    refine ⟨.ofNat (valueOf (bits.take 8)) :: octets, by simp [hlength], ?_⟩
    rw [List.flatMap_cons, octetBits_ofNat hhead, hbits, List.take_append_drop]

/-- The first octet of some bits. -/
theorem cut_octet {x : UInt8} {rest bits : List Bool} (h : octetBits x ++ rest = bits) :
    octetBits x = bits.take 8 ∧ rest = bits.drop 8 := by
  subst h
  simp [← length_octetBits x]

/-- One wrong bit is one wrong octet. By induction on the octets: the bit is among the first eight,
or it is among those behind them. -/
theorem differ_of_flip {xs ys : List UInt8} {before after : List Bool} {bit : Bool}
    (hlength : ys.length = xs.length) (hx : xs.flatMap octetBits = before ++ bit :: after)
    (hy : ys.flatMap octetBits = before ++ (!bit) :: after) : DifferInOne xs ys := by
  induction xs generalizing ys before with
  | nil => simp at hx
  | cons x xs ih =>
    cases ys with
    | nil => simp at hlength
    | cons y ys =>
      have hlength : ys.length = xs.length := by simpa using hlength
      rw [List.flatMap_cons] at hx hy
      obtain ⟨hxhead, hxtail⟩ := cut_octet hx
      obtain ⟨hyhead, hytail⟩ := cut_octet hy
      by_cases hlt : before.length < 8
      · -- The bit is one of this octet, and behind the octet nothing differs.
        have hdrop (b : Bool) : (before ++ b :: after).drop 8 = after.drop (7 - before.length) := by
          rw [List.drop_append, List.drop_eq_nil_of_le (by omega),
            show 8 - before.length = 7 - before.length + 1 by omega, List.drop_succ_cons,
            List.nil_append]
        have hbit (b : Bool) : ((before ++ b :: after).take 8)[before.length]? = some b := by
          rw [List.getElem?_take_of_lt hlt]
          simp
        have htails : ys = xs := by
          apply flatMap_octetBits_inj hlength
          rw [hxtail, hytail, hdrop, hdrop]
        have hne : x ≠ y := by
          rintro rfl
          have hsame := hbit bit
          rw [← hxhead, hyhead, hbit (!bit)] at hsame
          simp at hsame
        exact ⟨[], x, y, xs, rfl, by rw [htails, List.nil_append], hne⟩
      · -- The bit comes later.
        have hheads : octetBits x = octetBits y := by
          rw [hxhead, hyhead, List.take_append_of_le_length (by omega),
            List.take_append_of_le_length (by omega)]
        rw [List.drop_append_of_le_length (by omega)] at hxtail hytail
        obtain ⟨before', x', y', after', hxs, hys, hne⟩ := ih hlength hxtail hytail
        refine ⟨x :: before', x', y', after', by rw [hxs]; rfl, ?_, hne⟩
        rw [hys, octetBits_inj hheads]
        rfl

/-! ### A wrong bit -/

section
variable {o o' : Octets} {ds ds' : List UInt32} {r : Reading}

/-- The checksum finds every change within one octet, its own included, for no two octets are equal
modulo 256. -/
theorem not_summed_of_differ (h : Summed o) (hdiffer : DifferInOne o.toList o'.toList) :
    ¬ Summed o' := by
  obtain ⟨before, x, y, after, ho, ho', hne⟩ := hdiffer
  have hne : x.toNat ≠ y.toNat := mt UInt8.toNat_inj.mp hne
  have := x.toNat_lt
  have := y.toNat_lt
  intro h'
  obtain ⟨h₁, h₂, t₁, t₂, c⟩ := o
  obtain ⟨h₁', h₂', t₁', t₂', c'⟩ := o'
  simp only [Octets.toList] at ho ho'
  simp only [Summed] at h h'
  -- Which of the five octets it is. Beside the changed one the sum and the checksum are the same.
  rcases before with _ | ⟨b₁, _ | ⟨b₂, _ | ⟨b₃, _ | ⟨b₄, _ | ⟨b₅, before⟩⟩⟩⟩⟩ <;>
    simp only [List.nil_append, List.cons_append, List.cons.injEq] at ho ho'
  · grind
  · grind
  · grind
  · grind
  · grind
  · simp at ho

/-- The number in a frame is written by the bits of its waveform. -/
theorem bits_reference (ds : List UInt32) :
    (reference ds).bits = .ofNat (valueOf (bitsIn ds)) := by
  unfold bitsIn
  cases h : ds.dropWhile isShort with
  | nil =>
    rw [reference_of_short h]
    rfl
  | cons long rest =>
    rw [reference_of_long h]
    rfl

/-- A frame is complete when forty intervals have come behind the preamble. -/
theorem isComplete_reference_iff :
    (reference ds).isComplete = true ↔ (bitsIn ds).length = 40 := by
  rw [Frame.isComplete, beq_iff_eq, edges_reference_iff, bitsIn, List.length_map, List.length_take,
    List.length_tail, show dataBits.toNat = 40 from rfl]
  omega

/-- The octets of a complete frame have the bits of its waveform. -/
theorem bitsOf_octets_reference (h : (bitsIn ds).length = 40) :
    bitsOf (reference ds).octets = bitsIn ds := by
  obtain ⟨list, hlength, hbits⟩ := exists_octets (n := 5) h
  obtain ⟨h₁, h₂, t₁, t₂, c, rfl⟩ : ∃ h₁ h₂ t₁ t₂ c, list = [h₁, h₂, t₁, t₂, c] := by
    match list, hlength with
    | [h₁, h₂, t₁, t₂, c], _ => exact ⟨h₁, h₂, t₁, t₂, c, rfl⟩
  have hoctets : bitsOf ⟨h₁, h₂, t₁, t₂, c⟩ = bitsIn ds := hbits
  have hframe : (reference ds).octets = ⟨h₁, h₂, t₁, t₂, c⟩ := by
    apply octets_of_bits
    rw [bits_reference, hoctets]
  rw [hframe, hoctets]

/-- A wrong bit anywhere in an accepted frame. -/
theorem checksumInvalid_of_flipped (haccepted : (reference ds).decode = .ok r)
    (h : Flipped ds ds') : (reference ds').decode = .error .checksumInvalid := by
  obtain ⟨hcomplete, -, hcarries⟩ := decode_eq_ok_iff.mp haccepted
  obtain ⟨before, bit, after, hbits, hbits'⟩ := h
  have hlength := isComplete_reference_iff.mp hcomplete
  have hlength' : (bitsIn ds').length = 40 := by
    rw [← hlength, hbits, hbits']
    simp
  apply decode_eq_checksumInvalid (isComplete_reference_iff.mpr hlength')
  right
  apply not_summed_of_differ hcarries.summed
  have hflat : bitsOf (reference ds).octets = before ++ bit :: after :=
    (bitsOf_octets_reference hlength).trans hbits
  have hflat' : bitsOf (reference ds').octets = before ++ (!bit) :: after :=
    (bitsOf_octets_reference hlength').trans hbits'
  exact differ_of_flip rfl hflat hflat'

end

/-! ### A missing edge -/

/-- The intervals after a missing edge: the one before it goes on to the next edge, if there is
one. -/
def merge (d : UInt32) : List UInt32 → List UInt32
  | [] => []
  | e :: later => (d + e) :: later

/-- One edge less is one interval less. -/
theorem length_merge (d : UInt32) (later : List UInt32) :
    (merge d later).length = later.length := by
  cases later <;> rfl

/-- The first edges belong to the first intervals. -/
theorem take_edgeTimes (start : UInt32) (ds : List UInt32) (n : Nat) :
    (edgeTimes start ds).take n = edgeTimes start (ds.take n) := by
  induction ds generalizing start n with
  | nil => simp [edgeTimes]
  | cons d ds ih =>
    cases n with
    | zero => rfl
    | succ n => simp [edgeTimes, ih]

/-- Edges come at absolute times, so a missing one leaves the others where they are. -/
theorem eraseIdx_edgeTimes (start d : UInt32) (before later : List UInt32) :
    (edgeTimes start (before ++ d :: later)).eraseIdx before.length =
      edgeTimes start (before ++ merge d later) := by
  induction before generalizing start with
  | nil =>
    cases later with
    | nil => rfl
    | cons e later => simp [edgeTimes, merge, UInt32.add_assoc]
  | cons x before ih => simp [edgeTimes, ih]

section
variable {ds : List UInt32}

/-- The preamble of an accepted frame, the long interval that ends it and the forty data
intervals. -/
theorem exists_intervals (h : 40 < (ds.dropWhile isShort).length) :
    ∃ long data, data.length = 40 ∧
      ds.take (preambleLength ds + dataBits.toNat) = ds.takeWhile isShort ++ long :: data := by
  obtain ⟨long, rest, hdrop⟩ :=
    List.exists_cons_of_length_pos (Nat.lt_of_le_of_lt (Nat.zero_le _) h)
  have hds : ds = (ds.takeWhile isShort ++ [long]) ++ rest := by
    rw [List.append_assoc, List.singleton_append, ← hdrop, List.takeWhile_append_dropWhile]
  have hlength : (ds.takeWhile isShort ++ [long]).length = preambleLength ds :=
    List.length_append
  refine ⟨long, rest.take dataBits.toNat, ?_, ?_⟩
  · rw [hdrop, List.length_cons] at h
    exact List.length_take_of_le (Nat.le_of_lt_succ h)
  · -- The preamble is the one of the whole list, so only the list that is cut is written anew.
    conv_lhs => arg 2; rw [hds]
    rw [← hlength, List.take_length_add_append, List.append_assoc, List.singleton_append]

/-- With an edge missing there are the preamble and forty intervals, one of which ends it. That is
one data interval too few. -/
theorem withoutEdge_eq (start : UInt32) (h : 40 < (ds.dropWhile isShort).length) {i : Nat}
    (hi : i < 40) :
    ∃ behind, behind.length = 40 ∧
      withoutEdge start ds i = edgeTimes start (ds.takeWhile isShort ++ behind) := by
  obtain ⟨long, data, hdata, htake⟩ := exists_intervals h
  have hsplit : data = data.take i ++ data[i] :: data.drop (i + 1) := by
    rw [← List.drop_eq_getElem_cons, List.take_append_drop]
  have hcut : ds.takeWhile isShort ++ long :: data =
      (ds.takeWhile isShort ++ long :: data.take i) ++ data[i] :: data.drop (i + 1) := by
    rw [List.append_assoc, List.cons_append, ← hsplit]
  -- The place of the missing edge counts the intervals before the one that it ends.
  have hplace :
      preambleLength ds + i = (ds.takeWhile isShort ++ long :: data.take i).length := by
    simp only [preambleLength, List.length_append, List.length_cons, List.length_take, hdata]
    omega
  refine ⟨long :: (data.take i ++ merge data[i] (data.drop (i + 1))), ?_, ?_⟩
  · simp only [List.length_cons, List.length_append, length_merge, List.length_take,
      List.length_drop, hdata]
    omega
  · rw [withoutEdge, take_edgeTimes, htake, hplace, hcut, eraseIdx_edgeTimes, List.append_assoc,
      List.cons_append]

/-- An armed capture that sees the edges of a waveform has its reference frame. -/
theorem frame_caught (start : UInt32) (ds : List UInt32) :
    (caught (start, edgeTimes start ds)).frame = reference ds :=
  (follows_report .idle start ds).frame

/-- Without one of its data edges a frame stays incomplete, however many of the others have come. -/
theorem open_withoutEdge {start : UInt32} {i : Nat} {seen : List UInt32}
    (h : 40 < (ds.dropWhile isShort).length) (hi : i < 40)
    (hseen : seen <+: withoutEdge start ds i) :
    (caught (start, seen)).frame.edges ≠ expectedEdges := by
  obtain ⟨behind, hbehind, htimes⟩ := withoutEdge_eq start h hi
  rw [htimes, List.prefix_iff_eq_take, take_edgeTimes, List.take_append] at hseen
  have hshort : ∀ d ∈ (ds.takeWhile isShort).take seen.length, isShort d = true :=
    fun d hd => List.mem_takeWhile_imp (List.mem_of_mem_take hd)
  rw [hseen, frame_caught, Ne, edges_reference_iff, List.dropWhile_append_of_pos hshort]
  -- Forty intervals are too few for the end of the preamble and forty bits.
  generalize hcame : behind.take _ = came
  have hlength : came.length ≤ 40 := by
    rw [← hcame, List.length_take, hbehind]
    exact Nat.min_le_right ..
  have hdropped := (List.dropWhile_sublist isShort (l := came)).length_le
  omega

end

/-- The signal is raised by the last edge of a complete frame only. -/
theorem done_of_open {w : UInt32 × List UInt32} (h : (caught w).frame.edges ≠ expectedEdges) :
    (caught w).done = false :=
  Bool.eq_false_iff.mpr (mt (caught_honest w).done_iff.mp h)

/-! ### A read that misses an edge -/

/-- The edges among some events. -/
def stamps (events : List Event) : List UInt32 :=
  events.filterMap fun
    | .edge stamp => some stamp
    | _ => none

/-- How often the reader looks when its time is over. -/
def overdue (due : Micros) (events : List Event) : Nat :=
  events.countP fun
    | .step sees => due ≤ sees.now
    | _ => false

/-- A read that waits until `due` and does not see the signal takes three more steps then. The
number says how many are left. -/
inductive Closing (due : Micros) : Stage → Nat → Prop
  | waiting : Closing due (.waiting due) 3
  | unlistening : Closing due (.unlistening false) 2
  | collecting : Closing due (.collecting false) 1
  | finished : Closing due (.finished (.error .timeout)) 0

/-- A read whose edges are the first ones of `times`, those included that come with the events
`later`. -/
structure Starved (due : Micros) (start : UInt32) (times : List UInt32) (b : Bus)
    (later : List Event) (left : Nat) : Prop where
  holds : Holds b
  closing : Closing due b.stage left
  seen : left ≠ 0 → ∃ seen, window b.history = some (start, seen) ∧ seen ++ stamps later <+: times
  done : left = 0 → b.capture.done = false

/-- Up to its last step the read listens to the line. -/
theorem Closing.accepting {due : Micros} {b : Bus} {left : Nat} (h : Closing due b.stage left)
    (hleft : left ≠ 0) (hholds : Holds b) : Accepting b false := by
  obtain ⟨stage, capture, history⟩ := b
  cases h with
  | waiting | unlistening | collecting => exact hholds
  | finished => exact absurd rfl hleft

/-- A step that the reader can make. -/
theorem after_step {b : Bus} {sees : Surroundings} {stage : Stage} {capture : Capture}
    (h : b.stage.next sees b.capture = some (stage, capture)) :
    b.after (.step sees) = ⟨stage, capture, .left b.stage sees stage :: b.history⟩ := by
  rw [Bus.after, h]

/-- A reader that cannot go on yet stays where it is. -/
theorem after_step_of_none {b : Bus} {sees : Surroundings}
    (h : b.stage.next sees b.capture = none) : b.after (.step sees) = b := by
  rw [Bus.after, h]

section
variable {due : Micros} {start : UInt32} {times : List UInt32} {b : Bus} {later : List Event}
  {left : Nat}

/-- An edge that was to come has come. Behind the end of the read it is ignored. -/
theorem Starved.edge {stamp : UInt32}
    (h : Starved due start times b (.edge stamp :: later) left) :
    Starved due start times (b.after (.edge stamp)) later left := by
  refine ⟨h.holds.edge stamp, h.closing, ?_, ?_⟩
  · -- An edge that was to come has come.
    intro hleft
    obtain ⟨seen, hwindow, hpart⟩ := h.seen hleft
    refine ⟨seen ++ [stamp], by simp [Bus.after, window, hwindow], ?_⟩
    rw [List.append_assoc]
    exact hpart
  · -- The read has ended, and its capture is disarmed.
    rintro rfl
    have hdisarmed : b.capture.armed = false := by
      have hholds := h.holds
      obtain ⟨stage, capture, history⟩ := b
      cases h.closing
      exact hholds
    rw [after_edge_of_disarmed hdisarmed]
    exact h.done rfl

/-- The signal is down as long as no first ones of the edges are a complete frame. -/
theorem Starved.signal
    (hopen : ∀ seen, seen <+: times → (caught (start, seen)).frame.edges ≠ expectedEdges)
    (h : Starved due start times b later left) : b.capture.done = false := by
  by_cases hleft : left = 0
  · exact h.done hleft
  · obtain ⟨seen, hwindow, hpart⟩ := h.seen hleft
    obtain ⟨-, w, hwindow', hcapture, -⟩ := h.closing.accepting hleft h.holds
    obtain rfl : (start, seen) = w := Option.some.inj (hwindow.symm.trans hwindow')
    have hcapture : b.capture = caught (start, seen) := hcapture
    rw [hcapture]
    exact done_of_open (hopen seen ((List.prefix_append ..).trans hpart))

/-- A step of the reader brings the end nearer if the time is over. -/
theorem Starved.step {sees : Surroundings}
    (hopen : ∀ seen, seen <+: times → (caught (start, seen)).frame.edges ≠ expectedEdges)
    (h : Starved due start times b (.step sees :: later) left) :
    ∃ left', Starved due start times (b.after (.step sees)) later left' ∧
      left' ≤ left - overdue due [.step sees] := by
  have hsignal := h.signal hopen
  have hone : overdue due [.step sees] ≤ 1 := List.countP_le_length
  obtain ⟨hholds, hclosing, hseen, hdone⟩ := h
  obtain ⟨stage, capture, history⟩ := b
  have hdown : capture.done = false := hsignal
  cases hclosing with
  | waiting =>
    -- The signal is down, so the time alone decides.
    by_cases hdue : due ≤ sees.now
    · have hnext : (Stage.waiting due).next sees capture =
          some (.unlistening false, capture.clearDone) := by
        simp [Stage.next, Capture.takeDone, hdown, hdue]
      rw [after_step hnext]
      have hseen := hseen (by decide)
      exact ⟨2, ⟨hholds.step hnext, .unlistening, fun _ => hseen, by simp⟩, by omega⟩
    · have hnext : (Stage.waiting due).next sees capture = none := by
        simp [Stage.next, Capture.takeDone, hdown, hdue]
      have hearly : overdue due [.step sees] = 0 := by simp [overdue, hdue]
      rw [after_step_of_none hnext]
      exact ⟨3, ⟨hholds, .waiting, hseen, hdone⟩, by omega⟩
  | unlistening =>
    have hnext : (Stage.unlistening false).next sees capture = some (.collecting false, capture) :=
      rfl
    rw [after_step hnext]
    have hseen := hseen (by decide)
    exact ⟨1, ⟨hholds.step hnext, .collecting, fun _ => hseen, by simp⟩, by omega⟩
  | collecting =>
    have hnext : (Stage.collecting false).next sees capture =
        some (.finished (.error .timeout), capture.disarm) := rfl
    rw [after_step hnext]
    exact ⟨0, ⟨hholds.step hnext, .finished, by simp, fun _ => hdown⟩, by omega⟩
  | finished =>
    have hnext : (Stage.finished (.error .timeout)).next sees capture = none := rfl
    rw [after_step_of_none hnext]
    exact ⟨0, ⟨hholds, .finished, by simp, hdone⟩, by omega⟩

/-- By induction on the events. Each look of the reader behind `due` brings the end nearer by one,
and the others do not put it off. -/
theorem Starved.run {events : List Event}
    (hopen : ∀ seen, seen <+: times → (caught (start, seen)).frame.edges ≠ expectedEdges)
    (h : Starved due start times b events left) (hagain : .again ∉ events) :
    ∃ left', Starved due start times (b.run events) [] left' ∧
      left' ≤ left - overdue due events := by
  induction events generalizing b left with
  | nil => exact ⟨left, h, Nat.le_refl _⟩
  | cons event events ih =>
    rw [List.mem_cons, not_or] at hagain
    obtain ⟨left', hafter, hle⟩ : ∃ left', Starved due start times (b.after event) events left' ∧
        left' ≤ left - overdue due [event] := by
      cases event with
      | edge stamp => exact ⟨left, h.edge, Nat.le_refl _⟩
      | step sees => exact h.step hopen
      | again => exact absurd rfl hagain.1
    obtain ⟨left'', hrun, hle'⟩ := ih hafter hagain.2
    refine ⟨left'', hrun, ?_⟩
    have hsum : overdue due (event :: events) = overdue due [event] + overdue due events := by
      rw [← List.singleton_append, overdue, List.countP_append]
      rfl
    omega

/-- A read whose edges never are a complete frame ends with a timeout, once its time is over. -/
theorem waits_out {seen : List UInt32}
    (hopen : ∀ seen, seen <+: times → (caught (start, seen)).frame.edges ≠ expectedEdges)
    (hholds : Holds b) (hstage : b.stage = .waiting due)
    (hwindow : window b.history = some (start, seen)) (hpart : seen ++ stamps later <+: times)
    (hagain : .again ∉ later) :
    (b.run later).capture.done = false ∧
      (∀ result, (b.run later).stage.result? = some result → result = .error .timeout) ∧
      (3 ≤ overdue due later → (b.run later).stage.result? = some (.error .timeout)) := by
  have hstarved : Starved due start times b later 3 :=
    ⟨hholds, hstage ▸ .waiting, fun _ => ⟨seen, hwindow, hpart⟩, by simp⟩
  obtain ⟨left, hend, hleft⟩ := hstarved.run hopen hagain
  refine ⟨hend.signal hopen, ?_, ?_⟩
  · intro result hresult
    have hclosing := hend.closing
    generalize (b.run later).stage = stage at hclosing hresult
    cases hclosing with
    | finished => exact (Option.some.inj hresult).symm
    | _ => cases hresult
  · intro hoverdue
    have hclosing := hend.closing
    obtain rfl : left = 0 := by omega
    generalize (b.run later).stage = stage at hclosing
    cases hclosing
    rfl

end

/-! ### Both disturbances -/

/-- An interval moved across the limit between the bits. -/
theorem flipped_of_moved {preamble before after : List UInt32} {long d d' : UInt32}
    (hpreamble : ∀ d ∈ preamble, d ≤ preambleMin) (hlong : preambleMin < long)
    (hplace : before.length < 40) (hmoved : bitOf d' = !bitOf d) :
    Flipped (preamble ++ long :: (before ++ d :: after))
      (preamble ++ long :: (before ++ d' :: after)) := by
  have hshort : ∀ d ∈ preamble, isShort d = true := fun d hd => decide_eq_true (hpreamble d hd)
  have hends : ¬ isShort long = true := by simpa [isShort] using hlong
  have hbits (x : UInt32) : bitsIn (preamble ++ long :: (before ++ x :: after)) =
      before.map bitOf ++ bitOf x :: (after.take (39 - before.length)).map bitOf := by
    have htake : (before ++ x :: after).take dataBits.toNat =
        before ++ x :: after.take (39 - before.length) := by
      rw [List.take_append, show dataBits.toNat = 40 from rfl, List.take_of_length_le (by omega),
        show 40 - before.length = 39 - before.length + 1 by omega, List.take_succ_cons]
    rw [bitsIn, List.dropWhile_append_of_pos hshort, List.dropWhile_cons_of_neg hends,
      List.tail_cons, htake, List.map_append, List.map_cons]
  exact ⟨_, _, _, hbits d, by rw [hbits, hmoved]⟩

/-- Let a capture obtain a frame that is accepted.

1. A capture that obtains the same bits but for one refuses its frame for the checksum.
2. A capture that sees the same edges without one of the forty data edges, or the first ones of
   them, has no complete frame, and does not raise the completion signal.
3. A read whose edges are such ones ends with a timeout and nothing else. It ends once the reader
   has looked three times after its time is over. -/
theorem glitch_detected (c : Capture) (start : UInt32) {ds : List UInt32} {r : Reading}
    (haccepted : (report (c.arm start) (edgeTimes start ds)).disarm.frame.decode = .ok r) :
    (∀ (c' : Capture) (start' : UInt32) (ds' : List UInt32), Flipped ds ds' →
      (report (c'.arm start') (edgeTimes start' ds')).disarm.frame.decode =
        .error .checksumInvalid) ∧
    (∀ (c' : Capture) (start' : UInt32) (i : Nat) (seen : List UInt32), i < 40 →
      seen <+: withoutEdge start' ds i →
      let missed := report (c'.arm start') seen
      missed.frame.isComplete = false ∧ missed.done = false) ∧
    (∀ (capture : Capture) (before later : List Event) (due : Micros) (start' : UInt32) (i : Nat)
        (seen : List UInt32), i < 40 →
      let b := (Bus.boot capture).run before
      let ended := b.run later
      b.stage = .waiting due → window b.history = some (start', seen) →
      seen ++ stamps later <+: withoutEdge start' ds i → .again ∉ later →
      ended.capture.done = false ∧
        (∀ result, ended.stage.result? = some result → result = .error .timeout) ∧
        (3 ≤ overdue due later → ended.stage.result? = some (.error .timeout))) := by
  have hframe (c : Capture) (start : UInt32) (ds : List UInt32) :
      (report (c.arm start) (edgeTimes start ds)).disarm.frame = reference ds :=
    (follows_report c start ds).frame
  rw [hframe] at haccepted
  -- The accepted frame is complete, so that there are forty data intervals.
  obtain ⟨hcomplete, -, -⟩ := decode_eq_ok_iff.mp haccepted
  have hforty : 40 < (ds.dropWhile isShort).length :=
    (edges_reference_iff ds).mp (beq_iff_eq.mp hcomplete)
  refine ⟨?_, ?_, ?_⟩
  · intro c' start' ds' hflipped
    rw [hframe]
    exact checksumInvalid_of_flipped haccepted hflipped
  · intro c' start' i seen hi hseen missed
    have hedges := open_withoutEdge hforty hi hseen
    exact ⟨beq_eq_false_iff_ne.mpr hedges, done_of_open hedges⟩
  · intro capture before later due start' i seen hi b ended hstage hwindow hpart hagain
    exact waits_out (fun _ => open_withoutEdge hforty hi)
      (sound_run (sound_boot capture) before).holds hstage hwindow hpart hagain

/-- A sample of -17.0 degrees and 52.0 percent with a wrong bit, with its last edge missing, and a
read that misses one of its edges. -/
theorem glitch_detected_sample :
    let data := (bitsOf ⟨0x02, 0x08, 0x80, 0xAA, 0x34⟩).map fun b => if b then 120 else 78
    let ds : List UInt32 := [30] ++ 160 :: data
    let wrong := [30] ++ 160 :: data.set 6 78
    let later := (withoutEdge 0 ds 6).map .edge ++ fromWait
    let frame ds := (report (Capture.idle.arm 0) (edgeTimes 0 ds)).disarm.frame
    (frame ds).decode = .ok ⟨-170, 520⟩ ∧ (frame wrong).decode = .error .checksumInvalid ∧
    (report (Capture.idle.arm 0) (withoutEdge 0 ds 39)).frame.isComplete = false ∧
    (((Bus.boot .idle).run upToWait).run later).stage.result? = some (.error .timeout) := by
  intro data ds wrong later frame
  have haccepted : (frame ds).decode = .ok ⟨-170, 520⟩ := by decide +kernel
  have hdata : data = data.take 6 ++ 120 :: data.drop 7 := by decide +kernel
  have hmoved : data.set 6 78 = data.take 6 ++ 78 :: data.drop 7 := by decide +kernel
  have hflipped : Flipped ds wrong := by
    have hpreamble : ∀ d ∈ [30], d ≤ preambleMin := List.forall_mem_singleton.mpr (by decide)
    have hlong : preambleMin < 160 := by decide
    have hbit : bitOf 78 = !bitOf 120 := by decide
    have hsplit : Flipped ([30] ++ 160 :: (data.take 6 ++ 120 :: data.drop 7))
        ([30] ++ 160 :: (data.take 6 ++ 78 :: data.drop 7)) :=
      flipped_of_moved hpreamble hlong (by decide +kernel) hbit
    rwa [← hdata, ← hmoved] at hsplit
  obtain ⟨hchecksum, hmissing, hread⟩ := glitch_detected .idle 0 haccepted
  have hended := hread .idle upToWait later (startPulse + readTimeout) 0 6 [] (by decide) rfl
    (by decide +kernel) (by decide +kernel) (by simp [later, fromWait])
  exact ⟨haccepted, hchecksum .idle 0 wrong hflipped,
    (hmissing .idle 0 39 _ (by decide) (List.prefix_refl _)).1, hended.2.2 (by decide +kernel)⟩

end WeatherStation.Proofs.Sensor
