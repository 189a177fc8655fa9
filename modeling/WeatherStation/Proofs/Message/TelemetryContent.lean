import Mathlib.Tactic.FieldSimp
import WeatherStation.Proofs.Json.ReadBack
import WeatherStation.Proofs.Station.PayloadSize

/-!
# `WeatherStation.Proofs.Message.TelemetryContent`: a telemetry message loses nothing

Statistics travel as texts with one decimal, and the id of a station is a text with anything in it.
A receiver reads the message as a document, and each of those texts as a number. `Reports` says what
it must have of a channel.

* `tenths?_toText`: the text of a count of tenths is a number, and ten times this is the count.
* `document?_telemetry`: the document that a message should be.
* `Reports.unique`: a document is the report of one channel only.

`telemetry_content` says of every message that its bytes are one document with the id, the start of
the period and the statistics of both channels, in the order of the format. That two messages with
the same bytes are equal follows from this and from nothing else.
-/

set_option autoImplicit false

namespace WeatherStation.Proofs.Message

open WeatherStation.Aggregation (Summary)
open WeatherStation.Json WeatherStation.Message WeatherStation.Mqtt
open WeatherStation.Proofs.Json WeatherStation.Proofs.Mqtt
open WeatherStation.Proofs.Station (encode? encode?_eq)

/-! ### Statistics -/

/-- The number of a text, in tenths. -/
def tenths? (text : String) : Option ℚ := (numeral? text.toList).map fun value => 10 * value

/-- A whole part and one decimal. The reader adds a tenth of the last digit to the number in front
of the point. -/
theorem magnitude?_tenths (n : Nat) :
    magnitude? (Nat.toDigits 10 (n / 10) ++ '.' :: Nat.toDigits 10 (n % 10)) =
      some ((n : ℚ) / 10) := by
  have hdigit : n % 10 < 10 := Nat.mod_lt n (by decide)
  have hpoint : ∀ c ∈ ('.' :: Nat.toDigits 10 (n % 10)).head?, c.isDigit = false := by
    rintro c hc
    obtain rfl := Option.some.inj hc
    decide
  have hfraction : fraction? ('.' :: Nat.toDigits 10 (n % 10)) =
      some (Nat.toDigits 10 (n % 10), []) := by
    have hend : ∀ c ∈ ([] : List Char).head?, c.isDigit = false := by simp
    obtain ⟨htake, hdrop⟩ := whole_toDigits (n % 10) hend
    rw [List.append_nil] at htake hdrop
    have hsome : ¬(Nat.toDigits 10 (n % 10)).isEmpty = true := by
      simp [Nat.toDigits_ne_nil]
    rw [fraction?, htake, hdrop, if_neg hsome]
  have hlength : (Nat.toDigits 10 (n % 10)).length = 1 := by
    rw [Nat.toDigits_of_lt_base hdigit, List.length_singleton]
  rw [magnitude?_toDigits (n / 10) hpoint hfraction rfl, digitsValue_append_digit _ hdigit,
    Nat.div_add_mod, hlength]
  norm_num
  rw [mul_one_div]

/-- A count of tenths is written with its sign before the digits, so half a degree below zero keeps
it although its whole part is zero. -/
theorem numeral?_toText (t : Tenths) :
    numeral? t.toText.toList = some ((t.count.toInt : ℚ) / 10) := by
  have htext : t.toText.toList = (if t.count.toInt < 0 then ['-'] else []) ++
      (Nat.toDigits 10 (t.count.toInt.natAbs / 10) ++
        '.' :: Nat.toDigits 10 (t.count.toInt.natAbs % 10)) := by
    rw [Tenths.toText]
    split <;> simp [String.toList_append, Nat.toList_repr]
  have hmagnitude := magnitude?_tenths t.count.toInt.natAbs
  rw [htext]
  -- The digits are those of the magnitude, and the sign is read before them or is not there.
  by_cases hnegative : t.count.toInt < 0
  · have hcast : (t.count.toInt.natAbs : ℚ) = -(t.count.toInt : ℚ) := by
      rw [← Int.cast_natCast, ← Int.cast_neg, Int.ofNat_natAbs_of_nonpos (Int.le_of_lt hnegative)]
    rw [if_pos hnegative, List.singleton_append, numeral?, hmagnitude, hcast, Option.map_some,
      neg_div, neg_neg]
  · have hcast : (t.count.toInt.natAbs : ℚ) = (t.count.toInt : ℚ) := by
      rw [← Int.cast_natCast, Int.natAbs_of_nonneg (Int.not_lt.mp hnegative)]
    rw [if_neg hnegative, List.nil_append, numeral?_of_head (head?_toDigits _ _), hmagnitude, hcast]

/-- Ten times the number that a statistic is written as is the statistic. -/
theorem tenths?_toText (t : Tenths) : tenths? t.toText = some (t.count.toInt : ℚ) := by
  rw [tenths?, numeral?_toText, Option.map_some]
  congr 1
  ring

/-! ### Channels -/

/-- What a receiver must have of a channel: four statistics, each as a text that is a number of
tenths, and the times of the extremes. -/
def Reports (s : Summary) (d : Document) : Prop :=
  ∃ average actual min max : String,
    d = .object
      [("f_avg", .text average), ("f_act", .text actual), ("f_min", .text min),
        ("f_max", .text max), ("i_min_ts", .number s.minTime.toNat),
        ("i_max_ts", .number s.maxTime.toNat)] ∧
    tenths? average = some (s.average.toInt : ℚ) ∧
    tenths? actual = some (s.firstValue.toInt : ℚ) ∧
    tenths? min = some (s.min.toInt : ℚ) ∧
    tenths? max = some (s.max.toInt : ℚ)

/-- The statistics of a channel are a document that reports them. -/
theorem document?_channel (s : Summary) :
    ∃ d, document? (ChannelStats.ofSummary s).toJson = some d ∧ Reports s d := by
  refine ⟨_, rfl, _, _, _, _, ?_, tenths?_toText ⟨s.average⟩, tenths?_toText ⟨s.firstValue⟩,
    tenths?_toText ⟨s.min⟩, tenths?_toText ⟨s.max⟩⟩
  rfl

/-- A text is the number of one count only. -/
theorem eq_of_tenths? {text text' : String} {n n' : Int32} (h : tenths? text = some (n.toInt : ℚ))
    (h' : tenths? text' = some (n'.toInt : ℚ)) (hsame : text = text') : n = n' := by
  rw [hsame, h'] at h
  exact Int32.toInt_inj.mp (Int.cast_injective (Option.some.inj h)).symm

/-- Times are written as whole numbers, which tell them. -/
theorem eq_of_number {n n' : UInt32} (h : Document.number n.toNat = .number n'.toNat) : n = n' := by
  injection h with hvalue
  exact UInt32.toNat_inj.mp (Nat.cast_injective hvalue)

/-- A document reports one channel only, since a receiver gets each of its six fields back. -/
theorem Reports.unique {s s' : Summary} {d : Document} (h : Reports s d) (h' : Reports s' d) :
    ChannelStats.ofSummary s = ChannelStats.ofSummary s' := by
  obtain ⟨average, actual, min, max, hd, haverage, hactual, hmin, hmax⟩ := h
  obtain ⟨average', actual', min', max', hd', haverage', hactual', hmin', hmax'⟩ := h'
  rw [hd] at hd'
  simp only [Document.object.injEq, List.cons.injEq, Prod.mk.injEq, Document.text.injEq, true_and,
    and_true] at hd'
  obtain ⟨hsameAverage, hsameActual, hsameMin, hsameMax, hminTime, hmaxTime⟩ := hd'
  rw [ChannelStats.ofSummary, ChannelStats.ofSummary,
    eq_of_tenths? haverage haverage' hsameAverage, eq_of_tenths? hactual hactual' hsameActual,
    eq_of_tenths? hmin hmin' hsameMin, eq_of_tenths? hmax hmax' hsameMax, eq_of_number hminTime,
    eq_of_number hmaxTime]

/-! ### Messages -/

/-- What a receiver must have of a message. -/
def Carries (uid : String) (temperature humidity : Summary) (d : Document) : Prop :=
  ∃ first second : Document,
    d = .object
      [("UID", .text uid), ("TS", .number temperature.firstTime.toNat),
        ("SERIE", .object [("Temperature", first), ("Humidity", second)])] ∧
    Reports temperature first ∧ Reports humidity second

/-- A message is a document that carries what it was made from. -/
theorem document?_telemetry (uid : String) (temperature humidity : Summary) :
    ∃ d, document? (Telemetry.ofSummaries uid temperature humidity).toJson = some d ∧
      Carries uid temperature humidity d := by
  obtain ⟨first, hfirst, hreports⟩ := document?_channel temperature
  obtain ⟨second, hsecond, hreports'⟩ := document?_channel humidity
  refine ⟨_, ?_, first, second, rfl, hreports, hreports'⟩
  simp [Telemetry.toJson, Telemetry.ofSummaries, Value.ofFields, Fields.ofList, document?, fields?,
    hfirst, hsecond]

/-- A document is one message only. -/
theorem Carries.unique {uid uid' : String} {temperature temperature' humidity humidity' : Summary}
    {d : Document} (h : Carries uid temperature humidity d)
    (h' : Carries uid' temperature' humidity' d) :
    Telemetry.ofSummaries uid temperature humidity =
      Telemetry.ofSummaries uid' temperature' humidity' := by
  obtain ⟨first, second, hd, hfirst, hsecond⟩ := h
  obtain ⟨first', second', hd', hfirst', hsecond'⟩ := h'
  rw [hd] at hd'
  simp only [Document.object.injEq, List.cons.injEq, Prod.mk.injEq, Document.text.injEq, true_and,
    and_true] at hd'
  obtain ⟨huid, htime, hsame, hsame'⟩ := hd'
  -- The two places for channels cannot be mistaken for each other, because their keys differ.
  rw [← hsame] at hfirst'
  rw [← hsame'] at hsecond'
  rw [Telemetry.ofSummaries, Telemetry.ofSummaries, huid, eq_of_number htime,
    hfirst.unique hfirst', hsecond.unique hsecond']

/-- A receiver reads the text of a message as what the message carries. -/
theorem read?_telemetry (uid : String) (temperature humidity : Summary) :
    ∃ d, read? (Telemetry.ofSummaries uid temperature humidity).toJson.render = some d ∧
      Carries uid temperature humidity d := by
  obtain ⟨d, hd, hcarries⟩ := document?_telemetry uid temperature humidity
  exact ⟨d, read?_render hd, hcarries⟩

/-- The bytes of a text tell the text. -/
theorem utf8_inj {text text' : String} (h : utf8 text = utf8 text') : text = text' := by
  have hread : utf8Text? (utf8 text) = utf8Text? (utf8 text') := congrArg utf8Text? h
  rw [utf8Text?_utf8, utf8Text?_utf8] at hread
  exact Option.some.inj hread

/-- A message is written for every id and all statistics. Its text is one document, which carries
the id, the start of the period and the statistics of both channels in the order of the format, and
a message with the same bytes is the same message. -/
theorem telemetry_content (uid : String) (temperature humidity : Summary) :
    let t := Telemetry.ofSummaries uid temperature humidity
    encode? t = .ok (utf8 t.toJson.render) ∧
    (∃ d, read? t.toJson.render = some d ∧ Carries uid temperature humidity d) ∧
    ∀ uid' temperature' humidity',
      encode? (.ofSummaries uid' temperature' humidity') = encode? t →
        Telemetry.ofSummaries uid' temperature' humidity' = t := by
  intro t
  refine ⟨encode?_eq t, read?_telemetry uid temperature humidity, ?_⟩
  intro uid' temperature' humidity' hbytes
  rw [encode?_eq, encode?_eq] at hbytes
  have htext : (Telemetry.ofSummaries uid' temperature' humidity').toJson.render =
      t.toJson.render := utf8_inj (Except.ok.inj hbytes)
  -- Both messages are what the one document carries that the text is read as.
  obtain ⟨d, hread, hcarries⟩ := read?_telemetry uid temperature humidity
  obtain ⟨d', hread', hcarries'⟩ := read?_telemetry uid' temperature' humidity'
  rw [htext, hread] at hread'
  obtain rfl := Option.some.inj hread'
  exact hcarries'.unique hcarries

end WeatherStation.Proofs.Message
