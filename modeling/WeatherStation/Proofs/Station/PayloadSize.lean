import Mathlib.Data.String.Basic
import WeatherStation.Proofs.Mqtt.Acknowledgement
import WeatherStation.Proofs.Mqtt.RoundTrip
import WeatherStation.Proofs.Station.Payload

/-!
# `WeatherStation.Proofs.Station.PayloadSize`: a telemetry message always fits a request

A request takes a payload of up to 512 bytes, and a message that is longer is lost. How long the
message of a cycle is depends on the texts of eight statistics, on five times and on the id of the
station, whose quotes and backslashes are escaped.

* `size_quote_le`, `size_toText_le`, `size_integer_le`: what texts and numbers come to.
* `size_ofFields_le`: what an object comes to, from what its fields come to.
* `size_telemetry_le`: the size of a message, for any statistics whatsoever. An id of up to 64 bytes
  leaves room.
* `encode?_eq`: the statistics are written into buffers of 16 bytes each, which are never too small.

`telemetry_fits` says it of every message that a station hands to its publisher.
-/

set_option autoImplicit false

namespace WeatherStation.Proofs.Station

open WeatherStation.Config WeatherStation.Json WeatherStation.Message WeatherStation.Mqtt
  WeatherStation.Proofs.Mqtt

/-! ### Texts -/

/-- All but quotes, backslashes and control characters stand for themselves. -/
theorem escape_eq_self {c : Char} (hquote : c ≠ '"') (hslash : c ≠ '\\')
    (hcontrol : 0x20 ≤ c.toNat) : escape c = [c] := by
  rw [escape, if_neg hquote, if_neg hslash]
  rw [if_neg (by omega), if_neg (by omega), if_neg (by omega), if_neg (by omega),
    if_neg (by omega), if_neg (by omega)]

/-- A character that is no control character takes at most twice its room. -/
theorem utf8Len_escape_le {c : Char} (h : 0x20 ≤ c.toNat) :
    String.utf8Len (escape c) ≤ 2 * c.utf8Size := by
  by_cases hquote : c = '"'
  · subst hquote
    decide
  by_cases hslash : c = '\\'
  · subst hslash
    decide
  rw [escape_eq_self hquote hslash h, String.utf8Len_cons, String.utf8Len_nil]
  omega

/-- Without control characters no character takes more than twice its bytes, a quote or a backslash
being the worst. -/
theorem utf8Len_flatMap_escape_le {cs : List Char} (h : ∀ c ∈ cs, 0x20 ≤ c.toNat) :
    String.utf8Len (cs.flatMap escape) ≤ 2 * String.utf8Len cs := by
  induction cs with
  | nil => exact Nat.le_refl 0
  | cons c cs ih =>
    obtain ⟨hfirst, hrest⟩ := List.forall_mem_cons.mp h
    have hc := utf8Len_escape_le hfirst
    have hcs := ih hrest
    rw [List.flatMap_cons, String.utf8Len_append, String.utf8Len_cons]
    omega

/-- A text has two quotes around it. -/
theorem size_quote (s : String) :
    (quote s).utf8ByteSize = String.utf8Len (s.toList.flatMap escape) + 2 := by
  have hmark : '"'.utf8Size = 1 := by decide
  rw [quote, String.utf8ByteSize_ofList]
  simp [hmark]

/-- In quotes a text without control characters takes at most twice its room, and two bytes. -/
theorem size_quote_le {s : String} (h : ∀ c ∈ s.toList, 0x20 ≤ c.toNat) :
    (quote s).utf8ByteSize ≤ 2 * s.utf8ByteSize + 2 := by
  rw [size_quote, ← String.utf8Len_toList s]
  exact Nat.add_le_add_right (utf8Len_flatMap_escape_le h) 2

/-- A text of characters that stand for themselves takes two bytes more. -/
theorem size_quote_of_escape {s : String} (h : ∀ c ∈ s.toList, escape c = [c]) :
    (quote s).utf8ByteSize = s.utf8ByteSize + 2 := by
  have hsame : s.toList.flatMap escape = s.toList := by
    rw [List.flatMap_congr h]
    simp
  rw [size_quote, hsame, String.utf8Len_toList]

/-! ### Numbers -/

/-- What is written in a number, and an escape of none of it. -/
theorem digit_facts {c : Char} (h : c.isDigit = true) : c.utf8Size = 1 ∧ escape c = [c] := by
  obtain ⟨hlow, hhigh⟩ : 48 ≤ c.toNat ∧ c.toNat ≤ 57 := Char.isDigit_iff_toNat.mp h
  constructor
  · rw [Char.utf8Size_eq_one_iff, UInt32.le_iff_toNat_le]
    exact Nat.le_trans hhigh (by decide)
  · refine escape_eq_self ?_ ?_ (by omega)
    · rintro rfl
      exact absurd hlow (by decide)
    · rintro rfl
      exact absurd hhigh (by decide)

/-- A digit is one byte. -/
theorem utf8Len_of_digits {cs : List Char} (h : ∀ c ∈ cs, c.isDigit = true) :
    String.utf8Len cs = cs.length := by
  induction cs with
  | nil => rfl
  | cons c cs ih =>
    obtain ⟨hfirst, hrest⟩ := List.forall_mem_cons.mp h
    rw [String.utf8Len_cons, ih hrest, (digit_facts hfirst).1, List.length_cons]

/-- A number is printed in digits. -/
theorem isDigit_of_mem_repr {n : Nat} {c : Char} (h : c ∈ (Nat.repr n).toList) :
    c.isDigit = true := by
  rw [Nat.toList_repr] at h
  exact Nat.isDigit_of_mem_toDigits (by decide) (by decide) h

/-- A number below a power of ten takes one byte for each digit. -/
theorem size_repr_le {n k : Nat} (hk : 0 < k) (h : n < 10 ^ k) :
    (Nat.repr n).utf8ByteSize ≤ k := by
  rw [← String.utf8Len_toList, utf8Len_of_digits fun c => isDigit_of_mem_repr, String.length_toList]
  exact (Nat.length_repr_le_iff hk).mpr h

/-- A number of 32 bits takes up to ten bytes. -/
theorem size_integer_le (n : UInt32) : (Value.integer n.toNat).render.utf8ByteSize ≤ 10 := by
  have hn : n.toNat < 10 ^ 10 := Nat.lt_trans n.toNat_lt (by decide)
  rw [Value.render, if_neg (by omega), Int.natAbs_natCast]
  exact size_repr_le (by decide) hn

/-- The text of a statistic takes up to twelve bytes, whatever its value. -/
theorem size_toText_le (t : Tenths) : t.toText.utf8ByteSize ≤ 12 := by
  have hrange : t.count.toInt.natAbs ≤ 2147483648 := by
    have hlow := t.count.le_toInt
    have hhigh := t.count.toInt_lt
    omega
  have hwhole : (Nat.repr (t.count.toInt.natAbs / 10)).utf8ByteSize ≤ 9 :=
    size_repr_le (by decide) (by omega)
  have htenth : (Nat.repr (t.count.toInt.natAbs % 10)).utf8ByteSize ≤ 1 :=
    size_repr_le (by decide) (by omega)
  have hpoint : ".".utf8ByteSize = 1 := by decide
  have hsign : (if t.count.toInt < 0 then "-" else "").utf8ByteSize ≤ 1 := by
    split <;> decide
  rw [Tenths.toText]
  simp only [String.utf8ByteSize_append]
  omega

/-- Nothing in it has to be escaped. -/
theorem escape_of_mem_toText {t : Tenths} {c : Char} (h : c ∈ t.toText.toList) :
    escape c = [c] := by
  rw [Tenths.toText] at h
  simp only [String.toList_append, List.mem_append] at h
  rcases h with ((hsign | hwhole) | hpoint) | htenth
  · have hminus : c = '-' := by
      split at hsign
      · simpa using hsign
      · simp at hsign
    subst hminus
    decide
  · exact (digit_facts (isDigit_of_mem_repr hwhole)).2
  · obtain rfl : c = '.' := by simpa using hpoint
    decide
  · exact (digit_facts (isDigit_of_mem_repr htenth)).2

/-- A statistic is a text of up to twelve bytes, and the quotes. -/
theorem size_statistic_le (t : Tenths) : (Value.text t.toText).render.utf8ByteSize ≤ 14 := by
  have htext := size_toText_le t
  rw [Value.render, size_quote_of_escape fun c => escape_of_mem_toText]
  omega

/-! ### Documents -/

/-- A field takes its name, its value, a colon and up to one comma. -/
def fieldSize (field : String × Value) : Nat :=
  (quote field.1).utf8ByteSize + field.2.render.utf8ByteSize + 2

/-- An object is no longer than its fields, each with the comma behind it. -/
theorem size_ofList_le (fields : List (String × Value)) :
    (Fields.ofList fields).render.utf8ByteSize ≤ (fields.map fieldSize).sum := by
  have hcolon : ":".utf8ByteSize = 1 := by decide
  have hcomma : ",".utf8ByteSize = 1 := by decide
  induction fields with
  | nil => exact Nat.le_refl 0
  | cons field fields ih =>
    obtain ⟨key, value⟩ := field
    rw [List.map_cons, List.sum_cons, fieldSize]
    cases fields with
    | nil =>
      rw [Fields.ofList, Fields.ofList, Fields.render]
      simp only [String.utf8ByteSize_append]
      omega
    | cons next rest =>
      obtain ⟨nextKey, nextValue⟩ := next
      rw [Fields.ofList, Fields.ofList, Fields.render, ← Fields.ofList]
      simp only [String.utf8ByteSize_append]
      omega

/-- An object takes two braces more. -/
theorem size_ofFields_le (fields : List (String × Value)) :
    (Value.ofFields fields).render.utf8ByteSize ≤ (fields.map fieldSize).sum + 2 := by
  have hfields := size_ofList_le fields
  have hopen : "\x7b".utf8ByteSize = 1 := by decide
  have hclose : "\x7d".utf8ByteSize = 1 := by decide
  rw [Value.ofFields, Value.render]
  simp only [String.utf8ByteSize_append]
  omega

/-! ### The message -/

/-- The statistics of a channel take up to 138 bytes. -/
theorem size_channel_le (s : ChannelStats) : s.toJson.render.utf8ByteSize ≤ 138 := by
  have haverage := size_statistic_le s.average
  have hactual := size_statistic_le s.actual
  have hmin := size_statistic_le s.min
  have hmax := size_statistic_le s.max
  have hminTime := size_integer_le s.minTime
  have hmaxTime := size_integer_le s.maxTime
  have hkeys : ["f_avg", "f_act", "f_min", "f_max", "i_min_ts", "i_max_ts"].map
      (fun key => (quote key).utf8ByteSize) = [7, 7, 7, 7, 10, 10] := by decide +kernel
  rw [ChannelStats.toJson]
  refine Nat.le_trans (size_ofFields_le _) ?_
  simp only [List.map_cons, List.map_nil, List.cons.injEq] at hkeys
  simp only [List.map_cons, List.map_nil, List.sum_cons, List.sum_nil, fieldSize, hkeys]
  omega

/-- A message takes up to 341 bytes and twice the size of the id. -/
theorem size_telemetry_le (t : Telemetry) (huid : ∀ c ∈ t.uid.toList, 0x20 ≤ c.toNat) :
    t.toJson.render.utf8ByteSize ≤ 2 * t.uid.utf8ByteSize + 341 := by
  have htime := size_integer_le t.time
  have hquoted : (Value.text t.uid).render.utf8ByteSize ≤ 2 * t.uid.utf8ByteSize + 2 :=
    size_quote_le huid
  have hkeys : ["UID", "TS", "SERIE", "Temperature", "Humidity"].map
      (fun key => (quote key).utf8ByteSize) = [5, 4, 7, 13, 10] := by decide +kernel
  simp only [List.map_cons, List.map_nil, List.cons.injEq] at hkeys
  have hchannels : (Value.ofFields
      [("Temperature", t.temperature.toJson), ("Humidity", t.humidity.toJson)]).render.utf8ByteSize
        ≤ 305 := by
    have htemperature := size_channel_le t.temperature
    have hhumidity := size_channel_le t.humidity
    refine Nat.le_trans (size_ofFields_le _) ?_
    simp only [List.map_cons, List.map_nil, List.sum_cons, List.sum_nil, fieldSize, hkeys]
    omega
  rw [Telemetry.toJson]
  refine Nat.le_trans (size_ofFields_le _) ?_
  simp only [List.map_cons, List.map_nil, List.sum_cons, List.sum_nil, fieldSize, hkeys]
  omega

/-! ### The writing of a message -/

/-- The bytes of the buffer into which a statistic is written. -/
def statisticRoom : Nat := 16

/-- The text of a statistic, if there is room for it. -/
def statistic? (t : Tenths) : Except PublishError Value :=
  if t.toText.utf8ByteSize ≤ statisticRoom then .ok (.text t.toText) else .error .encodeOverflow

/-- The statistics of a channel as a document, if there is room for each of them. -/
def channel? (s : ChannelStats) : Except PublishError Value := do
  let average ← statistic? s.average
  let actual ← statistic? s.actual
  let min ← statistic? s.min
  let max ← statistic? s.max
  return .ofFields
    [("f_avg", average), ("f_act", actual), ("f_min", min), ("f_max", max),
      ("i_min_ts", .integer s.minTime.toNat), ("i_max_ts", .integer s.maxTime.toNat)]

/-- The bytes of a message, if there is room for each of its statistics. -/
def encode? (t : Telemetry) : Except PublishError (List UInt8) := do
  let temperature ← channel? t.temperature
  let humidity ← channel? t.humidity
  return utf8 (Value.ofFields
    [("UID", .text t.uid), ("TS", .integer t.time.toNat),
      ("SERIE", .ofFields [("Temperature", temperature), ("Humidity", humidity)])]).render

/-- A statistic of 32 bits fits its buffer, with its sign and its point. -/
theorem statistic?_eq (t : Tenths) : statistic? t = .ok (.text t.toText) :=
  if_pos (Nat.le_trans (size_toText_le t) (by decide))

/-- The writing of a channel does not fail, for none of its four statistics does. -/
theorem channel?_eq (s : ChannelStats) : channel? s = .ok s.toJson := by
  rw [channel?, statistic?_eq, statistic?_eq, statistic?_eq, statistic?_eq]
  rfl

/-- There always is. -/
theorem encode?_eq (t : Telemetry) : encode? t = .ok (utf8 t.toJson.render) := by
  rw [encode?, channel?_eq, channel?_eq]
  rfl

/-- A message that fits is taken for a request, whatever id the client gives it. -/
theorem new?_of_fits {text : String} (h : text.utf8ByteSize ≤ maxPublishLength) (id : UInt16) :
    ∃ request, Request.new? telemetryTopic (utf8 text) id = .ok request := by
  have hboth : telemetryTopic.utf8ByteSize ≤ maxTopicLength ∧
      (utf8 text).length ≤ maxPublishLength := ⟨by decide, h⟩
  exact ⟨_, dif_pos hboth⟩

/-- A message that fits is not refused for its size, whatever state the session is in. -/
theorem publish_of_fits {text : String} (h : text.utf8ByteSize ≤ maxPublishLength) (c : Client)
    (x : Exchange) (now : Micros) :
    (c.publish x now telemetryTopic (utf8 text)).1 ≠ .settled (.error .encodeOverflow) := by
  obtain ⟨request, hrequest⟩ := new?_of_fits h c.nextId
  rw [Client.publish]
  split
  · simp
  · dsimp only
    rw [hrequest]
    -- The request is admitted, and the client goes on to wait for its acknowledgement.
    have hawaited : awaitedId (PublishCall.advance ({ x with ack := none }.note now
        (.admitted request)) now (.offering request (now + c.ackTimeout))).1 = some request.id :=
      (advance_offering_empty rfl).1
    intro hsettled
    rw [show (PublishCall.advance _ _ _).1 = _ from hsettled] at hawaited
    cases hawaited

/-! ### Every run -/

/-- The messages of a station carry its id. -/
theorem uid_of_mem_telemetries {s : Station} {past : List Round} {sent : Round × Telemetry}
    (h : sent ∈ telemetries s past) : sent.2.uid = s.uid := by
  induction past with
  | nil => cases h
  | cons r past ih =>
    rcases List.mem_append.mp h with hnow | hbefore
    · rcases due?_cases (after s past) r with ⟨-, hnone⟩ |
        ⟨reading, temperature, humidity, -, -, -, -, -, hdue⟩
      · rw [hnone] at hnow
        cases hnow
      · rw [hdue] at hnow
        obtain rfl := List.mem_singleton.mp hnow
        exact uid_after s past
    · exact ih hbefore

section
variable {σ : Type} (built : Built) (a : Access σ) (store : σ) (uid : String)

/-- Whatever the settings, the sensor, the publisher and the times are, every message that a station
with an id of up to 64 bytes and without control characters hands to its publisher is a telemetry
message of 512 bytes at most. Its statistics fit the buffers in which they are written, and the
message fits a request of the client, under any id, so that no call of the client ends for its
size. -/
theorem telemetry_fits (past : List Round) (hlength : uid.utf8ByteSize ≤ 64)
    (huid : ∀ c ∈ uid.toList, 0x20 ≤ c.toNat) :
    let s := Station.new (Settings.load built a store) uid
    (outbox s past = (telemetries s past).map fun sent => written sent.2) ∧
    ∀ sent ∈ telemetries s past,
      let bytes := utf8 sent.2.toJson.render
      encode? sent.2 = .ok bytes ∧ bytes.length ≤ maxPublishLength ∧
      (∀ id, ∃ request, Request.new? telemetryTopic bytes id = .ok request) ∧
      ∀ (c : Client) (x : Exchange) (now : Micros),
        (c.publish x now telemetryTopic bytes).1 ≠ .settled (.error .encodeOverflow) := by
  intro s
  refine ⟨outbox_eq s past, fun sent hsent => ?_⟩
  have hsame : sent.2.uid = uid := uid_of_mem_telemetries hsent
  have hsize : sent.2.toJson.render.utf8ByteSize ≤ 2 * sent.2.uid.utf8ByteSize + 341 := by
    refine size_telemetry_le sent.2 ?_
    rw [hsame]
    exact huid
  have hfits : sent.2.toJson.render.utf8ByteSize ≤ maxPublishLength := by
    rw [hsame] at hsize
    have hroom : 2 * 64 + 341 ≤ maxPublishLength := by decide
    omega
  exact ⟨encode?_eq sent.2, hfits, new?_of_fits hfits, publish_of_fits hfits⟩

end

/-- An id of 64 quotes, each of which is escaped. -/
theorem telemetry_fits_quotes :
    let uid := String.ofList (List.replicate 64 '"')
    let s := Station.new (Settings.load .plain MemoryStore.access .empty) uid
    let past := [Round.mk 4294966800 (.ok ⟨-400, 999⟩) (.ok ())]
    uid.utf8ByteSize ≤ 64 ∧ (outbox s past).map (fun sent => sent.2.utf8ByteSize) = [405] ∧
      ∀ sent ∈ telemetries s past, (utf8 sent.2.toJson.render).length ≤ maxPublishLength := by
  intro uid s past
  have hlength : uid.utf8ByteSize ≤ 64 := by decide +kernel
  have huid : ∀ c ∈ uid.toList, 0x20 ≤ c.toNat := by
    intro c hc
    rw [String.toList_ofList] at hc
    rw [List.eq_of_mem_replicate hc]
    decide
  obtain ⟨-, hfits⟩ := telemetry_fits .plain MemoryStore.access .empty uid past hlength huid
  refine ⟨hlength, by decide +kernel, fun sent hsent => (hfits sent hsent).2.1⟩

end WeatherStation.Proofs.Station
