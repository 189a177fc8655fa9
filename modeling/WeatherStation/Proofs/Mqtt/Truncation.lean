import WeatherStation.Mqtt.Decoding
import WeatherStation.Mqtt.Encoding
import WeatherStation.Proofs.Mqtt.PacketSplit

/-!
# `WeatherStation.Proofs.Mqtt.Truncation`: packets that end too early

The decoder takes texts with a check against what is left of the body. Ids, codes and flags it
takes without one, and where the body ends before them it runs over its end. `CutShort` says
which packets these are, by their bytes alone: the length field of such a packet is right, and its
body is too short for what its type puts there. To these it adds the packets with a text for which
the decoder has no room, which end the same way: a long topic filter, or the long name of an unknown
protocol.

* `ofBody_overrun`: on a header byte and a body, the decoder runs over the end exactly when the
  body is `CutBody` for that header byte.
* `decode_overrun`: the same for the bytes of one packet, as the reader hands them out.

Each reader of the decoder has two lemmas, for what it accepts (`…_ok`) and for where it runs over
the end (`…_overrun`). `bind_eq_error` puts them together.
-/

set_option autoImplicit false

namespace WeatherStation.Proofs.Mqtt

open WeatherStation.Mqtt

/-! ### Bytes that are too few -/

/-- The bytes lead with a text behind the number of its bytes, and `rest` follows. -/
def LeadsWith (bytes : List UInt8) (s : String) (rest : List UInt8) : Prop :=
  ∃ high low content, bytes = high :: low :: (content ++ rest) ∧
    content.length = high.toNat * 256 + low.toNat ∧ utf8Text? content = some s

/-- The protocols that a CONNECT may name, with their levels. -/
def Spoken (protocol : String) (level : UInt8) : Prop :=
  protocol = "MQTT" ∧ level = 4 ∨ protocol = "MQIsdp" ∧ level = 3

/-- The body of a CONNECT ends before the level, or before the end of flags and keep-alive. Or it
names a protocol for which the decoder has no room; the protocols that it knows have shorter
names. -/
def CutConnect (body : List UInt8) : Prop :=
  ∃ protocol rest, LeadsWith body protocol rest ∧
    (rest = [] ∨ Decoding.maxProtocolLength < protocol.utf8ByteSize ∨
      ∃ level more, rest = level :: more ∧ Spoken protocol level ∧ more.length < 3)

/-- A list whose next item is cut, behind at most `room` whole ones. -/
inductive RunsInto (cut : List UInt8 → Prop) (whole : List UInt8 → List UInt8 → Prop) :
    Nat → List UInt8 → Prop where
  | here {room : Nat} {bytes : List UInt8} (h : cut bytes) : RunsInto cut whole room bytes
  | behind {room : Nat} {bytes rest : List UInt8} (h : whole bytes rest)
      (tail : RunsInto cut whole room rest) : RunsInto cut whole (room + 1) bytes

/-- A topic filter that the decoder has no room for. -/
def LongFilter (bytes : List UInt8) : Prop :=
  ∃ topic rest, LeadsWith bytes topic rest ∧ Decoding.maxFilterLength < topic.utf8ByteSize

/-- A topic filter that the decoder has room for, and what follows it. -/
def WholeFilter (bytes rest : List UInt8) : Prop :=
  ∃ topic, LeadsWith bytes topic rest ∧ topic.utf8ByteSize ≤ Decoding.maxFilterLength

/-- A topic filter without a quality of service, or one that the decoder has no room for. -/
def CutSubscription (bytes : List UInt8) : Prop := LongFilter bytes ∨ WholeFilter bytes []

/-- A topic filter with a quality of service, and what follows them. -/
def WholeSubscription (bytes rest : List UInt8) : Prop :=
  ∃ quality, WholeFilter bytes (Encoding.qos quality :: rest)

/-- An id that is not zero, and what follows it. -/
def BehindId (body rest : List UInt8) : Prop :=
  ∃ high low, body = high :: low :: rest ∧ ¬ (high = 0 ∧ low = 0)

/-- The body is too short for what its type puts there. In a CONNECT, a SUBSCRIBE or an UNSUBSCRIBE
there may also be a text that the decoder has no room for. -/
def CutBody (header : UInt8) (body : List UInt8) : Prop :=
  match (header >>> 4).toNat with
  | 1 => CutConnect body
  | 2 => body.length < 2
  | 3 =>
    (header >>> 1 &&& 0x03 = 1 ∨ header >>> 1 &&& 0x03 = 2) ∧
      ∃ topic rest, LeadsWith body topic rest ∧ rest.length < 2
  | 4 => body.length < 2
  | 5 => body.length < 2
  | 6 => body.length < 2
  | 7 => body.length < 2
  | 8 => body.length < 2 ∨ ∃ list, BehindId body list ∧
      RunsInto CutSubscription WholeSubscription maxSubscribeTopics list
  | 9 => body.length < 2
  | 10 => body.length < 2 ∨ ∃ list, BehindId body list ∧
      RunsInto LongFilter WholeFilter maxSubscribeTopics list
  | 11 => body.length < 2
  | _ => False

/-- A header byte, a length field and as many bytes as it says. -/
def Parts (bytes : List UInt8) (header : UInt8) (body : List UInt8) : Prop :=
  ∃ field, bytes = header :: (field ++ body) ∧
    RemainingLength.read? (field ++ body) = .ok (body.length, field.length)

/-- The bytes are one packet of a known type, and its body is too short for it or has a text in it
for which the decoder has no room. -/
def CutShort (bytes : List UInt8) : Prop :=
  ∃ header body, Parts bytes header body ∧ Decoding.flagsAllowed header = true ∧
    CutBody header body

/-! ### Readers one after the other -/

/-- A sequence fails where its first part fails or its second part does. -/
theorem bind_eq_error {α β : Type} {x : Except Fault α} {f : α → Except Fault β} {fault : Fault} :
    x >>= f = .error fault ↔ x = .error fault ∨ ∃ a, x = .ok a ∧ f a = .error fault := by
  cases x with
  | error other =>
    constructor
    · rintro ⟨⟩
      exact .inl rfl
    · rintro (⟨⟨⟩⟩ | ⟨a, ⟨⟩, -⟩)
      rfl
  | ok a =>
    constructor
    · intro h
      exact .inr ⟨a, rfl, h⟩
    · rintro (⟨⟨⟩⟩ | ⟨a, ⟨⟩, h⟩)
      exact h

/-- A sequence ends well where both of its parts do. -/
theorem bind_eq_ok {α β : Type} {x : Except Fault α} {f : α → Except Fault β} {b : β} :
    x >>= f = .ok b ↔ ∃ a, x = .ok a ∧ f a = .ok b := by
  cases x with
  | error other => exact ⟨nofun, fun ⟨a, h, _⟩ => nomatch h⟩
  | ok a =>
    constructor
    · intro h
      exact ⟨a, rfl, h⟩
    · rintro ⟨a, ⟨⟩, h⟩
      exact h

/-- A sequence whose later part does not run over the end does so only in its first part. -/
theorem bind_overrun_iff {α β : Type} {x : Except Fault α} {f : α → Except Fault β}
    (hf : ∀ a, f a ≠ .error .overrun) : x >>= f = .error .overrun ↔ x = .error .overrun := by
  rw [bind_eq_error]
  exact or_iff_left fun ⟨a, _, h⟩ => hf a h

/-- A sequence of parts that do not run over the end does not either. -/
theorem bind_not_overrun {α β : Type} {x : Except Fault α} {f : α → Except Fault β}
    (hx : x ≠ .error .overrun) (hf : ∀ a, f a ≠ .error .overrun) : x >>= f ≠ .error .overrun :=
  fun h => hx ((bind_overrun_iff hf).mp h)

section
variable {bytes rest : List UInt8}

/-- A byte is the first one that is left. -/
theorem byte_ok {b : UInt8} : Decoding.byte bytes = .ok (b, rest) ↔ bytes = b :: rest := by
  cases bytes with
  | nil => simp [Decoding.byte]
  | cons b' rest' => simp [Decoding.byte]

/-- A byte is taken without a look at whether there is one. -/
theorem byte_overrun : Decoding.byte bytes = .error .overrun ↔ bytes = [] := by
  cases bytes with
  | nil => simp [Decoding.byte]
  | cons b' rest' => simp [Decoding.byte]

/-- A number takes two bytes, the high one first. -/
theorem word_ok {n : UInt16} :
    Decoding.word bytes = .ok (n, rest) ↔
      ∃ high low, bytes = high :: low :: rest ∧ high.toUInt16 <<< 8 ||| low.toUInt16 = n := by
  match bytes with
  | [] => exact ⟨nofun, nofun⟩
  | [_] => exact ⟨nofun, nofun⟩
  | high :: low :: rest' =>
    simp only [Decoding.word, Decoding.byte, Except.bind, bind, Except.ok.injEq, Prod.mk.injEq,
      List.cons.injEq]
    constructor
    · rintro ⟨hn, hrest⟩
      exact ⟨high, low, ⟨rfl, rfl, hrest⟩, hn⟩
    · rintro ⟨_, _, ⟨rfl, rfl, hrest⟩, hn⟩
      exact ⟨hn, hrest⟩

/-- A number runs over the end if there are fewer than two bytes. -/
theorem word_overrun : Decoding.word bytes = .error .overrun ↔ bytes.length < 2 := by
  match bytes with
  | [] => exact ⟨fun _ => by simp, fun _ => rfl⟩
  | [_] => exact ⟨fun _ => by simp, fun _ => rfl⟩
  | high :: low :: rest' =>
    refine iff_of_false nofun ?_
    simp only [List.length_cons]
    omega

/-- Two bytes make zero only if both are zero. -/
theorem word_eq_zero {high low : UInt8} :
    high.toUInt16 <<< 8 ||| low.toUInt16 = 0 ↔ high = 0 ∧ low = 0 := by
  rw [UInt16.or_eq_zero_iff]
  have hhigh := high.toNat_lt
  have hshift : (high.toUInt16 <<< 8).toNat = high.toNat * 256 := by
    simp [Nat.shiftLeft_eq]
    omega
  simp only [← UInt16.toNat_inj, ← UInt8.toNat_inj, hshift, UInt8.toNat_toUInt16,
    UInt16.toNat_zero, UInt8.toNat_zero]
  omega

/-- An id runs over the end where its number does. Whether it is zero is asked afterwards. -/
theorem id_overrun : Decoding.id bytes = .error .overrun ↔ bytes.length < 2 := by
  rw [Decoding.id, bind_overrun_iff, word_overrun]
  rintro ⟨n, rest⟩
  dsimp only
  split <;> exact nofun

/-- An id that is read is not zero. -/
theorem id_ok : (∃ n, Decoding.id bytes = .ok (n, rest)) ↔ BehindId bytes rest := by
  constructor
  · rintro ⟨n, h⟩
    rw [Decoding.id, bind_eq_ok] at h
    obtain ⟨⟨n', rest'⟩, hword, h⟩ := h
    dsimp only at h
    split at h
    · cases h
    · rename_i hne
      cases h
      obtain ⟨high, low, rfl, rfl⟩ := word_ok.mp hword
      exact ⟨high, low, rfl, fun hzero => hne (word_eq_zero.mpr hzero)⟩
  · rintro ⟨high, low, rfl, hne⟩
    refine ⟨high.toUInt16 <<< 8 ||| low.toUInt16, ?_⟩
    rw [Decoding.id, bind_eq_ok]
    exact ⟨_, word_ok.mpr ⟨high, low, rfl, rfl⟩, if_neg fun hzero => hne (word_eq_zero.mp hzero)⟩

/-- Bytes behind their number: as many as the two bytes in front of them say. -/
theorem field_ok {content : List UInt8} :
    Decoding.field bytes = .ok (content, rest) ↔
      ∃ high low, bytes = high :: low :: (content ++ rest) ∧
        content.length = high.toNat * 256 + low.toNat := by
  match bytes with
  | [] => exact ⟨nofun, nofun⟩
  | [_] => exact ⟨nofun, nofun⟩
  | high :: low :: tail =>
    simp only [Decoding.field]
    constructor
    · intro h
      split at h
      · cases h
      · rename_i hlong
        cases h
        refine ⟨high, low, by rw [List.take_append_drop], ?_⟩
        rw [List.length_take]
        omega
    · rintro ⟨_, _, ⟨⟩, hlength⟩
      rw [if_neg (by rw [List.length_append]; omega), ← hlength, List.take_left,
        List.drop_left]

/-- Bytes behind their number are checked for being there, and so is the number. They are missed
without running over the end. -/
theorem field_not_overrun : Decoding.field bytes ≠ .error .overrun := by
  match bytes with
  | [] => exact nofun
  | [_] => exact nofun
  | high :: low :: tail =>
    simp only [Decoding.field]
    split <;> exact nofun

/-- A text is read where well-formed bytes stand behind their number. -/
theorem text_ok {s : String} : Decoding.text bytes = .ok (s, rest) ↔ LeadsWith bytes s rest := by
  rw [Decoding.text, bind_eq_ok]
  constructor
  · rintro ⟨⟨content, rest'⟩, hfield, h⟩
    dsimp only at h
    split at h
    · rename_i hutf
      cases h
      obtain ⟨high, low, hbytes, hlength⟩ := field_ok.mp hfield
      exact ⟨high, low, content, hbytes, hlength, hutf⟩
    · cases h
  · rintro ⟨high, low, content, hbytes, hlength, hutf⟩
    refine ⟨(content, rest), field_ok.mpr ⟨high, low, hbytes, hlength⟩, ?_⟩
    dsimp only
    rw [hutf]

/-- A text that is cut, or that is no text, is refused like any other error. -/
theorem text_not_overrun : Decoding.text bytes ≠ .error .overrun := by
  rw [Decoding.text, Ne, bind_eq_error]
  rintro (h | ⟨⟨content, rest'⟩, -, h⟩)
  · exact field_not_overrun h
  · dsimp only at h
    split at h <;> cases h

/-- A sequence that begins with a text runs over the end behind it, if at all. -/
theorem text_bind_overrun {β : Type} {f : String × List UInt8 → Except Fault β} :
    Decoding.text bytes >>= f = .error .overrun ↔
      ∃ s rest, LeadsWith bytes s rest ∧ f (s, rest) = .error .overrun := by
  rw [bind_eq_error, or_iff_right text_not_overrun]
  simp only [Prod.exists, text_ok]

/-! ### Lists -/

/-- A topic filter is read where there is one that the decoder has room for. -/
theorem filter_ok :
    (∃ topic, Decoding.filter bytes = .ok (topic, rest)) ↔ WholeFilter bytes rest := by
  simp only [Decoding.filter, bind_eq_ok]
  constructor
  · rintro ⟨topic, ⟨topic', rest'⟩, htext, h⟩
    dsimp only at h
    split at h
    · cases h
    · cases h
      exact ⟨topic, text_ok.mp htext, by omega⟩
  · rintro ⟨topic, hleads, hfits⟩
    exact ⟨topic, (topic, rest), text_ok.mpr hleads, if_neg (Nat.not_lt.mpr hfits)⟩

/-- A topic filter crashes the decoder only if it is there in full and is too long. -/
theorem filter_overrun : Decoding.filter bytes = .error .overrun ↔ LongFilter bytes := by
  rw [Decoding.filter, text_bind_overrun]
  refine exists_congr fun topic => exists_congr fun rest => and_congr_right fun _ => ?_
  dsimp only
  split
  · exact iff_of_true rfl ‹_›
  · exact iff_of_false nofun ‹_›

/-- The numbers of the three qualities of service. -/
theorem qos?_eq_some {n : UInt8} {quality : QoS} :
    Decoding.qos? n = some quality ↔ n = Encoding.qos quality := by
  constructor
  · intro h
    unfold Decoding.qos? at h
    split at h
    · cases h
      assumption
    · split at h
      · cases h
        assumption
      · split at h
        · cases h
          assumption
        · cases h
  · rintro rfl
    cases quality <;> rfl

/-- A topic filter with its quality is read where both are there and the quality is one of the
three. -/
theorem subscription_ok :
    (∃ item, Decoding.subscription bytes = .ok (item, rest)) ↔ WholeSubscription bytes rest := by
  simp only [Decoding.subscription, bind_eq_ok]
  constructor
  · rintro ⟨item, ⟨topic, rest₁⟩, hfilter, ⟨n, rest₂⟩, hbyte, h⟩
    obtain rfl := byte_ok.mp hbyte
    dsimp only at h
    split at h
    · rename_i quality hquality
      cases h
      exact ⟨quality, filter_ok.mp ⟨topic, qos?_eq_some.mp hquality ▸ hfilter⟩⟩
    · cases h
  · rintro ⟨quality, hfilter⟩
    obtain ⟨topic, hfilter⟩ := filter_ok.mpr hfilter
    refine ⟨(topic, quality), _, hfilter, _, byte_ok.mpr rfl, ?_⟩
    dsimp only
    rw [qos?_eq_some.mpr rfl]

/-- Its quality is one byte, which is taken without a look. -/
theorem subscription_overrun :
    Decoding.subscription bytes = .error .overrun ↔ CutSubscription bytes := by
  rw [Decoding.subscription, bind_eq_error, filter_overrun]
  refine or_congr_right ?_
  rw [← filter_ok]
  constructor
  · rintro ⟨⟨topic, rest⟩, hfilter, h⟩
    rcases bind_eq_error.mp h with hbyte | ⟨⟨n, rest'⟩, -, h⟩
    · rw [byte_overrun] at hbyte
      exact ⟨topic, hbyte ▸ hfilter⟩
    · dsimp only at h
      split at h <;> cases h
  · rintro ⟨topic, hfilter⟩
    exact ⟨(topic, []), hfilter, rfl⟩

/-- A list runs over the end where it runs into an item that does. All items before it are whole,
and there is room for them; by induction along the list. -/
theorem listOf_overrun {α : Type} {item : List UInt8 → Except Fault (α × List UInt8)}
    {cut : List UInt8 → Prop} {whole : List UInt8 → List UInt8 → Prop}
    (hcut : ∀ bytes, item bytes = .error .overrun ↔ cut bytes)
    (hwhole : ∀ bytes rest, (∃ x, item bytes = .ok (x, rest)) ↔ whole bytes rest)
    (hnil : item [] = .error .rejected) (room : Nat) (bytes : List UInt8) :
    Decoding.listOf item room bytes = .error .overrun ↔ RunsInto cut whole room bytes := by
  -- The end of the body is the end of the list.
  have hend (room : Nat) : ¬ RunsInto cut whole room [] := by
    rintro (h | ⟨h, -⟩)
    · rw [← hcut, hnil] at h
      cases h
    · obtain ⟨x, h⟩ := (hwhole _ _).mpr h
      rw [hnil] at h
      cases h
  induction room generalizing bytes with
  | zero =>
    cases bytes with
    | nil => exact iff_of_false nofun (hend 0)
    | cons b tail =>
      -- There is no room, and still the next item is read before the list is refused.
      rw [Decoding.listOf.eq_def, bind_eq_error, hcut]
      constructor
      · rintro (h | ⟨x, -, ⟨⟩⟩)
        exact .here h
      · rintro ⟨h⟩
        exact .inl h
  | succ room ih =>
    cases bytes with
    | nil => exact iff_of_false nofun (hend _)
    | cons b tail =>
      rw [Decoding.listOf.eq_def, bind_eq_error, hcut]
      constructor
      · rintro (h | ⟨⟨x, rest⟩, hitem, h⟩)
        · exact .here h
        · rcases bind_eq_error.mp h with h | ⟨xs, -, ⟨⟩⟩
          exact .behind ((hwhole _ _).mp ⟨x, hitem⟩) ((ih rest).mp h)
      · rintro (h | ⟨h, tail⟩)
        · exact .inl h
        · obtain ⟨x, hitem⟩ := (hwhole _ _).mpr h
          exact .inr ⟨_, hitem, bind_eq_error.mpr (.inl ((ih _).mpr tail))⟩

/-! ### Bodies -/

/-- A packet that is an id and nothing more needs two bytes. -/
theorem idOnly_overrun {make : UInt16 → Packet} :
    Decoding.idOnly make bytes = .error .overrun ↔ bytes.length < 2 := by
  rw [Decoding.idOnly, bind_overrun_iff, id_overrun]
  exact fun _ => nofun

/-- A CONNACK needs two bytes, for the flag and the code. -/
theorem connack_overrun : Decoding.connack bytes = .error .overrun ↔ bytes.length < 2 := by
  match bytes with
  | [] => exact ⟨fun _ => by simp, fun _ => rfl⟩
  | [_] => exact ⟨fun _ => by simp, fun _ => rfl⟩
  | flags :: code :: tail =>
    refine iff_of_false (fun h => ?_) (by simp)
    change (if 5 < code then Except.error Fault.rejected else .ok _) = _ at h
    split at h <;> cases h

/-- A PUBLISH runs over the end where it needs an id and less than two bytes are left behind its
topic. -/
theorem publish_overrun {header : UInt8} :
    Decoding.publish header bytes = .error .overrun ↔
      (header >>> 1 &&& 0x03 = 1 ∨ header >>> 1 &&& 0x03 = 2) ∧
        ∃ topic rest, LeadsWith bytes topic rest ∧ rest.length < 2 := by
  rw [Decoding.publish, text_bind_overrun]
  -- What counts is the quality in the header: only the two upper ones have an id.
  generalize header >>> 1 &&& 0x03 = n
  constructor
  · rintro ⟨topic, rest, hleads, h⟩
    dsimp only at h
    split at h
    · cases h
    · cases h
    · rename_i hqos
      rw [bind_overrun_iff, id_overrun] at h
      · exact ⟨.inl (qos?_eq_some.mp hqos), topic, rest, hleads, h⟩
      · exact fun _ => nofun
    · rename_i hqos
      rw [bind_overrun_iff, id_overrun] at h
      · exact ⟨.inr (qos?_eq_some.mp hqos), topic, rest, hleads, h⟩
      · exact fun _ => nofun
  · rintro ⟨hn, topic, rest, hleads, hshort⟩
    refine ⟨topic, rest, hleads, ?_⟩
    rcases hn with rfl | rfl
    · exact bind_eq_error.mpr (.inl (id_overrun.mpr hshort))
    · exact bind_eq_error.mpr (.inl (id_overrun.mpr hshort))

/-- A list behind an id. -/
theorem id_list_overrun {α : Type} {item : List UInt8 → Except Fault (α × List UInt8)}
    {make : UInt16 → List α → Packet} {cut : List UInt8 → Prop}
    {whole : List UInt8 → List UInt8 → Prop}
    (hcut : ∀ bytes, item bytes = .error .overrun ↔ cut bytes)
    (hwhole : ∀ bytes rest, (∃ x, item bytes = .ok (x, rest)) ↔ whole bytes rest)
    (hnil : item [] = .error .rejected) :
    (do let (n, rest) ← Decoding.id bytes
        .ok (make n (← Decoding.listOf item maxSubscribeTopics rest))) =
        Except.error Fault.overrun ↔
      bytes.length < 2 ∨ ∃ list, BehindId bytes list ∧
        RunsInto cut whole maxSubscribeTopics list := by
  rw [bind_eq_error, id_overrun]
  refine or_congr_right ⟨?_, ?_⟩
  · rintro ⟨⟨n, list⟩, hid, h⟩
    rcases bind_eq_error.mp h with h | ⟨_, -, ⟨⟩⟩
    exact ⟨list, id_ok.mp ⟨n, hid⟩, (listOf_overrun hcut hwhole hnil _ list).mp h⟩
  · rintro ⟨list, hid, hruns⟩
    obtain ⟨n, hid⟩ := id_ok.mpr hid
    exact ⟨(n, list), hid,
      bind_eq_error.mpr (.inl ((listOf_overrun hcut hwhole hnil _ list).mpr hruns))⟩

/-- The codes of a SUBACK have one byte each, so that none of them is cut. -/
theorem codes_not_overrun (room : Nat) (bytes : List UInt8) :
    Decoding.listOf Decoding.returnCode room bytes ≠ .error .overrun := by
  -- A list ends where no byte is left, so each code finds one.
  have hcode (b : UInt8) (tail : List UInt8) :
      Decoding.returnCode (b :: tail) ≠ .error .overrun := by
    refine bind_not_overrun (mt byte_overrun.mp (List.cons_ne_nil b tail)) ?_
    rintro ⟨code, rest⟩
    dsimp only
    split
    · exact nofun
    · split <;> exact nofun
  induction room generalizing bytes with
  | zero =>
    cases bytes with
    | nil => exact nofun
    | cons b tail => exact bind_not_overrun (hcode b tail) fun _ => nofun
  | succ room ih =>
    cases bytes with
    | nil => exact nofun
    | cons b tail =>
      refine bind_not_overrun (hcode b tail) ?_
      rintro ⟨code, rest⟩
      exact bind_not_overrun (ih rest) fun _ => nofun

/-- A SUBACK needs its id. Its codes are read to the end of the body, however many there are. -/
theorem suback_overrun : Decoding.suback bytes = .error .overrun ↔ bytes.length < 2 := by
  rw [Decoding.suback, bind_overrun_iff, id_overrun]
  rintro ⟨n, rest⟩
  exact bind_not_overrun (codes_not_overrun _ rest) fun _ => nofun

/-- The protocols that the decoder knows have short names. -/
theorem Spoken.not_long {protocol : String} {level : UInt8} (h : Spoken protocol level) :
    ¬ Decoding.maxProtocolLength < protocol.utf8ByteSize := by
  rcases h with ⟨rfl, -⟩ | ⟨rfl, -⟩ <;> decide

/-- An unknown protocol is refused, or the decoder has no room for its name. -/
theorem unknownProtocol_overrun (name : String) :
    Decoding.unknownProtocol name = .overrun ↔
      Decoding.maxProtocolLength < name.utf8ByteSize := by
  rw [Decoding.unknownProtocol]
  split
  · exact iff_of_true rfl ‹_›
  · exact iff_of_false nofun ‹_›

/-- Behind the keep-alive of a CONNECT there are only texts, which are checked for being there. -/
theorem connect_overrun : Decoding.connect bytes = .error .overrun ↔ CutConnect bytes := by
  rw [Decoding.connect, text_bind_overrun]
  refine exists_congr fun protocol => exists_congr fun rest => and_congr_right fun _ => ?_
  cases rest with
  | nil => exact iff_of_true rfl (.inl rfl)
  | cons level more =>
    have hspoken : Spoken protocol level ↔
        ¬ ((protocol, level) ≠ ("MQTT", 4) ∧ (protocol, level) ≠ ("MQIsdp", 3)) := by
      simp only [Spoken, ne_eq, Prod.mk.injEq, ← not_or, Decidable.not_not]
    rw [or_iff_right (List.cons_ne_nil level more)]
    constructor
    · intro h
      rcases bind_eq_error.mp h with ⟨⟨⟩⟩ | ⟨_, ⟨⟩, h⟩
      dsimp only at h
      split at h
      · exact .inl ((unknownProtocol_overrun protocol).mp (Except.error.inj h))
      · rename_i hname
        refine .inr ⟨level, more, rfl, hspoken.mpr hname, ?_⟩
        cases more with
        | nil => exact Nat.zero_lt_succ 2
        | cons flags more =>
          rcases bind_eq_error.mp h with ⟨⟨⟩⟩ | ⟨_, ⟨⟩, h⟩
          rcases bind_eq_error.mp h with hword | ⟨_, -, h⟩
          · exact Nat.succ_lt_succ (word_overrun.mp hword)
          · -- The flags are a variable, so that there is a branch for each text that may follow.
            refine absurd h ?_
            dsimp only
            repeat' first
              | exact text_not_overrun
              | exact field_not_overrun
              | refine bind_not_overrun ?_ fun _ => ?_
              | split
              | exact fun h => nomatch h
    · intro h
      refine bind_eq_error.mpr (.inr ⟨(level, more), rfl, ?_⟩)
      dsimp only
      rcases h with hlong | ⟨_, _, ⟨⟩, hname, hshort⟩
      · have hunknown : ¬ Spoken protocol level := fun hname => hname.not_long hlong
        rw [if_pos (Decidable.not_not.mp (mt hspoken.mpr hunknown)),
          (unknownProtocol_overrun protocol).mpr hlong]
      · rw [if_neg (hspoken.mp hname)]
        cases more with
        | nil => rfl
        | cons flags more =>
          refine bind_eq_error.mpr (.inr ⟨(flags, more), rfl, ?_⟩)
          exact bind_eq_error.mpr (.inl (word_overrun.mpr (Nat.lt_of_succ_lt_succ hshort)))

end

/-! ### Packets -/

/-- On a header byte and a body the decoder runs over the end exactly where the body is too
short for what the type puts there, or has a text that is too long. -/
theorem ofBody_overrun (header : UInt8) (body : List UInt8) :
    Decoding.ofBody header body = .error .overrun ↔
      Decoding.flagsAllowed header = true ∧ CutBody header body := by
  rw [Decoding.ofBody, CutBody]
  cases Decoding.flagsAllowed header with
  | false => exact iff_of_false nofun (fun h => nomatch h.1)
  | true =>
    rw [if_neg (by decide), and_iff_right rfl]
    -- Both sides go by the type. PUBLISH alone reads the header byte again.
    generalize (header >>> 4).toNat = kind
    match kind with
    | 1 => exact connect_overrun
    | 2 => exact connack_overrun
    | 3 => exact publish_overrun
    | 4 => exact idOnly_overrun
    | 5 => exact idOnly_overrun
    | 6 => exact idOnly_overrun
    | 7 => exact idOnly_overrun
    | 8 =>
      exact id_list_overrun (fun _ => subscription_overrun) (fun _ _ => subscription_ok) rfl
    | 9 => exact suback_overrun
    | 10 => exact id_list_overrun (fun _ => filter_overrun) (fun _ _ => filter_ok) rfl
    | 11 => exact idOnly_overrun
    | 0 => exact iff_of_false nofun id
    | 12 => exact iff_of_false nofun id
    | 13 => exact iff_of_false nofun id
    | 14 => exact iff_of_false nofun id
    | _ + 15 => exact iff_of_false nofun id

/-- The decoder sees the body of a packet. -/
theorem decode_of_parts {bytes : List UInt8} {header : UInt8} {body : List UInt8}
    (h : Parts bytes header body) : Packet.decode bytes = Decoding.ofBody header body := by
  obtain ⟨field, rfl, hread⟩ := h
  simp only [Packet.decode, hread, List.drop_left, List.take_length, Nat.lt_irrefl, if_false]

/-- A packet has its parts. -/
theorem parts_of_isPacket {bytes : List UInt8} (h : IsPacket bytes) :
    ∃ header body, Parts bytes header body := by
  cases bytes with
  | nil => cases h
  | cons header rest =>
    simp only [IsPacket, front] at h
    split at h
    · cases h
    · rename_i hfour
      split at h
      · rename_i hlast
        -- The field ends with the first byte that does not go on.
        have hlength := Front.packet.inj h
        generalize hmore : (rest.takeWhile goesOn).length = more at *
        refine ⟨header, rest.drop (more + 1), rest.take (more + 1), ?_, ?_⟩
        · rw [List.take_append_drop]
        · rw [List.take_append_drop, read?_eq, hmore, if_neg hfour, if_pos hlast,
            List.length_drop, List.length_take]
          simp only [List.length_cons] at hlength
          congr 2
          · omega
          · omega
      · cases h

/-- The parts of a packet are determined by its bytes. -/
theorem Parts.unique {bytes : List UInt8} {header header' : UInt8} {body body' : List UInt8}
    (h : Parts bytes header body) (h' : Parts bytes header' body') :
    header = header' ∧ body = body' := by
  obtain ⟨field, rfl, hread⟩ := h
  obtain ⟨field', hbytes, hread'⟩ := h'
  obtain ⟨rfl, hrest⟩ := List.cons.inj hbytes
  rw [← hrest, hread] at hread'
  obtain ⟨hlength, -⟩ := Prod.mk.inj (Except.ok.inj hread')
  exact ⟨rfl, (List.append_inj' hrest hlength).2⟩

/-- On one packet the decoder runs over the end exactly where the packet is cut short. -/
theorem decode_overrun {bytes : List UInt8} (h : IsPacket bytes) :
    Packet.decode bytes = .error .overrun ↔ CutShort bytes := by
  obtain ⟨header, body, hparts⟩ := parts_of_isPacket h
  rw [decode_of_parts hparts, ofBody_overrun]
  constructor
  · rintro ⟨hflags, hcut⟩
    exact ⟨header, body, hparts, hflags, hcut⟩
  · rintro ⟨header', body', hparts', hflags, hcut⟩
    obtain ⟨rfl, rfl⟩ := hparts.unique hparts'
    exact ⟨hflags, hcut⟩

/-- An unknown protocol with a name of eleven letters. With ten it would be refused. -/
example :
    (Packet.decode ([0x10, 14, 0, 11] ++ List.replicate 11 0x41 ++ [4]) matches
        .error .overrun) = true ∧
      (Packet.decode ([0x10, 13, 0, 10] ++ List.replicate 10 0x41 ++ [4]) matches
        .error .rejected) = true := by
  decide +kernel

end WeatherStation.Proofs.Mqtt
