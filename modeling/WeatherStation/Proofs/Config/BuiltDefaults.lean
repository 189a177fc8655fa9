import Mathlib.Data.List.Induction
import Mathlib.Data.String.Basic
import WeatherStation.Config.Settings

/-!
# `WeatherStation.Proofs.Config.BuiltDefaults`: what the texts of a build stand for

The build puts texts in place of the settings that are not stored, and nothing is known of these
texts. A setting that is a text takes of its default as much as a store could hold. The port of the
broker is read from a text, which may write any number or none.

* `IsCut` says what as much as possible means, without the loop over the characters: the longest
  start of the text that has the length of a stored one. `isCut_iff` compares it with `cut`.
* `Writes` says what the decimal texts of a number are, without a reader: the number's digits as
  they are printed, with any number of zeros and perhaps a plus before them. `portText?_eq_some_iff`
  compares it with the reader, and `namesPort_iff` adds the port for a text that writes none.

So neither law refers to the definitions that it is about.
-/

set_option autoImplicit false

namespace WeatherStation.Proofs.Config

open WeatherStation.Config

/-! ### Cut texts -/

/-- A text is the longest start of another one that a store could hold. -/
structure IsCut (text start : String) : Prop where
  begins : start.toList <+: text.toList
  fits : start.utf8ByteSize ≤ maxValueLength
  longest : ∀ other : String, other.toList <+: text.toList →
    other.utf8ByteSize ≤ maxValueLength → other.toList <+: start.toList

/-- What fits is a start of the text. -/
theorem fitting_isPrefix (room : Nat) (text : List Char) : fitting room text <+: text := by
  induction text generalizing room with
  | nil => exact List.nil_prefix
  | cons c rest ih =>
    rw [fitting]
    split
    · exact List.cons_prefix_cons.mpr ⟨rfl, ih _⟩
    · exact List.nil_prefix

/-- What fits is no longer than the room for it, in bytes. -/
theorem utf8Len_fitting_le (room : Nat) (text : List Char) :
    String.utf8Len (fitting room text) ≤ room := by
  induction text generalizing room with
  | nil => exact Nat.zero_le _
  | cons c rest ih =>
    rw [fitting]
    split
    · rename_i hfits
      have hrest := ih (room - c.utf8Size)
      rw [String.utf8Len_cons]
      omega
    · exact Nat.zero_le _

/-- A start that fits goes no further than the loop does. -/
theorem isPrefix_fitting {start text : List Char} {room : Nat} (hbegins : start <+: text)
    (hfits : String.utf8Len start ≤ room) : start <+: fitting room text := by
  -- Both lists begin with the same character, and it takes the same room of both.
  induction text generalizing start room with
  | nil =>
    rw [List.prefix_nil.mp hbegins]
    exact List.nil_prefix
  | cons c rest ih =>
    cases start with
    | nil => exact List.nil_prefix
    | cons d more =>
      obtain ⟨rfl, hmore⟩ := List.cons_prefix_cons.mp hbegins
      rw [String.utf8Len_cons] at hfits
      rw [fitting, if_pos (by omega)]
      exact List.cons_prefix_cons.mpr ⟨rfl, ih hmore (by omega)⟩

/-- The code cuts a text as far as it has to and no further. -/
theorem isCut_cut (text : String) : IsCut text (cut text) := by
  refine ⟨?_, ?_, fun other hbegins hfits => ?_⟩
  · rw [cut, String.toList_ofList]
    exact fitting_isPrefix _ _
  · rw [cut, String.utf8ByteSize_ofList]
    exact utf8Len_fitting_le _ _
  · rw [cut, String.toList_ofList]
    rw [← String.utf8Len_toList] at hfits
    exact isPrefix_fitting hbegins hfits

/-- There is one longest start. -/
theorem IsCut.unique {text start start' : String} (h : IsCut text start)
    (h' : IsCut text start') : start = start' := by
  have hle : start.toList <+: start'.toList := h'.longest start h.begins h.fits
  have hge : start'.toList <+: start.toList := h.longest start' h'.begins h'.fits
  exact String.toList_injective (hle.eq_of_length_le hge.length_le)

/-- Cutting a text gives its longest start that a store could hold. -/
theorem isCut_iff {text start : String} : IsCut text start ↔ start = cut text := by
  constructor
  · intro h
    exact h.unique (isCut_cut text)
  · rintro rfl
    exact isCut_cut text

/-- The cut is before the first character that does not fit, also if a later one would. -/
example : cut (String.ofList (List.replicate 63 'a' ++ ['é', 'b'])) =
    String.ofList (List.replicate 63 'a') := by
  decide +kernel

/-! ### Numbers in texts -/

/-- A text writes a number: its decimal digits, with zeros and a plus before them or without. -/
def Writes (text : List Char) (n : Nat) : Prop :=
  ∃ sign ∈ [[], ['+']], ∃ zeros, text = sign ++ (List.replicate zeros '0' ++ Nat.toDigits 10 n)

/-- Zeros in front count nothing. -/
theorem digitsValue_zeros (zeros : Nat) (digits : List Char) :
    Decimal.digitsValue (List.replicate zeros '0' ++ digits) = Decimal.digitsValue digits := by
  show Nat.ofDigitChars 10 _ 0 = Nat.ofDigitChars 10 digits 0
  rw [Nat.ofDigitChars_append, Nat.ofDigitChars_replicate_zero, Nat.mul_zero]

/-- One more digit at the end. -/
theorem digitsValue_concat (digits : List Char) (c : Char) :
    Decimal.digitsValue (digits ++ [c]) =
      10 * Decimal.digitsValue digits + (c.toNat - '0'.toNat) := by
  rw [Decimal.digitsValue, List.foldl_append]
  rfl

/-- A digit is printed for its own value. -/
theorem toDigits_of_isDigit {c : Char} (h : c.isDigit = true) :
    c.toNat - '0'.toNat < 10 ∧ Nat.toDigits 10 (c.toNat - '0'.toNat) = [c] := by
  obtain ⟨hge, hle⟩ : 48 ≤ c.toNat ∧ c.toNat ≤ 57 := by
    simpa [Char.isDigit, UInt32.le_iff_toNat_le] using h
  have hzero : '0'.toNat = 48 := rfl
  have hlt : c.toNat - '0'.toNat < 10 := by omega
  refine ⟨hlt, ?_⟩
  rw [Nat.toDigits_of_lt_base hlt]
  congr 1
  apply Char.toNat_inj.mp
  rw [Nat.toNat_digitChar_of_lt_ten hlt]
  omega

/-- Digits are the print of their value behind zeros. -/
theorem exists_zeros {digits : List Char} (hne : digits ≠ [])
    (hdigits : ∀ c ∈ digits, c.isDigit = true) :
    ∃ zeros, digits =
      List.replicate zeros '0' ++ Nat.toDigits 10 (Decimal.digitsValue digits) := by
  -- The value grows with the last digit, so the induction goes along the digits from the front.
  induction digits using List.reverseRecOn with
  | nil => exact absurd rfl hne
  | append_singleton front c ih =>
    obtain ⟨hlt, hprint⟩ := toDigits_of_isDigit (hdigits c (by simp))
    rw [digitsValue_concat]
    by_cases hfront : front = []
    · subst hfront
      exact ⟨0, by simpa [Decimal.digitsValue] using hprint.symm⟩
    obtain ⟨zeros, hzeros⟩ := ih hfront fun d hd => hdigits d (List.mem_append_left _ hd)
    by_cases hvalue : Decimal.digitsValue front = 0
    · -- So far there are only zeros, and the last of them is the print of the value.
      refine ⟨zeros + 1, ?_⟩
      rw [hvalue, Nat.toDigits_zero] at hzeros
      rw [hvalue, Nat.mul_zero, Nat.zero_add, hprint, hzeros, List.replicate_succ']
    · refine ⟨zeros, ?_⟩
      rw [← Nat.toDigits_append_toDigits (by decide) (Nat.pos_of_ne_zero hvalue) hlt, hprint,
        ← List.append_assoc, ← hzeros]

/-- The texts of a number without a plus are the digits that have its value. -/
theorem print_iff {digits : List Char} {n : Nat} :
    (∃ zeros, digits = List.replicate zeros '0' ++ Nat.toDigits 10 n) ↔
      digits ≠ [] ∧ (∀ c ∈ digits, c.isDigit = true) ∧ Decimal.digitsValue digits = n := by
  constructor
  · rintro ⟨zeros, rfl⟩
    refine ⟨?_, fun c hc => ?_, ?_⟩
    · exact List.append_ne_nil_of_right_ne_nil _ Nat.toDigits_ne_nil
    · rcases List.mem_append.mp hc with hzero | hdigit
      · rw [List.eq_of_mem_replicate hzero]
        rfl
      · exact Nat.isDigit_of_mem_toDigits (by decide) (by decide) hdigit
    · rw [digitsValue_zeros, Decimal.digitsValue_toDigits]
  · rintro ⟨hne, hdigits, rfl⟩
    exact exists_zeros hne hdigits

/-- A text writes the number that it writes without its plus. -/
theorem writes_iff {text : List Char} {n : Nat} :
    Writes text n ↔ ∃ zeros, withoutPlus text = List.replicate zeros '0' ++ Nat.toDigits 10 n := by
  constructor
  · rintro ⟨sign, hsign, zeros, rfl⟩
    refine ⟨zeros, ?_⟩
    rcases List.mem_cons.mp hsign with rfl | hplus
    · -- A digit is no plus.
      have hdigits : ∀ c ∈ List.replicate zeros '0' ++ Nat.toDigits 10 n, c.isDigit = true :=
        (print_iff.mp ⟨zeros, rfl⟩).2.1
      rw [List.nil_append, withoutPlus.eq_def]
      split
      · rename_i rest heq
        rw [heq] at hdigits
        exact absurd (hdigits '+' List.mem_cons_self) (by decide)
      · rfl
    · rw [List.mem_singleton.mp hplus]
      rfl
  · rintro ⟨zeros, h⟩
    rw [withoutPlus.eq_def] at h
    split at h
    · exact ⟨['+'], by simp, zeros, by rw [h]; rfl⟩
    · exact ⟨[], by simp, zeros, h⟩

/-- The reader finds the number that a text writes, if it has sixteen bits. -/
theorem portText?_eq_some_iff {text : String} {port : UInt16} :
    portText? text = some port ↔ Writes text.toList port.toNat := by
  rw [writes_iff, print_iff, portText?]
  generalize withoutPlus text.toList = digits
  have hport := port.toNat_lt
  by_cases hbad : (digits.isEmpty || digits.any fun c => !c.isDigit) = true
  · rw [if_pos hbad]
    refine iff_of_false nofun ?_
    rintro ⟨hne, hdigits, -⟩
    simp [hne] at hbad
    obtain ⟨c, hc, hno⟩ := hbad
    simp [hdigits c hc] at hno
  · have hgood : digits ≠ [] ∧ ∀ c ∈ digits, c.isDigit = true := by
      simpa using hbad
    rw [if_neg hbad, and_iff_right hgood.1, and_iff_right hgood.2]
    by_cases hsmall : Decimal.digitsValue digits < 65536
    · rw [if_pos hsmall, Option.some.injEq, ← UInt16.toNat_inj, UInt16.toNat_ofNat_of_lt' hsmall]
    · rw [if_neg hsmall]
      exact iff_of_false nofun (by omega)

/-- A port is the one that a text names: the number that it writes, or the port registered for MQTT
if it writes no number of sixteen bits. -/
def NamesPort (text : String) (port : UInt16) : Prop :=
  Writes text.toList port.toNat ∨ port = 1883 ∧ ∀ n < 65536, ¬ Writes text.toList n

/-- The station takes the port that the text of the build names. -/
theorem namesPort_iff {built : Built} {port : UInt16} :
    NamesPort built.brokerPort port ↔ port = built.port := by
  have hwrites : ∀ p : UInt16, portText? built.brokerPort = some p ↔
      Writes built.brokerPort.toList p.toNat := fun p => portText?_eq_some_iff
  rw [NamesPort, Built.port]
  -- The text writes one number of sixteen bits, and then no other will do, or it writes none.
  cases hread : portText? built.brokerPort with
  | some p =>
    have hp := (hwrites p).mp hread
    rw [← hwrites, hread, Option.some.injEq, Option.getD_some]
    constructor
    · rintro (hsame | ⟨-, hnone⟩)
      · exact hsame.symm
      · exact absurd hp (hnone p.toNat p.toNat_lt)
    · rintro rfl
      exact .inl rfl
  | none =>
    have hnone : ∀ n < 65536, ¬ Writes built.brokerPort.toList n := by
      intro n hn hn'
      rw [← UInt16.toNat_ofNat_of_lt' hn, ← hwrites, hread] at hn'
      cases hn'
    rw [← hwrites, hread, Option.getD_none]
    exact ⟨fun h => (h.resolve_left nofun).1, fun h => .inr ⟨h, hnone⟩⟩

/-- A sign is read, and a number that is too large is not. -/
example : portText? "+08883" = some 8883 ∧ portText? "65536" = none ∧ portText? " 1" = none := by
  decide +kernel

end WeatherStation.Proofs.Config
