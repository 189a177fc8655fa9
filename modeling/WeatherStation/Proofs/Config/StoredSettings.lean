import Mathlib.Data.List.Dedup
import Mathlib.Data.List.Perm.Subperm
import WeatherStation.Proofs.Config.BuiltDefaults

/-!
# `WeatherStation.Proofs.Config.StoredSettings`: the store keeps the last write of each key

A store in memory is written to by setting texts and numbers and by counting boots. A text can be
too long, a number hides a text under the same key and the other way round, and there is room for
sixteen keys.

* `writes` is the list of the writes that succeed, latest first, computed from the calls alone.
  A lookup in it is the last write of a key.
* `Keeps` says that a store holds those writes. `Keeps.perform` is the step: what a call answers,
  and that the store afterwards holds one write more, or is the same. There is always room, because
  there are fewer keys than places (`length_le_of_nodup`).
* `load_text` and `load_number` say of the settings, listed in `textFields` and `numberFields`, that
  each is the last write of its own key if that has the right type and is accepted, else the
  default.

The tables of the settings have the defaults as the documentation gives them. Those of the build are
texts of which nothing is known, so what becomes of them is said by `IsCut` and `NamesPort`.
`store_law` collects everything for every list of calls and every build.
-/

set_option autoImplicit false

namespace WeatherStation.Proofs.Config

open WeatherStation.Config

/-! ### Calls -/

/-- A call that writes. -/
inductive Call where
  | setText (key : Key) (value : String)
  | setNumber (key : Key) (value : UInt32)
  | recordBoot

/-- What a call does if it succeeds: the new boot count, if there is one, and the store after it. -/
def attempt (s : MemoryStore) : Call → Except ConfigError (Option UInt32 × MemoryStore)
  | .setText key value => (MemoryStore.access.setText s key value).map fun s => (none, s)
  | .setNumber key value => (MemoryStore.access.setNumber s key value).map fun s => (none, s)
  | .recordBoot => (MemoryStore.access.recordBoot s).map fun (count, s) => (some count, s)

/-- The answer of a call, and the store after it. -/
def perform (s : MemoryStore) (call : Call) : Except ConfigError (Option UInt32) × MemoryStore :=
  match attempt s call with
  | .ok (count, s) => (.ok count, s)
  | .error e => (.error e, s)

/-- The store after calls, latest first. -/
def after : List Call → MemoryStore
  | [] => .empty
  | call :: past => (perform (after past) call).2

/-! ### The typed map -/

/-- The number of the next boot, from what is kept under the key of the count. -/
def nextCount : Option StoredValue → UInt32
  | some (.number count) => count + 1
  | _ => 1

/-- What a call writes after other writes, nothing if it fails. -/
def written (past : List (Key × StoredValue)) : Call → Option (Key × StoredValue)
  | .setText key value =>
    if value.utf8ByteSize ≤ maxValueLength then some (key, .text value) else none
  | .setNumber key value => some (key, .number value)
  | .recordBoot => some (.bootCount, .number (nextCount (past.lookup .bootCount)))

/-- The writes that succeed among calls, both latest first. -/
def writes : List Call → List (Key × StoredValue)
  | [] => []
  | call :: past => (written (writes past) call).toList ++ writes past

/-- The answer of a call after other writes. Nothing can fail but a text that is too long. -/
def answer (past : List (Key × StoredValue)) : Call → Except ConfigError (Option UInt32)
  | .setText _ value =>
    if value.utf8ByteSize ≤ maxValueLength then .ok none else .error .valueTooLong
  | .setNumber _ _ => .ok none
  | .recordBoot => .ok (some (nextCount (past.lookup .bootCount)))

/-- A call fails only for a text that is too long, and then it writes nothing. -/
theorem written_of_error {past : List (Key × StoredValue)} {call : Call} {e : ConfigError}
    (h : answer past call = .error e) : e = .valueTooLong ∧ written past call = none := by
  cases call with
  | setText key value =>
    by_cases hfits : value.utf8ByteSize ≤ maxValueLength
    · simp [answer, hfits] at h
    · simp only [answer, hfits, if_false, Except.error.injEq] at h
      exact ⟨h.symm, by simp [written, hfits]⟩
  | setNumber key value => simp [answer] at h
  | recordBoot => simp [answer] at h

/-! ### One write -/

/-- An entry in front hides those of its key and no others. -/
theorem lookup_entry (key : Key) (value : StoredValue) (rest : List (Key × StoredValue))
    (k : Key) :
    List.lookup k ((key, value) :: rest) = if k = key then some value else rest.lookup k := by
  by_cases h : k = key
  · simp [h]
  · simp [List.lookup_cons, h, beq_eq_false_iff_ne.mpr h]

/-- To replace a value is to hide it, as far as lookups can tell. -/
theorem lookup_replace (key : Key) (value : StoredValue) (entries : List (Key × StoredValue))
    (k : Key) :
    (MemoryStore.replace key value entries).lookup k =
      if k = key then some value else entries.lookup k := by
  induction entries with
  | nil => simp [MemoryStore.replace, lookup_entry]
  | cons entry rest ih =>
    obtain ⟨j, v⟩ := entry
    rw [MemoryStore.replace]
    by_cases hj : j = key
    · subst hj
      simp only [if_true, lookup_entry]
      split <;> rfl
    · simp only [if_neg hj, lookup_entry, ih]
      -- The entry that is passed over is of another key than the one that is written.
      by_cases hk : k = j
      · simp [hk, hj]
      · simp [hk]

/-- A key that is there keeps its place, and a new one comes last. -/
theorem keys_replace (key : Key) (value : StoredValue) (entries : List (Key × StoredValue)) :
    (MemoryStore.replace key value entries).map Prod.fst =
      if key ∈ entries.map Prod.fst then entries.map Prod.fst
      else entries.map Prod.fst ++ [key] := by
  induction entries with
  | nil => simp [MemoryStore.replace]
  | cons entry rest ih =>
    obtain ⟨j, v⟩ := entry
    rw [MemoryStore.replace]
    by_cases hj : j = key
    · subst hj
      simp
    · rw [if_neg hj, List.map_cons, ih]
      by_cases hmem : key ∈ rest.map Prod.fst <;> simp [hmem, Ne.symm hj]

/-- A key is there if a lookup finds it. -/
theorem mem_keys_iff (entries : List (Key × StoredValue)) (key : Key) :
    key ∈ entries.map Prod.fst ↔ (entries.lookup key).isSome = true := by
  simp [List.lookup_isSome_iff]

/-- There are fifteen keys. -/
theorem length_le_of_nodup {keys : List Key} (h : keys.Nodup) : keys.length ≤ 15 := by
  have hall : keys ⊆ Key.all := by
    intro key _
    cases key <;> decide
  exact (h.subperm hall).length_le

/-! ### What the store holds -/

/-- A store that holds some writes: its keys are different, and it has the last write of each. -/
structure Keeps (past : List (Key × StoredValue)) (s : MemoryStore) : Prop where
  nodup : (s.entries.map Prod.fst).Nodup
  lookup : ∀ key, s.entries.lookup key = past.lookup key

section
variable {past : List (Key × StoredValue)} {s : MemoryStore}

/-- An empty store has no entry, and nothing was written. -/
theorem keeps_empty : Keeps [] .empty := ⟨List.nodup_nil, fun _ => rfl⟩

/-- The store has as many entries as different keys were written. -/
theorem Keeps.size_eq (h : Keeps past s) : s.size = (past.map Prod.fst).dedup.length := by
  have hsame : ∀ key, key ∈ s.entries.map Prod.fst ↔ key ∈ (past.map Prod.fst).dedup := by
    intro key
    rw [List.mem_dedup, mem_keys_iff, mem_keys_iff, h.lookup]
  have hperm := (List.perm_ext_iff_of_nodup h.nodup (List.nodup_dedup _)).mpr hsame
  rw [MemoryStore.size, ← hperm.length_eq, List.length_map]

/-- There is room for every write. -/
theorem Keeps.put (h : Keeps past s) (key : Key) (value : StoredValue) :
    ∃ next, s.put key value = .ok next ∧ Keeps ((key, value) :: past) next := by
  have hkeys := keys_replace key value s.entries
  have hnodup : ((MemoryStore.replace key value s.entries).map Prod.fst).Nodup := by
    rw [hkeys]
    split
    · exact h.nodup
    · next hnew => simpa using h.nodup.concat hnew
  have hroom : ¬((s.get? key).isNone && storeCapacity ≤ s.size) = true := by
    intro hfull
    obtain ⟨hnone, hsize⟩ := Bool.and_eq_true_iff.mp hfull
    have hnew : key ∉ s.entries.map Prod.fst := by
      rw [mem_keys_iff, ← MemoryStore.get?]
      simpa using hnone
    -- With the new key there would be more than fifteen.
    rw [hkeys, if_neg hnew] at hnodup
    have hlength := length_le_of_nodup hnodup
    simp only [List.length_append, List.length_map, List.length_singleton] at hlength
    have hsize : 16 ≤ s.entries.length := of_decide_eq_true hsize
    omega
  refine ⟨⟨MemoryStore.replace key value s.entries⟩, if_neg hroom, hnodup, fun k => ?_⟩
  rw [lookup_replace, lookup_entry, h.lookup]

/-- The store gives a text where the last write was one. -/
theorem Keeps.getText (h : Keeps past s) (key : Key) :
    MemoryStore.access.getText s key =
      match past.lookup key with
      | some (.text value) => .ok value
      | _ => .error .notFound := by
  rw [← h.lookup]
  rfl

/-- The store gives a number where the last write of the key was one. A text that was written before
or after it is not seen beside it, as one value hides the other. -/
theorem Keeps.getNumber (h : Keeps past s) (key : Key) :
    MemoryStore.access.getNumber s key =
      match past.lookup key with
      | some (.number value) => .ok value
      | _ => .error .notFound := by
  rw [← h.lookup]
  rfl

/-- A boot is counted on from the count that is kept, or from the first. -/
theorem Keeps.recordBoot_eq (h : Keeps past s) :
    MemoryStore.access.recordBoot s =
      (s.put .bootCount (.number (nextCount (past.lookup .bootCount)))).map
        fun next => (nextCount (past.lookup .bootCount), next) := by
  have hset : ∀ count, MemoryStore.access.setNumber s .bootCount count =
      s.put .bootCount (.number count) := fun _ => rfl
  rw [Access.recordBoot, h.getNumber]
  generalize past.lookup .bootCount = kept
  rcases kept with _ | (text | count) <;> simp only [hset, nextCount]
  · cases s.put .bootCount (.number 1) <;> rfl
  · cases s.put .bootCount (.number 1) <;> rfl
  · cases s.put .bootCount (.number (count + 1)) <;> rfl

/-- One call: what it answers, and what the store holds after it. A call that fails leaves the store
as it is. -/
theorem Keeps.perform (h : Keeps past s) (call : Call) :
    (perform s call).1 = answer past call ∧
      Keeps ((written past call).toList ++ past) (perform s call).2 ∧
      ∀ e, (perform s call).1 = .error e → (perform s call).2 = s := by
  cases call with
  | setText key value =>
    -- The length of a text is asked for before the store is.
    by_cases hfits : value.utf8ByteSize ≤ maxValueLength
    · obtain ⟨next, hput, hnext⟩ := h.put key (.text value)
      have hattempt : attempt s (.setText key value) = .ok (none, next) := by
        show (MemoryStore.setText s key value).map _ = _
        rw [MemoryStore.setText, if_neg (by omega), hput]
        rfl
      simp [Config.perform, hattempt, answer, written, hfits, hnext]
    · have hattempt : attempt s (.setText key value) = .error .valueTooLong := by
        show (MemoryStore.setText s key value).map _ = _
        rw [MemoryStore.setText, if_pos (by omega)]
        rfl
      simp [Config.perform, hattempt, answer, written, hfits, h]
  | setNumber key value =>
    -- A boot is a number that is read and written, under a key of its own.
    obtain ⟨next, hput, hnext⟩ := h.put key (.number value)
    have hattempt : attempt s (.setNumber key value) = .ok (none, next) := by
      show (MemoryStore.setNumber s key value).map _ = _
      rw [MemoryStore.setNumber, hput]
      rfl
    simp [Config.perform, hattempt, answer, written, hnext]
  | recordBoot =>
    obtain ⟨next, hput, hnext⟩ :=
      h.put .bootCount (.number (nextCount (past.lookup .bootCount)))
    have hattempt : attempt s .recordBoot =
        .ok (some (nextCount (past.lookup .bootCount)), next) := by
      show (MemoryStore.access.recordBoot s).map _ = _
      rw [h.recordBoot_eq, hput]
      rfl
    simp [Config.perform, hattempt, answer, written, hnext]

end

/-- Whatever was called, the store holds the writes that succeeded. -/
theorem keeps_after (past : List Call) : Keeps (writes past) (after past) := by
  induction past with
  | nil => exact keeps_empty
  | cons call past ih => exact (ih.perform call).2.1

/-! ### The settings -/

/-- A text, if the value is one. -/
def text? : StoredValue → Option String
  | .text value => some value
  | .number _ => none

/-- A number, if the value is one. -/
def number? : StoredValue → Option UInt32
  | .text _ => none
  | .number value => some value

/-- A setting that is a text. What it takes of the default is another matter (`IsCut`). -/
structure TextField where
  key : Key
  read : Settings → String
  default : String

/-- The settings that are texts. The build has the defaults of all but two, of which one is empty
and the other names the kind of sensor. -/
def textFields (built : Built) : List TextField :=
  [⟨.wifiSsid, Settings.wifiSsid, built.wifiSsid⟩,
    ⟨.wifiPassword, Settings.wifiPassword, built.wifiPassword⟩,
    ⟨.brokerHost, Settings.brokerHost, built.brokerHost⟩,
    ⟨.deviceId, Settings.deviceId, ""⟩,
    ⟨.stationName, Settings.stationName, built.stationName⟩,
    ⟨.description, Settings.description, "DHT22"⟩,
    ⟨.timezone, Settings.timezone, built.timezone⟩]

/-- A port has sixteen bits. -/
def port? (n : Nat) : Option Nat := if n ≤ 65535 then some n else none

/-- A publish period divides the hour. -/
def period? (n : Nat) : Option Nat := if n ≠ 0 ∧ n ∣ 60 then some n else none

/-- An interval of no length is raised to one. -/
def interval? (n : Nat) : Option Nat := some (max n 1)

/-- A setting that is a number, and what becomes of a stored number: nothing if it is not
accepted. -/
structure NumberField where
  key : Key
  read : Settings → Nat
  default : UInt32
  accept : Nat → Option Nat

/-- The settings that are numbers. The build has the default of the port alone. -/
def numberFields (port : UInt16) : List NumberField :=
  [⟨.brokerPort, fun s => s.brokerPort.toNat, port.toUInt32, port?⟩,
    ⟨.pingIntervalSecs, fun s => s.pingIntervalSecs.toNat, 60, interval?⟩,
    ⟨.maxSilenceMins, fun s => s.maxSilenceMins.toNat, 120, some⟩,
    ⟨.publishPeriodMins, fun s => s.publishPeriodMins.toNat, 10, period?⟩,
    ⟨.measurePeriodSecs, fun s => s.measurePeriodSecs.toNat, 4, interval?⟩]

section
variable {past : List (Key × StoredValue)} {s : MemoryStore} {built : Built}

/-- A text that is a setting is the last write of its key, or the default. What is built in goes
through the same cut as what is stored. -/
theorem Keeps.textOr (h : Keeps past s) (key : Key) (default : String) :
    Settings.textOr MemoryStore.access s key default =
      ((past.lookup key).bind text?).getD (cut default) := by
  rw [Settings.textOr, h.getText]
  generalize past.lookup key = kept
  rcases kept with _ | (value | value) <;> rfl

/-- A number is the last write of its key, or the default. Whether it is accepted is asked
afterwards. -/
theorem Keeps.numberOr (h : Keeps past s) (key : Key) (default : UInt32) :
    Settings.numberOr MemoryStore.access s key default =
      ((past.lookup key).bind number?).getD default := by
  rw [Settings.numberOr, h.getNumber]
  generalize past.lookup key = kept
  rcases kept with _ | (value | value) <;> rfl

/-- A text is loaded from its own key, and else it is the default, as far as there is room. -/
theorem Keeps.load_text (h : Keeps past s) {f : TextField} (hf : f ∈ textFields built) :
    f.read (Settings.load built MemoryStore.access s) =
      ((past.lookup f.key).bind text?).getD (cut f.default) := by
  simp only [textFields, List.mem_cons, List.not_mem_nil, or_false] at hf
  rcases hf with rfl | rfl | rfl | rfl | rfl | rfl | rfl <;> exact h.textOr _ _

/-- A number goes through a function that keeps an accepted one and has the default for any
other. -/
theorem Keeps.load_accepted (h : Keeps past s) (key : Key) (default : UInt32)
    (settle : UInt32 → Nat) (accept : Nat → Option Nat)
    (hsettle : ∀ n, settle n = (accept n.toNat).getD default.toNat)
    (hdefault : accept default.toNat = some default.toNat) :
    settle (Settings.numberOr MemoryStore.access s key default) =
      (((past.lookup key).bind number?).bind fun n => accept n.toNat).getD default.toNat := by
  rw [h.numberOr]
  cases (past.lookup key).bind number? with
  | none =>
    show settle default = default.toNat
    rw [hsettle, hdefault]
    rfl
  | some n => exact hsettle n

/-- A port is taken if it has sixteen bits. -/
theorem toNat_portOr (fallback : UInt16) (n : UInt32) :
    (portOr fallback n).toNat = (port? n.toNat).getD fallback.toUInt32.toNat := by
  rw [portOr, port?]
  by_cases hport : n.toNat ≤ 65535
  · rw [if_pos (by omega), if_pos hport]
    show n.toNat % 65536 = n.toNat
    omega
  · rw [if_neg (by omega), if_neg hport]
    rfl

/-- A publish period is taken if it divides the hour. -/
theorem toNat_periodOr (fallback n : UInt32) :
    (periodOr fallback n).toNat = (period? n.toNat).getD fallback.toNat := by
  have hiff : (n = 0 ∨ 60 % n ≠ 0) ↔ ¬(n.toNat ≠ 0 ∧ n.toNat ∣ 60) := by
    rw [Nat.dvd_iff_mod_eq_zero, not_and_or, not_not, ← UInt32.toNat_inj, ne_eq, ← UInt32.toNat_inj,
      UInt32.toNat_mod]
    rfl
  rw [periodOr, period?]
  by_cases hperiod : n.toNat ≠ 0 ∧ n.toNat ∣ 60
  · rw [if_neg (by tauto), if_pos hperiod]
    rfl
  · rw [if_pos (by tauto), if_neg hperiod]
    rfl

/-- An interval of no seconds is taken as one second. -/
theorem toNat_atLeastOne (default n : UInt32) :
    (atLeastOne n).toNat = (interval? n.toNat).getD default.toNat := by
  rw [atLeastOne, interval?, Option.getD_some]
  by_cases hzero : n = 0
  · simp [hzero]
  · have hpositive : n.toNat ≠ 0 := fun h => hzero (UInt32.toNat_inj.mp h)
    rw [if_neg hzero]
    omega

/-- A number is loaded from its own key. -/
theorem Keeps.load_number (h : Keeps past s) {f : NumberField}
    (hf : f ∈ numberFields built.port) :
    f.read (Settings.load built MemoryStore.access s) =
      (((past.lookup f.key).bind number?).bind fun n => f.accept n.toNat).getD f.default.toNat := by
  simp only [numberFields, List.mem_cons, List.not_mem_nil, or_false] at hf
  rcases hf with rfl | rfl | rfl | rfl | rfl
  · have hdefault : port? built.port.toUInt32.toNat = some built.port.toUInt32.toNat :=
      if_pos (Nat.le_of_lt_succ built.port.toNat_lt)
    exact h.load_accepted _ _ (fun n => (portOr built.port n).toNat) port?
      (toNat_portOr built.port) hdefault
  · exact h.load_accepted _ _ (fun n => (atLeastOne n).toNat) interval?
      (toNat_atLeastOne 60) (by decide)
  · exact h.load_accepted _ _ UInt32.toNat some (fun _ => rfl) rfl
  · exact h.load_accepted _ _ (fun n => (periodOr 10 n).toNat) period?
      (toNat_periodOr 10) (by decide)
  · exact h.load_accepted _ _ (fun n => (atLeastOne n).toNat) interval?
      (toNat_atLeastOne 4) (by decide)

end

/-- A publish period that is loaded divides the hour, and no interval is empty. -/
theorem load_bounds {σ : Type} (built : Built) (a : Access σ) (store : σ) :
    let settings := Settings.load built a store
    settings.publishPeriodMins.toNat ∣ 60 ∧ 1 ≤ settings.publishPeriodMins.toNat ∧
      1 ≤ settings.measurePeriodSecs.toNat ∧ 1 ≤ settings.pingIntervalSecs.toNat := by
  have hinterval : ∀ n, 1 ≤ (atLeastOne n).toNat := by
    intro n
    rw [toNat_atLeastOne 0, interval?, Option.getD_some]
    exact Nat.le_max_right ..
  have hperiod : ∀ n, (periodOr Default.publishPeriodMins n).toNat ≠ 0 ∧
      (periodOr Default.publishPeriodMins n).toNat ∣ 60 := by
    intro n
    rw [toNat_periodOr, period?]
    split
    · assumption
    · decide
  refine ⟨(hperiod _).2, Nat.pos_of_ne_zero (hperiod _).1, hinterval _, hinterval _⟩

/-! ### Every history of the store -/

/-- For every list of calls, each of which succeeds or fails:

1. A further call answers as on a map that holds the writes that succeeded. Only a text that is too
   long is refused, so the store is never full. A call that fails changes nothing.
2. The store counts the different keys that were written, and reads give the last write of a key if
   it has the type asked for, and else that nothing was found.

Whatever texts the build has for the settings that are not stored:

3. Each setting that is a text is the last write of its own key, if that is a text, and else the
   longest start of its default that a store could hold.
4. Each setting that is a number is the last write of its own key, if that is a number and is
   accepted, and else the default. For the port this is the number that the text of the build
   writes, if that is one of sixteen bits, and else 1883.
5. So the publish period divides the hour, and no interval is empty. -/
theorem store_law (built : Built) (past : List Call) :
    let s := after past
    let kept := fun key => (writes past).lookup key
    let settings := Settings.load built MemoryStore.access s
    (∀ call, (perform s call).1 = answer (writes past) call ∧
      (perform s call).1 ≠ .error .storeFull ∧
      ∀ e, (perform s call).1 = .error e →
        (perform s call).2 = s ∧ writes (call :: past) = writes past) ∧
    s.size = ((writes past).map Prod.fst).dedup.length ∧
    (∀ key, MemoryStore.access.getText s key =
        match kept key with
        | some (.text value) => .ok value
        | _ => .error .notFound) ∧
    (∀ key, MemoryStore.access.getNumber s key =
        match kept key with
        | some (.number value) => .ok value
        | _ => .error .notFound) ∧
    (∀ f ∈ textFields built, ∃ default, IsCut f.default default ∧
      f.read settings = ((kept f.key).bind text?).getD default) ∧
    (∃ port, NamesPort built.brokerPort port ∧ ∀ f ∈ numberFields port, f.read settings =
      (((kept f.key).bind number?).bind fun n => f.accept n.toNat).getD f.default.toNat) ∧
    settings.publishPeriodMins.toNat ∣ 60 ∧ 1 ≤ settings.publishPeriodMins.toNat ∧
    1 ≤ settings.measurePeriodSecs.toNat ∧ 1 ≤ settings.pingIntervalSecs.toNat := by
  intro s kept settings
  have hkeeps : Keeps (writes past) s := keeps_after past
  have htexts : ∀ f ∈ textFields built, ∃ default, IsCut f.default default ∧
      f.read settings = ((kept f.key).bind text?).getD default :=
    fun f hf => ⟨cut f.default, isCut_cut f.default, hkeeps.load_text hf⟩
  have hport : NamesPort built.brokerPort built.port := namesPort_iff.mpr rfl
  refine ⟨fun call => ?_, hkeeps.size_eq, hkeeps.getText, hkeeps.getNumber, htexts,
    ⟨built.port, hport, fun f hf => hkeeps.load_number hf⟩,
    load_bounds built MemoryStore.access s⟩
  obtain ⟨hanswer, -, hfailed⟩ := hkeeps.perform call
  refine ⟨hanswer, fun hfull => ?_, fun e he => ⟨hfailed e he, ?_⟩⟩
  · have htoo := (written_of_error (hanswer.symm.trans hfull)).1
    cases htoo
  · rw [writes, (written_of_error (hanswer.symm.trans he)).2]
    rfl

end WeatherStation.Proofs.Config
