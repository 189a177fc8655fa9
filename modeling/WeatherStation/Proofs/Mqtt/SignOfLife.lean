import WeatherStation.Proofs.Mqtt.Clock

/-!
# `WeatherStation.Proofs.Mqtt.SignOfLife`: when the broker was last heard

Two packets count as a sign of life: the CONNACK that lets the session in, and PINGRESP. The
shared state keeps the time of the last one in whole seconds and in 32 bits, and `liveness`
compares it with a clock that counts microseconds.

`Refreshed` says what is kept, in terms of the journal: the time of the newest sign of life
(`lastSign`), cut down to whole seconds. Only the interpretation of a packet writes it, so that
all other moves are a matter of what they note. `liveness_exact` puts this together with the
order of the journal (`dated_run`). Cutting down makes a sign of life older than it is, by less
than one second. So a silence is never overlooked, and one that is reported is at most that much
too long.
-/

set_option autoImplicit false

namespace WeatherStation.Proofs.Mqtt

open WeatherStation.Mqtt

/-- Whether the broker gives a sign of life with this. -/
def signOfLife : Happening → Bool
  | .applied (.connack _ code) => code == 0
  | .applied .pingresp => true
  | _ => false

/-- The time of the newest sign of life, or 0 if there is none. -/
def lastSign : List Entry → Micros
  | [] => 0
  | e :: journal => if signOfLife e.what then e.time else lastSign journal

/-- What is no sign of life does not count. -/
theorem lastSign_cons {e : Entry} (h : signOfLife e.what = false) (journal : List Entry) :
    lastSign (e :: journal) = lastSign journal := by simp [lastSign, h]

/-- What is no sign of life does not change when the last one was. -/
theorem lastSign_append {noted : List Entry} (h : ∀ e ∈ noted, signOfLife e.what = false)
    (journal : List Entry) : lastSign (noted ++ journal) = lastSign journal := by
  induction noted with
  | nil => rfl
  | cons e noted ih =>
    rw [List.cons_append, lastSign_cons (h e List.mem_cons_self)]
    exact ih fun e' he' => h e' (List.mem_cons_of_mem e he')

/-- A time that is ahead of a journal is ahead of its last sign of life. -/
theorem lastSign_le {now : Micros} {journal : List Entry} (h : ∀ e ∈ journal, e.time ≤ now) :
    lastSign journal ≤ now := by
  induction journal with
  | nil => exact Nat.zero_le now
  | cons e journal ih =>
    rw [lastSign]
    split
    · exact h e List.mem_cons_self
    · exact ih fun e' he' => h e' (List.mem_cons_of_mem e he')

/-- As a journal in the order of its times grows, its last sign of life is never an earlier
one. -/
theorem lastSign_le_append {noted journal : List Entry}
    (h : (noted ++ journal).Pairwise fun later earlier => earlier.time ≤ later.time) :
    lastSign journal ≤ lastSign (noted ++ journal) := by
  induction noted with
  | nil => exact Nat.le_refl (lastSign journal)
  | cons e noted ih =>
    rw [List.cons_append] at h ⊢
    obtain ⟨hnewest, hordered⟩ := List.pairwise_cons.mp h
    rw [lastSign]
    split
    · exact lastSign_le fun e' he' => hnewest e' (List.mem_append_right noted he')
    · exact ih hordered

/-! ### What is kept -/

/-- An instant in whole seconds, as far as 32 bits go. -/
def keptSeconds (t : Micros) : UInt32 := UInt32.ofNat (min t.toSeconds 0xFFFFFFFF)

/-- The seconds are cut down to what 32 bits hold before they are stored, so nothing wraps. -/
theorem toNat_keptSeconds (t : Micros) : (keptSeconds t).toNat = min t.toSeconds 0xFFFFFFFF := by
  rw [keptSeconds, UInt32.toNat_ofNat']
  exact Nat.mod_eq_of_lt (by omega)

/-- Below the bound on the clock nothing is cut off but the fraction of a second. -/
theorem toNat_keptSeconds_of_lt {t : Micros} (h : t < seconds UInt32.size) :
    (keptSeconds t).toNat = t.toSeconds := by
  have hseconds : t.toSeconds < UInt32.size := Nat.div_lt_of_lt_mul (by rwa [Nat.mul_comm])
  rw [toNat_keptSeconds]
  exact Nat.min_eq_left (Nat.le_of_lt_succ hseconds)

/-- A silence that is measured from the whole second of the last sign of life is too long, by
less than a second. -/
theorem silence_bounds {t later : Nat} (h : t ≤ later) :
    later - t ≤ later - seconds (Micros.toSeconds t) ∧
      later - seconds (Micros.toSeconds t) < later - t + seconds 1 := by
  have hwhole : Micros.toSeconds t * 1000000 ≤ t := Nat.div_mul_le_self t 1000000
  have hnext : t < 1000000 * (Micros.toSeconds t + 1) := Nat.lt_mul_div_succ t (by decide)
  show later - t ≤ later - Micros.toSeconds t * 1000000 ∧
    later - Micros.toSeconds t * 1000000 < later - t + 1 * 1000000
  omega

/-- A later instant is kept as no earlier a second. -/
theorem keptSeconds_mono {t t' : Micros} (h : t ≤ t') : keptSeconds t ≤ keptSeconds t' := by
  rw [UInt32.le_iff_toNat_le, toNat_keptSeconds, toNat_keptSeconds]
  have hseconds : t.toSeconds ≤ t'.toSeconds := Nat.div_le_div_right h
  omega

/-- The shared state keeps the last sign of life. -/
def Refreshed (x : Exchange) : Prop := x.lastAlive = keptSeconds (lastSign x.journal)

section
variable {now : Micros} {p q : Point} {s t : Session} {x y : Exchange}

/-- An entry that is no sign of life leaves what is kept as it should be. -/
theorem Refreshed.note {what : Happening} (h : Refreshed x) (hwhat : signOfLife what = false) :
    Refreshed (x.note now what) := by
  show x.lastAlive = keptSeconds (lastSign (⟨now, what⟩ :: x.journal))
  rw [lastSign_cons hwhat]
  exact h

/-- A packet refreshes it if it is a sign of life, and leaves it alone if not. -/
theorem Refreshed.apply {packet : Packet} {received : Received} (h : Refreshed x)
    (happly : x.apply now packet = some (received, y)) :
    Refreshed (y.note now (.applied packet)) := by
  cases absorbs_of_apply happly with
  | accepted present => rfl
  | pingresp => rfl
  | refused present hcode => exact h.note (beq_eq_false_iff_ne.mpr hcode)
  | suback id codes => exact h.note rfl
  | puback id => exact Refreshed.note h rfl
  | publish m =>
    obtain ⟨inbox, dropped, hdeliver⟩ := deliver_eq x m.topic m.payload
    rw [hdeliver]
    exact Refreshed.note h rfl

/-- Every move keeps it. Where a packet is applied this is `Refreshed.apply`, and no other move
notes a sign of life. -/
theorem Move.refreshed (move : Move now p s q t) (h : Refreshed s.exchange) :
    Refreshed t.exchange := by
  cases move with
  | apply hframe hpacket =>
    obtain ⟨packet, applied, -, happly, rfl⟩ := interpret_ok hpacket
    exact Refreshed.apply (Refreshed.note h rfl) happly
  -- All others note at most what is no packet.
  | _ => exact h

/-- The other tasks note no sign of life, and none of them writes what is kept. -/
theorem Beside.refreshed (hbeside : Beside now x y) (h : Refreshed x) : Refreshed y := by
  induction hbeside with
  | refl => exact h
  | forget _ ih => exact ih
  | request slot _ ih => exact ih
  | @note y what hwhat _ ih =>
    refine ih.note ?_
    cases what <;> first | rfl | cases hwhat
  | notify _ ih => exact Refreshed.note ih rfl
  | dispatch hnext _ ih =>
    obtain ⟨rest, -, rfl⟩ := nextMessage_eq_some.mp hnext
    exact Refreshed.note ih rfl

end

/-- At the start nothing was heard, and zero is kept for that. -/
theorem refreshed_start (config : SessionConfig) (now : Micros) :
    Refreshed ((Session.new config {}).start now).exchange := by
  show (0 : UInt32) = keptSeconds 0
  decide

/-- In every run the shared state keeps the last sign of life. -/
theorem refreshed_run (config : SessionConfig) (ackTimeout now : Micros) (turns : List Turn) :
    Refreshed ((System.boot config ackTimeout now).run turns).session.exchange :=
  System.invariant_beside (P := fun _ s => Refreshed s.exchange)
    (refreshed_start config now)
    (fun move h => move.refreshed h)
    (fun hbeside h => hbeside.refreshed h)
    (fun h => by rwa [yield_exchange]) turns

/-- The last sign of life is never ahead of the clock. -/
theorem lastSign_le_now (config : SessionConfig) (ackTimeout now : Micros) (turns : List Turn) :
    let s := (System.boot config ackTimeout now).run turns
    lastSign s.journal ≤ s.now := lastSign_le (dated_run config ackTimeout now turns).2

/-- What is kept never goes back, since the last sign of life does not and whole seconds are in the
same order. -/
theorem lastAlive_mono (config : SessionConfig) (ackTimeout now : Micros)
    (turns later : List Turn) :
    let s := (System.boot config ackTimeout now).run turns
    s.session.exchange.lastAlive ≤ (s.run later).session.exchange.lastAlive := by
  intro s
  have hboth : s.run later = (System.boot config ackTimeout now).run (turns ++ later) :=
    (System.run_append _ turns later).symm
  have hkept : Refreshed s.session.exchange := refreshed_run config ackTimeout now turns
  have hkept' : Refreshed (s.run later).session.exchange := by
    rw [hboth]
    exact refreshed_run config ackTimeout now (turns ++ later)
  have hordered := (dated_run config ackTimeout now (turns ++ later)).1
  rw [← hboth] at hordered
  obtain ⟨noted, hjournal⟩ := run_suffix later s
  rw [← hjournal] at hordered
  rw [hkept, hkept', show (s.run later).session.exchange.journal = noted ++ s.journal from
    hjournal.symm]
  exact keptSeconds_mono (lastSign_le_append hordered)

/-! ### Silence -/

/-- A silence is measured from the whole second of the last sign of life. -/
theorem liveness_eq_silent {x : Exchange} {now maxSilence silence : Micros} :
    x.liveness now maxSilence = .silent silence ↔
      maxSilence < silence ∧ silence = now - seconds x.lastAlive.toNat := by
  rw [Exchange.liveness]
  split
  · rename_i hlong
    constructor
    · intro h
      obtain rfl := Liveness.silent.inj h
      exact ⟨hlong, rfl⟩
    · rintro ⟨-, rfl⟩
      rfl
  · rename_i hshort
    constructor
    · intro h
      cases h
    · rintro ⟨hlong, rfl⟩
      exact absurd hlong hshort

/-- In every run whose clock is below 2^32 seconds, let `heard` be the time of the last CONNACK
with code 0 or PINGRESP that was interpreted, or 0.

1. From `heard` on, a broker that has been silent for longer than `maxSilence` is reported as
   silent, and one that is reported was silent for more than `maxSilence` less one second. The
   silence reported is the true one or too long by less than a second.
2. The seconds that are kept are those of `heard`, and they never go back, whatever happens next.
3. Only another sign of life changes them: no other packet does, no refusal, and nothing else
   that the session or the other tasks do. -/
theorem liveness_exact (config : SessionConfig) (ackTimeout now : Micros) (turns : List Turn) :
    let s := (System.boot config ackTimeout now).run turns
    let heard := lastSign s.journal
    s.now < seconds UInt32.size →
      (∀ later maxSilence, heard ≤ later →
        (maxSilence < later - heard →
          ∃ silence, s.session.exchange.liveness later maxSilence = .silent silence) ∧
        ∀ silence, s.session.exchange.liveness later maxSilence = .silent silence →
          maxSilence < later - heard + seconds 1 ∧
            later - heard ≤ silence ∧ silence < later - heard + seconds 1) ∧
      s.session.exchange.lastAlive.toNat = heard.toSeconds ∧
      (∀ turns', s.session.exchange.lastAlive ≤ (s.run turns').session.exchange.lastAlive) ∧
      ∀ turns' noted, (s.run turns').journal = noted ++ s.journal →
        (∀ e ∈ noted, signOfLife e.what = false) →
        (s.run turns').session.exchange.lastAlive = s.session.exchange.lastAlive := by
  intro s heard hclock
  have hkept : Refreshed s.session.exchange := refreshed_run config ackTimeout now turns
  have hpast : heard ≤ s.now := lastSign_le_now config ackTimeout now turns
  have hseconds : s.session.exchange.lastAlive.toNat = heard.toSeconds := by
    rw [hkept]
    exact toNat_keptSeconds_of_lt (Nat.lt_of_le_of_lt hpast hclock)
  refine ⟨?_, hseconds, lastAlive_mono config ackTimeout now turns, ?_⟩
  · -- The silence is measured from a whole second, so its bounds are those of cutting down.
    intro later maxSilence hlater
    obtain ⟨hlow, hhigh⟩ := silence_bounds hlater
    rw [← hseconds] at hlow hhigh
    constructor
    · intro hsilent
      exact ⟨_, liveness_eq_silent.mpr ⟨Nat.lt_of_lt_of_le hsilent hlow, rfl⟩⟩
    · intro silence hreport
      obtain ⟨hlong, rfl⟩ := liveness_eq_silent.mp hreport
      exact ⟨Nat.lt_trans hlong hhigh, hlow, hhigh⟩
  · -- What was kept before and after is the last sign of life of each journal, and that is the same
    -- one.
    intro turns' noted hjournal hquiet
    have hkept' : Refreshed (s.run turns').session.exchange := by
      rw [show s.run turns' = (System.boot config ackTimeout now).run (turns ++ turns') from
        (System.run_append _ turns turns').symm]
      exact refreshed_run config ackTimeout now (turns ++ turns')
    rw [hkept', hkept, show (s.run turns').session.exchange.journal = noted ++ s.journal from
      hjournal, lastSign_append hquiet]
    rfl

/-- The broker lets the session in at 1.5 s. At 6.4 s it has been silent for 4.9 s, and is reported
as silent for longer than 5 s, though not for longer than 5.9 s. -/
theorem liveness_exact_opening :
    let s := (System.boot plainConfig (seconds 4) 1500000).run opening
    s.now < seconds UInt32.size ∧ lastSign s.journal = 1500000 ∧
      s.session.exchange.lastAlive = 1 ∧
      s.session.exchange.liveness 6400000 (seconds 5) = .silent 5400000 ∧
      (∃ silence, s.session.exchange.liveness 7000000 (seconds 5) = .silent silence) ∧
      (∀ silence, s.session.exchange.liveness 6400000 (millis 5900) ≠ .silent silence) ∧
      ∀ turns, 1 ≤ (s.run turns).session.exchange.lastAlive := by
  intro s
  have hclock : s.now < seconds UInt32.size := by decide +kernel
  have hheard : lastSign s.journal = 1500000 := by decide +kernel
  obtain ⟨hexact, hseconds, hmono, -⟩ :=
    liveness_exact plainConfig (seconds 4) 1500000 opening hclock
  have hkept : s.session.exchange.lastAlive = 1 := by
    apply UInt32.toNat_inj.mp
    rw [hseconds]
    exact congrArg Micros.toSeconds hheard
  rw [show lastSign ((System.boot plainConfig (seconds 4) 1500000).run opening).journal = 1500000
    from hheard] at hexact
  refine ⟨hclock, hheard, hkept, by decide +kernel, ?_, ?_, ?_⟩
  · exact (hexact 7000000 (seconds 5) (by decide)).1 (by decide)
  · intro silence hreport
    exact absurd ((hexact 6400000 (millis 5900) (by decide)).2 silence hreport).1 (by decide)
  · intro turns
    rw [← hkept]
    exact hmono turns

end WeatherStation.Proofs.Mqtt
