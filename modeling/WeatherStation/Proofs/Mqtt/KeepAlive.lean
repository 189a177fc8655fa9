import WeatherStation.Proofs.Mqtt.Notice
import WeatherStation.Proofs.Mqtt.Opening
import WeatherStation.Proofs.Mqtt.Upkeep

/-!
# `WeatherStation.Proofs.Mqtt.KeepAlive`: the PINGREQs of a connection and their spacing

A client that has nothing to say must send a PINGREQ now and then. The session keeps the time at
which the next one is due. That time is set when the broker lets the session in, set anew when a
PINGREQ is due at the beginning of a poll round, and forgotten with the connection.

* `intervalStart` reads from the journal when the present interval began, and `pingOwed` whether the
  poll round that has just begun has to write a PINGREQ.
* `Due`: the session's own time agrees with the journal while it is on an accepted connection.
* `OnBeat`: a PINGREQ is given to the transport exactly where one is owed, and there at once.
* `origin`: an interval goes back to the CONNACK of its connection, and the PINGREQs in between
  are no later than its beginning.

`keep_alive_law` says what this means for the PINGREQs of a run and for its poll rounds.
-/

set_option autoImplicit false

namespace WeatherStation.Proofs.Mqtt

open WeatherStation.Mqtt

/-! ### The packet -/

/-- The bytes of a PINGREQ. -/
def ping : List UInt8 := Packet.pingreq.encode

/-- A PINGREQ always fits the outbound buffer, so one that is due is written. -/
theorem encodeWithin_pingreq : Packet.pingreq.encodeWithin outboundCapacity = some ping := by
  have hbytes : Packet.pingreq.encode = [(0xC0 : UInt8), 0] := by
    rw [Packet.encode, RemainingLength.encode]
    rfl
  refine encodeWithin_of_le (Option.some_ne_none (0 : UInt16)).symm ?_
  rw [hbytes]
  exact (by decide : 2 ≤ 1024)

/-- A packet of another kind begins with another byte. -/
theorem encode_ne_ping {packet : Packet} (h : Encoding.header packet ≠ 0xC0) :
    packet.encode ≠ ping := fun heq => h (List.cons.inj heq).1

/-- No publish is one. -/
theorem encode_request_ne_ping (request : Request) : request.packet.encode ≠ ping := by
  refine encode_ne_ping ?_
  rw [Request.packet, Encoding.header, Encoding.deliveryQoS]
  dsimp only
  cases request.retain <;> decide

/-- The packet is a PINGREQ or not, as the errand says. -/
def Suits (packet : Packet) : Errand → Prop
  | .ping => packet = .pingreq
  | _ => packet.encode ≠ ping

/-- A PINGREQ can always be written. -/
theorem Suits.encodeWithin_ne_none {packet : Packet} (h : Suits packet .ping) :
    packet.encodeWithin outboundCapacity ≠ none := by
  obtain rfl : packet = .pingreq := h
  simp [encodeWithin_pingreq]

/-! ### Intervals -/

/-- Whether an interval begins with this: the broker lets the session in, or a PINGREQ is given to
the transport. -/
def rearms : Happening → Bool
  | .ended .brokerConnected => true
  | .asked (.write bytes) => bytes == ping
  | _ => false

/-- When the present interval began, if there is one on the present connection. -/
def intervalStart : List Entry → Option Micros
  | [] => none
  | e :: past =>
    if rearms e.what then some e.time
    else if cuts e.what then none
    else intervalStart past

/-- The time of a PINGREQ that is owed: a poll round has just begun, no report that the network is
gone has come, and the interval is over. -/
def pingOwed (interval : Micros) : List Entry → Option Micros
  | ⟨time, .began .poll⟩ :: before =>
    if noticed before = false ∧ (intervalStart before).any (· + interval ≤ time) then some time
    else none
  | _ => none

/-- Two things begin an interval, and no others. -/
theorem rearms_eq_false {what : Happening} (hconnected : what ≠ .ended .brokerConnected)
    (hping : what ≠ .asked (.write ping)) : rearms what = false := by
  rw [rearms.eq_def]
  split
  · exact absurd rfl hconnected
  · rename_i bytes
    exact beq_eq_false_iff_ne.mpr fun hbytes => hping (by rw [hbytes])
  · rfl

/-- An interval goes on behind what neither begins another one nor cuts the connection. -/
theorem intervalStart_cons {e : Entry} {past : List Entry} {start : Micros}
    (hrearms : rearms e.what = false) :
    intervalStart (e :: past) = some start ↔
      cuts e.what = false ∧ intervalStart past = some start := by
  rw [intervalStart, hrearms]
  cases cuts e.what <;> simp

/-- Whatever begins no interval and ends no connection leaves the present one as it is. -/
theorem intervalStart_append {noted : List Entry} (past : List Entry)
    (h : ∀ e ∈ noted, rearms e.what = false ∧ cuts e.what = false) :
    intervalStart (noted ++ past) = intervalStart past := by
  induction noted with
  | nil => rfl
  | cons e noted ih =>
    obtain ⟨⟨hrearms, hcuts⟩, hnoted⟩ := List.forall_mem_cons.mp h
    rw [List.cons_append, intervalStart, hrearms, hcuts]
    exact ih hnoted

section
variable {interval time : Micros} {past before : List Entry}

/-- A poll round has to write a PINGREQ if there is no report of a lost network and the interval is
over as it begins. -/
theorem pingOwed_began_eq_some_iff :
    pingOwed interval (⟨time, .began .poll⟩ :: before) = some time ↔
      noticed before = false ∧
        ∃ start, intervalStart before = some start ∧ start + interval ≤ time := by
  rw [pingOwed, Option.ite_none_right_eq_some, Option.any_eq_true_iff_get]
  cases intervalStart before <;> simp

/-- It has to write none if the interval is not over, or if it has a DISCONNECT to write. -/
theorem pingOwed_began_eq_none_iff :
    pingOwed interval (⟨time, .began .poll⟩ :: before) = none ↔
      (noticed before = false →
        ∀ start, intervalStart before = some start → time < start + interval) := by
  rw [pingOwed]
  cases intervalStart before <;> simp

/-- A PINGREQ is owed at the very beginning of a poll round. -/
theorem began_of_pingOwed (h : pingOwed interval past = some time) :
    ∃ before, past = ⟨time, .began .poll⟩ :: before ∧ noticed before = false ∧
      ∃ start, intervalStart before = some start ∧ start + interval ≤ time := by
  rw [pingOwed.eq_def] at h
  split at h
  · rename_i begun before
    obtain rfl : begun = time := by
      split at h
      · exact Option.some.inj h
      · cases h
    exact ⟨before, rfl, pingOwed_began_eq_some_iff.mp h⟩
  · cases h

/-- A PINGREQ is owed right behind the beginning of a poll round and nowhere else. -/
theorem pingOwed_cons_of_ne {e : Entry} (h : e.what ≠ .began .poll) :
    pingOwed interval (e :: past) = none := by
  refine Option.eq_none_iff_forall_ne_some.mpr fun time howed => ?_
  obtain ⟨before, hjournal, -⟩ := began_of_pingOwed howed
  exact h (congrArg Entry.what (List.cons.inj hjournal).1)

end

/-! ### Journals -/

/-- A PINGREQ is given to the transport exactly where one is owed, and with an open session. A poll
round begins on a connection on which the broker has let the session in. -/
def OnBeat (config : SessionConfig) : List Entry → Prop
  | [] => True
  | e :: past =>
    (∀ time, pingOwed config.pingInterval past = some time ↔ e = ⟨time, .asked (.write ping)⟩) ∧
    (e.what = .asked (.write ping) → (after config.policy (events past)).state = .connected) ∧
    (e.what = .began .poll → ∃ start, intervalStart past = some start)

section
variable {config : SessionConfig} {past : List Entry}

/-- Most entries have nothing to do with it. -/
theorem onBeat_cons {e : Entry} (howed : pingOwed config.pingInterval past = none)
    (hping : e.what ≠ .asked (.write ping)) (hpoll : e.what ≠ .began .poll) :
    OnBeat config (e :: past) := by
  refine ⟨fun time => ?_, fun hwhat => absurd hwhat hping, fun hwhat => absurd hwhat hpoll⟩
  rw [howed]
  exact iff_of_false nofun fun he => hping (congrArg Entry.what he)

/-- There is a CONNACK on the present connection, no later than `start`. No PINGREQ since then is
later than `start` either. -/
def GoesBack (past : List Entry) (start : Micros) : Prop :=
  ∃ since begun before, past = since ++ ⟨begun, .ended .brokerConnected⟩ :: before ∧
    begun ≤ start ∧
    ∀ e ∈ since, cuts e.what = false ∧ e.what ≠ .ended .brokerConnected ∧
      (e.what = .asked (.write ping) → e.time ≤ start)

/-- What follows belongs to the same connection, if it ends none. -/
theorem GoesBack.cons {e : Entry} {earlier start : Micros} (h : GoesBack past earlier)
    (hlater : earlier ≤ start) (hcuts : cuts e.what = false)
    (hconnected : e.what ≠ .ended .brokerConnected)
    (hping : e.what = .asked (.write ping) → e.time ≤ start) : GoesBack (e :: past) start := by
  obtain ⟨since, begun, before, rfl, hbegun, hsince⟩ := h
  refine ⟨e :: since, begun, before, rfl, Nat.le_trans hbegun hlater,
    List.forall_mem_cons.mpr ⟨⟨hcuts, hconnected, hping⟩, ?_⟩⟩
  intro other hother
  obtain ⟨hkept, hno, hbound⟩ := hsince other hother
  exact ⟨hkept, hno, fun hwhat => Nat.le_trans (hbound hwhat) hlater⟩

/-- Every interval goes back to the CONNACK of its connection. -/
theorem origin (h : Always (OnBeat config) past) {start : Micros}
    (hstart : intervalStart past = some start) : GoesBack past start := by
  -- Back through the journal: a PINGREQ leads to the interval that it ended.
  induction past generalizing start with
  | nil => cases hstart
  | cons e past ih =>
    obtain ⟨⟨howed, -, -⟩, hpast⟩ := h
    obtain ⟨time, what⟩ := e
    by_cases hconnected : what = .ended .brokerConnected
    · subst hconnected
      obtain rfl : time = start := Option.some.inj hstart
      exact ⟨[], time, past, rfl, Nat.le_refl time, nofun⟩
    by_cases hping : what = .asked (.write ping)
    · subst hping
      have hrearms : rearms (.asked (.write ping)) = true := beq_self_eq_true ping
      rw [intervalStart, if_pos hrearms] at hstart
      obtain rfl : time = start := Option.some.inj hstart
      obtain ⟨began, rfl, -, earlier, hearlier, hover⟩ := began_of_pingOwed ((howed time).mpr rfl)
      have hlater : earlier ≤ time := Nat.le_trans (Nat.le_add_right _ _) hover
      exact (ih hpast hearlier).cons hlater rfl hconnected fun _ => Nat.le_refl time
    · obtain ⟨hcuts, hsame⟩ := (intervalStart_cons (rearms_eq_false hconnected hping)).mp hstart
      exact (ih hpast hsame).cons (Nat.le_refl start) hcuts hconnected (absurd · hping)

end

/-! ### The session -/

/-- On an accepted connection the session knows when its interval is over. -/
def Due (interval : Micros) (s : Session) : Prop :=
  s.state = .subscribe ∨ s.state = .connected →
    ∃ start, intervalStart s.exchange.journal = some start ∧
      s.nextPing = some (start + interval)

/-- What the session knows at a point. The time for the next interval is set just before that
interval begins, and it does not matter any more once the connection is lost. -/
def Armed (interval now : Micros) (s : Session) : Point → Prop
  | .sending _ .ping _ => s.nextPing = some (now + interval)
  | .sending _ _ otherwise => Due interval s ∧ Armed interval now s otherwise
  | .losing _ => True
  | .ending .linkLost => True
  | .ending .brokerConnected => s.nextPing = some (now + interval)
  | _ => Due interval s

/-- Whether a PINGREQ is owed at a point, which is so only where one is about to be sent. -/
def Owing (interval now : Micros) (s : Session) : Point → Prop
  | .running .poll => ∃ before, s.exchange.journal = ⟨now, .began .poll⟩ :: before
  | .sending _ .ping _ => pingOwed interval s.exchange.journal = some now
  | .sending _ _ otherwise =>
    pingOwed interval s.exchange.journal = none ∧ Owing interval now s otherwise
  | _ => pingOwed interval s.exchange.journal = none

/-- At a point where the session sends a packet it is a PINGREQ or not, as the errand says. -/
def Addressed : Point → Prop
  | .sending packet errand otherwise => Suits packet errand ∧ Addressed otherwise
  | _ => True

section
variable {interval now : Micros} {p q : Point} {s t : Session}

/-- Off the connection nothing has to be known. -/
theorem due_of_state {state : ConnectionState} (hstate : s.state = state)
    (hsubscribe : state ≠ .subscribe) (hconnected : state ≠ .connected) : Due interval s := by
  rintro (h | h)
  · exact absurd (hstate.symm.trans h) hsubscribe
  · exact absurd (hstate.symm.trans h) hconnected

/-- What neither begins an interval nor cuts the connection leaves the session as it is. -/
theorem Due.keep (h : Due interval s) (noted : List Entry)
    (hjournal : t.exchange.journal = noted ++ s.exchange.journal)
    (hnoted : ∀ e ∈ noted, rearms e.what = false ∧ cuts e.what = false)
    (hstate : t.state = s.state) (hping : t.nextPing = s.nextPing) : Due interval t := by
  rw [Due, hstate, hping, hjournal, intervalStart_append _ hnoted]
  exact h

/-- Only what is asked as a PINGREQ is one. -/
theorem rearms_send {packet : Packet} {errand : Errand} (hsuits : Suits packet errand)
    (herrand : errand ≠ .ping) : rearms (.asked (.write packet.encode)) = false := by
  refine beq_eq_false_iff_ne.mpr ?_
  cases errand with
  | ping => exact absurd rfl herrand
  | _ => exact hsuits

/-- The session sets out to send a PINGREQ with the errand of one and all other packets with
another, so a write is known by its errand. -/
theorem Move.addressed (move : Move now p s q t) (h : Addressed p) : Addressed q := by
  cases move with
  | pollPing hpending hping hdue => exact ⟨rfl, trivial⟩
  | sendNot hnone => exact h.2
  | requested hphase hrequest => exact ⟨encode_request_ne_ping _, trivial⟩
  | _ => first
    | trivial
    | exact ⟨encode_ne_ping (by simp [Encoding.header]), trivial⟩

/-- The end of an action. An event that leads to an accepted connection came on one, but for the
CONNACK. -/
theorem due_finish {w : Wire} {event : Event} (hexpected : Expected w s.state event)
    (h : Armed interval now s (.ending event)) : Due interval (s.finish now event) := by
  obtain ⟨config, ⟨policy, state, previous, failures⟩, inbound, broker, nextPing, subscribeId,
    inFlight, phase, exchange⟩ := s
  cases state <;> cases event <;> first
    | exact hexpected.elim
    | exact due_of_state rfl ConnectionState.noConfusion ConnectionState.noConfusion
    | exact fun _ => h (.inl rfl)
    | exact fun _ => h (.inr rfl)
    | skip
  -- The CONNACK, with which an interval begins.
  · exact fun _ => ⟨now, rfl, h⟩
  -- A failure to connect leads on to the broker or back to its address.
  · by_cases hlimit : policy.maxFailures ≤ countUp failures
    · have hstate : (transition policy .connectBroker failures .connectFailed).state =
          .resolveBroker := by rw [transition, if_pos hlimit]
      exact due_of_state hstate ConnectionState.noConfusion ConnectionState.noConfusion
    · have hstate : (transition policy .connectBroker failures .connectFailed).state =
          .connectBroker := by rw [transition, if_neg hlimit]
      exact due_of_state hstate ConnectionState.noConfusion ConnectionState.noConfusion

/-- Every move keeps it. -/
theorem Move.armed (move : Move now p s q t) (hinterval : s.config.pingInterval = interval)
    (hcontrolled : Controlled p s) (haddressed : Addressed p) (h : Armed interval now s p) :
    Armed interval now t q := by
  obtain ⟨-, hstands⟩ := hcontrolled
  cases move with
  | connectDial hremote =>
    exact due_of_state (ready_cases hstands).1 ConnectionState.noConfusion
      ConnectionState.noConfusion
  | teardown =>
    exact due_of_state (ready_cases hstands).1 ConnectionState.noConfusion
      ConnectionState.noConfusion
  | backoff => exact (ready_cases hstands).elim
  | loseConnack =>
    exact due_of_state hstands.2 ConnectionState.noConfusion ConnectionState.noConfusion
  | closedDown hphase =>
    rw [Stands, StandsWaiting, hphase] at hstands
    exact due_of_state hstands.2 ConnectionState.noConfusion ConnectionState.noConfusion
  -- An interval ends, or the first one begins.
  | pollPing hpending hping hdue => exact congrArg (fun i => some (now + i)) hinterval
  | grantConnack hreply hverdict => exact congrArg (fun i => some (now + i)) hinterval
  | @send _ packet errand _ bytes hfits =>
    obtain rfl := encodeWithin_eq hfits
    by_cases herrand : errand = .ping
    · subst herrand
      obtain rfl : packet = .pingreq := haddressed.1
      exact fun _ => ⟨now, if_pos (beq_self_eq_true ping), h⟩
    · have hrearms := rearms_send haddressed.1 herrand
      have hdue : Due interval s := by
        cases errand with
        | ping => exact absurd rfl herrand
        | _ => exact h.1
      exact hdue.keep [_] rfl (by simp [hrearms, cuts]) rfl rfl
  | @sendNot _ packet errand _ hnone =>
    cases errand with
    | ping => exact absurd hnone haddressed.1.encodeWithin_ne_none
    | _ => exact h.2
  | finish => exact due_finish hstands h
  | @received _ _ _ bytes hphase hbytes =>
    have hcuts : cuts (.answered (.read s.inbound.spare) (.received (some bytes))) = false := by
      cases bytes with
      | nil => exact absurd rfl hbytes
      | cons byte bytes => rfl
    exact Due.keep h [_] rfl (by simp [rearms, hcuts]) rfl rfl
  | apply hframe hpacket =>
    obtain ⟨packet, hjournal, -⟩ := interpret_eq hpacket
    exact Due.keep h [_, _] hjournal (by simp [rearms, cuts]) rfl rfl
  -- All others lose the connection, or what they note leaves the interval alone.
  | _ => first
    | exact h
    | exact True.intro
    | exact ⟨h, h⟩
    | exact ⟨h, True.intro⟩

/-- Every move keeps it. A poll round pays what is owed. -/
theorem Move.owing (move : Move now p s q t) (hcontrolled : Controlled p s) (hkept : Kept s p)
    (haddressed : Addressed p) (harmed : Armed interval now s p) (h : Owing interval now s p) :
    Owing interval now t q := by
  obtain ⟨-, hstands⟩ := hcontrolled
  cases move with
  | @begin _ action hphase =>
    cases action with
    | poll => exact ⟨_, rfl⟩
    | _ => rfl
  | pollFarewell hpending =>
    obtain ⟨before, hjournal⟩ := h
    have hnoticed : noticed s.exchange.journal = true := hkept.symm.trans hpending
    have hnone : pingOwed interval s.exchange.journal = none := by
      rw [hjournal] at hnoticed ⊢
      exact pingOwed_began_eq_none_iff.mpr fun hquiet => absurd (hnoticed.symm.trans hquiet) nofun
    exact ⟨hnone, hnone⟩
  | @pollPing _ due hpending hping hdue =>
    obtain ⟨before, hjournal⟩ := h
    have hquiet : noticed s.exchange.journal = false := hkept.symm.trans hpending
    obtain ⟨start, hstart, hnext⟩ := harmed (.inr (ready_cases hstands).1)
    obtain rfl : due = start + interval := Option.some.inj (hping.symm.trans hnext)
    show pingOwed interval s.exchange.journal = some now
    rw [hjournal] at hquiet hstart ⊢
    exact pingOwed_began_eq_some_iff.mpr ⟨hquiet, start, hstart, hdue⟩
  | pollRead hpending hearly =>
    obtain ⟨before, hjournal⟩ := h
    obtain ⟨start, hstart, hnext⟩ := harmed (.inr (ready_cases hstands).1)
    show pingOwed interval s.exchange.journal = none
    rw [hjournal] at hstart ⊢
    refine pingOwed_began_eq_none_iff.mpr fun _ start' hstart' => ?_
    obtain rfl := Option.some.inj (hstart.symm.trans hstart')
    exact hearly _ hnext
  | @sendNot _ packet errand _ hnone =>
    cases errand with
    | ping => exact absurd hnone haddressed.1.encodeWithin_ne_none
    | _ => exact h.2
  | apply hframe hpacket =>
    obtain ⟨packet, hjournal, -⟩ := interpret_eq hpacket
    show pingOwed interval _ = none
    rw [hjournal]
    rfl
  -- All others note what is no beginning of a poll round, or nothing.
  | _ => first
    | exact h
    | rfl
    | exact ⟨h, h⟩
    | exact ⟨rfl, rfl⟩

/-- Every move keeps it. A PINGREQ is given to the transport where one is owed. -/
theorem Move.beats {config : SessionConfig} (move : Move now p s q t)
    (hcontrolled : Controlled p s) (hrecorded : Recorded config.policy s)
    (haddressed : Addressed p) (harmed : Armed config.pingInterval now s p)
    (howing : Owing config.pingInterval now s p)
    (h : Always (OnBeat config) s.exchange.journal) :
    Always (OnBeat config) t.exchange.journal := by
  obtain ⟨-, hstands⟩ := hcontrolled
  cases move with
  | @begin _ action hphase =>
    cases action with
    | poll =>
      rw [Stands, StandsWaiting, hphase] at hstands
      obtain ⟨start, hstart, -⟩ := harmed (.inr (ready_cases hstands).1)
      have howed : pingOwed config.pingInterval s.exchange.journal = none := howing
      exact ⟨⟨by simp [howed], by simp, fun _ => ⟨start, hstart⟩⟩, h⟩
    | _ => exact ⟨onBeat_cons howing (by simp) (by simp), h⟩
  | @send _ packet errand _ bytes hfits =>
    obtain rfl := encodeWithin_eq hfits
    cases errand with
    | ping =>
      obtain rfl : packet = .pingreq := haddressed.1
      have howed : pingOwed config.pingInterval s.exchange.journal = some now := howing
      refine ⟨⟨fun time => ?_, fun _ => ?_, by simp⟩, h⟩
      · rw [howed]
        exact ⟨fun htime => by rw [Option.some.inj htime]; rfl,
          fun he => congrArg (fun e => some e.time) he⟩
      · rw [← hrecorded.1]
        exact hstands.2.1
    | _ =>
      refine ⟨onBeat_cons howing.1 (fun heq => haddressed.1 ?_) (by simp), h⟩
      exact Call.write.inj (Happening.asked.inj heq)
  | apply hframe hpacket =>
    obtain ⟨packet, hjournal, -⟩ := interpret_eq hpacket
    rw [hjournal]
    exact ⟨onBeat_cons rfl (by simp) (by simp), onBeat_cons howing (by simp) (by simp), h⟩
  -- All others note no PINGREQ.
  | _ => first
    | exact h
    | exact ⟨onBeat_cons howing (by simp) (by simp), h⟩
    | exact ⟨onBeat_cons rfl (by simp) (by simp), onBeat_cons howing (by simp) (by simp), h⟩

end

/-! ### Every run -/

/-- What is true of the session at a point and a time. -/
structure Paced (config : SessionConfig) (now : Micros) (p : Point) (s : Session) : Prop where
  config_eq : s.config = config
  controlled : Controlled p s
  recorded : Recorded config.policy s
  kept : Kept s p
  addressed : Addressed p
  armed : Armed config.pingInterval now s p
  owing : Owing config.pingInterval now s p
  beats : Always (OnBeat config) s.exchange.journal

section
variable {config : SessionConfig} {now : Micros} {p q : Point} {s t : Session}

/-- Every move keeps it, by the step lemma of each of its parts. -/
theorem Move.paced (move : Move now p s q t) (h : Paced config now p s) : Paced config now q t where
  config_eq := move.config.trans h.config_eq
  controlled := move.controlled h.controlled
  recorded := move.recorded h.controlled h.recorded
  kept := move.kept h.kept
  addressed := move.addressed h.addressed
  armed := move.armed (congrArg SessionConfig.pingInterval h.config_eq) h.controlled h.addressed
    h.armed
  owing := move.owing h.controlled h.kept h.addressed h.armed h.owing
  beats := move.beats h.controlled h.recorded h.addressed h.armed h.owing h.beats

/-- At the start there is no connection and nothing is owed. -/
theorem paced_start (config : SessionConfig) (now : Micros) :
    Paced config now .waiting ((Session.new config {}).start now) where
  config_eq := rfl
  controlled := controlled_start config now
  recorded := recorded_start config now
  kept := kept_start config now
  addressed := trivial
  armed := due_of_state rfl ConnectionState.noConfusion ConnectionState.noConfusion
  owing := rfl
  beats := ⟨onBeat_cons rfl nofun nofun, trivial⟩

/-- The other tasks begin no poll round and send no PINGREQ. -/
theorem Paced.aside {exchange : Exchange} (haside : Aside s.exchange exchange)
    (h : Paced config now .waiting s) : Paced config now .waiting { s with exchange } where
  config_eq := h.config_eq
  controlled := h.controlled.aside haside
  recorded := h.recorded.aside haside
  kept := h.kept.aside haside
  addressed := trivial
  armed := by
    refine haside.keeps (P := fun past => s.state = .subscribe ∨ s.state = .connected →
      ∃ start, intervalStart past = some start ∧
        s.nextPing = some (start + config.pingInterval)) ?_ h.armed
    rintro ⟨time, what⟩ past hother hpast
    cases what <;> first
      | exact hpast
      | cases hother
  owing := haside.keeps (P := fun past => pingOwed config.pingInterval past = none)
    (fun _ _ hother _ => pingOwed_cons_of_ne (ne_of_other hother rfl)) h.owing
  beats := by
    refine (haside.keeps (P := fun past => pingOwed config.pingInterval past = none ∧
      Always (OnBeat config) past) ?_ ⟨h.owing, h.beats⟩).2
    -- None of their entries is a PINGREQ or the beginning of a round.
    rintro e past hother ⟨howed, hbeats⟩
    have hping : e.what ≠ .asked (.write ping) := ne_of_other hother rfl
    have hpoll : e.what ≠ .began .poll := ne_of_other hother rfl
    exact ⟨pingOwed_cons_of_ne hpoll, onBeat_cons howed hping hpoll, hbeats⟩

/-- A session that gives way has not moved. -/
theorem Paced.yield (h : Paced config now .waiting s) : Paced config now .waiting s.yield := by
  have hexchange := yield_exchange s
  have hframe := yield_frame s
  refine ⟨hframe.1.trans h.config_eq, h.controlled.yield, h.recorded.yield, h.kept.yield, trivial,
    ?_, ?_, ?_⟩
  · show Due _ _
    rw [Due, hframe.2, hexchange, Session.yield]
    have hdue : Due config.pingInterval s := h.armed
    split <;> exact hdue
  · show pingOwed _ _ = none
    rw [hexchange]
    exact h.owing
  · rw [hexchange]
    exact h.beats

/-- Between two turns it does not matter what time it is. -/
theorem Paced.step {s : System} (h : Paced config s.now .waiting s.session) (turn : Turn) :
    Paced config (s.step turn).now .waiting (s.step turn).session :=
  have hstep : Paced config s.now .waiting (s.step turn).session :=
    s.step_keeps Move.paced Paced.aside Paced.yield turn h
  { hstep with armed := hstep.armed, owing := hstep.owing }

/-- By induction on the turns. -/
theorem Paced.run (turns : List Turn) : ∀ {s : System}, Paced config s.now .waiting s.session →
    Paced config (s.run turns).now .waiting (s.run turns).session := by
  induction turns with
  | nil => exact fun h => h
  | cons turn turns ih => exact fun h => ih (h.step turn)

end

section
variable {config : SessionConfig} {past : List Entry}

/-- The PINGREQs of a poll round all stand right behind its beginning, so there is no more than
one. -/
theorem ne_ping_of_same_round {round : List Entry} {time : Micros}
    (h : Always (OnBeat config) (round ++ ⟨time, .asked (.write ping)⟩ :: past))
    (hround : ∀ e ∈ round, ∀ action, e.what ≠ .began action) :
    ∀ e ∈ round, e.what ≠ .asked (.write ping) := by
  rintro ⟨again, what⟩ he rfl
  obtain ⟨later, earlier, rfl⟩ := List.append_of_mem he
  rw [List.append_assoc, List.cons_append] at h
  obtain ⟨howed, -, -⟩ := h.of_append
  obtain ⟨before, hbegan, -⟩ := began_of_pingOwed ((howed again).mpr rfl)
  cases earlier with
  | nil => cases hbegan
  | cons e earlier =>
    obtain rfl : e = ⟨again, .began .poll⟩ := (List.cons.inj hbegan).1
    exact hround ⟨again, .began .poll⟩ (by simp) .poll rfl

end

/-- In every run, whatever the traffic and however long each write takes:

1. A PINGREQ is given to the transport right at the beginning of a poll round, at the same time,
   with an open session and with no report that the network is gone. On its connection the broker
   let the session in at least an interval earlier, and so did every earlier PINGREQ begin.
2. A poll round that begins when the interval is over, and with no report, gives a PINGREQ to the
   transport before anything else, at the same time. No other one follows before the next action
   begins.
3. On an accepted connection the session's own time is the end of the interval. -/
theorem keep_alive_law (config : SessionConfig) (ackTimeout now : Micros) (turns : List Turn) :
    let s := (System.boot config ackTimeout now).run turns
    let interval := config.pingInterval
    (∀ later time past, s.journal = later ++ ⟨time, .asked (.write ping)⟩ :: past →
      ∃ since begun before,
        past = ⟨time, .began .poll⟩ :: since ++ ⟨begun, .ended .brokerConnected⟩ :: before ∧
        begun + interval ≤ time ∧
        (∀ e ∈ since, cuts e.what = false ∧ e.what ≠ .ended .brokerConnected ∧
          (e.what = .asked (.write ping) → e.time + interval ≤ time)) ∧
        (after config.policy (events past)).state = .connected ∧ noticed past = false) ∧
    (∀ later time before, s.journal = later ++ ⟨time, .began .poll⟩ :: before →
      ∃ start, intervalStart before = some start ∧
        (noticed before = false → start + interval ≤ time →
          ∃ rest, later = rest ++ [⟨time, .asked (.write ping)⟩] ∧
            ∀ others round, rest = others ++ round →
              (∀ e ∈ round, ∀ action, e.what ≠ .began action) →
              ∀ e ∈ round, e.what ≠ .asked (.write ping))) ∧
    (s.session.state = .subscribe ∨ s.session.state = .connected →
      ∃ start, intervalStart s.journal = some start ∧
        s.session.nextPing = some (start + interval)) := by
  intro s interval
  have hpaced : Paced config s.now .waiting s.session := Paced.run turns (paced_start config now)
  have hbeats : Always (OnBeat config) s.journal := hpaced.beats
  refine ⟨fun later time past hjournal => ?_, fun later time before hjournal => ?_, hpaced.armed⟩
  · rw [hjournal] at hbeats
    obtain ⟨⟨howed, hstate, -⟩, hpast⟩ := hbeats.drop
    obtain ⟨began, rfl, hquiet, start, hstart, hover⟩ := began_of_pingOwed ((howed time).mpr rfl)
    obtain ⟨since, begun, before, rfl, hbegun, hsince⟩ := origin hpast.2 hstart
    refine ⟨since, begun, before, rfl, Nat.le_trans (Nat.add_le_add_right hbegun _) hover,
      fun e he => ?_, hstate rfl, hquiet⟩
    obtain ⟨hcuts, hother, hbound⟩ := hsince e he
    exact ⟨hcuts, hother,
      fun hping => Nat.le_trans (Nat.add_le_add_right (hbound hping) _) hover⟩
  · rw [hjournal] at hbeats
    obtain ⟨-, -, hinterval⟩ := hbeats.of_append
    obtain ⟨start, hstart⟩ := hinterval rfl
    refine ⟨start, hstart, fun hquiet hover => ?_⟩
    have howed : pingOwed interval (⟨time, .began .poll⟩ :: before) = some time :=
      pingOwed_began_eq_some_iff.mpr ⟨hquiet, start, hstart, hover⟩
    -- No turn ends with a PINGREQ owed, so something follows.
    obtain rfl | ⟨rest, e, rfl⟩ := List.eq_nil_or_concat later
    · have hnone : pingOwed interval s.journal = none := hpaced.owing
      rw [hjournal, List.nil_append, howed] at hnone
      cases hnone
    · rw [List.concat_eq_append] at hbeats ⊢
      rw [List.append_assoc, List.singleton_append] at hbeats
      obtain ⟨hping, -, -⟩ := hbeats.of_append
      obtain rfl := (hping time).mp howed
      refine ⟨rest, rfl, ?_⟩
      rintro others round rfl hround
      rw [List.append_assoc] at hbeats
      exact ne_ping_of_same_round hbeats.drop hround

/-- A poll round that begins ten seconds late. The next interval is counted from there. -/
example :
    let s := (System.boot plainConfig (seconds 4) 0).run
      (opening ++ [.pass (seconds 70), .yield, .reply .elapsed, .begin])
    s.session.phase = .writing ping .ping ∧ s.session.nextPing = some (seconds 130) := by
  decide +kernel

end WeatherStation.Proofs.Mqtt
