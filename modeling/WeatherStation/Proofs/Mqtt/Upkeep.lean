import WeatherStation.Proofs.Mqtt.Control
import WeatherStation.Proofs.Mqtt.Escalation

/-!
# `WeatherStation.Proofs.Mqtt.Upkeep`: what the session keeps from one action to the next

The connection machine, the next action and the fields of the session are changed in different
places, on success and on every kind of failure. Between two actions they belong together, so that
nothing of one connection is left in the next one.

* `Recorded`: the machine is where the events of the journal have led it, and each of these
  events is `Listed`: the table of transitions names it for the state in which it came. An event
  that is not listed would only run the action of the state again (`unlisted_reenters`).
* `Tidy`, `Furnished`: the broker is known where the session connects, a PINGREQ is due where a
  session is being opened or is open, and a publish is in flight only where one is open. A machine
  that has left a connection is not tidy until the teardown is done, which is the only exception.
* `Emptied`: a dial begins with an empty reader.

`upkeep_law` puts these together with `controlled_run`.
-/

set_option autoImplicit false

namespace WeatherStation.Proofs.Mqtt

open WeatherStation.Mqtt

/-! ### The table of transitions -/

/-- The next actions of a state. -/
def Scheduled : ConnectionState → Action → Prop
  | .resolveBroker, .resolve => True
  | .resolveBroker, .retry _ => True
  | .resolveBroker, .teardown => True
  | .connectBroker, .connect => True
  | .connectBroker, .retry _ => True
  | .subscribe, .subscribe => True
  | .connected, .poll => True
  | _, _ => False

/-- The events that the table of transitions names for a state. -/
def Listed : ConnectionState → Event → Prop
  | .disconnected, .started => True
  | .resolveBroker, .brokerResolved => True
  | .resolveBroker, .resolveFailed => True
  | .resolveBroker, .linkLost => True
  | .connectBroker, .brokerConnected => True
  | .connectBroker, .connectFailed => True
  | .connectBroker, .linkLost => True
  | .subscribe, .subscribed => True
  | .subscribe, .subscribeFailed => True
  | .subscribe, .linkLost => True
  | .connected, .pollIdle => True
  | .connected, .linkLost => True
  | _, _ => False

/-- Any other event leaves the state as it is and runs its action again. -/
theorem unlisted_reenters (policy : Policy) {state : ConnectionState} (failures : UInt8)
    {event : Event} (h : ¬Listed state event) :
    (transition policy state failures event).state = state ∧
      (transition policy state failures event).action = state.entryAction policy := by
  cases state <;> cases event <;> first
    | exact absurd trivial h
    | exact ⟨rfl, rfl⟩

/-- What `Controlled` knows of the next action is more than the table asks. -/
theorem scheduled_of_ready {w : Wire} {state : ConnectionState} {action : Action}
    (h : Ready w state action) : Scheduled state action := by
  cases state <;> cases action <;> first
    | exact h.elim
    | trivial

/-- What `Controlled` knows of an event is more than the table asks, too. -/
theorem listed_of_expected {w : Wire} {state : ConnectionState} {event : Event}
    (h : Expected w state event) : Listed state event := by
  cases state <;> cases event <;> first
    | exact h.elim
    | trivial

/-! ### The events of a run -/

/-- The events with which actions ended, newest first. -/
def events : List Entry → List Event
  | [] => []
  | ⟨_, .ended event⟩ :: past => event :: events past
  | _ :: past => events past

/-- An event that has just come is listed for the state in which it came. -/
def Tabled (policy : Policy) : List Entry → Prop
  | ⟨_, .ended event⟩ :: past => Listed (after policy (events past)).state event
  | _ => True

/-- The machine is where the events have led it. -/
def Recorded (policy : Policy) (s : Session) : Prop :=
  s.connection = after policy (events s.exchange.journal) ∧
    Always (Tabled policy) s.exchange.journal

section
variable {now : Micros} {p q : Point} {s t : Session}

/-- Every move keeps it. Only the end of an action moves the machine. -/
theorem Move.recorded {policy : Policy} (move : Move now p s q t) (hcontrolled : Controlled p s)
    (h : Recorded policy s) : Recorded policy t := by
  cases move with
  | @finish _ event =>
    obtain ⟨hconnection, htabled⟩ := h
    have hlisted : Listed s.connection.state event := listed_of_expected hcontrolled.2
    rw [hconnection] at hlisted
    refine ⟨?_, hlisted, htabled⟩
    show (s.connection.handle event).2 = ((after policy (events s.exchange.journal)).handle event).2
    rw [hconnection]
  | apply hframe hpacket =>
    obtain ⟨packet, hjournal, -⟩ := interpret_eq hpacket
    rw [Recorded, hjournal]
    exact ⟨h.1, trivial, trivial, h.2⟩
  -- All others note no end of an action.
  | _ => first
    | exact h
    | exact ⟨h.1, trivial, h.2⟩
    | exact ⟨h.1, trivial, trivial, h.2⟩

/-- The start is the only event so far, and it is listed for the first state. -/
theorem recorded_start (config : SessionConfig) (now : Micros) :
    Recorded config.policy ((Session.new config {}).start now) := ⟨rfl, trivial, trivial⟩

/-- The other tasks end no action. -/
theorem Recorded.aside {policy : Policy} {exchange : Exchange} (haside : Aside s.exchange exchange)
    (h : Recorded policy s) : Recorded policy { s with exchange } := by
  refine haside.keeps
    (P := fun past => s.connection = after policy (events past) ∧ Always (Tabled policy) past) ?_ h
  rintro ⟨time, what⟩ past hother ⟨hconnection, htabled⟩
  cases what <;> first
    | exact ⟨hconnection, trivial, htabled⟩
    | cases hother

/-- A session that gives way has ended no action. -/
theorem Recorded.yield {policy : Policy} (h : Recorded policy s) : Recorded policy s.yield := by
  rw [Session.yield]
  split <;> exact h

/-! ### The fields of the session -/

/-- The fields as the session has them in a state. What belongs to a connection is there only where
there is one. -/
def Tidy (s : Session) : ConnectionState → Prop
  | .disconnected => False
  | .resolveBroker => s.nextPing.isSome = false ∧ s.inFlight.isSome = false
  | .connectBroker =>
    s.broker.isSome = true ∧ s.nextPing.isSome = false ∧ s.inFlight.isSome = false
  | .subscribe => s.nextPing.isSome = true ∧ s.inFlight.isSome = false
  | .connected => s.nextPing.isSome = true

/-- The state may be named. -/
theorem Tidy.of_state {state : ConnectionState} (h : Tidy s s.state) (hstate : s.state = state) :
    Tidy s state := hstate ▸ h

/-- What is tidy in terms of the fields: the address of the broker, the next PINGREQ and the publish
in flight. -/
theorem Tidy.fields (h : Tidy s s.state) :
    (s.state = .connectBroker → s.broker.isSome = true) ∧
      (s.nextPing.isSome = true ↔ s.state = .subscribe ∨ s.state = .connected) ∧
      (s.inFlight.isSome = true → s.state = .connected) := by
  generalize s.state = state at h
  cases state with
  | disconnected => exact h.elim
  | resolveBroker => simp [h.1, h.2]
  | connectBroker => simp [h.1, h.2.1, h.2.2]
  | subscribe => simp [h.1, h.2]
  | connected => simpa [Tidy] using h

/-- A packet puts nothing in flight. -/
theorem Tidy.receive {state : ConnectionState} (h : Tidy s state) (received : Received)
    (reader : PacketReader) (exchange : Exchange) :
    Tidy { s with
      inbound := reader
      exchange
      inFlight := Session.inFlightAfter s.inFlight received } state := by
  have hflight : s.inFlight.isSome = false →
      (Session.inFlightAfter s.inFlight received).isSome = false := by
    intro hnone
    rw [Option.isSome_eq_false_iff, Option.isNone_iff_eq_none] at hnone
    rw [hnone]
    cases received <;> rfl
  cases state with
  | disconnected => exact h
  | resolveBroker => exact ⟨h.1, hflight h.2⟩
  | connectBroker => exact ⟨h.1, h.2.1, hflight h.2.2⟩
  | subscribe => exact ⟨h.1, hflight h.2⟩
  | connected => exact h

/-- What the fields hold at a point. Where an action ends with a success, they are a step ahead
of the machine. -/
def Furnished (s : Session) : Point → Prop
  | .waiting => s.phase = .idle .teardown ∨ s.phase = .closing .teardown ∨ Tidy s s.state
  | .running .teardown => True
  | .sending _ _ otherwise => Tidy s s.state ∧ Furnished s otherwise
  | .ending .brokerResolved => Tidy s .connectBroker
  | .ending .brokerConnected => Tidy s .subscribe
  | _ => Tidy s s.state

/-- The end of an action leaves the fields as the next state has them, or a teardown comes next. -/
theorem furnished_finish {w : Wire} {event : Event} (hexpected : Expected w s.state event)
    (h : Furnished s (.ending event)) : Furnished (s.finish now event) .waiting := by
  obtain ⟨config, ⟨policy, state, previous, failures⟩, inbound, broker, nextPing, subscribeId,
    inFlight, phase, exchange⟩ := s
  cases state <;> cases event <;> first
    | exact hexpected.elim
    | exact .inl rfl
    | exact .inr (.inr h)
    | skip
  case connectBroker.connectFailed =>
    obtain ⟨hbroker, hclosed⟩ := h
    right; right
    show Tidy _ (transition policy .connectBroker failures .connectFailed).state
    rw [transition]
    split
    · exact hclosed
    · exact ⟨hbroker, hclosed⟩
  case subscribe.subscribed => exact .inr (.inr h.1)
  case subscribe.subscribeFailed =>
    show Phase.idle (transition policy .subscribe failures .subscribeFailed).action =
        .idle .teardown ∨ _ ∨ Tidy _ (transition policy .subscribe failures .subscribeFailed).state
    rw [transition]
    split
    · exact .inl rfl
    · exact .inr (.inr h)

/-- Every move keeps it. The fields are written in few places: with the address that was found, with
the CONNACK, when a publish is taken up or a PINGREQ goes out, and in the teardown. -/
theorem Move.furnished (move : Move now p s q t) (hcontrolled : Controlled p s)
    (h : Furnished s p) : Furnished t q := by
  obtain ⟨-, hstands⟩ := hcontrolled
  -- A session that waits for a reply is tidy, unless it waits for the end of a teardown.
  have htidy : p = .waiting → s.phase ≠ .idle .teardown → s.phase ≠ .closing .teardown →
      Tidy s s.state := by
    rintro rfl hidle hclosing
    exact (h.resolve_left hidle).resolve_left hclosing
  cases move with
  | @begin _ action hphase =>
    cases action with
    | teardown => trivial
    | _ => exact htidy rfl (by simp [hphase]) (by simp [hphase])
  -- The fields that belong to the next state are set before the action ends.
  | resolveAtOnce haddress => exact ⟨rfl, Tidy.of_state h (ready_cases hstands).1⟩
  | resolved hphase =>
    rw [Stands, StandsWaiting, hphase] at hstands
    exact ⟨rfl, (htidy rfl (by simp [hphase]) (by simp [hphase])).of_state hstands.2⟩
  | grantConnack hreply hverdict => exact ⟨rfl, (Tidy.of_state h hstands.2).2.2⟩
  | @pollPing _ due hpending hping hdue =>
    have hconnected : s.state = .connected := (ready_cases hstands).1
    have hset : Tidy { s with nextPing := some (now + s.config.pingInterval) } s.state := by
      rw [hconnected]
      rfl
    exact ⟨hset, hset⟩
  | apply hframe hpacket => exact Tidy.receive h _ _ _
  | @writtenPublish _ bytes id hphase =>
    have hconnected : s.state = .connected := (stands_writing hstands hphase).2
    have hping : s.nextPing.isSome = true :=
      (htidy rfl (by simp [hphase]) (by simp [hphase])).of_state hconnected
    show Tidy _ s.state
    rw [hconnected]
    exact hping
  -- A teardown leaves nothing behind.
  | teardown => exact .inr (.inl rfl)
  | closedDown hphase =>
    rw [Stands, StandsWaiting, hphase] at hstands
    refine .inr (.inr ?_)
    show Tidy _ s.state
    rw [hstands.2]
    exact ⟨rfl, rfl⟩
  | dialed hphase =>
    have hwaits := htidy rfl (by simp [hphase]) (by simp [hphase])
    exact ⟨hwaits, hwaits⟩
  | requested hphase hrequest =>
    have hwaits := htidy rfl (by simp [hphase]) (by simp [hphase])
    exact ⟨hwaits, hwaits⟩
  | restedRetry hphase hdue =>
    exact .inr (.inr (htidy rfl (by simp [hphase]) (by simp [hphase])))
  | send hfits => exact .inr (.inr h.1)
  | sendNot hnone => exact h.2
  | finish => exact furnished_finish hstands h
  -- All others leave state and fields alone.
  | _ => first
    | exact h
    | exact .inr (.inr h)
    | exact ⟨h, h⟩
    | exact htidy rfl (by simp [*]) (by simp [*])

/-- A session that starts has no address, no PINGREQ and nothing in flight. -/
theorem furnished_start (config : SessionConfig) (now : Micros) :
    Furnished ((Session.new config {}).start now) .waiting := .inr (.inr ⟨rfl, rfl⟩)

/-- What the other tasks do does not reach the fields. -/
theorem Furnished.aside {exchange : Exchange} (h : Furnished s .waiting) :
    Furnished { s with exchange } .waiting := h

/-- A session that gives way has not touched its fields. -/
theorem Furnished.yield (h : Furnished s .waiting) : Furnished s.yield .waiting := by
  rw [Session.yield]
  split
  · rename_i purpose timer hphase
    exact .inr (.inr ((h.resolve_left (by simp [hphase])).resolve_left (by simp [hphase])))
  · rename_i timer why hphase
    exact .inr (.inr ((h.resolve_left (by simp [hphase])).resolve_left (by simp [hphase])))
  · exact h

/-! ### The reader -/

/-- The reader of a session that waits for a dial is empty. -/
def Emptied (s : Session) : Point → Prop
  | .waiting => ∀ remote, s.phase = .dialing remote → s.inbound.held = [] ∧ s.inbound.discard = 0
  | .sending _ _ otherwise => Emptied s otherwise
  | _ => True

/-- A dial comes only behind a clearing of the reader. -/
theorem Move.emptied (move : Move now p s q t) (h : Emptied s p) : Emptied t q := by
  cases move with
  | connectDial hremote => exact fun _ _ => ⟨rfl, rfl⟩
  | sendNot hnone => exact h
  | _ => first
    | trivial
    | exact fun _ hphase => Phase.noConfusion hphase

/-- A session that gives way has not touched its reader. -/
theorem Emptied.yield (h : Emptied s .waiting) : Emptied s.yield .waiting := by
  rw [Session.yield]
  split
  · exact fun _ hphase => Phase.noConfusion hphase
  · exact fun _ hphase => Phase.noConfusion hphase
  · exact h

end

/-! ### Every run -/

/-- What is true of the session at a point. -/
structure Kempt (policy : Policy) (p : Point) (s : Session) : Prop where
  controlled : Controlled p s
  recorded : Recorded policy s
  furnished : Furnished s p
  emptied : Emptied s p

/-- All of it in every run, by the step lemma of each part. -/
theorem kempt_run (config : SessionConfig) (ackTimeout now : Micros) (turns : List Turn) :
    Kempt config.policy .waiting ((System.boot config ackTimeout now).run turns).session :=
  System.invariant (P := Kempt config.policy)
    ⟨controlled_start config now, recorded_start config now, furnished_start config now, nofun⟩
    (fun move h => ⟨move.controlled h.controlled, move.recorded h.controlled h.recorded,
      move.furnished h.controlled h.furnished, move.emptied h.emptied⟩)
    (fun haside h => ⟨h.controlled.aside haside, h.recorded.aside haside, h.furnished.aside,
      h.emptied⟩)
    (fun h => ⟨h.controlled.yield, h.recorded.yield, h.furnished.yield, h.emptied.yield⟩) turns

/-- In every run:

1. Between two actions, the next one is one that belongs to the state. Unless it is a teardown,
   the broker's address is known in the state that connects, a PINGREQ is due exactly while a
   session is being opened or is open, and a publish is in flight only while it is open.
2. The machine is where the events of the journal have led it. Each of these events is one that
   the table lists for the state in which it came, so that the machine never falls back on the
   rule for all others, which would run the action of the state again.
3. Whenever the transport is asked for a connection, the reader is empty and has nothing to
   skip. -/
theorem upkeep_law (config : SessionConfig) (ackTimeout now : Micros) (turns : List Turn) :
    let s := ((System.boot config ackTimeout now).run turns).session
    (∀ action, s.phase = .idle action → Scheduled s.state action ∧
      (action ≠ .teardown →
        (s.state = .connectBroker → s.broker.isSome = true) ∧
        (s.nextPing.isSome = true ↔ s.state = .subscribe ∨ s.state = .connected) ∧
        (s.inFlight.isSome = true → s.state = .connected))) ∧
    (s.connection = after config.policy (events s.exchange.journal) ∧
      (∀ later time event past, s.exchange.journal = later ++ ⟨time, .ended event⟩ :: past →
        Listed (after config.policy (events past)).state event) ∧
      ∀ policy state failures event, ¬Listed state event →
        (transition policy state failures event).state = state ∧
          (transition policy state failures event).action = state.entryAction policy) ∧
    ∀ remote, s.call? = some (.dial remote) → s.inbound.held = [] ∧ s.inbound.discard = 0 := by
  intro s
  have h : Kempt config.policy .waiting s := kempt_run config ackTimeout now turns
  refine ⟨?_, ⟨h.recorded.1, ?_, ?_⟩, ?_⟩
  · -- A teardown is the one action before which the fields may be those of a lost connection.
    intro action hphase
    have hready := h.controlled.2
    rw [Stands, StandsWaiting, hphase] at hready
    refine ⟨scheduled_of_ready hready, fun hnext => ?_⟩
    have htidy : Tidy s s.state := by
      refine (h.furnished.resolve_left ?_).resolve_left (by simp [hphase])
      simpa [hphase] using hnext
    exact htidy.fields
  · intro later time event past hjournal
    have htabled := h.recorded.2
    rw [hjournal] at htabled
    exact htabled.of_append
  · exact fun policy state failures event => unlisted_reenters policy failures
  · intro remote hcall
    refine h.emptied remote ?_
    rw [Session.call?] at hcall
    cases hphase : s.phase <;> simp [hphase] at hcall
    rw [hcall]

end WeatherStation.Proofs.Mqtt
