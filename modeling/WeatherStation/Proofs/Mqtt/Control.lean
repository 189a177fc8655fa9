import WeatherStation.Proofs.Mqtt.Interpret
import WeatherStation.Proofs.Mqtt.System

/-!
# `WeatherStation.Proofs.Mqtt.Control`: the session and its connection

`wire` reads from the journal where the connection stands: down, up, broken, or busy with a
call. `Orderly` says that every entry of a journal was in place when it was made: bytes are
written and read only while the connection is up, a call that failed is followed by the close
of the connection, a dial comes only while the connection is down, and a wait ends with a reply
to the call that was asked.

`Stands` says what is true of a session at each point: which state the connection machine is
in, and where the wire is. Next actions are `Ready`, events are `Expected`: the combinations of
state, action and event that do not come up are left out there. `controlled_run` proves both
for every run. Its step lemma is `Move.controlled`, one case for each move.

`written_of_up` is what the order is needed for: once a packet has been given to the transport
and the same connection is up again, the packet was written without a failure.
-/

set_option autoImplicit false

namespace WeatherStation.Proofs.Mqtt

open WeatherStation.Mqtt

/-! ### The wire -/

/-- Where the connection to the broker stands. -/
inductive Wire where
  /-- There is none. -/
  | down
  /-- It is open. -/
  | up
  /-- A call on it has failed. -/
  | broken
  /-- The session waits for a call to end. -/
  | busy (call : Call)
  deriving DecidableEq, Repr

/-- Where the end of a wait leaves the connection. The calls that are not about a connection
come while there is none. -/
def outcome : Call → Reply → Wire
  | .dial _, .dialed true => .up
  | .dial _, _ => .broken
  | .write _, .written true => .up
  | .write _, _ => .broken
  | .read _, .received (some (_ :: _)) => .up
  | .read _, .received _ => .broken
  | .read _, _ => .up
  | .close, _ => .down
  | .resolve _, _ => .down
  | .sleep _, _ => .down

/-- The wire after one more happening. -/
def Wire.after (w : Wire) : Happening → Wire
  | .asked call => .busy call
  | .answered call reply => outcome call reply
  | _ => w

/-- The wire at the end of a journal. -/
def wire : List Entry → Wire
  | [] => .down
  | e :: past => (wire past).after e.what

/-- Whether something may happen next. -/
def Wire.Allows (w : Wire) : Happening → Prop
  | .asked (.resolve _) => w = .down
  | .asked (.sleep _) => w = .down
  | .asked (.dial _) => w = .down
  | .asked (.write _) => w = .up
  | .asked (.read _) => w = .up
  | .asked .close => w = .up ∨ w = .broken
  | .answered call _ => w = .busy call
  | .framed _ => w = .up
  | .applied _ => w = .up
  | .skipped _ => w = .up
  | .taken _ => w = .up
  | _ => True

/-- Every entry was allowed when it was made. -/
def Orderly : List Entry → Prop
  | [] => True
  | e :: past => (wire past).Allows e.what ∧ Orderly past

/-- What the other tasks note is always allowed and does not move the wire. -/
theorem orderly_aside {noted past : List Entry} (h : ∀ e ∈ noted, bySession e.what = false) :
    wire (noted ++ past) = wire past ∧ (Orderly past → Orderly (noted ++ past)) := by
  induction noted with
  | nil => exact ⟨rfl, id⟩
  | cons e noted ih =>
    obtain ⟨hwire, horderly⟩ := ih fun x hx => h x (List.mem_cons_of_mem e hx)
    have hother := h e List.mem_cons_self
    obtain ⟨time, what⟩ := e
    cases what <;> first
      | exact ⟨hwire, fun hpast => ⟨trivial, horderly hpast⟩⟩
      | cases hother

/-- An orderly journal was orderly at every earlier moment. -/
theorem Orderly.of_append {later past : List Entry} (h : Orderly (later ++ past)) :
    Orderly past := by
  induction later with
  | nil => exact h
  | cons e later ih => exact ih h.2

/-! ### What is written -/

/-- Whether this is the beginning of a new connection. -/
def dials : Happening → Bool
  | .asked (.dial _) => true
  | _ => false

/-- Nothing was or can be read on this connection again. -/
def Wire.Ashore : Wire → Prop
  | .down => True
  | .broken => True
  | .busy .close => True
  | .busy (.resolve _) => True
  | .busy (.sleep _) => True
  | _ => False

/-- A wire that is ashore stays so until the next dial. -/
theorem Wire.Ashore.after {w : Wire} (h : w.Ashore) {what : Happening} (hallows : w.Allows what)
    (hdials : dials what = false) : (w.after what).Ashore := by
  cases what with
  | asked call =>
    cases call with
    | dial remote => cases hdials
    | write bytes =>
      rw [show w = .up from hallows] at h
      exact h
    | read room =>
      rw [show w = .up from hallows] at h
      exact h
    | _ => trivial
  | answered call reply =>
    rw [show w = .busy call from hallows] at h
    cases call with
    | dial remote => exact h.elim
    | write bytes => exact h.elim
    | read room => exact h.elim
    | _ => trivial
  | _ => exact h

/-- Without a dial a wire that is ashore stays there, whatever comes. -/
theorem ashore_append {noted past : List Entry} (horderly : Orderly (noted ++ past))
    (hdials : ∀ e ∈ noted, dials e.what = false) (h : (wire past).Ashore) :
    (wire (noted ++ past)).Ashore := by
  induction noted with
  | nil => exact h
  | cons e noted ih =>
    have hrest := ih horderly.2 fun x hx => hdials x (List.mem_cons_of_mem e hx)
    exact hrest.after horderly.1 (hdials e List.mem_cons_self)

/-- After bytes were given to the transport and as long as nothing is dialed, the transport is
busy with them, or it has written them, or the connection is lost. -/
theorem written_or {later past : List Entry} {time : Micros} {bytes : List UInt8}
    (horderly : Orderly (later ++ ⟨time, .asked (.write bytes)⟩ :: past))
    (hdials : ∀ e ∈ later, dials e.what = false) :
    wire (later ++ ⟨time, .asked (.write bytes)⟩ :: past) = .busy (.write bytes) ∨
      (∃ e ∈ later, e.what = .answered (.write bytes) (.written true)) ∨
      (wire (later ++ ⟨time, .asked (.write bytes)⟩ :: past)).Ashore := by
  induction later with
  | nil => exact .inl rfl
  | cons e later ih =>
    rw [List.cons_append] at horderly ⊢
    obtain ⟨hallows, hrest⟩ := horderly
    have hdial := hdials e List.mem_cons_self
    rcases ih hrest fun x hx => hdials x (List.mem_cons_of_mem e hx) with hbusy | hdone | hashore
    · -- While the bytes are being written, only the end of the write is allowed.
      obtain ⟨time', what⟩ := e
      simp only [wire]
      rw [hbusy] at hallows ⊢
      cases what with
      | asked call =>
        cases call with
        | close => simp [Wire.Allows] at hallows
        | _ => cases hallows
      | answered call reply =>
        obtain rfl : .write bytes = call := Wire.busy.inj hallows
        by_cases hreply : reply = .written true
        · exact .inr (.inl ⟨_, List.mem_cons_self, by rw [hreply]⟩)
        · have hbroken : outcome (.write bytes) reply = .broken := by
            unfold outcome
            split <;> first | rfl | (exfalso; simp_all)
          exact .inr (.inr (by rw [Wire.after, hbroken]; trivial))
      | framed bytes => cases hallows
      | applied packet => cases hallows
      | skipped bytes => cases hallows
      | taken request => cases hallows
      | _ => exact .inl rfl
    · obtain ⟨x, hx, hwhat⟩ := hdone
      exact .inr (.inl ⟨x, List.mem_cons_of_mem e hx, hwhat⟩)
    · exact .inr (.inr (hashore.after hallows hdial))

/-- Bytes that were given to the transport have been written when the same connection is up
later on. -/
theorem written_of_up {later past : List Entry} {time : Micros} {bytes : List UInt8}
    (horderly : Orderly (later ++ ⟨time, .asked (.write bytes)⟩ :: past))
    (hdials : ∀ e ∈ later, dials e.what = false)
    (hup : wire (later ++ ⟨time, .asked (.write bytes)⟩ :: past) = .up) :
    ∃ e ∈ later, e.what = .answered (.write bytes) (.written true) := by
  rcases written_or horderly hdials with hbusy | hdone | hashore
  · rw [hup] at hbusy
    cases hbusy
  · exact hdone
  · rw [hup] at hashore
    exact hashore.elim

/-! ### The connection machine -/

/-- The state in which the session reads for this purpose. -/
def stateOf : Purpose → ConnectionState
  | .connack => .connectBroker
  | .suback _ => .subscribe
  | .poll => .connected

/-- The next action fits the state and the wire. -/
def Ready (w : Wire) : ConnectionState → Action → Prop
  | .resolveBroker, .resolve => w = .down
  | .resolveBroker, .retry _ => w = .down
  | .resolveBroker, .teardown => w = .up ∨ w = .broken
  | .connectBroker, .connect => w = .down
  | .connectBroker, .retry _ => w = .down
  | .subscribe, .subscribe => w = .up
  | .connected, .poll => w = .up
  | _, _ => False

/-- The event is one that the state lists, and it fits the wire. -/
def Expected (w : Wire) : ConnectionState → Event → Prop
  | .resolveBroker, .brokerResolved => w = .down
  | .resolveBroker, .resolveFailed => w = .down
  | .connectBroker, .brokerConnected => w = .up
  | .connectBroker, .connectFailed => w = .down
  | .subscribe, .subscribed => w = .up
  | .subscribe, .subscribeFailed => w = .up
  | .subscribe, .linkLost => w = .up ∨ w = .broken
  | .connected, .pollIdle => w = .up
  | .connected, .linkLost => w = .up ∨ w = .broken
  | _, _ => False

/-- An event that the state lists leads to an action that fits the next state. -/
theorem ready_of_expected {w : Wire} {c : Connection} {event : Event}
    (h : Expected w c.state event) : Ready w (c.handle event).2.state (c.handle event).1 := by
  obtain ⟨policy, state, previous, failures⟩ := c
  cases state <;> cases event <;> first
    | exact h.elim
    | exact h
    | skip
  -- A failure to connect or to subscribe, which counts.
  · show Ready w (transition policy .connectBroker failures .connectFailed).state
      (transition policy .connectBroker failures .connectFailed).action
    rw [transition]
    split <;> exact h
  · show Ready w (transition policy .subscribe failures .subscribeFailed).state
      (transition policy .subscribe failures .subscribeFailed).action
    rw [transition]
    split
    · exact .inl h
    · exact h

/-- Each action belongs to a state. The one that waits disconnected never comes up. -/
theorem ready_cases {w : Wire} {state : ConnectionState} {action : Action}
    (h : Ready w state action) :
    match action with
    | .resolve => state = .resolveBroker ∧ w = .down
    | .connect => state = .connectBroker ∧ w = .down
    | .subscribe => state = .subscribe ∧ w = .up
    | .poll => state = .connected ∧ w = .up
    | .retry _ => (state = .resolveBroker ∨ state = .connectBroker) ∧ w = .down
    | .teardown => state = .resolveBroker ∧ (w = .up ∨ w = .broken)
    | .backoff _ => False := by
  cases action <;> cases state <;> first
    | exact h.elim
    | exact ⟨rfl, h⟩
    | exact ⟨.inl rfl, h⟩
    | exact ⟨.inr rfl, h⟩

/-! ### The session -/

/-- What is true of a session that waits, or is between two actions. -/
def StandsWaiting (w : Wire) (s : Session) : Prop :=
  match s.phase with
  | .idle action => Ready w s.state action
  | .resolving => w = .busy (.resolve s.config.host) ∧ s.state = .resolveBroker
  | .dialing remote => w = .busy (.dial remote) ∧ s.state = .connectBroker
  | .writing bytes errand => w = .busy (.write bytes) ∧ s.state = stateOf (purposeOf errand)
  | .reading purpose _ => w = .busy (.read s.inbound.spare) ∧ s.state = stateOf purpose
  | .closing .connectFailed => w = .busy .close ∧ s.state = .connectBroker
  | .closing .teardown => w = .busy .close ∧ s.state = .resolveBroker
  | .sleeping timer .retry =>
    w = .busy (.sleep timer.due) ∧ (s.state = .resolveBroker ∨ s.state = .connectBroker)
  | .sleeping _ .backoff => False
  | .crashed => True

/-- What is true of a session at a point. -/
def Stands (w : Wire) (s : Session) : Point → Prop
  | .waiting => StandsWaiting w s
  | .running action => Ready w s.state action
  | .sending _ errand otherwise =>
    w = .up ∧ s.state = stateOf (purposeOf errand) ∧ Stands w s otherwise
  | .scanning purpose _ => w = .up ∧ s.state = stateOf purpose
  | .judging purpose _ _ => w = .up ∧ s.state = stateOf purpose
  | .losing purpose => (w = .up ∨ w = .broken) ∧ s.state = stateOf purpose
  | .givingUp purpose => w = .up ∧ s.state = stateOf purpose
  | .ending event => Expected w s.state event

section
variable {w : Wire} {s : Session}

/-- A session that writes has the transport busy with these bytes, in the state for which they are
written. -/
theorem stands_writing {bytes : List UInt8} {errand : Errand} (h : Stands w s .waiting)
    (hphase : s.phase = .writing bytes errand) :
    w = .busy (.write bytes) ∧ s.state = stateOf (purposeOf errand) := by
  rw [Stands, StandsWaiting, hphase] at h
  exact h

/-- A session that reads has the transport busy with a read of as many bytes as it has room for. -/
theorem stands_reading {purpose : Purpose} {timer : Timer} (h : Stands w s .waiting)
    (hphase : s.phase = .reading purpose timer) :
    w = .busy (.read s.inbound.spare) ∧ s.state = stateOf purpose := by
  rw [Stands, StandsWaiting, hphase] at h
  exact h

end

/-- A session that stands right, with an orderly journal behind it. -/
def Controlled (p : Point) (s : Session) : Prop :=
  Orderly s.exchange.journal ∧ Stands (wire s.exchange.journal) s p

/-- The state may be named. -/
theorem expected_of_state {w : Wire} {state state' : ConnectionState} {event : Event}
    (hstate : state = state') (h : Expected w state' event) : Expected w state event := by
  rw [hstate]
  exact h

/-- Bytes that were read leave the connection up. -/
theorem outcome_received {room : Nat} {bytes : List UInt8} (h : bytes ≠ []) :
    outcome (.read room) (.received (some bytes)) = .up := by
  cases bytes with
  | nil => exact absurd rfl h
  | cons byte bytes => rfl

/-- Every move keeps it. -/
theorem Move.controlled {now : Micros} {p q : Point} {s t : Session} (move : Move now p s q t)
    (h : Controlled p s) : Controlled q t := by
  obtain ⟨horderly, hstands⟩ := h
  cases move with
  | begin hphase =>
    rw [Stands, StandsWaiting, hphase] at hstands
    exact ⟨⟨trivial, horderly⟩, hstands⟩
  -- Actions.
  | resolveAtOnce h =>
    obtain ⟨hstate, hwire⟩ := ready_cases hstands
    exact ⟨horderly, expected_of_state hstate hwire⟩
  | resolveAsk h =>
    obtain ⟨hstate, hwire⟩ := ready_cases hstands
    exact ⟨⟨hwire, horderly⟩, rfl, hstate⟩
  | connectNowhere h =>
    obtain ⟨hstate, hwire⟩ := ready_cases hstands
    exact ⟨horderly, expected_of_state hstate hwire⟩
  | connectDial h =>
    obtain ⟨hstate, hwire⟩ := ready_cases hstands
    exact ⟨⟨hwire, horderly⟩, rfl, hstate⟩
  | subscribeNothing h =>
    obtain ⟨hstate, hwire⟩ := ready_cases hstands
    exact ⟨horderly, expected_of_state hstate hwire⟩
  | subscribeUnfit h hfit =>
    obtain ⟨hstate, hwire⟩ := ready_cases hstands
    exact ⟨horderly, expected_of_state hstate hwire⟩
  | subscribeSend h hfit =>
    obtain ⟨hstate, hwire⟩ := ready_cases hstands
    exact ⟨horderly, hwire, hstate, expected_of_state hstate hwire⟩
  | pollFarewell h =>
    obtain ⟨hstate, hwire⟩ := ready_cases hstands
    exact ⟨horderly, hwire, hstate, expected_of_state hstate (.inl hwire)⟩
  | pollPing h hping hdue =>
    obtain ⟨hstate, hwire⟩ := ready_cases hstands
    exact ⟨horderly, hwire, hstate, expected_of_state hstate (.inl hwire)⟩
  | pollRead h hping =>
    obtain ⟨hstate, hwire⟩ := ready_cases hstands
    exact ⟨horderly, hwire, hstate⟩
  | retry =>
    obtain ⟨hstate, hwire⟩ := ready_cases hstands
    exact ⟨⟨hwire, horderly⟩, rfl, hstate⟩
  | teardown =>
    obtain ⟨hstate, hwire⟩ := ready_cases hstands
    exact ⟨⟨hwire, horderly⟩, rfl, hstate⟩
  | backoff => exact (ready_cases hstands).elim
  -- Replies.
  | resolved hphase =>
    rw [Stands, StandsWaiting, hphase] at hstands
    obtain ⟨hwire, hstate⟩ := hstands
    exact ⟨⟨hwire, horderly⟩, expected_of_state hstate rfl⟩
  | unresolved hphase =>
    rw [Stands, StandsWaiting, hphase] at hstands
    obtain ⟨hwire, hstate⟩ := hstands
    exact ⟨⟨hwire, horderly⟩, expected_of_state hstate rfl⟩
  | dialed hphase =>
    rw [Stands, StandsWaiting, hphase] at hstands
    obtain ⟨hwire, hstate⟩ := hstands
    exact ⟨⟨hwire, horderly⟩, rfl, hstate, .inl rfl, hstate⟩
  | undialed hphase =>
    rw [Stands, StandsWaiting, hphase] at hstands
    obtain ⟨hwire, hstate⟩ := hstands
    exact ⟨⟨hwire, horderly⟩, .inr rfl, hstate⟩
  | writeFailed hphase =>
    obtain ⟨hwire, hstate⟩ := stands_writing hstands hphase
    exact ⟨⟨hwire, horderly⟩, .inr rfl, hstate⟩
  | writtenConnect hphase =>
    obtain ⟨hwire, hstate⟩ := stands_writing hstands hphase
    exact ⟨⟨hwire, horderly⟩, rfl, hstate⟩
  | writtenSubscribe hphase =>
    obtain ⟨hwire, hstate⟩ := stands_writing hstands hphase
    exact ⟨⟨hwire, horderly⟩, rfl, hstate⟩
  | writtenFarewell hphase =>
    obtain ⟨hwire, hstate⟩ := stands_writing hstands hphase
    exact ⟨⟨hwire, horderly⟩, .inl rfl, hstate⟩
  | writtenPing hphase =>
    obtain ⟨hwire, hstate⟩ := stands_writing hstands hphase
    exact ⟨⟨hwire, horderly⟩, rfl, hstate⟩
  | writtenPublish hphase =>
    obtain ⟨hwire, hstate⟩ := stands_writing hstands hphase
    exact ⟨⟨hwire, horderly⟩, expected_of_state hstate rfl⟩
  | writtenPuback hphase hpurpose =>
    obtain ⟨hwire, hstate⟩ := stands_writing hstands hphase
    exact ⟨⟨hwire, horderly⟩, rfl, hstate⟩
  | writtenLastPuback hphase =>
    obtain ⟨hwire, hstate⟩ := stands_writing hstands hphase
    exact ⟨⟨hwire, horderly⟩, expected_of_state hstate rfl⟩
  | received hphase hbytes =>
    obtain ⟨hwire, hstate⟩ := stands_reading hstands hphase
    exact ⟨⟨hwire, horderly⟩, outcome_received hbytes, hstate⟩
  | readEnded hphase =>
    obtain ⟨hwire, hstate⟩ := stands_reading hstands hphase
    exact ⟨⟨hwire, horderly⟩, .inr rfl, hstate⟩
  | readFailed hphase =>
    obtain ⟨hwire, hstate⟩ := stands_reading hstands hphase
    exact ⟨⟨hwire, horderly⟩, .inr rfl, hstate⟩
  | expired hphase hdue =>
    obtain ⟨hwire, hstate⟩ := stands_reading hstands hphase
    exact ⟨⟨hwire, horderly⟩, rfl, hstate⟩
  | requested hphase hrequest =>
    obtain ⟨hwire, hstate⟩ := stands_reading hstands hphase
    exact ⟨⟨rfl, hwire, horderly⟩, rfl, hstate, expected_of_state hstate rfl⟩
  | closedEarly hphase =>
    rw [Stands, StandsWaiting, hphase] at hstands
    obtain ⟨hwire, hstate⟩ := hstands
    exact ⟨⟨hwire, horderly⟩, expected_of_state hstate rfl⟩
  | closedDown hphase =>
    rw [Stands, StandsWaiting, hphase] at hstands
    obtain ⟨hwire, hstate⟩ := hstands
    refine ⟨⟨hwire, horderly⟩, ?_⟩
    -- The machine left the connection when it ordered the teardown.
    show Ready .down s.state (s.state.entryAction s.connection.policy)
    rw [hstate]
    rfl
  | restedRetry hphase hdue =>
    rw [Stands, StandsWaiting, hphase] at hstands
    obtain ⟨hwire, hstate⟩ := hstands
    refine ⟨⟨hwire, horderly⟩, ?_⟩
    show Ready .down s.state (s.state.entryAction s.connection.policy)
    rcases hstate with hstate | hstate
    · rw [hstate]
      rfl
    · rw [hstate]
      rfl
  | restedBackoff hphase hdue =>
    rw [Stands, StandsWaiting, hphase] at hstands
    exact hstands.elim
  -- Packets.
  | corrupt h => exact ⟨horderly, .inl hstands.1, hstands.2⟩
  | hungry h => exact ⟨⟨hstands.1, horderly⟩, rfl, hstands.2⟩
  | overrun h hpacket => exact ⟨⟨hstands.1, horderly⟩, trivial⟩
  | skip h hpacket hfault => exact ⟨⟨hstands.1, hstands.1, horderly⟩, hstands⟩
  | apply h hpacket =>
    obtain ⟨packet, hjournal, -⟩ := interpret_eq hpacket
    rw [Controlled, hjournal]
    exact ⟨⟨hstands.1, hstands.1, horderly⟩, hstands⟩
  -- What a packet means.
  | acknowledge h => exact ⟨horderly, hstands.1, hstands.2, .inl hstands.1, hstands.2⟩
  | grantConnack h hverdict => exact ⟨horderly, expected_of_state hstands.2 hstands.1⟩
  | grantSuback h hverdict => exact ⟨horderly, expected_of_state hstands.2 hstands.1⟩
  | grantPoll h => exact ⟨horderly, expected_of_state hstands.2 hstands.1⟩
  | refuse h hverdict => exact ⟨horderly, hstands⟩
  | pass h hverdict => exact ⟨horderly, hstands⟩
  -- Ends.
  | send h =>
    obtain ⟨hwire, hstate, -⟩ := hstands
    exact ⟨⟨hwire, horderly⟩, rfl, hstate⟩
  | sendNot h => exact ⟨horderly, hstands.2.2⟩
  | loseConnack =>
    obtain ⟨hwire, hstate⟩ := hstands
    exact ⟨⟨hwire, horderly⟩, rfl, hstate⟩
  | @loseLink _ purpose h =>
    obtain ⟨hwire, hstate⟩ := hstands
    cases purpose with
    | connack => exact absurd rfl h
    | suback id => exact ⟨horderly, expected_of_state hstate hwire⟩
    | poll => exact ⟨horderly, expected_of_state hstate hwire⟩
  | giveUpConnack => exact ⟨horderly, .inl hstands.1, hstands.2⟩
  | giveUpSuback => exact ⟨horderly, expected_of_state hstands.2 hstands.1⟩
  | giveUpPoll => exact ⟨horderly, expected_of_state hstands.2 hstands.1⟩
  | finish => exact ⟨⟨trivial, horderly⟩, ready_of_expected hstands⟩

/-- At the start nothing has been asked of the transport, and the name of the broker is to be
resolved next. -/
theorem controlled_start (config : SessionConfig) (now : Micros) :
    Controlled .waiting ((Session.new config {}).start now) := ⟨⟨trivial, trivial⟩, rfl⟩

/-- What the other tasks do changes neither the state nor the wire. -/
theorem Controlled.aside {s : Session} {exchange : Exchange} (haside : Aside s.exchange exchange)
    (h : Controlled .waiting s) : Controlled .waiting { s with exchange } := by
  obtain ⟨noted, hjournal, hother, -⟩ := haside
  obtain ⟨hwire, hkept⟩ := orderly_aside hother
  rw [Controlled, hjournal, hwire]
  exact ⟨hkept h.1, h.2⟩

/-- Letting a timer run out changes neither the state nor the wire. -/
theorem Controlled.yield {s : Session} (h : Controlled .waiting s) :
    Controlled .waiting s.yield := by
  obtain ⟨horderly, hstands⟩ := h
  rw [Session.yield]
  split
  · rename_i purpose timer hphase
    rw [Stands, StandsWaiting, hphase] at hstands
    exact ⟨horderly, hstands⟩
  · rename_i timer why hphase
    rw [Stands, StandsWaiting, hphase] at hstands
    cases why with
    | retry => exact ⟨horderly, hstands⟩
    | backoff => exact hstands.elim
  · exact ⟨horderly, hstands⟩

/-- In every run the journal is orderly and the session stands right. -/
theorem controlled_run (config : SessionConfig) (ackTimeout now : Micros) (turns : List Turn) :
    Controlled .waiting ((System.boot config ackTimeout now).run turns).session :=
  System.invariant (controlled_start config now) Move.controlled Controlled.aside Controlled.yield
    turns

end WeatherStation.Proofs.Mqtt
