import WeatherStation.Proofs.Mqtt.Control

/-!
# `WeatherStation.Proofs.Mqtt.OpenFlag`: who sees an open session

The other tasks learn from one flag whether a session is open. The session writes it in four
places, and the connection machine moves in another one, so that the two agree only where the
session stops to wait.

`Flagged` says at each point inside an action what the flag holds. It parts from the machine
twice. When the last topic is confirmed the flag is set first and the machine follows with the
end of the action. When an open session loses its connection the machine moves first, and the
flag follows as soon as the teardown begins. Both end before the next wait
(`connected_iff_state`).
-/

set_option autoImplicit false

namespace WeatherStation.Proofs.Mqtt

open WeatherStation.Mqtt

/-- The flag says what the machine says. -/
def Agrees (s : Session) : Prop := s.exchange.connected = s.connection.isConnected

/-- What the flag holds at a point. -/
def Flagged (s : Session) : Point → Prop
  | .waiting => s.phase = .idle .teardown ∨ Agrees s
  | .running .teardown => True
  | .sending _ _ otherwise => Agrees s ∧ Flagged s otherwise
  | .ending .subscribed => s.exchange.connected = true
  | _ => Agrees s

section
variable {now : Micros} {p q : Point} {s t : Session}

/-- The machine is not in its last state, and the flag is down. -/
theorem agrees_of_state {state : ConnectionState} (hstate : s.state = state)
    (hopen : state ≠ .connected) (hflag : s.exchange.connected = false) : Agrees s := by
  have hclosed : s.connection.state ≠ .connected := fun h => hopen (hstate.symm.trans h)
  rw [Agrees, hflag, Connection.isConnected, beq_eq_false_iff_ne.mpr hclosed]

/-- The end of an action brings the two together again, or a teardown comes next. -/
theorem flagged_finish {w : Wire} {event : Event} (hexpected : Expected w s.state event)
    (h : Flagged s (.ending event)) : Flagged (s.finish now event) .waiting := by
  obtain ⟨config, ⟨policy, state, previous, failures⟩, inbound, broker, nextPing, subscribeId,
    inFlight, phase, exchange⟩ := s
  cases state <;> cases event <;> first
    | exact hexpected.elim
    | exact .inl rfl
    | exact .inr h
    | skip
  -- A failure that counts moves the machine between states in which no session is open.
  · right
    show exchange.connected =
      ((transition policy .connectBroker failures .connectFailed).state == .connected)
    rw [transition]
    split <;> exact h
  · right
    show exchange.connected =
      ((transition policy .subscribe failures .subscribeFailed).state == .connected)
    rw [transition]
    split <;> exact h

/-- Every move keeps it. The flag is written by the beginning of a connect action, by the
confirmation of the topics and by a teardown, and the machine moves at the end of an action. -/
theorem Move.flagged (move : Move now p s q t) (hcontrolled : Controlled p s)
    (h : Flagged s p) : Flagged t q := by
  obtain ⟨-, hstands⟩ := hcontrolled
  -- A session that waits for a reply is not about to begin a teardown.
  have hagrees : p = .waiting → s.phase ≠ .idle .teardown → Agrees s := by
    rintro rfl hphase
    exact h.resolve_left hphase
  cases move with
  | @begin _ action hphase =>
    cases action with
    | teardown => trivial
    | _ => exact hagrees rfl (by simp [hphase])
  | connectNowhere hnone => exact agrees_of_state (ready_cases hstands).1 (by simp) rfl
  | connectDial hremote => exact .inr (agrees_of_state (ready_cases hstands).1 (by simp) rfl)
  | teardown => exact .inr (agrees_of_state (ready_cases hstands).1 (by simp) rfl)
  | backoff => exact (ready_cases hstands).elim
  -- The flag goes up before the machine moves.
  | subscribeNothing htopics => rfl
  | grantSuback hreply hverdict => rfl
  | closedDown hphase => exact .inr (hagrees rfl (by simp [hphase]))
  | restedRetry hphase hdue => exact .inr (hagrees rfl (by simp [hphase]))
  | dialed hphase =>
    have hwaits : Agrees s := hagrees rfl (by simp [hphase])
    exact ⟨hwaits, hwaits⟩
  | requested hphase hrequest =>
    have hwaits : Agrees s := hagrees rfl (by simp [hphase])
    exact ⟨hwaits, hwaits⟩
  | apply hframe hpacket => exact (interpret_frame hpacket).1.trans h
  | send hencodes => exact .inr h.1
  | sendNot hnone => exact h.2
  | finish => exact flagged_finish hstands h
  -- All others leave both alone.
  | _ => first
    | exact h
    | exact .inr h
    | exact ⟨h, h⟩
    | exact hagrees rfl (by simp [*])

/-- At the start the flag is down and the machine is far from its last state. -/
theorem flagged_start (config : SessionConfig) (now : Micros) :
    Flagged ((Session.new config {}).start now) .waiting := .inr rfl

/-- The others read the flag and never write it. -/
theorem Flagged.aside {exchange : Exchange} (haside : Aside s.exchange exchange)
    (h : Flagged s .waiting) : Flagged { s with exchange } .waiting := by
  obtain ⟨-, -, -, hflag, -⟩ := haside
  exact h.imp_right hflag.trans

/-- A session that gives way has not moved. -/
theorem Flagged.yield (h : Flagged s .waiting) : Flagged s.yield .waiting := by
  rw [Session.yield]
  split
  · rename_i purpose timer hphase
    exact .inr (h.resolve_left (by simp [hphase]))
  · rename_i timer why hphase
    exact .inr (h.resolve_left (by simp [hphase]))
  · exact h

end

/-- In every run the two agree wherever the session waits, or a teardown is the next action. -/
theorem flagged_run (config : SessionConfig) (ackTimeout now : Micros) (turns : List Turn) :
    Flagged ((System.boot config ackTimeout now).run turns).session .waiting := by
  have hboth : Controlled .waiting ((System.boot config ackTimeout now).run turns).session ∧
      Flagged ((System.boot config ackTimeout now).run turns).session .waiting :=
    System.invariant (P := fun p s => Controlled p s ∧ Flagged s p)
      ⟨controlled_start config now, flagged_start config now⟩
      (fun move h => ⟨move.controlled h.1, move.flagged h.1 h.2⟩)
      (fun haside h => ⟨h.1.aside haside, h.2.aside haside⟩)
      (fun h => ⟨h.1.yield, h.2.yield⟩) turns
  exact hboth.2

/-! ### Waiting with an open session -/

/-- A poll round waits for bytes. -/
def Polls : Phase → Prop
  | .writing _ errand => purposeOf errand = .poll
  | .reading purpose _ => purpose = .poll
  | _ => False

/-- Only a poll round reads in the last state. -/
theorem poll_of_stateOf {purpose : Purpose} (h : stateOf purpose = .connected) :
    purpose = .poll := by
  cases purpose with
  | poll => rfl
  | _ => cases h

/-- While the machine is in its last state, the session waits in poll rounds only. -/
theorem polls_of_connected {w : Wire} {s : Session} {call : Call} (h : Stands w s .waiting)
    (hcall : s.call? = some call) (hstate : s.state = .connected) : Polls s.phase := by
  rw [Stands, StandsWaiting, hstate] at h
  rw [Session.call?] at hcall
  cases hphase : s.phase with
  | idle action => simp [hphase] at hcall
  | crashed => simp [hphase] at hcall
  | writing bytes errand =>
    rw [hphase] at h
    exact poll_of_stateOf h.2.symm
  | reading purpose timer =>
    rw [hphase] at h
    exact poll_of_stateOf h.2.symm
  | closing why => cases why <;> simp [hphase] at h
  | sleeping timer why => cases why <;> simp [hphase] at h
  | _ => simp [hphase] at h

/-- In every run, whenever the session waits, for the transport, for a time or for a request,
the flag that the other tasks see is up exactly when the machine is in its last state. What the
session waits for with the flag up is the bytes of a poll round: never an address, a dial, a
close or a time, and never a packet that opens a session. -/
theorem connected_iff_state (config : SessionConfig) (ackTimeout now : Micros)
    (turns : List Turn) :
    let s := ((System.boot config ackTimeout now).run turns).session
    ∀ call, s.call? = some call →
      (s.exchange.connected = true ↔ s.state = .connected) ∧
        (s.exchange.connected = true → Polls s.phase) := by
  intro s call hcall
  have hstands : Stands (wire s.exchange.journal) s .waiting :=
    (controlled_run config ackTimeout now turns).2
  have hagrees : Agrees s := by
    refine (flagged_run config ackTimeout now turns).resolve_left ?_
    intro hphase
    rw [Session.call?, hphase] at hcall
    cases hcall
  have hiff : s.exchange.connected = true ↔ s.state = .connected := by
    rw [hagrees, Connection.isConnected, beq_iff_eq]
    rfl
  exact ⟨hiff, fun hopen => polls_of_connected hstands hcall (hiff.mp hopen)⟩

/-- The wait for CONNACK, and the first wait of the first poll round. -/
theorem connected_iff_state_opening :
    let early := ((System.boot plainConfig (seconds 4) 0).run (opening.take 4)).session
    let late := ((System.boot plainConfig (seconds 4) 0).run opening).session
    early.call? = some (.read inboundCapacity) ∧ early.state ≠ .connected ∧
      early.exchange.connected ≠ true ∧ late.call? = some (.read inboundCapacity) ∧
      late.state = .connected ∧ late.exchange.connected = true ∧ Polls late.phase := by
  intro early late
  have hearly : early.call? = some (.read inboundCapacity) := by decide +kernel
  have hclosed : early.state ≠ .connected := by decide +kernel
  have hlate : late.call? = some (.read inboundCapacity) := by decide +kernel
  have hopen : late.state = .connected := by decide +kernel
  obtain ⟨hdown, -⟩ := connected_iff_state plainConfig (seconds 4) 0 (opening.take 4) _ hearly
  obtain ⟨hup, hpolls⟩ := connected_iff_state plainConfig (seconds 4) 0 opening _ hlate
  have hflag : late.exchange.connected = true := hup.mpr hopen
  exact ⟨hearly, hclosed, fun h => hclosed (hdown.mp h), hlate, hopen, hflag, hpolls hflag⟩

end WeatherStation.Proofs.Mqtt
