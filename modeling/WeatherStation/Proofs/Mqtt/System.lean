import WeatherStation.Mqtt.Client
import WeatherStation.Proofs.Mqtt.Moves

/-!
# `WeatherStation.Proofs.Mqtt.System`: the session beside the other tasks

`System` is the session together with one publishing client and the clock. A run is a list of
turns. In a turn the session begins its next action or gets a reply, the client makes a call or
has another look at the one under way, the dispatching task takes a message, the link layer
reports that the network is gone, or time goes by. The turns come in any order and the replies
are any replies, so a run stands for any broker, any transport and any schedule. A reply that
the session does not wait for changes nothing. Neither does a publish while another one is
under way: the client makes its calls one after the other.

* `Always`: a property that a journal had at every moment.
* `Beside`: the few things that the other tasks do to the shared state. Every turn of theirs is a
  sequence of them (`System.step_beside`).
* `Aside`: what that means for the session. They add nothing to the journal that the session would
  have noted, and leave the flag of the open session alone. The other flag goes up with a report
  that the network is gone, and only then.
* `System.invariant_beside`, `System.invariant`: a property of points and sessions that every move
  keeps, and so does what the other tasks do, and that holds after the start, holds in every run.
  `System.step_keeps` is one step of this, for a property that is about the time as well.
-/

set_option autoImplicit false

namespace WeatherStation.Proofs.Mqtt

open WeatherStation.Mqtt

/-! ### Journals -/

/-- What holds of a journal held of it at every moment. The moments are the ends of the journal,
since it grows at its front. -/
def Always (P : List Entry → Prop) : List Entry → Prop
  | [] => P []
  | e :: past => P (e :: past) ∧ Always P past

/-- The last of the moments is the present one. -/
theorem Always.at_end {P : List Entry → Prop} {past : List Entry} (h : Always P past) :
    P past := by
  cases past with
  | nil => exact h
  | cons e past => exact h.1

/-- An earlier journal had no moments that the present one did not have. -/
theorem Always.drop {P : List Entry → Prop} {later past : List Entry}
    (h : Always P (later ++ past)) : Always P past := by
  induction later with
  | nil => exact h
  | cons e later ih => exact ih h.2

/-- So the property held at each moment that can be named. -/
theorem Always.of_append {P : List Entry → Prop} {later past : List Entry}
    (h : Always P (later ++ past)) : P past := h.drop.at_end

/-! ### What the session does not note -/

/-- Whether it is the session that notes this. -/
def bySession : Happening → Bool
  | .began _ => true
  | .ended _ => true
  | .asked _ => true
  | .answered _ _ => true
  | .framed _ => true
  | .applied _ => true
  | .skipped _ => true
  | .taken _ => true
  | .notified => false
  | .admitted _ => false
  | .offered _ => false
  | .settled _ _ => false
  | .dispatched _ => false

/-- What the others note is not what the session notes. -/
theorem ne_of_other {what own : Happening} (h : bySession what = false)
    (hown : bySession own = true) : what ≠ own := by
  rintro rfl
  cases h.symm.trans hown

/-- Whether this is a report that the network is gone. -/
def notifies : Happening → Bool
  | .notified => true
  | _ => false

/-- The shared state `y` comes from `x` by what another task did: the journal grows by nothing
that the session would have noted, only the session says whether it is open, and a report that the
network is gone is kept. -/
def Aside (x y : Exchange) : Prop :=
  ∃ noted : List Entry,
    y.journal = noted ++ x.journal ∧ (∀ e ∈ noted, bySession e.what = false) ∧
      y.connected = x.connected ∧
      y.disconnectPending = (noted.any (fun e => notifies e.what) || x.disconnectPending)

namespace Aside

/-- Doing nothing. -/
theorem refl (x : Exchange) : Aside x x := ⟨[], rfl, by simp, rfl, rfl⟩

/-- One thing after the other. A report among the second ones counts, and so does one among the
first. -/
theorem trans {x y z : Exchange} (first : Aside x y) (second : Aside y z) : Aside x z := by
  obtain ⟨noted, hnoted, hfirst, hflag, hpending⟩ := first
  obtain ⟨noted', hnoted', hsecond, hflag', hpending'⟩ := second
  refine ⟨noted' ++ noted, by rw [hnoted', hnoted, List.append_assoc], ?_, hflag'.trans hflag,
    by rw [hpending', hpending, List.any_append, Bool.or_assoc]⟩
  intro e he
  rcases List.mem_append.mp he with he | he
  · exact hsecond e he
  · exact hfirst e he

/-- What holds of a journal still holds of it, if nothing breaks it that the session would not note.
Most invariants about journals pass the turns of the other tasks by this. -/
theorem keeps {P : List Entry → Prop} {x y : Exchange} (h : Aside x y)
    (cons : ∀ e past, bySession e.what = false → P past → P (e :: past)) (hx : P x.journal) :
    P y.journal := by
  obtain ⟨noted, hjournal, hother, -⟩ := h
  rw [hjournal]
  clear hjournal
  induction noted with
  | nil => exact hx
  | cons e noted ih =>
    have hlater : P (noted ++ x.journal) := ih fun x hx => hother x (List.mem_cons_of_mem e hx)
    exact cons e _ (hother e List.mem_cons_self) hlater

/-- The slots may change with it. -/
theorem of_journal {x y : Exchange} (h : y.journal = x.journal) (hflag : y.connected = x.connected)
    (hpending : y.disconnectPending = x.disconnectPending) : Aside x y :=
  ⟨[], h, by simp, hflag, hpending⟩

/-- An entry of theirs that is no report. -/
theorem note (x : Exchange) (now : Micros) {what : Happening} (h : bySession what = false)
    (hnotifies : notifies what = false) : Aside x (x.note now what) :=
  ⟨[⟨now, what⟩], rfl, by simpa using h, rfl, by simp [hnotifies, Exchange.note]⟩

end Aside

/-! ### The other tasks -/

/-- Whether it is the client that notes this. -/
def byClient : Happening → Bool
  | .admitted _ => true
  | .offered _ => true
  | .settled _ _ => true
  | _ => false

/-- What the other tasks do to the shared state `x` at one time, one thing after the other. A
property of that state has to be looked at for these six only, and not for each way in which the
client can get to them. -/
inductive Beside (now : Micros) (x : Exchange) : Exchange → Prop where
  | refl : Beside now x x
  /-- The client empties the slot for the acknowledged id. -/
  | forget {y : Exchange} (before : Beside now x y) : Beside now x { y with ack := none }
  /-- The client puts its request into the slot or takes it back. -/
  | request {y : Exchange} (slot : Option Request) (before : Beside now x y) :
    Beside now x { y with request := slot }
  /-- The client notes what it does. -/
  | note {y : Exchange} {what : Happening} (h : byClient what = true) (before : Beside now x y) :
    Beside now x (y.note now what)
  /-- The link layer reports that the network is gone. -/
  | notify {y : Exchange} (before : Beside now x y) : Beside now x (y.notifyDisconnect now)
  /-- The dispatching task takes a message. -/
  | dispatch {y z : Exchange} {message : Message} (h : y.nextMessage now = some (message, z))
      (before : Beside now x y) : Beside now x z

/-- Taking a message takes the oldest one and notes it. -/
theorem nextMessage_eq_some {x y : Exchange} {now : Micros} {message : Message} :
    x.nextMessage now = some (message, y) ↔
      ∃ rest, x.inbox = message :: rest ∧
        y = { x with inbox := rest }.note now (.dispatched message) := by
  rw [Exchange.nextMessage]
  cases hinbox : x.inbox with
  | nil => simp
  | cons first rest =>
    simp only [Option.some.injEq, Prod.mk.injEq, List.cons.injEq]
    constructor
    · rintro ⟨rfl, rfl⟩
      exact ⟨rest, ⟨rfl, rfl⟩, rfl⟩
    · rintro ⟨_, ⟨rfl, rfl⟩, rfl⟩
      exact ⟨rfl, rfl⟩

section
variable {now : Micros}

/-- One turn may take several of these steps. -/
theorem Beside.trans {x y z : Exchange} (first : Beside now x y) (second : Beside now y z) :
    Beside now x z := by
  induction second with
  | refl => exact first
  | forget _ ih => exact .forget ih
  | request slot _ ih => exact .request slot ih
  | note h _ ih => exact .note h ih
  | notify _ ih => exact .notify ih
  | dispatch h _ ih => exact .dispatch h ih

/-- None of it is the session's, and the only one that concerns the session's flags is the
report. -/
theorem Beside.aside {x y : Exchange} (h : Beside now x y) : Aside x y := by
  induction h with
  | refl => exact .refl x
  | forget _ ih => exact ih.trans (.of_journal rfl rfl rfl)
  | request slot _ ih => exact ih.trans (.of_journal rfl rfl rfl)
  | @note y what hwhat _ ih =>
    refine ih.trans (.note y now ?_ ?_)
    · cases what <;> first | rfl | cases hwhat
    · cases what <;> first | rfl | cases hwhat
  | notify _ ih => exact ih.trans ⟨[⟨now, .notified⟩], rfl, by simp [bySession], rfl, rfl⟩
  | dispatch hnext _ ih =>
    obtain ⟨rest, -, rfl⟩ := nextMessage_eq_some.mp hnext
    exact ih.trans ((Aside.of_journal rfl rfl rfl).trans (.note _ now rfl rfl))

/-- To look for an acknowledgement empties the slot of any that is there, and ends the call if it is
the right one. -/
theorem listen_beside (x : Exchange) (id : UInt16) (due : Micros) :
    Beside now x (PublishCall.listen x now id due).2 := by
  rw [PublishCall.listen]
  split
  · exact .refl
  · dsimp only
    split
    · exact .note rfl (.forget .refl)
    · exact .forget .refl

/-- To offer a request fills the slot, if it is free. -/
theorem offer_beside (x : Exchange) (request : Request) (due : Micros) :
    Beside now x (PublishCall.offer x now request due).2 := by
  rw [PublishCall.offer]
  split
  · exact .refl
  · exact .note rfl (.request _ .refl)

/-- To go on with a call is to offer and then to look, or only one of them. -/
theorem advance_beside (x : Exchange) (call : PublishCall) :
    Beside now x (call.advance x now).2 := by
  cases call with
  | offering request due =>
    have hoffer : Beside now x (PublishCall.offer x now request due).2 :=
      offer_beside x request due
    rw [PublishCall.advance]
    split
    · rename_i id due' y h
      rw [h] at hoffer
      exact hoffer.trans (listen_beside y id due')
    · exact hoffer
  | awaiting id due => exact listen_beside x id due
  | settled result => exact .refl

/-- A call that runs out of time takes its request back. -/
theorem expire_beside (x : Exchange) (id : UInt16) :
    Beside now x (PublishCall.expire x now id).2 := .note rfl (.request none .refl)

/-- To look at a call is to go on with it, and to end it if its time is over then. -/
theorem poll_beside (x : Exchange) (call : PublishCall) : Beside now x (call.poll x now).2 := by
  have hadvance : Beside now x (call.advance x now).2 := advance_beside x call
  rw [PublishCall.poll]
  split
  · rename_i request due y h
    rw [h] at hadvance
    split
    · exact hadvance.trans (expire_beside y request.id)
    · exact hadvance
  · rename_i id due y h
    rw [h] at hadvance
    split
    · exact hadvance.trans (expire_beside y id)
    · exact hadvance
  · exact hadvance

/-- A new call forgets what is left in the slot for acknowledgements and goes on as any other. One
that is refused only says so. -/
theorem publish_beside (c : Client) (x : Exchange) (topic : String) (payload : List UInt8) :
    Beside now x (c.publish x now topic payload).2.2 := by
  rw [Client.publish]
  split
  · exact .note rfl .refl
  · dsimp only
    split
    · exact .note rfl .refl
    · rename_i request hrequest
      -- The call forgets what the slot holds before it goes on.
      have hadmit : Beside now x ({ x with ack := none }.note now (.admitted request)) :=
        .note rfl (.forget .refl)
      exact hadmit.trans (advance_beside _ _)

/-- What a look at a call means for the session. -/
theorem poll_aside (x : Exchange) (call : PublishCall) : Aside x (call.poll x now).2 :=
  (poll_beside x call).aside

/-- What a new call means for it. -/
theorem publish_aside (c : Client) (x : Exchange) (topic : String) (payload : List UInt8) :
    Aside x (c.publish x now topic payload).2.2 := (publish_beside c x topic payload).aside

end

/-! ### Yielding -/

/-- To let a timer run out concerns the phase only. -/
theorem yield_exchange (s : Session) : s.yield.exchange = s.exchange := by
  rw [Session.yield]
  split <;> rfl

/-- To let a timer run out changes neither the configuration nor the state of the machine. -/
theorem yield_frame (s : Session) : s.yield.config = s.config ∧ s.yield.state = s.state := by
  rw [Session.yield]
  split <;> exact ⟨rfl, rfl⟩

/-! ### Runs -/

/-- The session, the client and the clock. -/
structure System where
  now : Micros
  session : Session
  client : Client
  /-- The client's last call, whether it has ended or not. -/
  call : Option PublishCall

/-- One turn. -/
inductive Turn where
  /-- Time goes by. -/
  | pass (time : Micros)
  /-- The session begins its next action. -/
  | begin
  /-- The session gets a reply. -/
  | reply (reply : Reply)
  /-- Everything else has had its turn, so that a timer may run out. -/
  | yield
  /-- The link layer reports that the network is gone. -/
  | notify
  /-- The dispatching task takes a message. -/
  | dispatch
  /-- The client makes a call. -/
  | publish (topic : String) (payload : List UInt8)
  /-- The client looks at its call. -/
  | poll

/-- Whether the session has this turn. -/
def ofSession : Turn → Bool
  | .begin => true
  | .reply _ => true
  | .yield => true
  | _ => false

namespace System

/-- The session has just been started, and nobody has published. -/
def boot (config : SessionConfig) (ackTimeout now : Micros) : System where
  now := now
  session := (Session.new config {}).start now
  client := { ackTimeout }
  call := none

/-- What happened so far, newest first. -/
def journal (s : System) : List Entry := s.session.exchange.journal

/-- Whether a call is under way. -/
def isBusy (s : System) : Bool := s.call.any fun call => call.result?.isNone

/-- The session's next action, if it is between two actions. -/
def beginNext (s : System) : System :=
  match s.session.phase with
  | .idle action => { s with session := s.session.begin s.now action }
  | _ => s

/-- The oldest message is taken, if there is one. -/
def dispatchNext (s : System) : System :=
  match s.session.exchange.nextMessage s.now with
  | some (_, exchange) => { s with session := { s.session with exchange } }
  | none => s

/-- The client makes a call, unless one is under way. -/
def publish (s : System) (topic : String) (payload : List UInt8) : System :=
  if s.isBusy then s
  else
    let (call, client, exchange) := s.client.publish s.session.exchange s.now topic payload
    { s with session := { s.session with exchange }, client, call := some call }

/-- The client looks at its call. -/
def poll (s : System) : System :=
  match s.call with
  | some call =>
    let (call, exchange) := call.poll s.session.exchange s.now
    { s with session := { s.session with exchange }, call := some call }
  | none => s

/-- The system after one turn. -/
def step (s : System) : Turn → System
  | .pass time => { s with now := s.now + time }
  | .begin => s.beginNext
  | .reply reply => { s with session := s.session.resume s.now reply }
  | .yield => { s with session := s.session.yield }
  | .notify =>
    { s with session := { s.session with exchange := s.session.exchange.notifyDisconnect s.now } }
  | .dispatch => s.dispatchNext
  | .publish topic payload => s.publish topic payload
  | .poll => s.poll

/-- The system after a list of turns. -/
def run (s : System) (turns : List Turn) : System := turns.foldl step s

/-- No turn changes nothing. -/
@[simp] theorem run_nil (s : System) : s.run [] = s := rfl

/-- The first turn comes first. -/
@[simp] theorem run_cons (s : System) (turn : Turn) (turns : List Turn) :
    s.run (turn :: turns) = (s.step turn).run turns := rfl

/-- What holds after a run can be carried on from there. -/
theorem run_append (s : System) (turns turns' : List Turn) :
    s.run (turns ++ turns') = (s.run turns).run turns' := List.foldl_append

/-- A publish while no call is under way. -/
theorem step_publish {s : System} (h : s.isBusy = false) (topic : String) (payload : List UInt8) :
    s.step (.publish topic payload) =
      let y := s.client.publish s.session.exchange s.now topic payload
      { s with
        session := { s.session with exchange := y.2.2 }
        client := y.2.1
        call := some y.1 } := by
  rw [step, publish, h]
  rfl

/-- A look at a call. -/
theorem step_poll {s : System} {call : PublishCall} (h : s.call = some call) :
    s.step .poll =
      let y := call.poll s.session.exchange s.now
      { s with session := { s.session with exchange := y.2 }, call := some y.1 } := by
  rw [step, poll, h]

/-- The client makes its calls one after the other. -/
theorem step_publish_busy {s : System} (h : s.isBusy = true) (topic : String)
    (payload : List UInt8) : s.step (.publish topic payload) = s := by
  rw [step, publish, if_pos h]

/-- Without a call there is nothing to look at. -/
theorem step_poll_none {s : System} (h : s.call = none) : s.step .poll = s := by
  rw [step, poll, h]

/-- A turn of the other tasks reaches the session through the shared state only, and changes it by
steps of `Beside`. -/
theorem step_beside (s : System) {turn : Turn} (h : ofSession turn = false) :
    ∃ exchange, Beside s.now s.session.exchange exchange ∧
      (s.step turn).session = { s.session with exchange } := by
  cases turn with
  | pass time => exact ⟨s.session.exchange, .refl, rfl⟩
  | notify => exact ⟨_, .notify .refl, rfl⟩
  | dispatch =>
    rw [step, dispatchNext]
    split
    · rename_i message exchange hnext
      exact ⟨exchange, .dispatch hnext .refl, rfl⟩
    · exact ⟨s.session.exchange, .refl, rfl⟩
  | publish topic payload =>
    rw [step, publish]
    split
    · exact ⟨s.session.exchange, .refl, rfl⟩
    · exact ⟨_, publish_beside s.client _ topic payload, rfl⟩
  | poll =>
    rw [step, poll]
    split
    · rename_i call hcall
      exact ⟨_, poll_beside _ call, rfl⟩
    · exact ⟨s.session.exchange, .refl, rfl⟩
  | _ => cases h

/-- What such a turn means for the session. -/
theorem step_aside (s : System) {turn : Turn} (h : ofSession turn = false) :
    ∃ exchange, Aside s.session.exchange exchange ∧
      (s.step turn).session = { s.session with exchange } := by
  obtain ⟨exchange, hbeside, heq⟩ := s.step_beside h
  exact ⟨exchange, hbeside.aside, heq⟩

/-- The three ways in which the session changes: by a path of moves, by what the other tasks do to
the shared state, or by `yield`. Whatever is proved of a turn is proved of these three. -/
theorem step_changes (s : System) (turn : Turn) :
    Path s.now .waiting s.session .waiting (s.step turn).session ∨
    (∃ exchange, Beside s.now s.session.exchange exchange ∧
      (s.step turn).session = { s.session with exchange }) ∨
    (s.step turn).session = s.session.yield := by
  cases turn with
  | begin =>
    refine .inl ?_
    rw [step, beginNext]
    split
    · rename_i action h
      exact begin_path h
    · exact .refl
  | reply reply => exact .inl (resume_path s.session reply)
  | yield => exact .inr (.inr rfl)
  | _ => exact .inr (.inl (s.step_beside rfl))

/-- The three ways in which the session changes, where it does not matter what it is that the other
tasks do. -/
theorem step_cases (s : System) (turn : Turn) :
    Path s.now .waiting s.session .waiting (s.step turn).session ∨
    (∃ exchange, Aside s.session.exchange exchange ∧
      (s.step turn).session = { s.session with exchange }) ∨
    (s.step turn).session = s.session.yield := by
  rcases s.step_changes turn with path | ⟨exchange, hbeside, heq⟩ | heq
  · exact .inl path
  · exact .inr (.inl ⟨exchange, hbeside.aside, heq⟩)
  · exact .inr (.inr heq)

/-- What every move at the present time keeps, whatever the other tasks do, is kept by a turn. So
it may be about the present time, as long as it bears that time goes by. -/
theorem step_keeps {P : Point → Session → Prop} (s : System)
    (move : ∀ {p q : Point} {t u : Session}, Move s.now p t q u → P p t → P q u)
    (aside : ∀ {t : Session} {exchange : Exchange}, Aside t.exchange exchange →
      P .waiting t → P .waiting { t with exchange })
    (yield : ∀ {t : Session}, P .waiting t → P .waiting t.yield) (turn : Turn)
    (h : P .waiting s.session) : P .waiting (s.step turn).session := by
  rcases s.step_cases turn with path | ⟨exchange, haside, heq⟩ | heq
  · exact path.invariant move h
  · rw [heq]
    exact aside haside h
  · rw [heq]
    exact yield h

/-- What the start establishes and every move keeps, and everything that the other tasks do,
holds in every run. -/
theorem invariant_beside {P : Point → Session → Prop} {config : SessionConfig}
    {ackTimeout now : Micros}
    (start : P .waiting ((Session.new config {}).start now))
    (move : ∀ {now : Micros} {p q : Point} {s t : Session}, Move now p s q t → P p s → P q t)
    (beside : ∀ {now : Micros} {s : Session} {exchange : Exchange},
      Beside now s.exchange exchange → P .waiting s → P .waiting { s with exchange })
    (yield : ∀ {s : Session}, P .waiting s → P .waiting s.yield) (turns : List Turn) :
    P .waiting ((boot config ackTimeout now).run turns).session := by
  -- Over every system, since the turns that remain begin wherever the first one leads.
  suffices h : ∀ s : System, P .waiting s.session → P .waiting (s.run turns).session from
    h _ start
  induction turns with
  | nil => intro s h; exact h
  | cons turn turns ih =>
    intro s h
    refine ih (s.step turn) ?_
    rcases s.step_changes turn with path | ⟨exchange, hbeside, heq⟩ | heq
    · exact path.invariant move h
    · rw [heq]
      exact beside hbeside h
    · rw [heq]
      exact yield h

/-- What the start establishes and every move keeps, whatever the other tasks do, holds in
every run. -/
theorem invariant {P : Point → Session → Prop} {config : SessionConfig} {ackTimeout now : Micros}
    (start : P .waiting ((Session.new config {}).start now))
    (move : ∀ {now : Micros} {p q : Point} {s t : Session}, Move now p s q t → P p s → P q t)
    (aside : ∀ {s : Session} {exchange : Exchange}, Aside s.exchange exchange →
      P .waiting s → P .waiting { s with exchange })
    (yield : ∀ {s : Session}, P .waiting s → P .waiting s.yield) (turns : List Turn) :
    P .waiting ((boot config ackTimeout now).run turns).session :=
  invariant_beside start move (fun hbeside => aside hbeside.aside) yield turns

end System

/-! ### An open session -/

/-- A broker with a dotted address, and no topics. -/
def plainConfig : SessionConfig := { host := "10.0.0.1", port := 1883 }

/-- The turns that open a session for `plainConfig`, up to the first wait for a packet. -/
def opening : List Turn :=
  [.begin, .begin, .reply (.dialed true), .reply (.written true),
    .reply (.received (some [0x20, 2, 0, 0])), .begin, .begin]

example : ((System.boot plainConfig (seconds 4) 0).run opening).session.exchange.connected = true :=
  by decide +kernel

end WeatherStation.Proofs.Mqtt
