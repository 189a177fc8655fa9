import WeatherStation.Proofs.Mqtt.Acknowledgement
import WeatherStation.Proofs.Mqtt.Clock
import WeatherStation.Proofs.Mqtt.OpenFlag

/-!
# `WeatherStation.Proofs.Mqtt.Notice`: no report of a lost network is missed

The link layer may report at any time that the network is gone. The report is kept in a flag,
which the session clears when it begins to connect and looks at when it begins a poll round.
`noticed` reads from the journal whether a report has come since the last connect action began.

* `noticed_run`: the flag and `noticed` agree whenever the other tasks have their turn.
* `opens_run`: with the flag of the open session up, the last connect action in the journal is
  the one that opened the session (`Passed`).
* `farewell_run`: a poll round that begins with a report writes one DISCONNECT and ends.

`notice_law` puts them together.
-/

set_option autoImplicit false

namespace WeatherStation.Proofs.Mqtt

open WeatherStation.Mqtt

/-! ### Reports -/

/-- Whether the network was reported as gone since the last connect action began. A report from
before is of another network, and the session forgets it. -/
def noticed : List Entry → Bool
  | [] => false
  | e :: past =>
    match e.what with
    | .notified => true
    | .began .connect => false
    | _ => noticed past

/-- What the flag for reports holds at a point. A connect action clears it right after it has
begun. -/
def Kept (s : Session) : Point → Prop
  | .running .connect => noticed s.exchange.journal = false
  | .sending _ _ otherwise =>
    s.exchange.disconnectPending = noticed s.exchange.journal ∧ Kept s otherwise
  | _ => s.exchange.disconnectPending = noticed s.exchange.journal

section
variable {now : Micros} {p q : Point} {s t : Session}

/-- Every move keeps it. The flag is looked at by some moves but changed by the beginning of a
connect action only. -/
theorem Move.kept (move : Move now p s q t) (h : Kept s p) : Kept t q := by
  cases move with
  | @begin _ action hphase =>
    cases action with
    | connect => rfl
    | _ => exact h
  | connectNowhere hnone => exact h.symm
  | connectDial hremote => exact h.symm
  | apply hframe hpacket =>
    obtain ⟨packet, hjournal, -⟩ := interpret_eq hpacket
    have hpending := interpret_pending hpacket
    show _ = noticed _
    rw [hjournal]
    exact hpending.trans h
  | send hfits => exact h.1
  | sendNot hnone => exact h.2
  | _ => first
    | exact h
    | exact ⟨h, h⟩

/-- At the start there is no report and the flag is down. -/
theorem kept_start (config : SessionConfig) (now : Micros) :
    Kept ((Session.new config {}).start now) .waiting := rfl

/-- The others add reports and begin no connect action, so a report among what they add counts at
once. -/
theorem noticed_aside {noted past : List Entry} (h : ∀ e ∈ noted, bySession e.what = false) :
    noticed (noted ++ past) = (noted.any (fun e => notifies e.what) || noticed past) := by
  induction noted with
  | nil => rfl
  | cons e noted ih =>
    have hrest := ih fun x hx => h x (List.mem_cons_of_mem e hx)
    have he := h e List.mem_cons_self
    obtain ⟨time, what⟩ := e
    rw [List.cons_append, List.any_cons]
    cases what with
    | notified => rfl
    | began action => cases he
    | _ => exact hrest

/-- The other tasks raise the flag with a report and leave it alone otherwise. -/
theorem Kept.aside {exchange : Exchange} (haside : Aside s.exchange exchange)
    (h : Kept s .waiting) : Kept { s with exchange } .waiting := by
  obtain ⟨noted, hjournal, hother, -, hpending⟩ := haside
  have hkept : s.exchange.disconnectPending = noticed s.exchange.journal := h
  show exchange.disconnectPending = noticed exchange.journal
  rw [hjournal, noticed_aside hother, ← hkept, hpending]

/-- A session that gives way has not moved. -/
theorem Kept.yield (h : Kept s .waiting) : Kept s.yield .waiting := by
  show s.yield.exchange.disconnectPending = noticed s.yield.exchange.journal
  rw [yield_exchange]
  exact h

/-- In every run, whenever the other tasks have their turn, the flag is up exactly when a report
has come since the last connect action began. -/
theorem noticed_run (config : SessionConfig) (ackTimeout now : Micros) (turns : List Turn) :
    Kept ((System.boot config ackTimeout now).run turns).session .waiting :=
  System.invariant (P := fun p s => Kept s p) (kept_start config now) Move.kept Kept.aside
    Kept.yield turns

end

/-! ### The connect action of an open session -/

/-- Since the last connect action began these things have happened, newest first. Others may have
happened in between. -/
def Passed (marks : List Happening) (past : List Entry) : Prop :=
  ∃ since time before,
    past = since ++ ⟨time, .began .connect⟩ :: before ∧
      (∀ e ∈ since, e.what ≠ .began .connect) ∧ marks.Sublist (since.map Entry.what)

namespace Passed

section
variable {marks : List Happening} {past : List Entry}

/-- A connect action has just begun. -/
theorem start (time : Micros) (past : List Entry) :
    Passed [] (⟨time, .began .connect⟩ :: past) := ⟨[], time, past, rfl, by simp, .slnil⟩

/-- Anything but another connect action may follow. -/
theorem append (h : Passed marks past) (noted : List Entry)
    (hnoted : ∀ e ∈ noted, e.what ≠ .began .connect) : Passed marks (noted ++ past) := by
  obtain ⟨since, time, before, rfl, hfirst, hmarks⟩ := h
  refine ⟨noted ++ since, time, before, by rw [List.append_assoc], ?_, ?_⟩
  · intro e he
    rcases List.mem_append.mp he with he | he
    · exact hnoted e he
    · exact hfirst e he
  · rw [List.map_append]
    exact hmarks.trans (List.sublist_append_right _ _)

/-- The end of an action is one more mark. -/
theorem ended (h : Passed marks past) (time : Micros) (event : Event) :
    Passed (.ended event :: marks) (⟨time, .ended event⟩ :: past) := by
  obtain ⟨since, time', before, rfl, hfirst, hmarks⟩ := h
  exact ⟨⟨time, .ended event⟩ :: since, time', before, rfl,
    List.forall_mem_cons.mpr ⟨Happening.noConfusion, hfirst⟩, hmarks.cons_cons _⟩

end

end Passed

/-- What the session has behind it at a point. A connect action has begun before anything goes
over a wire that is not ashore, the broker has let the session in before it subscribes, and the
flag goes up with the end of the subscription. -/
structure Opens (p : Point) (s : Session) : Prop where
  connect : p = .running .connect → Passed [] s.exchange.journal
  connecting :
    s.state = .connectBroker → (wire s.exchange.journal).Ashore ∨ Passed [] s.exchange.journal
  subscribing : s.state = .subscribe → Passed [.ended .brokerConnected] s.exchange.journal
  opened : s.exchange.connected = true →
    p = .ending .subscribed ∨
      Passed [.ended .subscribed, .ended .brokerConnected] s.exchange.journal

section
variable {now : Micros} {p q : Point} {s t : Session}

/-- Neither the beginning of a connect action nor a dial. -/
def Keeps (what : Happening) : Prop := what ≠ .began .connect ∧ dials what = false

/-- What notes nothing of that kind, leaves the state alone and raises no flag keeps it. -/
theorem Opens.keep (h : Opens p s) (noted : List Entry)
    (hjournal : t.exchange.journal = noted ++ s.exchange.journal)
    (hnoted : ∀ e ∈ noted, Keeps e.what) (horderly : Orderly t.exchange.journal)
    (hstate : t.state = s.state)
    (hflag : t.exchange.connected = true → s.exchange.connected = true)
    (hp : p ≠ .ending .subscribed) (hq : q ≠ .running .connect) : Opens q t := by
  rw [hjournal] at horderly
  constructor
  · exact fun hconnect => absurd hconnect hq
  · rw [hstate, hjournal]
    exact fun hbroker => (h.connecting hbroker).imp
      (ashore_append horderly fun e he => (hnoted e he).2)
      (·.append noted fun e he => (hnoted e he).1)
  · rw [hstate, hjournal]
    exact fun hsubscribe => (h.subscribing hsubscribe).append noted fun e he => (hnoted e he).1
  · rw [hjournal]
    exact fun hopen => .inr (((h.opened (hflag hopen)).resolve_left hp).append noted
      fun e he => (hnoted e he).1)

/-- Where the machine can come from when the end of an action leads to a connect action or to a
subscription. -/
theorem origin_of_finish (now : Micros) {w : Wire} {event : Event}
    (hexpected : Expected w s.state event) :
    ((s.finish now event).state = .connectBroker → w = .down) ∧
      ((s.finish now event).state = .subscribe →
        s.state = .subscribe ∨ s.state = .connectBroker ∧ event = .brokerConnected ∧ w = .up) := by
  obtain ⟨config, ⟨policy, state, previous, failures⟩, inbound, broker, nextPing, subscribeId,
    inFlight, phase, exchange⟩ := s
  show ((transition policy state failures event).state = .connectBroker → w = .down) ∧
    ((transition policy state failures event).state = .subscribe →
      state = .subscribe ∨ state = .connectBroker ∧ event = .brokerConnected ∧ w = .up)
  refine ⟨fun hnext => ?_, fun hnext => ?_⟩
  · cases state <;> cases event <;> first
      | exact hexpected.elim
      | exact hexpected
      | (simp [transition] at hnext)
    -- A failure that counts leads to another attempt or to the start.
    split at hnext <;> cases hnext
  · cases state <;> cases event <;> first
      | exact hexpected.elim
      | exact .inl rfl
      | exact .inr ⟨rfl, rfl, hexpected⟩
      | (simp [transition] at hnext)
    split at hnext <;> cases hnext

/-- The end of an action. The machine comes to a connect action with the link down, and to a
subscription from the end of a connect action that has let the session in, or from another
subscription. -/
theorem opens_finish {event : Event} (hexpected : Expected (wire s.exchange.journal) s.state event)
    (h : Opens (.ending event) s) : Opens .waiting (s.finish now event) := by
  obtain ⟨hbroker, hsubscribe⟩ := origin_of_finish now hexpected
  constructor
  · exact nofun
  · intro hstate
    have hdown : wire s.exchange.journal = .down := hbroker hstate
    refine .inl ?_
    show (wire s.exchange.journal).Ashore
    rw [hdown]
    trivial
  · intro hstate
    rcases hsubscribe hstate with hbefore | ⟨hbefore, rfl, hup⟩
    · exact (h.subscribing hbefore).append [_] (by simp)
    · -- The wire is up, so the connect action has begun.
      refine Passed.ended ((h.connecting hbefore).resolve_left ?_) now _
      rw [hup]
      exact id
  · intro hopen
    refine .inr ?_
    rcases h.opened hopen with hending | hpassed
    · obtain rfl := Point.ending.inj hending
      refine Passed.ended (h.subscribing ?_) now _
      cases hstate : s.state with
      | subscribe => rfl
      | _ =>
        rw [hstate] at hexpected
        exact hexpected.elim
    · exact hpassed.append [_] (by simp)

/-- Every move keeps it. What makes a difference is the beginning of a connect action, a dial, the
end of an action and the raising of the flag; all other moves are `Opens.keep`. -/
theorem Move.opens (move : Move now p s q t) (hcontrolled : Controlled p s) (hflagged : Flagged s p)
    (h : Opens p s) : Opens q t := by
  have horderly : Orderly t.exchange.journal := (move.controlled hcontrolled).1
  obtain ⟨-, hstands⟩ := hcontrolled
  cases move with
  | @begin _ action hphase =>
    cases action with
    | connect =>
      -- No session is open, so the flag is down.
      have hagrees : Agrees s := hflagged.resolve_left (by simp [hphase])
      rw [Stands, StandsWaiting, hphase] at hstands
      have hstate : s.state = .connectBroker := (ready_cases hstands).1
      have hclosed : s.exchange.connected = false := by
        rw [hagrees, Connection.isConnected, show s.connection.state = .connectBroker from hstate]
        rfl
      refine ⟨fun _ => .start _ _, fun _ => .inr (.start _ _), ?_, ?_⟩
      · exact fun hsubscribe => absurd (hstate.symm.trans hsubscribe) (by simp)
      · exact fun hopen => absurd (hclosed.symm.trans hopen) (by simp)
    | _ => exact h.keep [_] rfl (by simp [Keeps, dials]) horderly rfl id (by simp) (by simp)
  | connectNowhere hnone =>
    have hstate : s.state = .connectBroker := (ready_cases hstands).1
    refine ⟨by simp, fun _ => .inr (h.connect rfl), ?_, by simp [resetFlags]⟩
    exact fun hsubscribe => absurd (hstate.symm.trans hsubscribe) (by simp)
  | connectDial hremote =>
    have hstate : s.state = .connectBroker := (ready_cases hstands).1
    refine ⟨by simp, fun _ => .inr ((h.connect rfl).append [_] (by simp)), ?_, ?_⟩
    · exact fun hsubscribe => absurd (hstate.symm.trans hsubscribe) (by simp)
    · exact fun hopen => absurd hopen Bool.false_ne_true
  | subscribeNothing htopics =>
    exact ⟨by simp, h.connecting, h.subscribing, fun _ => .inl rfl⟩
  | grantSuback hreply hverdict =>
    exact ⟨by simp, h.connecting, h.subscribing, fun _ => .inl rfl⟩
  | apply hframe hpacket =>
    obtain ⟨packet, hjournal, -⟩ := interpret_eq hpacket
    refine h.keep [_, _] hjournal (by simp [Keeps, dials]) horderly rfl ?_ (by simp) (by simp)
    exact (interpret_frame hpacket).1.symm.trans
  | sendNot hnone =>
    refine h.keep [] rfl (by simp) horderly rfl id (by simp) ?_
    -- The wire is up, so it is no connect action that comes instead.
    rintro rfl
    obtain ⟨hup, -, hready⟩ := hstands
    have hdown : wire s.exchange.journal = .down := (ready_cases hready).2
    rw [hup] at hdown
    cases hdown
  | finish => exact opens_finish hstands h
  | teardown =>
    refine h.keep [_] rfl (by simp [Keeps, dials]) horderly rfl ?_ (by simp) (by simp)
    exact fun hopen => absurd hopen Bool.false_ne_true
  | backoff => exact (ready_cases hstands).elim
  | requested hphase hrequest =>
    exact h.keep [_, _] rfl (by simp [Keeps, dials]) horderly rfl id (by simp) (by simp)
  | skip hframe hpacket hfault =>
    exact h.keep [_, _] rfl (by simp [Keeps, dials]) horderly rfl id (by simp) (by simp)
  | _ => first
    | exact h.keep [] rfl (by simp) horderly rfl id (by simp) (by simp)
    | exact h.keep [_] rfl (by simp [Keeps, dials]) horderly rfl id (by simp) (by simp)

/-- At the start the session is not open and nothing was let in. -/
theorem opens_start (config : SessionConfig) (now : Micros) :
    Opens .waiting ((Session.new config {}).start now) := ⟨nofun, nofun, nofun, nofun⟩

/-- The others begin no action and do not dial. -/
theorem keeps_of_aside {what : Happening} (h : bySession what = false) : Keeps what := by
  cases what <;> first
    | exact ⟨Happening.noConfusion, rfl⟩
    | cases h

/-- What the other tasks do keeps what the session has behind it. -/
theorem Opens.aside {exchange : Exchange} (haside : Aside s.exchange exchange)
    (hcontrolled : Controlled .waiting s) (h : Opens .waiting s) :
    Opens .waiting { s with exchange } := by
  have horderly : Orderly exchange.journal := (hcontrolled.aside haside).1
  obtain ⟨noted, hjournal, hother, hflag, -⟩ := haside
  exact h.keep noted hjournal (fun e he => keeps_of_aside (hother e he)) horderly rfl
    hflag.symm.trans (by simp) (by simp)

/-- A session that gives way has the same behind it. -/
theorem Opens.yield (hcontrolled : Controlled .waiting s) (h : Opens .waiting s) :
    Opens .waiting s.yield := by
  have hflag : s.yield.exchange.connected = s.exchange.connected := by rw [yield_exchange]
  exact h.keep [] (by rw [yield_exchange]; rfl) (by simp) hcontrolled.yield.1 (yield_frame s).2
    hflag.symm.trans (by simp) (by simp)

/-- In every run an open session has behind it the connect action that has let it in, and no connect
action has begun since. -/
theorem opens_run (config : SessionConfig) (ackTimeout now : Micros) (turns : List Turn) :
    Opens .waiting ((System.boot config ackTimeout now).run turns).session := by
  have hall : (Controlled .waiting ((System.boot config ackTimeout now).run turns).session ∧
      Flagged ((System.boot config ackTimeout now).run turns).session .waiting) ∧
      Opens .waiting ((System.boot config ackTimeout now).run turns).session :=
    System.invariant (P := fun p s => (Controlled p s ∧ Flagged s p) ∧ Opens p s)
      ⟨⟨controlled_start config now, flagged_start config now⟩, opens_start config now⟩
      (fun move h =>
        ⟨⟨move.controlled h.1.1, move.flagged h.1.1 h.1.2⟩, move.opens h.1.1 h.1.2 h.2⟩)
      (fun haside h => ⟨⟨h.1.1.aside haside, h.1.2.aside haside⟩, h.2.aside haside h.1.1⟩)
      (fun h => ⟨⟨h.1.1.yield, h.1.2.yield⟩, h.2.yield h.1.1⟩) turns
  exact hall.2

end

/-! ### A poll round with a report -/

/-- What the session noted between two moments of a run, oldest first. -/
def ownBetween (s t : System) : List Happening :=
  ((since s t).reverse.map Entry.what).filter bySession

/-- The bytes of a DISCONNECT. -/
def farewell : List UInt8 := Packet.disconnect.encode

/-- A DISCONNECT always fits the outbound buffer, so a round with a report always has something to
write. -/
theorem encodeWithin_disconnect :
    Packet.disconnect.encodeWithin outboundCapacity = some farewell := by
  have hbytes : Packet.disconnect.encode = [(0xE0 : UInt8), 0] := by
    rw [Packet.encode, RemainingLength.encode]
    rfl
  refine encodeWithin_of_le (Option.some_ne_none (0 : UInt16)).symm ?_
  rw [hbytes]
  exact (by decide : 2 ≤ 1024)

section
variable {s t u : System}

/-- What was noted between two moments is what the journal has grown by. -/
theorem ownBetween_eq {noted : List Entry} (h : t.journal = noted ++ s.journal) :
    ownBetween s t = (noted.reverse.map Entry.what).filter bySession := by
  rw [ownBetween, since_eq h]

/-- One stretch of a run after another. -/
theorem ownBetween_append (first : s.journal <:+ t.journal) (second : t.journal <:+ u.journal) :
    ownBetween s u = ownBetween s t ++ ownBetween t u := by
  obtain ⟨noted, hnoted⟩ := first
  obtain ⟨noted', hnoted'⟩ := second
  have hboth : u.journal = (noted' ++ noted) ++ s.journal := by
    rw [← hnoted', ← hnoted, List.append_assoc]
  rw [ownBetween_eq hboth, ownBetween_eq hnoted.symm, ownBetween_eq hnoted'.symm,
    List.reverse_append, List.map_append, List.filter_append]

/-- The round has begun and waits for the end of its write. -/
def Leaving (s t : System) : Prop :=
  t.session.phase = .writing farewell .farewell ∧
    ownBetween s t = [.began .poll, .asked (.write farewell)]

/-- What a round with a report consists of. -/
def farewellRound (ok : Bool) : List Happening :=
  [.began .poll, .asked (.write farewell), .answered (.write farewell) (.written ok),
    .ended .linkLost]

/-- A poll round that begins with a report writes its DISCONNECT first. -/
theorem leaving_begin (hphase : s.session.phase = .idle .poll)
    (hpending : s.session.exchange.disconnectPending = true) : Leaving s (s.step .begin) := by
  have hsession : (s.step .begin).session =
      (s.session.note s.now (.began .poll)).await s.now (.writing farewell .farewell) := by
    rw [System.step, System.beginNext, hphase]
    have hflag : (s.session.note s.now (.began .poll)).exchange.disconnectPending = true := hpending
    show Session.beginPoll _ _ = _
    rw [Session.beginPoll, if_pos hflag, Session.write, encodeWithin_disconnect]
  refine ⟨by rw [hsession]; rfl, ?_⟩
  have hjournal : (s.step .begin).journal =
      [⟨s.now, .asked (.write farewell)⟩, ⟨s.now, .began .poll⟩] ++ s.journal := by
    rw [System.journal, hsession]
    rfl
  rw [ownBetween_eq hjournal]
  rfl

/-- While the session waits for the end of a write, only that end makes it go on. -/
theorem step_of_writing {bytes : List UInt8} {errand : Errand}
    (hphase : s.session.phase = .writing bytes errand) (turn : Turn)
    (hturn : ∀ ok, turn ≠ .reply (.written ok)) :
    ∃ exchange, Aside s.session.exchange exchange ∧
      (s.step turn).session = { s.session with exchange } := by
  cases turn with
  | begin =>
    refine ⟨s.session.exchange, .refl _, ?_⟩
    rw [System.step, System.beginNext, hphase]
  | yield =>
    refine ⟨s.session.exchange, .refl _, ?_⟩
    show s.session.yield = s.session
    rw [Session.yield, hphase]
  | reply reply =>
    refine ⟨s.session.exchange, .refl _, ?_⟩
    show s.session.resume s.now reply = s.session
    rw [Session.resume.eq_def, hphase]
    cases reply with
    | written ok => exact absurd rfl (hturn ok)
    | _ => rfl
  | _ => exact s.step_aside rfl

/-- The round ends with the write, whatever becomes of it. -/
theorem ownBetween_written (hphase : s.session.phase = .writing farewell .farewell) (ok : Bool) :
    ownBetween s (s.step (.reply (.written ok))) =
      [.answered (.write farewell) (.written ok), .ended .linkLost] := by
  have hsession : (s.step (.reply (.written ok))).session =
      (s.session.note s.now (.answered (.write farewell) (.written ok))).finish s.now
        .linkLost := by
    show s.session.resume s.now (.written ok) = _
    rw [Session.resume.eq_def, noteAnswered_eq (by rw [Session.call?, hphase])]
    simp only [hphase]
    rfl
  have hjournal : (s.step (.reply (.written ok))).journal =
      [⟨s.now, .ended .linkLost⟩, ⟨s.now, .answered (.write farewell) (.written ok)⟩] ++
        s.journal := by
    rw [System.journal, hsession]
    rfl
  rw [ownBetween_eq hjournal]
  rfl

/-- In any turn the round goes on waiting, or it ends. -/
theorem leaving_step (first : s.journal <:+ t.journal) (h : Leaving s t) (turn : Turn) :
    Leaving s (t.step turn) ∨ ∃ ok, ownBetween s (t.step turn) = farewellRound ok := by
  obtain ⟨hphase, hown⟩ := h
  have hsplit := ownBetween_append first (step_suffix t turn)
  by_cases hturn : ∃ ok, turn = .reply (.written ok)
  · obtain ⟨ok, rfl⟩ := hturn
    exact .inr ⟨ok, by rw [hsplit, hown, ownBetween_written hphase]; rfl⟩
  · obtain ⟨exchange, ⟨noted, hjournal, hother, -⟩, heq⟩ :=
      step_of_writing hphase turn fun ok hok => hturn ⟨ok, hok⟩
    have hgrown : (t.step turn).journal = noted ++ t.journal := by
      rw [System.journal, heq]
      exact hjournal
    -- What the others noted is not the session's own.
    have hnone : ownBetween t (t.step turn) = [] := by
      rw [ownBetween_eq hgrown, List.filter_eq_nil_iff]
      intro what hwhat
      obtain ⟨e, he, rfl⟩ := List.mem_map.mp hwhat
      simp [hother e (List.mem_reverse.mp he)]
    exact .inl ⟨by rw [heq]; exact hphase, by rw [hsplit, hnone, List.append_nil, hown]⟩

/-- Any number of turns later the round is still waiting, or it has ended. By induction on the
turns: the one in which it ends is the last that matters. -/
theorem leaving_run (turns : List Turn) :
    ∀ t, s.journal <:+ t.journal → Leaving s t →
      Leaving s (t.run turns) ∨ ∃ ok, farewellRound ok <+: ownBetween s (t.run turns) := by
  induction turns with
  | nil => exact fun t _ h => .inl h
  | cons turn turns ih =>
    intro t first h
    have second : s.journal <:+ (t.step turn).journal := first.trans (step_suffix t turn)
    rcases leaving_step first h turn with hwaits | ⟨ok, hended⟩
    · exact ih (t.step turn) second hwaits
    · -- What comes after the round comes behind it.
      refine .inr ⟨ok, ?_⟩
      rw [System.run_cons, ownBetween_append second (run_suffix turns _), hended]
      exact List.prefix_append _ _

end

/-! ### Every run -/

/-- Without a report since the last connect action there is none among what has happened since. -/
theorem ne_notified_of_noticed {since before : List Entry} {time : Micros}
    (hfirst : ∀ e ∈ since, e.what ≠ .began .connect)
    (h : noticed (since ++ ⟨time, .began .connect⟩ :: before) = false) :
    ∀ e ∈ since, e.what ≠ .notified := by
  induction since with
  | nil => simp
  | cons e since ih =>
    have hrest := ih fun x hx => hfirst x (List.mem_cons_of_mem e hx)
    have he := hfirst e List.mem_cons_self
    obtain ⟨time', what⟩ := e
    cases what with
    | notified => cases h
    | began action =>
      cases action with
      | connect => exact absurd rfl he
      | _ => exact List.forall_mem_cons.mpr ⟨Happening.noConfusion, hrest h⟩
    | _ => exact List.forall_mem_cons.mpr ⟨Happening.noConfusion, hrest h⟩

/-- Only an open session without a report admits a publish. -/
theorem open_of_admitted {s : System} (hfree : s.isBusy = false) {topic : String}
    {payload : List UInt8}
    (h : (s.step (.publish topic payload)).call ≠ some (.settled (.error .notConnected))) :
    s.session.exchange.connected = true ∧ s.session.exchange.disconnectPending = false := by
  rw [System.step_publish hfree] at h
  cases hopen : !s.session.exchange.connected || s.session.exchange.disconnectPending with
  | true =>
    rw [Client.publish, if_pos hopen] at h
    exact absurd rfl h
  | false => simpa using hopen

/-- In every run, whatever the link layer reports and when:

1. Between two turns the flag for reports is up exactly when one has come since the last connect
   action began.
2. A publish is admitted only if no report has come since the last connect action began, and that
   action is the one that opened the session: the broker has let it in and confirmed the topics
   since.
3. A poll round that begins with a report writes one DISCONNECT and nothing else and takes no
   request. It ends with the end of that write, and as a lost connection. -/
theorem notice_law (config : SessionConfig) (ackTimeout now : Micros) (turns : List Turn) :
    let s := (System.boot config ackTimeout now).run turns
    s.session.exchange.disconnectPending = noticed s.journal ∧
    (∀ topic payload, s.isBusy = false →
      (s.step (.publish topic payload)).call ≠ some (.settled (.error .notConnected)) →
        ∃ since time before,
          s.journal = since ++ ⟨time, .began .connect⟩ :: before ∧
            (∀ e ∈ since, e.what ≠ .began .connect ∧ e.what ≠ .notified) ∧
            [.ended .subscribed, .ended .brokerConnected].Sublist (since.map Entry.what)) ∧
    (s.session.phase = .idle .poll → s.session.exchange.disconnectPending = true →
      ∀ later,
        let t := (s.step .begin).run later
        (t.session.phase = .writing farewell .farewell ∧
          ownBetween s t = [.began .poll, .asked (.write farewell)] ∧
          ∀ ok, ownBetween s (t.step (.reply (.written ok))) = farewellRound ok) ∨
        ∃ ok, farewellRound ok <+: ownBetween s t) := by
  intro s
  have hkept : s.session.exchange.disconnectPending = noticed s.journal :=
    noticed_run config ackTimeout now turns
  refine ⟨hkept, ?_, ?_⟩
  · -- A publish is admitted with the flag of the session up and that of the report down.
    intro topic payload hfree hadmitted
    obtain ⟨hopen, hclear⟩ := open_of_admitted hfree hadmitted
    obtain ⟨since, time, before, hjournal, hfirst, hmarks⟩ :=
      ((opens_run config ackTimeout now turns).opened hopen).resolve_left (by simp)
    have hquiet : noticed (since ++ ⟨time, .began .connect⟩ :: before) = false := by
      rw [← hjournal]
      exact hkept.symm.trans hclear
    exact ⟨since, time, before, hjournal,
      fun e he => ⟨hfirst e he, ne_notified_of_noticed hfirst hquiet e he⟩, hmarks⟩
  · -- The round waits for its write, or it is over; in between nothing else is noted.
    intro hphase hpending later t
    have first : s.journal <:+ (s.step .begin).journal := step_suffix s .begin
    rcases leaving_run later (s.step .begin) first (leaving_begin hphase hpending) with
      ⟨hwrites, hown⟩ | hended
    · refine .inl ⟨hwrites, hown, fun ok => ?_⟩
      have second : s.journal <:+ t.journal := first.trans (run_suffix later _)
      rw [ownBetween_append second (step_suffix t _), hown, ownBetween_written hwrites]
      rfl
    · exact .inr hended

/-- A report that comes while the session waits for CONNACK. The session is opened all the same,
but it admits no publish, and its first poll round is to say farewell. -/
example :
    let s := (System.boot plainConfig (seconds 4) 0).run
      (opening.take 4 ++ [.notify] ++ (opening.drop 4).take 2)
    s.session.exchange.connected = true ∧ s.session.phase = .idle .poll ∧
      s.session.exchange.disconnectPending = true ∧
      (s.step (.publish "t" [])).call = some (.settled (.error .notConnected)) := by
  decide +kernel

end WeatherStation.Proofs.Mqtt
