import WeatherStation.Proofs.Mqtt.Clock
import WeatherStation.Proofs.Mqtt.Opening
import WeatherStation.Proofs.Mqtt.Upkeep

/-!
# `WeatherStation.Proofs.Mqtt.AckDeadline`: how late an answer opens a session

After CONNECT and after SUBSCRIBE the session waits for the answer of the broker, up to a time limit
that is fixed when the packet is written. Other packets may come first, and the PUBACK for one of
them has to be written before the session reads on. A write has no time limit. When the session
comes back from it too late, it still takes what the transport has ready, since it reads before it
looks at its timer. So an answer may be taken after the time limit, right at the end of the write of
a PUBACK, and there only.

`Obtained` says this of an answer and the journal before it. The runs are those in which the
session is not kept waiting behind its timer (`punctual`): time that goes by while the session reads
does not go past the time limit. `Waits` is what the session knows on the way, `Move.waits` is the
step, and `answers_obtained` the result for every such run.
-/

set_option autoImplicit false

namespace WeatherStation.Proofs.Mqtt

open WeatherStation.Mqtt

/-! ### Answers -/

/-- The bytes whose answer the session waits for. A poll round waits for none. -/
def question (config : SessionConfig) : Purpose → List UInt8
  | .connack => connectBytes config
  | .suback id => subscribeBytes config id
  | .poll => []

/-- How long the session waits. -/
def allowance (config : SessionConfig) : Purpose → Micros
  | .connack => config.timeouts.connack
  | .suback _ => config.timeouts.suback
  | .poll => config.timeouts.poll

/-- The packet is the answer that the session waits for. -/
def Answers : Purpose → Packet → Prop
  | .connack, .connack _ code => code = 0
  | .suback id, .suback confirmed codes => confirmed = id ∧ none ∉ codes
  | _, _ => False

/-- The writing of a PUBACK is over. -/
def receiptWritten (time : Micros) (id : UInt16) : Entry :=
  ⟨time, .answered (.write (Packet.puback id).encode) (.written true)⟩

/-- The question was written at `begun`, and `since` lists what happened from then on, all of it in
the same action. -/
def Span (config : SessionConfig) (purpose : Purpose) (begun : Micros) (since past : List Entry) :
    Prop :=
  (∃ before, past =
    since ++ ⟨begun, .answered (.write (question config purpose)) (.written true)⟩ :: before) ∧
  ∀ e ∈ since, ∀ action, e.what ≠ .began action

/-- It is not too late for an answer at this time, or a PUBACK has been written until just now. -/
def InTime (config : SessionConfig) (purpose : Purpose) (begun time : Micros)
    (since : List Entry) : Prop :=
  time ≤ begun + allowance config purpose ∨ ∃ id, receiptWritten time id ∈ since

/-- The answer was the last thing to be taken off the stream, at this time, and it was not too
late for it. -/
def Obtained (config : SessionConfig) (purpose : Purpose) (time : Micros) (past : List Entry) :
    Prop :=
  ∃ packet before begun since,
    past = ⟨time, .applied packet⟩ :: before ∧ Answers purpose packet ∧
      Span config purpose begun since before ∧ InTime config purpose begun time since

/-- A packet that reaches the purpose of a wait is the answer. -/
theorem answers_of_granted {x y : Exchange} {now : Micros} {packet : Packet} {received : Received}
    {purpose : Purpose} (happly : x.apply now packet = some (received, y))
    (hpurpose : purpose ≠ .poll) (hverdict : Session.verdict purpose received = .granted) :
    Answers purpose packet := by
  cases purpose with
  | connack =>
    obtain rfl := connack_of_granted hverdict
    obtain ⟨present, rfl⟩ := connack_of_apply happly
    rfl
  | suback id =>
    obtain rfl := suback_of_granted hverdict
    obtain ⟨codes, rfl, hcodes⟩ := suback_of_apply happly
    exact ⟨rfl, fun hnone => List.any_eq_false.mp hcodes none hnone rfl⟩
  | poll => exact absurd rfl hpurpose

/-! ### The wait -/

/-- The session waits for an answer until `due`. -/
def Expects (config : SessionConfig) (purpose : Purpose) (due : Micros) (past : List Entry) :
    Prop :=
  ∃ begun since, due = begun + allowance config purpose ∧ Span config purpose begun since past

/-- The same, and it is not too late for the answer. -/
def Timely (config : SessionConfig) (purpose : Purpose) (due now : Micros) (past : List Entry) :
    Prop :=
  ∃ begun since, due = begun + allowance config purpose ∧ Span config purpose begun since past ∧
    InTime config purpose begun now since

section
variable {config : SessionConfig} {purpose : Purpose} {begun due now : Micros}
  {since past : List Entry} {e : Entry}

/-- Whatever begins no action happens within the present one. -/
theorem Span.cons (h : Span config purpose begun since past)
    (he : ∀ action, e.what ≠ .began action) :
    Span config purpose begun (e :: since) (e :: past) := by
  obtain ⟨⟨before, rfl⟩, hsince⟩ := h
  exact ⟨⟨before, rfl⟩, List.forall_mem_cons.mpr ⟨he, hsince⟩⟩

/-- Whatever begins no action leaves what is expected as it is. -/
theorem Expects.cons (h : Expects config purpose due past)
    (he : ∀ action, e.what ≠ .began action) : Expects config purpose due (e :: past) := by
  obtain ⟨begun, since, hdue, hspan⟩ := h
  exact ⟨begun, _, hdue, hspan.cons he⟩

/-- An answer that was in time still is, as no time has gone by. -/
theorem Timely.cons (h : Timely config purpose due now past)
    (he : ∀ action, e.what ≠ .began action) : Timely config purpose due now (e :: past) := by
  obtain ⟨begun, since, hdue, hspan, hin⟩ := h
  refine ⟨begun, _, hdue, hspan.cons he, hin.imp_right ?_⟩
  rintro ⟨id, hid⟩
  exact ⟨id, List.mem_cons_of_mem e hid⟩

/-- What is in time is expected. -/
theorem Timely.expects (h : Timely config purpose due now past) :
    Expects config purpose due past := by
  obtain ⟨begun, since, hdue, hspan, -⟩ := h
  exact ⟨begun, since, hdue, hspan⟩

/-- The wait begins when the question is written. -/
theorem timely_asked :
    Timely config purpose (now + allowance config purpose) now
      (⟨now, .answered (.write (question config purpose)) (.written true)⟩ :: past) :=
  ⟨now, [], rfl, ⟨⟨past, rfl⟩, nofun⟩, .inl (Nat.le_add_right now _)⟩

/-- It goes on when a PUBACK is written, however long that took. -/
theorem Expects.resumes {id : UInt16} (h : Expects config purpose due past) :
    Timely config purpose due now (receiptWritten now id :: past) := by
  obtain ⟨begun, since, hdue, hspan⟩ := h
  exact ⟨begun, _, hdue, hspan.cons nofun, .inr ⟨id, List.mem_cons_self⟩⟩

/-- Up to the time limit it is in time at any time. -/
theorem Timely.later {later : Micros} (h : Timely config purpose due now past)
    (hlater : later ≤ due) : Timely config purpose due later past := by
  obtain ⟨begun, since, rfl, hspan, -⟩ := h
  exact ⟨begun, since, rfl, hspan, .inl hlater⟩

/-- The answer comes in time. -/
theorem Timely.obtained {packet : Packet} (h : Timely config purpose due now past)
    (hanswers : Answers purpose packet) :
    Obtained config purpose now (⟨now, .applied packet⟩ :: past) := by
  obtain ⟨begun, since, -, hspan, hin⟩ := h
  exact ⟨packet, past, begun, since, rfl, hanswers, hspan, hin⟩

end

/-! ### The session -/

/-- What a session knows that waits for the transport. -/
def WaitsIn (config : SessionConfig) (now : Micros) (past : List Entry) : Phase → Prop
  | .writing bytes (.puback id purpose due) =>
    bytes = (Packet.puback id).encode ∧ (purpose ≠ .poll → Expects config purpose due past)
  | .reading purpose timer => purpose ≠ .poll → Timely config purpose timer.due now past
  | _ => True

/-- What a session knows at a point about the answer that it waits for. -/
def Waits (config : SessionConfig) (now : Micros) (s : Session) : Point → Prop
  | .waiting => WaitsIn config now s.exchange.journal s.phase
  | .sending packet (.puback id purpose due) otherwise =>
    packet = .puback id ∧
      (purpose ≠ .poll → Expects config purpose due s.exchange.journal) ∧
      Waits config now s otherwise
  | .sending _ _ otherwise => Waits config now s otherwise
  | .scanning purpose timer =>
    purpose ≠ .poll → Timely config purpose timer.due now s.exchange.journal
  | .judging purpose timer received => purpose ≠ .poll →
    Timely config purpose timer.due now s.exchange.journal ∧
      (Session.verdict purpose received = .granted →
        Obtained config purpose now s.exchange.journal)
  | .ending .brokerConnected => Obtained config .connack now s.exchange.journal
  | .ending .subscribed =>
    config.topics ≠ [] → ∃ id, Obtained config (.suback id) now s.exchange.journal
  | _ => True

/-- What is to be said about the end of an action that has just come to an end. -/
def Rightful (config : SessionConfig) : List Entry → Prop
  | ⟨time, .ended .brokerConnected⟩ :: past => Obtained config .connack time past
  | ⟨time, .ended .subscribed⟩ :: past =>
    config.topics ≠ [] → ∃ id, Obtained config (.suback id) time past
  | _ => True

section
variable {config : SessionConfig} {now : Micros} {p q : Point} {s t : Session}

/-- Every move keeps it. -/
theorem Move.waits (move : Move now p s q t) (hconfig : s.config = config)
    (hprogress : Progress s p) (h : Waits config now s p) : Waits config now t q := by
  cases move with
  | subscribeNothing htopics =>
    subst hconfig
    exact fun hsome => absurd htopics hsome
  -- A wait begins.
  | writtenConnect hphase =>
    subst hconfig
    obtain ⟨rfl, -⟩ := ProgressWaiting.writing hprogress hphase
    exact fun _ => timely_asked
  | writtenSubscribe hphase =>
    subst hconfig
    obtain ⟨-, rfl, -⟩ := ProgressWaiting.writing hprogress hphase
    exact fun _ => timely_asked
  -- It goes on.
  | writtenPuback hphase hpurpose =>
    rw [Waits, hphase] at h
    obtain ⟨rfl, hexpects⟩ := h
    exact fun _ => (hexpects hpurpose).resumes
  | received hphase hbytes =>
    rw [Waits, hphase] at h
    exact fun hpurpose => (h hpurpose).cons nofun
  | hungry hframe => exact fun hpurpose => (h hpurpose).cons nofun
  | @skip _ _ _ n reader _ hframe hpacket hfault =>
    intro hpurpose
    have hframed := (h hpurpose).cons (e := ⟨now, .framed (reader.packet n)⟩) nofun
    exact hframed.cons nofun
  | pass hreply hverdict => exact fun hpurpose => (h hpurpose).1
  | acknowledge hreply => exact ⟨rfl, fun hpurpose => (h hpurpose).1.expects, trivial⟩
  | pollRead hpending hearly => exact fun hpurpose => absurd rfl hpurpose
  | writtenPing hphase => exact fun hpurpose => absurd rfl hpurpose
  -- It ends.
  | @apply _ _ _ n reader _ _ hframe hpacket =>
    obtain ⟨packet, applied, -, happly, rfl⟩ := interpret_ok hpacket
    obtain ⟨lastAlive, inbox, dropped, rfl⟩ := apply_eq happly
    intro hpurpose
    have hframed := (h hpurpose).cons (e := ⟨now, .framed (reader.packet n)⟩) nofun
    exact ⟨hframed.cons nofun,
      fun hverdict => hframed.obtained (answers_of_granted happly hpurpose hverdict)⟩
  | grantConnack hreply hverdict => exact (h Purpose.noConfusion).2 hverdict
  | @grantSuback _ _ _ id hreply hverdict =>
    exact fun _ => ⟨id, (h Purpose.noConfusion).2 hverdict⟩
  | @send _ packet errand _ bytes hfits =>
    obtain rfl := encodeWithin_eq hfits
    cases errand with
    | puback id purpose due =>
      obtain ⟨rfl, hexpects, -⟩ := h
      exact ⟨rfl, fun hpurpose => (hexpects hpurpose).cons nofun⟩
    | _ => trivial
  | @sendNot _ _ errand _ hnone =>
    cases errand with
    | puback id purpose due => exact h.2.2
    | _ => exact h
  -- Nothing has to be known at the other points.
  | _ => trivial

/-- Every move keeps it. The end of an action is as the point before it says. -/
theorem Move.rightful (move : Move now p s q t) (hwaits : Waits config now s p)
    (h : Always (Rightful config) s.exchange.journal) :
    Always (Rightful config) t.exchange.journal := by
  cases move with
  | @finish _ event =>
    cases event with
    | brokerConnected => exact ⟨hwaits, h⟩
    | subscribed => exact ⟨hwaits, h⟩
    | _ => exact ⟨trivial, h⟩
  | apply hframe hpacket =>
    obtain ⟨packet, hjournal, -⟩ := interpret_eq hpacket
    rw [hjournal]
    exact ⟨trivial, trivial, h⟩
  -- All others end no action.
  | _ => first
    | exact h
    | exact ⟨trivial, h⟩
    | exact ⟨trivial, trivial, h⟩

/-- The session waits on, whatever happens but the beginning of an action. -/
theorem WaitsIn.cons {past : List Entry} {phase : Phase} {e : Entry}
    (h : WaitsIn config now past phase) (he : ∀ action, e.what ≠ .began action) :
    WaitsIn config now (e :: past) phase := by
  cases phase with
  | reading purpose timer => exact fun hpurpose => (h hpurpose).cons he
  | writing bytes errand =>
    cases errand with
    | puback id purpose due => exact ⟨h.1, fun hpurpose => (h.2 hpurpose).cons he⟩
    | _ => trivial
  | _ => trivial

/-- A session that waits bears that time goes by, up to its time limit. -/
theorem WaitsIn.later {past : List Entry} {phase : Phase} {later : Micros}
    (h : WaitsIn config now past phase)
    (hlater : ∀ purpose timer, phase = .reading purpose timer → later = now ∨ later ≤ timer.due) :
    WaitsIn config later past phase := by
  cases phase with
  | reading purpose timer =>
    intro hpurpose
    rcases hlater purpose timer rfl with rfl | hdue
    · exact h hpurpose
    · exact (h hpurpose).later hdue
  | writing bytes errand =>
    cases errand with
    | puback id purpose due => exact h
    | _ => trivial
  | _ => trivial

/-- The other tasks begin no action. -/
theorem Waits.aside {exchange : Exchange} (haside : Aside s.exchange exchange)
    (h : Waits config now s .waiting) : Waits config now { s with exchange } .waiting :=
  haside.keeps (P := fun past => WaitsIn config now past s.phase)
    (fun _ _ hother hpast => hpast.cons fun _ => ne_of_other hother rfl) h

/-- To give way is to wait on. -/
theorem Waits.yield (h : Waits config now s .waiting) : Waits config now s.yield .waiting := by
  rw [Session.yield]
  split
  · rename_i purpose timer hphase
    rw [Waits, hphase] at h
    exact h
  · trivial
  · exact h

/-- The other tasks take no answer. -/
theorem Rightful.aside {exchange : Exchange} (haside : Aside s.exchange exchange)
    (h : Always (Rightful config) s.exchange.journal) :
    Always (Rightful config) exchange.journal := by
  refine haside.keeps (P := Always (Rightful config)) ?_ h
  rintro ⟨time, what⟩ past hother hpast
  cases what <;> first
    | exact ⟨trivial, hpast⟩
    | cases hother

end

/-! ### Every run -/

/-- While the session reads, time goes by up to its time limit, or not at all. -/
def keepsTime (s : System) : Turn → Bool
  | .pass time =>
    match s.session.phase with
    | .reading _ timer => time == 0 || decide (s.now + time ≤ timer.due)
    | _ => true
  | _ => true

/-- In every turn of a run the session is not kept waiting behind its timer. -/
def punctual : System → List Turn → Bool
  | _, [] => true
  | s, turn :: turns => keepsTime s turn && punctual (s.step turn) turns

/-- What is true of the session at a point and a time. -/
structure OnTime (config : SessionConfig) (now : Micros) (p : Point) (s : Session) : Prop where
  config_eq : s.config = config
  controlled : Controlled p s
  progress : Progress s p
  waits : Waits config now s p
  rightful : Always (Rightful config) s.exchange.journal

section
variable {config : SessionConfig} {now : Micros} {p q : Point} {s t : Session}

/-- Every move keeps it, by the step lemma of each of its parts. -/
theorem Move.onTime (move : Move now p s q t) (h : OnTime config now p s) :
    OnTime config now q t where
  config_eq := move.config.trans h.config_eq
  controlled := move.controlled h.controlled
  progress := move.progress h.controlled h.progress
  waits := move.waits h.config_eq h.progress h.waits
  rightful := move.rightful h.waits h.rightful

/-- At the start nothing is waited for, and no answer was taken. -/
theorem onTime_start (config : SessionConfig) (now : Micros) :
    OnTime config now .waiting ((Session.new config {}).start now) :=
  ⟨rfl, controlled_start config now, progress_start config now, trivial, trivial, trivial⟩

/-- What the others do keeps it. -/
theorem OnTime.aside {exchange : Exchange} (haside : Aside s.exchange exchange)
    (h : OnTime config now .waiting s) : OnTime config now .waiting { s with exchange } :=
  ⟨h.config_eq, h.controlled.aside haside, h.progress.aside haside, h.waits.aside haside,
    Rightful.aside haside h.rightful⟩

/-- Giving way keeps it, since it only tells the session that its timer may run out. -/
theorem OnTime.yield (h : OnTime config now .waiting s) : OnTime config now .waiting s.yield := by
  refine ⟨(yield_frame s).1.trans h.config_eq, h.controlled.yield, h.progress.yield, h.waits.yield,
    ?_⟩
  rw [yield_exchange]
  exact h.rightful

/-- A turn keeps it, if it does not let the session read past its time limit. -/
theorem OnTime.step {s : System} (h : OnTime config s.now .waiting s.session) {turn : Turn}
    (hturn : keepsTime s turn = true) :
    OnTime config (s.step turn).now .waiting (s.step turn).session := by
  have hstep : OnTime config s.now .waiting (s.step turn).session :=
    s.step_keeps Move.onTime OnTime.aside OnTime.yield turn h
  refine { hstep with waits := WaitsIn.later hstep.waits fun purpose timer hphase => ?_ }
  cases turn with
  | pass time =>
    have hreads : s.session.phase = .reading purpose timer := hphase
    rw [keepsTime, hreads] at hturn
    refine (Bool.or_eq_true_iff.mp hturn).imp (fun hzero => ?_) of_decide_eq_true
    rw [beq_iff_eq.mp hzero]
    rfl
  | _ => exact .inl (now_step s (by simp))

/-- By induction on the turns. This is the one invariant of a session that needs a schedule: time
that goes by must not go past the timer of a session that reads. -/
theorem OnTime.run (turns : List Turn) : ∀ {s : System}, OnTime config s.now .waiting s.session →
    punctual s turns = true → OnTime config (s.run turns).now .waiting (s.run turns).session := by
  induction turns with
  | nil => exact fun h _ => h
  | cons turn turns ih =>
    intro s h hpunctual
    obtain ⟨hturn, hturns⟩ := Bool.and_eq_true_iff.mp hpunctual
    exact ih (h.step hturn) hturns

end

/-- In every run in which the session is not kept waiting behind its timer, whatever the broker
sends and however long each write takes:

1. Connecting succeeds only right behind a CONNACK with code 0.
2. Subscribing to topics succeeds only right behind the SUBACK with the id of the SUBSCRIBE and
   without a refusal.

Between the writing of CONNECT or SUBSCRIBE and that packet the session is in the same action, and
the packet was taken no later than the time limit after it, or right when the write of a PUBACK was
over. -/
theorem answers_obtained (config : SessionConfig) (ackTimeout now : Micros) (turns : List Turn)
    (hpunctual : punctual (System.boot config ackTimeout now) turns = true) :
    let s := (System.boot config ackTimeout now).run turns
    (∀ later time past, s.journal = later ++ ⟨time, .ended .brokerConnected⟩ :: past →
      Obtained config .connack time past) ∧
    (config.topics ≠ [] →
      ∀ later time past, s.journal = later ++ ⟨time, .ended .subscribed⟩ :: past →
        ∃ id, Obtained config (.suback id) time past) := by
  intro s
  have hrightful : Always (Rightful config) s.journal :=
    (OnTime.run turns (onTime_start config now) hpunctual).rightful
  constructor
  · intro later time past hjournal
    rw [hjournal] at hrightful
    exact hrightful.of_append
  · intro hsome later time past hjournal
    rw [hjournal] at hrightful
    exact hrightful.of_append hsome

/-- A transport that takes 2.5 s for every write. The broker sends a message before its CONNACK, so
that CONNECT and a PUBACK are written before the session is let in. -/
def slowWrites : List Turn :=
  [.begin, .begin, .reply (.dialed true), .pass 2500000, .reply (.written true),
    .reply (.received (some [0x32, 5, 0, 1, 0x74, 0, 9])), .pass 2500000, .reply (.written true),
    .reply (.received (some [0x20, 2, 0, 0]))]

/-- The time limit for the CONNACK is at 4.5 s. The session comes back from writing the PUBACK at
5 s, and it is let in all the same. -/
theorem answers_obtained_slow :
    let begun := (System.boot plainConfig (seconds 4) 0).run (slowWrites.take 5)
    let s := (System.boot plainConfig (seconds 4) 0).run slowWrites
    punctual (System.boot plainConfig (seconds 4) 0) slowWrites = true ∧
      begun.session.phase = .reading .connack (.set 4500000) ∧
      ∃ past, s.journal = ⟨5000000, .ended .brokerConnected⟩ :: past ∧
        Obtained plainConfig .connack 5000000 past := by
  intro begun s
  have hpunctual : punctual (System.boot plainConfig (seconds 4) 0) slowWrites = true := by
    decide +kernel
  have htime : s.journal.head?.map Entry.time = some 5000000 := by decide +kernel
  have hended : events (s.journal.take 1) = [.brokerConnected] := by decide +kernel
  refine ⟨hpunctual, by decide +kernel, ?_⟩
  cases hjournal : s.journal with
  | nil =>
    rw [hjournal] at htime
    cases htime
  | cons e past =>
    obtain ⟨time, what⟩ := e
    rw [hjournal] at htime hended
    obtain rfl : time = 5000000 := Option.some.inj htime
    obtain rfl : what = .ended .brokerConnected := by
      cases what with
      | ended event => rw [(List.cons.inj hended).1]
      | _ => cases hended
    exact ⟨past, rfl, (answers_obtained plainConfig (seconds 4) 0 slowWrites hpunctual).1 []
      5000000 past hjournal⟩

end WeatherStation.Proofs.Mqtt
