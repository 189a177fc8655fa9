import WeatherStation.Proofs.Mqtt.Control

/-!
# `WeatherStation.Proofs.Mqtt.Acknowledgement`: what a publish waits for

The client waits for one id, and the session puts the id of every PUBACK that it interprets
into one slot. `Hears` says how the slot and the journal belong together: the slot holds the id
of the last PUBACK that was interpreted since the client looked.

The two main results say what a publish that ends with `ok` has to do with the broker.

* `poll_outcome`: the client's look finds the acknowledgement exactly when the *last* PUBACK
  interpreted since its look before has the right id. One with the right id that another one
  follows before the client has its turn is lost.
* `publish_ok`: a publish ends with `ok` only if a PUBACK with its id was interpreted during
  the call. The PUBLISH was written without a failure before that, unless every such PUBACK came
  before the PUBLISH was given to the transport of its connection. Nothing keeps a PUBACK that
  comes too early from ending the call.
-/

set_option autoImplicit false

namespace WeatherStation.Proofs.Mqtt

open WeatherStation.Mqtt

instance : DecidableEq (Except PublishError Unit)
  | .ok (), .ok () => isTrue rfl
  | .error e, .error e' =>
    if h : e = e' then isTrue (by rw [h]) else isFalse fun he => h (Except.error.inj he)
  | .ok _, .error _ => isFalse nofun
  | .error _, .ok _ => isFalse nofun

deriving instance DecidableEq for PublishCall, Happening

/-! ### The slot for the acknowledged id -/

/-- The id of the last PUBACK that was interpreted. -/
def lastAcknowledged : List Entry → Option UInt16
  | [] => none
  | e :: past =>
    match e.what with
    | .applied packet => (acknowledged packet).or (lastAcknowledged past)
    | _ => lastAcknowledged past

/-- The later entries come first, and where they have no PUBACK the earlier ones tell. -/
theorem lastAcknowledged_append (later past : List Entry) :
    lastAcknowledged (later ++ past) = (lastAcknowledged later).or (lastAcknowledged past) := by
  induction later with
  | nil => rfl
  | cons e later ih =>
    rw [List.cons_append, lastAcknowledged, lastAcknowledged]
    split
    · rw [ih, Option.or_assoc]
    · exact ih

/-- The last PUBACK is an interpreted packet. -/
theorem applied_of_lastAcknowledged {noted : List Entry} {id : UInt16}
    (h : lastAcknowledged noted = some id) : ∃ e ∈ noted, e.what = .applied (.puback id) := by
  induction noted with
  | nil => cases h
  | cons e noted ih =>
    rw [lastAcknowledged] at h
    split at h
    · rename_i packet hwhat
      rcases Option.or_eq_some_iff.mp h with hpacket | ⟨-, hrest⟩
      · refine ⟨e, List.mem_cons_self, ?_⟩
        rw [hwhat]
        cases packet <;> cases hpacket
        rfl
      · obtain ⟨x, hx, hwhat'⟩ := ih hrest
        exact ⟨x, List.mem_cons_of_mem e hx, hwhat'⟩
    · obtain ⟨x, hx, hwhat'⟩ := ih h
      exact ⟨x, List.mem_cons_of_mem e hx, hwhat'⟩

/-- The shared state `y` comes from `x` without a look of the client: the slot holds the last
id that was acknowledged meanwhile, or what it held before. -/
def Hears (x y : Exchange) : Prop :=
  ∃ noted, y.journal = noted ++ x.journal ∧ y.ack = (lastAcknowledged noted).or x.ack

/-- Nothing heard. -/
theorem Hears.refl (x : Exchange) : Hears x x := ⟨[], rfl, rfl⟩

/-- One stretch after another: the slot holds the last id of both. -/
theorem Hears.trans {x y z : Exchange} (first : Hears x y) (second : Hears y z) : Hears x z := by
  obtain ⟨noted, hjournal, hack⟩ := first
  obtain ⟨noted', hjournal', hack'⟩ := second
  refine ⟨noted' ++ noted, by rw [hjournal', hjournal, List.append_assoc], ?_⟩
  rw [hack', hack, lastAcknowledged_append, Option.or_assoc]

/-- A move writes the slot only when it applies a PUBACK. -/
theorem Move.hears {now : Micros} {p q : Point} {s t : Session} (move : Move now p s q t) :
    Hears s.exchange t.exchange := by
  cases move with
  | requested hphase hrequest => exact ⟨[_, _], rfl, rfl⟩
  | skip hframe hpacket hfault => exact ⟨[_, _], rfl, rfl⟩
  | apply hframe hpacket =>
    -- The packet is noted as framed first, which the slot does not depend on.
    obtain ⟨packet, hjournal, hack⟩ := interpret_eq hpacket
    refine ⟨[⟨now, .applied packet⟩, _], hjournal, ?_⟩
    rw [hack, lastAcknowledged]
    show _ = ((acknowledged packet).or none).or _
    rw [Option.or_none]
    rfl
  | _ => first
    | exact ⟨[], rfl, rfl⟩
    | exact ⟨[_], rfl, rfl⟩

/-- The moves between two waits. -/
theorem Path.hears {now : Micros} {p q : Point} {s t : Session} (path : Path now p s q t) :
    Hears s.exchange t.exchange := by
  induction path with
  | refl => exact .refl _
  | step head _ ih => exact head.hears.trans ih

/-! ### Turns without the client -/

/-- Whether the client has this turn. -/
def ofClient : Turn → Bool
  | .publish _ _ => true
  | .poll => true
  | _ => false

/-- A turn of the others leaves the client and its call alone and hears what is acknowledged. -/
theorem step_hears (s : System) {turn : Turn} (h : ofClient turn = false) :
    Hears s.session.exchange (s.step turn).session.exchange ∧ (s.step turn).call = s.call ∧
      (s.step turn).client = s.client := by
  cases turn with
  | pass time => exact ⟨.refl _, rfl, rfl⟩
  | begin =>
    rw [System.step, System.beginNext]
    split
    · rename_i action hphase
      exact ⟨(begin_path hphase).hears, rfl, rfl⟩
    · exact ⟨.refl _, rfl, rfl⟩
  | reply reply => exact ⟨(resume_path s.session reply).hears, rfl, rfl⟩
  | yield =>
    refine ⟨?_, rfl, rfl⟩
    show Hears _ s.session.yield.exchange
    rw [yield_exchange]
    exact .refl _
  | notify => exact ⟨⟨[_], rfl, rfl⟩, rfl, rfl⟩
  | dispatch =>
    rw [System.step, System.dispatchNext]
    split
    · rename_i message exchange hnext
      obtain ⟨rest, -, rfl⟩ := nextMessage_eq_some.mp hnext
      exact ⟨⟨[_], rfl, rfl⟩, rfl, rfl⟩
    · exact ⟨.refl _, rfl, rfl⟩
  | publish topic payload => cases h
  | poll => cases h

/-- Any number of such turns. -/
theorem run_hears (turns : List Turn) :
    ∀ s : System, (∀ turn ∈ turns, ofClient turn = false) →
      Hears s.session.exchange (s.run turns).session.exchange ∧ (s.run turns).call = s.call := by
  induction turns with
  | nil => intro s _; exact ⟨.refl _, rfl⟩
  | cons turn turns ih =>
    intro s h
    obtain ⟨hhears, hcall, -⟩ := step_hears s (h turn List.mem_cons_self)
    obtain ⟨hhears', hcall'⟩ := ih (s.step turn) fun x hx => h x (List.mem_cons_of_mem turn hx)
    exact ⟨hhears.trans hhears', hcall'.trans hcall⟩

/-! ### The client's turns -/

section
variable {x : Exchange} {now : Micros} {id : UInt16} {due : Micros}

/-- A look at the slot empties it. It ends the call if the slot held the right id. -/
theorem listen_eq (x : Exchange) (now : Micros) (id : UInt16) (due : Micros) :
    PublishCall.listen x now id due =
      if x.ack = some id then
        (.settled (.ok ()), { x with ack := none }.note now (.settled (some id) (.ok ())))
      else (.awaiting id due, { x with ack := none }) := by
  rw [PublishCall.listen]
  cases hack : x.ack with
  | none =>
    -- An empty slot is not emptied, which makes no difference.
    have hsame : { x with ack := none } = x := by rw [← hack]
    rw [if_neg (Option.some_ne_none id).symm, hsame]
  | some acknowledged =>
    by_cases hid : acknowledged = id
    · rw [hid, if_pos rfl]
      exact if_pos rfl
    · rw [if_neg (fun h => hid (Option.some.inj h))]
      exact if_neg hid

/-- A later turn of a call that has handed its request over. -/
theorem poll_awaiting (x : Exchange) (now : Micros) (id : UInt16) (due : Micros) :
    PublishCall.poll x now (.awaiting id due) =
      if x.ack = some id then
        (.settled (.ok ()), { x with ack := none }.note now (.settled (some id) (.ok ())))
      else if due ≤ now then PublishCall.expire { x with ack := none } now id
      else (.awaiting id due, { x with ack := none }) := by
  rw [PublishCall.poll, PublishCall.advance, listen_eq]
  by_cases hack : x.ack = some id
  · rw [if_pos hack, if_pos hack]
  · rw [if_neg hack, if_neg hack]

/-- What a call does that has its request still to hand over. If the slot for requests is free
it hands it over and looks at the slot for the acknowledged id at once. -/
theorem advance_offering (x : Exchange) (now : Micros) (request : Request) (due : Micros) :
    PublishCall.advance x now (.offering request due) =
      if x.request = none then
        PublishCall.listen ({ x with request := some request }.note now (.offered request)) now
          request.id due
      else (.offering request due, x) := by
  rw [PublishCall.advance, PublishCall.offer]
  cases hslot : x.request with
  | none => rw [if_pos rfl]
  | some other => rw [if_neg (Option.some_ne_none other)]

/-- A later turn of such a call. -/
theorem poll_offering (x : Exchange) (now : Micros) (request : Request) (due : Micros) :
    PublishCall.poll x now (.offering request due) =
      if x.request = none then
        PublishCall.poll ({ x with request := some request }.note now (.offered request)) now
          (.awaiting request.id due)
      else if due ≤ now then PublishCall.expire x now request.id
      else (.offering request due, x) := by
  rw [PublishCall.poll, advance_offering]
  by_cases hslot : x.request = none
  · rw [if_pos hslot, if_pos hslot, PublishCall.poll, PublishCall.advance]
  · rw [if_neg hslot, if_neg hslot]

/-- The id that a call waits for. -/
def awaitedId : PublishCall → Option UInt16
  | .offering request _ => some request.id
  | .awaiting id _ => some id
  | .settled _ => none

/-- A look while the call waits ends it with the acknowledgement, ends it with a timeout, or leaves
it waiting with an empty slot. -/
theorem poll_awaiting_cases (x : Exchange) (now : Micros) (id : UInt16) (due : Micros) :
    let y := PublishCall.poll x now (.awaiting id due)
    (y.1 = .settled (.ok ()) ∧ x.ack = some id) ∨
    y.1 = .settled (.error .ackTimeout) ∨
    (y.1 = .awaiting id due ∧ y.2.ack = none) := by
  rw [poll_awaiting]
  split
  · rename_i hack
    exact .inl ⟨rfl, hack⟩
  · split
    · exact .inr (.inl rfl)
    · exact .inr (.inr ⟨rfl, rfl⟩)

/-- What a later turn of a call under way comes to. It ends with `ok` on the right id only; it
runs out of time; it goes on with an empty slot; or it has still to hand its request over and
has not looked. -/
theorem poll_cases (x : Exchange) (now : Micros) {call : PublishCall}
    (h : awaitedId call = some id) :
    let y := call.poll x now
    (y.1 = .settled (.ok ()) ∧ x.ack = some id) ∨
    y.1 = .settled (.error .ackTimeout) ∨
    ((∃ due, y.1 = .awaiting id due) ∧ y.2.ack = none) ∨
    (∃ request due, call = .offering request due ∧ y = (call, x)) := by
  cases call with
  | awaiting id' due =>
    obtain rfl : id' = id := Option.some.inj h
    rcases poll_awaiting_cases x now id' due with hok | htimeout | ⟨hwaits, hack⟩
    · exact .inl hok
    · exact .inr (.inl htimeout)
    · exact .inr (.inr (.inl ⟨⟨due, hwaits⟩, hack⟩))
  | offering request due =>
    obtain rfl : request.id = id := Option.some.inj h
    rw [poll_offering]
    split
    · -- Handing the request over leaves the slot for the acknowledged id as it is.
      rcases poll_awaiting_cases ({ x with request := some request }.note now (.offered request))
        now request.id due with hok | htimeout | ⟨hwaits, hack⟩
      · exact .inl hok
      · exact .inr (.inl htimeout)
      · exact .inr (.inr (.inl ⟨⟨due, hwaits⟩, hack⟩))
    · split
      · exact .inr (.inl rfl)
      · exact .inr (.inr (.inr ⟨request, due, rfl, rfl⟩))
  | settled result => cases h

/-- A call that begins with an empty slot goes on with one. -/
theorem advance_offering_empty {request : Request} (h : x.ack = none) :
    let y := PublishCall.advance x now (.offering request due)
    awaitedId y.1 = some request.id ∧ y.2.ack = none := by
  rw [advance_offering]
  split
  · have hempty : ({ x with request := some request }.note now (.offered request)).ack = none := h
    rw [listen_eq, hempty, if_neg (Option.some_ne_none request.id).symm]
    exact ⟨rfl, rfl⟩
  · exact ⟨rfl, h⟩

/-- The first turn of a publish: it is over at once with an error, or it goes on with an empty
slot for the acknowledged id. -/
theorem publish_cases (c : Client) (x : Exchange) (now : Micros) (topic : String)
    (payload : List UInt8) :
    let y := c.publish x now topic payload
    (∃ e, y.1 = .settled (.error e)) ∨
    (∃ request, Request.new? topic payload c.nextId = .ok request ∧
      awaitedId y.1 = some request.id ∧ y.2.2.ack = none) := by
  rw [Client.publish]
  split
  · exact .inl ⟨_, rfl⟩
  · dsimp only
    split
    · rename_i e he
      exact .inl ⟨e, rfl⟩
    · rename_i request hrequest
      exact .inr ⟨request, hrequest, advance_offering_empty rfl⟩

end

/-- Whether the client looks at the slot in this turn. A publish that comes while a call is
under way is no turn at all. -/
def looks (s : System) : Turn → Bool
  | .publish _ _ => !s.isBusy
  | .poll => true
  | _ => false

/-- A look that does not end the call leaves the slot empty. -/
theorem ack_of_looks {s : System} {turn : Turn} {id : UInt16} {due : Micros}
    (hlooks : looks s turn = true) (hcall : (s.step turn).call = some (.awaiting id due)) :
    (s.step turn).session.exchange.ack = none := by
  cases turn with
  | publish topic payload =>
    have hfree : s.isBusy = false := by simpa [looks] using hlooks
    rw [System.step_publish hfree] at hcall ⊢
    rcases publish_cases s.client s.session.exchange s.now topic payload with
      ⟨e, he⟩ | ⟨request, -, -, hack⟩
    · -- A call that is refused has ended and does not wait.
      rw [Option.some.injEq, he] at hcall
      cases hcall
    · exact hack
  | poll =>
    cases hunder : s.call with
    | none =>
      rw [System.step_poll_none hunder, hunder] at hcall
      cases hcall
    | some call =>
      rw [System.step_poll hunder] at hcall ⊢
      have hcall := Option.some.inj hcall
      cases hid : awaitedId call with
      | none =>
        cases call with
        | settled result => cases hcall
        | _ => cases hid
      | some id' =>
        -- Of the four outcomes of a look only one leaves a call that waits for an id.
        rcases poll_cases s.session.exchange s.now hid with
          ⟨hok, -⟩ | htimeout | ⟨-, hack⟩ | ⟨request, due', rfl, hsame⟩
        · rw [hok] at hcall
          cases hcall
        · rw [htimeout] at hcall
          cases hcall
        · exact hack
        · rw [hsame] at hcall
          cases hcall
  | _ => cases hlooks

/-- What happened between two moments of a run. -/
def since (s t : System) : List Entry := t.journal.take (t.journal.length - s.journal.length)

/-- What was noted between two moments is what the journal has grown by. -/
theorem since_eq {s t : System} {noted : List Entry} (h : t.journal = noted ++ s.journal) :
    since s t = noted := by
  rw [since, h, List.length_append, Nat.add_sub_cancel, List.take_left']
  rfl

/-- A look at a call that awaits its acknowledgement, when the slot was empty some turns of the
others ago. -/
theorem poll_outcome_of_empty {s : System} {others : List Turn} {id : UInt16} {due : Micros}
    (hwaits : s.call = some (.awaiting id due)) (hempty : s.session.exchange.ack = none)
    (hothers : ∀ other ∈ others, ofClient other = false) :
    let t := s.run others
    (t.step .poll).call = some
        (if lastAcknowledged (since s t) = some id then .settled (.ok ())
        else if due ≤ t.now then .settled (.error .ackTimeout)
        else .awaiting id due) ∧
      (t.step .poll).session.exchange.ack = none := by
  intro t
  obtain ⟨⟨noted, hjournal, hack⟩, hcall⟩ := run_hears others s hothers
  have hslot : t.session.exchange.ack = lastAcknowledged noted := by
    rw [hack, hempty, Option.or_none]
  rw [since_eq hjournal, ← hslot, System.step_poll (hcall.trans hwaits)]
  dsimp only
  rw [poll_awaiting]
  split
  · exact ⟨rfl, rfl⟩
  · split
    · exact ⟨rfl, rfl⟩
    · exact ⟨rfl, rfl⟩

/-- In every run, the client's look ends a call with `ok` exactly when the last PUBACK that was
interpreted since its look before has the id of the call. Otherwise the call ends if its time
is over and goes on if not. Whatever the slot held, it is empty then. -/
theorem poll_outcome (config : SessionConfig) (ackTimeout now : Micros)
    (before others : List Turn) (turn : Turn) (id : UInt16) (due : Micros)
    (hlooks : looks ((System.boot config ackTimeout now).run before) turn = true)
    (hwaits : ((System.boot config ackTimeout now).run (before ++ [turn])).call =
      some (.awaiting id due))
    (hothers : ∀ other ∈ others, ofClient other = false) :
    let s := (System.boot config ackTimeout now).run (before ++ [turn])
    let t := s.run others
    (t.step .poll).call = some
        (if lastAcknowledged (since s t) = some id then .settled (.ok ())
        else if due ≤ t.now then .settled (.error .ackTimeout)
        else .awaiting id due) ∧
      (t.step .poll).session.exchange.ack = none := by
  refine poll_outcome_of_empty hwaits ?_ hothers
  rw [System.run_append] at hwaits ⊢
  exact ack_of_looks hlooks hwaits

/-- A PUBACK with the id of the call and one with another id, read together: the client does
not see the first, and its call runs out of time. -/
theorem poll_outcome_overwritten :
    let before := opening ++ [.publish "t" [1], .reply .requested, .reply (.written true)]
    let others := [.begin, .reply (.received (some [0x40, 2, 0, 1, 0x40, 2, 0, 2])), .begin]
    let s := (System.boot plainConfig (seconds 4) 0).run (before ++ [.poll])
    let t := s.run others
    looks ((System.boot plainConfig (seconds 4) 0).run before) .poll = true ∧
      s.call = some (.awaiting 1 (seconds 4)) ∧ (∀ other ∈ others, ofClient other = false) ∧
      (∃ e ∈ since s t, e.what = .applied (.puback 1)) ∧
      (t.step .poll).call = some (.awaiting 1 (seconds 4)) ∧
      (t.step .poll).session.exchange.ack = none ∧
      (t.run [.pass (seconds 4), .poll]).call = some (.settled (.error .ackTimeout)) := by
  intro before others s t
  have hlooks : looks ((System.boot plainConfig (seconds 4) 0).run before) .poll = true := rfl
  have hwaits : s.call = some (.awaiting 1 (seconds 4)) := by decide +kernel
  have hothers : ∀ other ∈ others, ofClient other = false := by simp [others, ofClient]
  have hlast : lastAcknowledged (since s t) ≠ some 1 := by decide +kernel
  have hearly : ¬ seconds 4 ≤ t.now := by decide +kernel
  obtain ⟨hcall, hack⟩ := poll_outcome plainConfig (seconds 4) 0 before others .poll 1 (seconds 4)
    hlooks hwaits hothers
  rw [if_neg hlast, if_neg hearly] at hcall
  exact ⟨hlooks, hwaits, hothers, by decide +kernel, hcall, hack, by decide +kernel⟩

/-! ### What a publish that ends with `ok` rests on -/

/-- Whether the client makes a call in this turn. -/
def publishes : Turn → Bool
  | .publish _ _ => true
  | _ => false

/-- A call with this id is under way. Since a moment at which the journal was `past`, every id
that the slot holds has been acknowledged. -/
def UnderWay (id : UInt16) (past : List Entry) (s : System) : Prop :=
  (∃ call, s.call = some call ∧ awaitedId call = some id) ∧
    ∃ noted, s.journal = noted ++ past ∧
      ∀ i, s.session.exchange.ack = some i → ∃ e ∈ noted, e.what = .applied (.puback i)

/-- Turns of the others keep a call under way. -/
theorem UnderWay.hears {id : UInt16} {past : List Entry} {s t : System} (h : UnderWay id past s)
    (hhears : Hears s.session.exchange t.session.exchange) (hcall : t.call = s.call) :
    UnderWay id past t := by
  obtain ⟨noted, hjournal, hack⟩ := hhears
  obtain ⟨⟨call, hunder, hid⟩, noted', hjournal', hheard⟩ := h
  refine ⟨⟨call, hcall.trans hunder, hid⟩, noted ++ noted', ?_, ?_⟩
  · rw [List.append_assoc, ← hjournal']
    exact hjournal
  · intro i hi
    -- The slot holds an id from these turns, or one from before.
    rw [hack] at hi
    rcases Option.or_eq_some_iff.mp hi with hnew | ⟨-, hold⟩
    · obtain ⟨e, he, hwhat⟩ := applied_of_lastAcknowledged hnew
      exact ⟨e, List.mem_append_left _ he, hwhat⟩
    · obtain ⟨e, he, hwhat⟩ := hheard i hold
      exact ⟨e, List.mem_append_right _ he, hwhat⟩

/-- A call that has ended leaves the client free for the next one. -/
theorem isBusy_of_settled {s : System} {result : Except PublishError Unit}
    (h : s.call = some (.settled result)) : s.isBusy = false := by
  rw [System.isBusy, h]
  rfl

/-- A look ends a call that is under way or keeps it so. -/
theorem UnderWay.poll {id : UInt16} {past : List Entry} {s : System} (h : UnderWay id past s) :
    UnderWay id past (s.step .poll) ∨ (s.step .poll).isBusy = false := by
  obtain ⟨⟨call, hunder, hid⟩, noted, hjournal, hheard⟩ := h
  have haside : Aside s.session.exchange (call.poll s.session.exchange s.now).2 :=
    poll_aside _ call
  obtain ⟨noted', hjournal', -⟩ := haside
  rw [System.step_poll hunder]
  rcases poll_cases s.session.exchange s.now hid with
    ⟨hok, -⟩ | htimeout | ⟨⟨due, hwaits⟩, hack⟩ | ⟨request, due, -, hsame⟩
  · exact .inr (isBusy_of_settled (congrArg some hok))
  · exact .inr (isBusy_of_settled (congrArg some htimeout))
  · -- The look has emptied the slot: there is no id to account for.
    refine .inl ⟨⟨_, rfl, by rw [hwaits]; rfl⟩, noted' ++ noted, ?_, ?_⟩
    · rw [List.append_assoc, ← hjournal]
      exact hjournal'
    · intro i hi
      rw [show _ = none from hack] at hi
      cases hi
  · dsimp only
    rw [hsame]
    exact .inl ⟨⟨call, rfl, hid⟩, noted, hjournal, hheard⟩

/-- A look at a call that has ended changes nothing. -/
theorem isBusy_poll {s : System} (h : s.isBusy = false) : (s.step .poll).isBusy = false := by
  cases hunder : s.call with
  | none =>
    rw [System.step_poll_none hunder]
    exact h
  | some call =>
    rw [System.isBusy, hunder] at h
    rw [System.step_poll hunder]
    cases call with
    | settled result => rfl
    | _ => cases h

/-- As long as the client makes no other call, its call goes on or has ended. -/
theorem underWay_step {id : UInt16} {past : List Entry} {s : System} {turn : Turn}
    (hserial : publishes turn = false) (h : UnderWay id past s ∨ s.isBusy = false) :
    UnderWay id past (s.step turn) ∨ (s.step turn).isBusy = false := by
  by_cases hclient : ofClient turn = false
  · obtain ⟨hhears, hcall, -⟩ := step_hears s hclient
    rcases h with hunder | hfree
    · exact .inl (hunder.hears hhears hcall)
    · exact .inr (by rw [System.isBusy, hcall]; exact hfree)
  · cases turn with
    | publish topic payload => cases hserial
    | poll =>
      rcases h with hunder | hfree
      · exact hunder.poll
      · exact .inr (isBusy_poll hfree)
    | _ => exact absurd rfl hclient

/-- By induction on the turns. A call stays under way until it ends, and the client has begun no
other one. -/
theorem underWay_run {id : UInt16} {past : List Entry} (turns : List Turn) :
    ∀ s : System, (∀ turn ∈ turns, publishes turn = false) →
      UnderWay id past s ∨ s.isBusy = false →
      UnderWay id past (s.run turns) ∨ (s.run turns).isBusy = false := by
  induction turns with
  | nil => intro s _ h; exact h
  | cons turn turns ih =>
    intro s hserial h
    have hstep := underWay_step (hserial turn List.mem_cons_self) h
    exact ih (s.step turn) (fun x hx => hserial x (List.mem_cons_of_mem turn hx)) hstep

/-- A publish that is admitted is under way. -/
theorem underWay_publish {s : System} (hfree : s.isBusy = false) (topic : String)
    (payload : List UInt8) :
    UnderWay s.client.nextId s.journal (s.step (.publish topic payload)) ∨
      (s.step (.publish topic payload)).isBusy = false := by
  have haside : Aside s.session.exchange
      (s.client.publish s.session.exchange s.now topic payload).2.2 := publish_aside _ _ _ _
  obtain ⟨noted, hjournal, -⟩ := haside
  rw [System.step_publish hfree]
  rcases publish_cases s.client s.session.exchange s.now topic payload with
    ⟨e, he⟩ | ⟨request, hrequest, hid, hack⟩
  · exact .inr (isBusy_of_settled (congrArg some he))
  · have hsame : request.id = s.client.nextId := by
      rw [Request.new?] at hrequest
      split at hrequest
      · rw [← Except.ok.inj hrequest]
      · cases hrequest
    rw [hsame] at hid
    refine .inl ⟨⟨_, rfl, hid⟩, noted, hjournal, ?_⟩
    intro i hi
    rw [show _ = none from hack] at hi
    cases hi

/-- A look that ends a call with `ok` has found its id, so that it was acknowledged. -/
theorem UnderWay.acknowledged {id : UInt16} {past : List Entry} {s : System}
    (h : UnderWay id past s) (hok : (s.step .poll).call = some (.settled (.ok ()))) :
    ∃ noted, s.journal = noted ++ past ∧ ∃ e ∈ noted, e.what = .applied (.puback id) := by
  obtain ⟨⟨call, hcall, hid⟩, noted, hjournal, hheard⟩ := h
  rw [System.step_poll hcall] at hok
  have hok := Option.some.inj hok
  rcases poll_cases s.session.exchange s.now hid with
    ⟨-, hack⟩ | htimeout | ⟨⟨due, hwaits⟩, -⟩ | ⟨request, due, rfl, hsame⟩
  · exact ⟨noted, hjournal, hheard id hack⟩
  · rw [htimeout] at hok
    cases hok
  · rw [hwaits] at hok
    cases hok
  · rw [hsame] at hok
    cases hok

/-- These bytes have been given to the transport of the present connection. -/
def HandedOver (bytes : List UInt8) (past : List Entry) : Prop :=
  ∃ later e earlier, past = later ++ e :: earlier ∧ e.what = .asked (.write bytes) ∧
    ∀ x ∈ later, dials x.what = false

/-- These bytes were written without a failure, and after that a PUBACK with this id was
interpreted. -/
def Confirmed (bytes : List UInt8) (id : UInt16) (noted : List Entry) : Prop :=
  ∃ later e middle w earlier, noted = later ++ e :: (middle ++ w :: earlier) ∧
    e.what = .applied (.puback id) ∧ w.what = .answered (.write bytes) (.written true)

/-- A PUBACK that comes after bytes were given to the transport, on the same connection, comes
after they were written: while they are being written, and after a failure, nothing is read. -/
theorem confirmed_of_handedOver {noted before later past : List Entry} {e : Entry}
    {bytes : List UInt8} {id : UInt16} (horderly : Orderly (noted ++ before))
    (hnoted : noted = later ++ e :: past) (hwhat : e.what = .applied (.puback id))
    (hhanded : HandedOver bytes past) : Confirmed bytes id noted := by
  obtain ⟨between, ⟨time, what⟩, earlier, hpast, hasked, hdials⟩ := hhanded
  obtain rfl : what = .asked (.write bytes) := hasked
  rw [hnoted, List.append_assoc, List.cons_append, hpast, List.append_assoc] at horderly
  obtain ⟨hallows, hearlier⟩ := horderly.of_append
  have hup : wire (between ++ ⟨time, .asked (.write bytes)⟩ :: (earlier ++ before)) = .up := by
    rw [hwhat] at hallows
    exact hallows
  -- The PUBACK is applied while the wire is up again, so that the write has ended well.
  obtain ⟨w, hw, hwritten⟩ := written_of_up hearlier hdials hup
  obtain ⟨middle, rest, rfl⟩ := List.append_of_mem hw
  refine ⟨later, e, middle, w, rest ++ ⟨time, .asked (.write bytes)⟩ :: earlier, ?_, hwhat,
    hwritten⟩
  rw [hnoted, hpast, List.append_assoc]
  rfl

/-- A call that is about to end with `ok`: its id was acknowledged, after its packet was written
or before the packet was given to the connection. -/
theorem confirmed_or_early {s t : System} {id : UInt16} (bytes : List UInt8)
    (horderly : Orderly t.journal) (hunder : UnderWay id s.journal t)
    (hok : (t.step .poll).call = some (.settled (.ok ()))) :
    (∃ e ∈ since s t, e.what = .applied (.puback id)) ∧
      (Confirmed bytes id (since s t) ∨
        ∀ later e past, since s t = later ++ e :: past → e.what = .applied (.puback id) →
          ¬ HandedOver bytes past) := by
  obtain ⟨noted, hjournal, hacknowledged⟩ := hunder.acknowledged hok
  rw [since_eq hjournal]
  rw [hjournal] at horderly
  refine ⟨hacknowledged, ?_⟩
  -- One PUBACK that did not come too early is enough.
  by_cases hlate : ∃ later e past, noted = later ++ e :: past ∧ e.what = .applied (.puback id) ∧
      HandedOver bytes past
  · obtain ⟨later, e, past, hnoted, hwhat, hhanded⟩ := hlate
    exact .inl (confirmed_of_handedOver horderly hnoted hwhat hhanded)
  · refine .inr ?_
    intro later e past hnoted hwhat hhanded
    exact hlate ⟨later, e, past, hnoted, hwhat, hhanded⟩

/-- In every run, a publish that ends with `ok` has had a PUBACK with its id interpreted during
the call. Its PUBLISH was written without a failure during the call and before such a PUBACK,
unless every PUBACK with that id came too early: before the PUBLISH was given to the transport
of the connection that the PUBACK came from. -/
theorem publish_ok (config : SessionConfig) (ackTimeout now : Micros) (before during : List Turn)
    (topic : String) (payload : List UInt8)
    (hfree : ((System.boot config ackTimeout now).run before).isBusy = false)
    (hserial : ∀ turn ∈ during, publishes turn = false)
    (hbusy : ((System.boot config ackTimeout now).run
      (before ++ .publish topic payload :: during)).isBusy = true)
    (hok : (((System.boot config ackTimeout now).run
      (before ++ .publish topic payload :: during)).step .poll).call = some (.settled (.ok ()))) :
    let start := (System.boot config ackTimeout now).run before
    let noted := since start
      ((System.boot config ackTimeout now).run (before ++ .publish topic payload :: during))
    let id := start.client.nextId
    let bytes := (Packet.publish ⟨false, .atLeastOnce id, true, topic, payload⟩).encode
    (∃ e ∈ noted, e.what = .applied (.puback id)) ∧
      (Confirmed bytes id noted ∨
        ∀ later e past, noted = later ++ e :: past → e.what = .applied (.puback id) →
          ¬ HandedOver bytes past) := by
  intro start noted id bytes
  have horderly := (controlled_run config ackTimeout now
    (before ++ .publish topic payload :: during)).1
  have hrun : (System.boot config ackTimeout now).run (before ++ .publish topic payload :: during) =
      (start.step (.publish topic payload)).run during := System.run_append _ _ _
  rcases underWay_run during _ hserial (underWay_publish hfree topic payload) with hunder | hended
  · rw [← hrun] at hunder
    exact confirmed_or_early bytes horderly hunder hok
  · rw [hrun, hended] at hbusy
    cases hbusy

/-- A PUBACK with the id of the call that comes before the session has taken the request: the
call ends with `ok`, and its PUBLISH was not written. -/
theorem publish_ok_unwritten :
    let early := [.reply (.received (some [0x40, 2, 0, 1]))]
    let start := (System.boot plainConfig (seconds 4) 0).run opening
    let done := (System.boot plainConfig (seconds 4) 0).run
      (opening ++ .publish "t" [1] :: early)
    let bytes := (Packet.publish ⟨false, .atLeastOnce 1, true, "t", [1]⟩).encode
    start.isBusy = false ∧ (∀ turn ∈ early, publishes turn = false) ∧ done.isBusy = true ∧
      (done.step .poll).call = some (.settled (.ok ())) ∧
      (∃ e ∈ since start done, e.what = .applied (.puback 1)) ∧
      ¬ Confirmed bytes 1 (since start done) ∧
      ∀ later e past, since start done = later ++ e :: past → e.what = .applied (.puback 1) →
        ¬ HandedOver bytes past := by
  intro early start done bytes
  have hfree : start.isBusy = false := by decide +kernel
  have hserial : ∀ turn ∈ early, publishes turn = false := by simp [early, publishes]
  have hbusy : done.isBusy = true := by decide +kernel
  have hok : (done.step .poll).call = some (.settled (.ok ())) := by decide +kernel
  have hunwritten : ∀ w ∈ since start done, w.what ≠ .answered (.write bytes) (.written true) := by
    decide +kernel
  have hnot : ¬ Confirmed bytes 1 (since start done) := by
    rintro ⟨later, e, middle, w, earlier, hnoted, -, hwritten⟩
    exact hunwritten w (by rw [hnoted]; simp) hwritten
  have hid : ((System.boot plainConfig (seconds 4) 0).run opening).client.nextId = 1 := by
    decide +kernel
  obtain ⟨hacknowledged, hearly⟩ :=
    publish_ok plainConfig (seconds 4) 0 opening early "t" [1] hfree hserial hbusy hok
  rw [hid] at hacknowledged hearly
  exact ⟨hfree, hserial, hbusy, hok, hacknowledged, hnot, hearly.resolve_left hnot⟩

end WeatherStation.Proofs.Mqtt
