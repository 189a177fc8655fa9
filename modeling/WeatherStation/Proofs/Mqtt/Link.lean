import WeatherStation.Proofs.Mqtt.Control

/-!
# `WeatherStation.Proofs.Mqtt.Link`: one connection after the other

A link is what lies between a dial that succeeded and the end of that connection. `Linked` reads
the present link from a journal: the happenings since such a dial, with no dial, no close and no
failed call among them.

Everything here follows from the order that `Control` proves for every journal. An open wire has
a link behind it (`linked_of_open`), a failed call leaves the wire broken until the next call
(`wire_of_failed`), and the number of closes since a dial can be read from the wire
(`countP_closes`). `link_discipline` puts the three together for every run.
-/

set_option autoImplicit false

namespace WeatherStation.Proofs.Mqtt

open WeatherStation.Mqtt

/-- Whether a wait ended with a failure of the connection. A read that gives no bytes at all is
one: the broker has closed the connection. -/
def fails : Call → Reply → Bool
  | .dial _, .dialed false => true
  | .write _, .written false => true
  | .read _, .received none => true
  | .read _, .received (some []) => true
  | _, _ => false

/-- Whether this ends a connection or begins another one. -/
def cuts : Happening → Bool
  | .asked (.dial _) => true
  | .asked .close => true
  | .answered call reply => fails call reply
  | _ => false

/-- Whether this is a request to close the connection. -/
def closes : Happening → Bool
  | .asked .close => true
  | _ => false

/-- Whether bytes go over the connection. -/
def transfers : Call → Bool
  | .read _ => true
  | .write _ => true
  | _ => false

/-- Whether the transport is called. A sleep is the session's own. -/
def callsTransport : Happening → Bool
  | .asked (.sleep _) => false
  | .asked _ => true
  | _ => false

/-- The journal ends with a connection that was opened and has not come to an end: `link` lists
what happened since the dial that succeeded, newest first. -/
def Linked (link : List Happening) (past : List Entry) : Prop :=
  ∃ since time remote before,
    past = since ++ ⟨time, .answered (.dial remote) (.dialed true)⟩ :: before ∧
      since.map Entry.what = link ∧ ∀ what ∈ link, cuts what = false

/-- A dial that has just succeeded begins a link. -/
theorem linked_dialed (time : Micros) (remote : Endpoint) (past : List Entry) :
    Linked [] (⟨time, .answered (.dial remote) (.dialed true)⟩ :: past) :=
  ⟨[], time, remote, past, rfl, rfl, by simp⟩

/-- The link goes on with whatever does not cut it. -/
theorem Linked.cons {link : List Happening} {past : List Entry} {e : Entry} (h : Linked link past)
    (hcuts : cuts e.what = false) : Linked (e.what :: link) (e :: past) := by
  obtain ⟨since, time, remote, before, rfl, rfl, hkept⟩ := h
  refine ⟨e :: since, time, remote, before, rfl, rfl, ?_⟩
  intro what hwhat
  rcases List.mem_cons.mp hwhat with rfl | hold
  · exact hcuts
  · exact hkept what hold

/-! ### What the wire tells about the link -/

/-- The connection is open, or bytes are on their way. -/
def Wire.Open : Wire → Prop
  | .up => True
  | .busy call => transfers call = true
  | _ => False

/-- Without a failure the end of a read or a write leaves no cut, and nothing but a dial that
succeeds opens a wire that was not open. -/
theorem outcome_open {call : Call} {reply : Reply} (h : (outcome call reply).Open) :
    (∃ remote, call = .dial remote ∧ reply = .dialed true) ∨
      (transfers call = true ∧ fails call reply = false) := by
  revert h
  unfold outcome
  split <;> intro h
  · exact .inl ⟨_, rfl, rfl⟩
  · exact h.elim
  · exact .inr ⟨rfl, rfl⟩
  · exact h.elim
  · exact .inr ⟨rfl, rfl⟩
  · exact h.elim
  · -- A read that was given up is no failure.
    rename_i hother
    refine .inr ⟨rfl, ?_⟩
    cases reply with
    | received bytes => exact absurd rfl (hother bytes)
    | _ => rfl
  all_goals exact h.elim

/-- Behind an open wire there is a link. -/
theorem linked_of_open {past : List Entry} (horderly : Orderly past) (h : (wire past).Open) :
    ∃ link, Linked link past := by
  induction past with
  | nil => exact h.elim
  | cons e past ih =>
    obtain ⟨hallows, hpast⟩ := horderly
    obtain ⟨time, what⟩ := e
    cases what with
    | asked call =>
      -- Bytes are exchanged only on a wire that is up already.
      have hwire : wire past = .up ∧ cuts (.asked call) = false := by
        cases call with
        | write bytes => exact ⟨hallows, rfl⟩
        | read room => exact ⟨hallows, rfl⟩
        | _ => cases h
      obtain ⟨link, hlink⟩ := ih hpast (by rw [hwire.1]; trivial)
      exact ⟨_, hlink.cons hwire.2⟩
    | answered call reply =>
      rcases outcome_open h with ⟨remote, rfl, rfl⟩ | ⟨htransfers, hfine⟩
      · exact ⟨[], linked_dialed time remote past⟩
      · have hbusy : wire past = .busy call := hallows
        obtain ⟨link, hlink⟩ := ih hpast (by rw [hbusy]; exact htransfers)
        exact ⟨_, hlink.cons hfine⟩
    | _ =>
      obtain ⟨link, hlink⟩ := ih hpast h
      exact ⟨_, hlink.cons rfl⟩

/-- A call that fails breaks the connection. -/
theorem outcome_of_fails {call : Call} {reply : Reply} (h : fails call reply = true) :
    outcome call reply = .broken := by
  unfold fails at h
  split at h
  · rfl
  · rfl
  · rfl
  · rfl
  · cases h

/-- Nothing but a call of the transport leads away from a broken connection. -/
theorem broken_after {what : Happening} (hallows : Wire.broken.Allows what)
    (hquiet : callsTransport what = false) : Wire.broken.after what = .broken := by
  cases what with
  | asked call =>
    cases call with
    -- The session does not sleep before it has closed a broken connection.
    | sleep due => cases hallows
    | _ => cases hquiet
  | answered call reply => cases hallows
  | _ => rfl

/-- After a failed call the wire stays broken as long as the transport is not called. -/
theorem wire_of_failed {middle past : List Entry} {time : Micros} {call : Call} {reply : Reply}
    (hfails : fails call reply = true)
    (horderly : Orderly (middle ++ ⟨time, .answered call reply⟩ :: past))
    (hquiet : ∀ e ∈ middle, callsTransport e.what = false) :
    wire (middle ++ ⟨time, .answered call reply⟩ :: past) = .broken := by
  induction middle with
  | nil => exact outcome_of_fails hfails
  | cons e middle ih =>
    rw [List.cons_append] at horderly ⊢
    obtain ⟨hallows, hrest⟩ := horderly
    have hbroken := ih hrest fun x hx => hquiet x (List.mem_cons_of_mem e hx)
    rw [hbroken] at hallows
    rw [wire, hbroken]
    exact broken_after hallows (hquiet e List.mem_cons_self)

/-- How often the last connection has been closed, as far as the wire tells. -/
def Wire.closings : Wire → Nat
  | .down => 1
  | .busy .close => 1
  | .busy (.resolve _) => 1
  | .busy (.sleep _) => 1
  | _ => 0

/-- Only a close counts, and a reply leaves the count as the call has set it. -/
theorem closings_after {w : Wire} {what : Happening} (hallows : w.Allows what)
    (hdials : dials what = false) :
    (w.after what).closings = w.closings + if closes what = true then 1 else 0 := by
  cases what with
  | asked call =>
    cases call with
    | dial remote => cases hdials
    | close => rcases hallows with rfl | rfl <;> rfl
    | write bytes =>
      obtain rfl : w = .up := hallows
      rfl
    | read room =>
      obtain rfl : w = .up := hallows
      rfl
    | resolve host =>
      obtain rfl : w = .down := hallows
      rfl
    | sleep due =>
      obtain rfl : w = .down := hallows
      rfl
  | answered call reply =>
    obtain rfl : w = .busy call := hallows
    show (outcome call reply).closings = (Wire.busy call).closings
    unfold outcome
    split <;> rfl
  | _ => rfl

/-- The closes since a dial can be read from the wire. -/
theorem countP_closes {middle past : List Entry} {time : Micros} {remote : Endpoint}
    (horderly : Orderly (middle ++ ⟨time, .asked (.dial remote)⟩ :: past))
    (hdials : ∀ e ∈ middle, dials e.what = false) :
    middle.countP (closes ·.what) =
      (wire (middle ++ ⟨time, .asked (.dial remote)⟩ :: past)).closings := by
  induction middle with
  | nil => rfl
  | cons e middle ih =>
    rw [List.cons_append] at horderly ⊢
    obtain ⟨hallows, hrest⟩ := horderly
    have hcount := ih hrest fun x hx => hdials x (List.mem_cons_of_mem e hx)
    rw [wire, closings_after hallows (hdials e List.mem_cons_self), ← hcount, List.countP_cons]

/-! ### Every run -/

/-- In every run, whatever the transport replies:

* bytes are read and written only on a connection that a dial has opened and that has neither
  been closed nor failed since;
* the first call of the transport after a failed one is the close;
* from one dial to the next the connection is closed exactly once. -/
theorem link_discipline (config : SessionConfig) (ackTimeout now : Micros) (turns : List Turn) :
    let journal := ((System.boot config ackTimeout now).run turns).journal
    (∀ later past time call, journal = later ++ ⟨time, .asked call⟩ :: past →
      transfers call = true → ∃ link, Linked link past) ∧
    (∀ later middle past time time' failed reply call,
      journal =
        later ++ ⟨time', .asked call⟩ :: (middle ++ ⟨time, .answered failed reply⟩ :: past) →
      fails failed reply = true → (∀ e ∈ middle, callsTransport e.what = false) →
      callsTransport (.asked call) = true → call = .close) ∧
    (∀ later middle past time time' remote remote',
      journal = later ++
        ⟨time', .asked (.dial remote')⟩ :: (middle ++ ⟨time, .asked (.dial remote)⟩ :: past) →
      (∀ e ∈ middle, dials e.what = false) → middle.countP (closes ·.what) = 1) := by
  intro journal
  have horderly : Orderly journal := (controlled_run config ackTimeout now turns).1
  refine ⟨?_, ?_, ?_⟩
  · -- Bytes move on a wire that is up, and such a wire has a link behind it.
    intro later past time call hjournal htransfers
    rw [hjournal] at horderly
    obtain ⟨hallows, hpast⟩ := horderly.of_append
    have hup : wire past = .up := by
      cases call with
      | read room => exact hallows
      | write bytes => exact hallows
      | _ => cases htransfers
    exact linked_of_open hpast (by rw [hup]; trivial)
  · -- A failed call leaves the wire broken, and then it allows a close and nothing else.
    intro later middle past time time' failed reply call hjournal hfails hquiet hcalls
    rw [hjournal] at horderly
    obtain ⟨hallows, hpast⟩ := horderly.of_append
    have hbroken := wire_of_failed hfails hpast hquiet
    rw [hbroken] at hallows
    cases call with
    | close => rfl
    | sleep due => cases hcalls
    | _ => cases hallows
  · -- A dial needs a wire that is down again, which the wire comes to by one close.
    intro later middle past time time' remote remote' hjournal hdials
    rw [hjournal] at horderly
    obtain ⟨hallows, hpast⟩ := horderly.of_append
    have hdown : wire (middle ++ ⟨time, .asked (.dial remote)⟩ :: past) = .down := hallows
    rw [countP_closes hpast hdials, hdown]
    rfl

/-- A connection that cannot be opened, and the next one, which the broker ends at once. -/
example :
    let remote : Endpoint := ⟨⟨10, 0, 0, 1⟩, 1883⟩
    let calls := ((System.boot plainConfig (seconds 4) 0).run
      [.begin, .begin, .reply (.dialed false), .reply .closed, .begin, .pass (seconds 2), .yield,
        .reply .elapsed, .begin, .reply (.dialed true), .reply (.written true),
        .reply (.received (some [])), .reply .closed]).journal.reverse.filterMap fun e =>
          match e.what with
          | .asked call => some call
          | _ => none
    let connect := (Packet.connect ⟨120, "zephyrux", true⟩).encode
    calls = [.dial remote, .close, .sleep (seconds 2), .dial remote, .write connect,
      .read inboundCapacity, .close] := by decide +kernel

end WeatherStation.Proofs.Mqtt
