import WeatherStation.Mqtt.Exchange

/-!
# `WeatherStation.Proofs.Mqtt.Interpret`: what a packet does to the shared state

`Exchange.interpret` decodes a packet, applies it and notes it. `interpret_ok` takes these
steps apart. `Absorbs` lists the packets that are applied, with all that comes of each.

`apply_eq` names the parts of the shared state that a packet can change: the time of the last sign
of life, the inbox with its count, and the slot for the acknowledged id. Only a PUBACK writes that
slot, and it writes it whatever stood in it before. The flags and the slot for requests stay as
they are (`interpret_frame`). `connack_of_apply` and `suback_of_apply` lead from what the session
learns back to the packet.
-/

set_option autoImplicit false

namespace WeatherStation.Proofs.Mqtt

open WeatherStation.Mqtt

/-- The id that a packet acknowledges. -/
def acknowledged : Packet → Option UInt16
  | .puback id => some id
  | _ => none

section
variable {x y : Exchange} {now : Micros} {packet : Packet} {received : Received}

/-- Delivering a message changes the inbox or the count of messages that are not kept. -/
theorem deliver_eq (x : Exchange) (topic : String) (payload : List UInt8) :
    ∃ inbox dropped, x.deliver topic payload = { x with inbox, dropped } := by
  rw [Exchange.deliver]
  split
  · exact ⟨x.inbox, x.dropped, rfl⟩
  · split
    · exact ⟨x.inbox, x.dropped + 1, rfl⟩
    · split
      · exact ⟨_, x.dropped, rfl⟩
      · exact ⟨x.inbox, x.dropped + 1, rfl⟩

/-- The packets that are applied, what the session learns from each, and what becomes of the shared
state. -/
inductive Absorbs (now : Micros) (x : Exchange) : Packet → Received → Exchange → Prop where
  /-- The broker lets the session in. -/
  | accepted (present : Bool) : Absorbs now x (.connack present 0) (.connack 0) (x.markAlive now)
  | refused (present : Bool) {code : UInt8} (h : code ≠ 0) :
    Absorbs now x (.connack present code) (.connack code) x
  | suback (id : UInt16) (codes : List (Option QoS)) :
    Absorbs now x (.suback id codes) (.suback id (codes.any Option.isNone)) x
  | puback (id : UInt16) : Absorbs now x (.puback id) (.puback id) { x with ack := some id }
  | pingresp : Absorbs now x .pingresp .pingresp (x.markAlive now)
  /-- A message of quality of service 1 asks for a PUBACK. -/
  | publish (m : Publish) :
    Absorbs now x (.publish m)
      (.publish (match m.delivery with
        | .atLeastOnce id => some id
        | _ => none))
      (x.deliver m.topic m.payload)

/-- A packet that is applied is one of those listed, and does what is listed for it. -/
theorem absorbs_of_apply (h : x.apply now packet = some (received, y)) :
    Absorbs now x packet received y := by
  cases packet with
  | connack present code =>
    obtain ⟨rfl, rfl⟩ := Prod.mk.inj (Option.some.inj h)
    split
    · rename_i hcode
      subst hcode
      exact .accepted present
    · rename_i hcode
      exact .refused present hcode
  | publish m =>
    obtain ⟨rfl, rfl⟩ := Prod.mk.inj (Option.some.inj h)
    exact .publish m
  | suback id codes =>
    obtain ⟨rfl, rfl⟩ := Prod.mk.inj (Option.some.inj h)
    exact .suback id codes
  | puback id =>
    obtain ⟨rfl, rfl⟩ := Prod.mk.inj (Option.some.inj h)
    exact .puback id
  | pingresp =>
    obtain ⟨rfl, rfl⟩ := Prod.mk.inj (Option.some.inj h)
    exact .pingresp
  -- No other packet is applied.
  | _ => cases h

/-- What applying a packet can change. It notes nothing. -/
theorem apply_eq (h : x.apply now packet = some (received, y)) :
    ∃ lastAlive inbox dropped,
      y = { x with ack := (acknowledged packet).or x.ack, lastAlive, inbox, dropped } := by
  cases absorbs_of_apply h with
  | publish m =>
    obtain ⟨inbox, dropped, hdeliver⟩ := deliver_eq x m.topic m.payload
    exact ⟨x.lastAlive, inbox, dropped, hdeliver⟩
  | _ => exact ⟨_, _, _, rfl⟩

/-- What the session learns as a CONNACK was one. -/
theorem connack_of_apply {code : UInt8} (h : x.apply now packet = some (.connack code, y)) :
    ∃ present, packet = .connack present code := by
  cases absorbs_of_apply h with
  | accepted present => exact ⟨present, rfl⟩
  | refused present hcode => exact ⟨present, rfl⟩

/-- What it learns as a SUBACK was one, and it has failed if one of its codes says so. -/
theorem suback_of_apply {id : UInt16} {failed : Bool}
    (h : x.apply now packet = some (.suback id failed, y)) :
    ∃ codes, packet = .suback id codes ∧ codes.any Option.isNone = failed := by
  cases absorbs_of_apply h with
  | suback id codes => exact ⟨codes, rfl, rfl⟩

/-- Interpreting is decoding, applying and noting. -/
theorem interpret_ok {bytes : List UInt8} (h : x.interpret now bytes = .ok (received, y)) :
    ∃ packet applied, Packet.decode bytes = .ok packet ∧
      x.apply now packet = some (received, applied) ∧ y = applied.note now (.applied packet) := by
  rw [Exchange.interpret] at h
  split at h
  · cases h
  · rename_i packet hdecode
    split at h
    · rename_i applied happly
      obtain ⟨rfl, rfl⟩ := Prod.mk.inj (Except.ok.inj h)
      exact ⟨packet, _, hdecode, happly, rfl⟩
    · cases h

/-- An interpreted packet is noted, and only a PUBACK writes the slot for the acknowledged
id. -/
theorem interpret_eq {bytes : List UInt8} (h : x.interpret now bytes = .ok (received, y)) :
    ∃ packet, y.journal = ⟨now, .applied packet⟩ :: x.journal ∧
      y.ack = (acknowledged packet).or x.ack := by
  obtain ⟨packet, applied, -, happly, rfl⟩ := interpret_ok h
  obtain ⟨lastAlive, inbox, dropped, rfl⟩ := apply_eq happly
  exact ⟨packet, rfl, rfl⟩

/-- A packet says nothing about the network. -/
theorem interpret_pending {bytes : List UInt8} (h : x.interpret now bytes = .ok (received, y)) :
    y.disconnectPending = x.disconnectPending := by
  obtain ⟨packet, applied, -, happly, rfl⟩ := interpret_ok h
  obtain ⟨lastAlive, inbox, dropped, rfl⟩ := apply_eq happly
  rfl

/-- A packet opens and closes no session and takes no request. -/
theorem interpret_frame {bytes : List UInt8} (h : x.interpret now bytes = .ok (received, y)) :
    y.connected = x.connected ∧ y.request = x.request := by
  obtain ⟨packet, applied, -, happly, rfl⟩ := interpret_ok h
  obtain ⟨lastAlive, inbox, dropped, rfl⟩ := apply_eq happly
  exact ⟨rfl, rfl⟩

end

end WeatherStation.Proofs.Mqtt
