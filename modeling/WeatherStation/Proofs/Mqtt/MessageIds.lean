import Mathlib.Data.List.Iterate
import WeatherStation.Proofs.Mqtt.Subscription

/-!
# `WeatherStation.Proofs.Mqtt.MessageIds`: the ids of PUBLISH and SUBSCRIBE

The client numbers its messages and the session its SUBSCRIBE packets, each with a counter of its
own. The client's ids are those up to `maxMessageId` except zero, and the session's are those above.
So no id stands for both, and an acknowledgement tells what it is for.

Both counters go round (`GoesRound`): an id comes back only when all others of its kind have been
used. This follows from the place of each id in its range (`Places`). The place of the client's
`k`-th id is in `toNat_iterate_idAfter`, that of the session's in `toNat_iterate_nextSubscribeId`.

`publishIds` are the ids that the calls of a run take, and `subscribed` are the SUBSCRIBE packets on
the wire. `publishIds_eq` and `asks_run` say that they come in the order of the counters, without a
gap. `message_ids` is the result.
-/

set_option autoImplicit false

namespace WeatherStation.Proofs.Mqtt

open WeatherStation.Mqtt

/-! ### Going round -/

/-- Ids in the order in which they are used go round the `size` ids from `first` on. -/
structure GoesRound (first size : Nat) (ids : List UInt16) : Prop where
  inRange : ∀ id ∈ ids, first ≤ id.toNat ∧ id.toNat < first + size
  /-- As many as there are, used one after the other, are all different. -/
  distinct : ∀ part, part <:+: ids → part.length ≤ size → part.Nodup
  /-- Between two uses of an id all others are used. -/
  exhausted : ∀ id part, id :: (part ++ [id]) <:+: ids → ∀ other : UInt16,
    first ≤ other.toNat → other.toNat < first + size → other ≠ id → other ∈ part

/-- Each id is one place behind the one before it, and the first one comes after the last. -/
def Places (first size start : Nat) (ids : List UInt16) : Prop :=
  ∀ i (h : i < ids.length), ids[i].toNat = first + (start + i) % size

/-- Every other place is reached before the same one is reached again. -/
theorem exists_steps {size start place : Nat} (hplace : place < size)
    (hother : place ≠ start % size) :
    ∃ k, k + 1 < size ∧ (start + (k + 1)) % size = place := by
  have hstart : start % size < size := Nat.mod_lt _ (Nat.zero_lt_of_lt hplace)
  rcases Nat.lt_or_gt_of_ne hother with hless | hmore
  · refine ⟨place + size - start % size - 1, by omega, ?_⟩
    have hsum : start % size + (place + size - start % size - 1 + 1) = place + size := by omega
    rw [← Nat.mod_add_mod, hsum, Nat.add_mod_right, Nat.mod_eq_of_lt hplace]
  · refine ⟨place - start % size - 1, by omega, ?_⟩
    have hsum : start % size + (place - start % size - 1 + 1) = place := by omega
    rw [← Nat.mod_add_mod, hsum, Nat.mod_eq_of_lt hplace]

/-- The same place is reached again after a whole round. -/
theorem size_le_of_mod_eq {size m n : Nat} (h : m % size = n % size) (hlt : n < m) :
    size ≤ m - n :=
  Nat.le_of_dvd (by omega) (Nat.dvd_of_mod_eq_zero (Nat.sub_mod_eq_zero_of_mod_eq h))

namespace Places

section
variable {first size start : Nat} {ids part : List UInt16} {id other : UInt16}

/-- A part of the ids has their places, from another one on. -/
theorem of_part (h : Places first size start ids) (hpart : part <:+: ids) :
    ∃ start, Places first size start part := by
  obtain ⟨before, after, rfl⟩ := hpart
  refine ⟨start + before.length, fun i hi => ?_⟩
  have hplace := h (before.length + i) (by simp only [List.length_append]; omega)
  rw [List.getElem_append_left (by rw [List.length_append]; omega),
    List.getElem_append_right (Nat.le_add_right _ _)] at hplace
  simpa only [Nat.add_sub_cancel_left, Nat.add_assoc] using hplace

/-- Within a round no place is reached twice. -/
theorem nodup (h : Places first size start ids) (hlength : ids.length ≤ size) : ids.Nodup := by
  refine List.pairwise_iff_getElem.mpr fun i j hi hj hlt hsame => ?_
  have hplace := h i hi
  rw [hsame, h j hj] at hplace
  have hround := size_le_of_mod_eq (Nat.add_left_cancel hplace) (by omega)
  omega

/-- Where the first id comes back a round is over, and every other id was in it. -/
theorem mem_between (h : Places first size start (id :: (part ++ [id])))
    (hlow : first ≤ other.toNat) (hhigh : other.toNat < first + size) (hother : other ≠ id) :
    other ∈ part := by
  -- The id has the same place at both ends, so there is a whole round between them.
  have hid : id.toNat = first + start % size := h 0 (Nat.zero_lt_succ _)
  have hagain := h (part.length + 1) (by simp)
  rw [List.getElem_cons_succ, List.getElem_concat_length rfl, hid] at hagain
  have hround := size_le_of_mod_eq (Nat.add_left_cancel hagain).symm (by omega)
  -- The place of the other id is reached before that round is over.
  have hplace : other.toNat - first ≠ start % size :=
    fun hsame => hother (UInt16.toNat_inj.mp (by omega))
  obtain ⟨k, hk, hreached⟩ := exists_steps (by omega : other.toNat - first < size) hplace
  have hlt : k < part.length := by omega
  have hsame := h (k + 1) (by simp; omega)
  rw [List.getElem_cons_succ, List.getElem_append_left hlt, hreached] at hsame
  rw [UInt16.toNat_inj.mp (by omega : other.toNat = part[k].toNat)]
  exact List.getElem_mem hlt

/-- Ids that have their places go round: between two of the same place there are all others. -/
theorem goesRound (h : Places first size start ids) (hsize : 0 < size) :
    GoesRound first size ids where
  inRange := by
    intro id hid
    obtain ⟨i, hi, rfl⟩ := List.mem_iff_getElem.mp hid
    have hlt := Nat.mod_lt (start + i) hsize
    rw [h i hi]
    omega
  distinct := by
    intro part hpart
    obtain ⟨start, hplaces⟩ := h.of_part hpart
    exact hplaces.nodup
  exhausted := by
    intro id part hpart other
    obtain ⟨start, hplaces⟩ := h.of_part hpart
    exact hplaces.mem_between

end

end Places

/-! ### The ids of the client -/

/-- The `k`-th id, the first one being 1. -/
theorem toNat_iterate_idAfter (k : Nat) :
    (Client.idAfter^[k] 1).toNat = 1 + k % 0x7FFF := by
  induction k with
  | zero => rfl
  | succ k ih =>
    rw [Function.iterate_succ_apply', Client.idAfter]
    generalize Client.idAfter^[k] 1 = id at ih ⊢
    split
    · rename_i hlast
      have hle : 0x7FFF ≤ id.toNat := UInt16.le_iff_toNat_le.mp hlast
      show 1 = 1 + (k + 1) % 0x7FFF
      omega
    · rename_i hbefore
      have hlt : ¬ 0x7FFF ≤ id.toNat := fun hle => hbefore (UInt16.le_iff_toNat_le.mpr hle)
      rw [UInt16.toNat_add]
      show (id.toNat + 1) % 65536 = _
      omega

/-- Whether a publish takes an id. It does not where no session is open. -/
def takesId : Option (Except PublishError Unit) → Bool
  | some (.error .notConnected) => false
  | _ => true

/-- The ids that the client's calls take in the course of these turns, first one first. -/
def publishIds (s : System) (turns : List Turn) : List UInt16 :=
  ((calls s turns).filter fun p => takesId p.result).map Publication.id

/-- A call that is not refused has taken an id. -/
theorem takesId_of_not_refused {result : Option (Except PublishError Unit)}
    (h : refuses result = false) : takesId result = true := by
  rw [takesId.eq_def]
  split
  · cases h
  · rfl

/-- A publish is refused before it takes an id, or it takes the next one. Then it is refused
because of its length, or it goes on. -/
theorem publish_takes (c : Client) (x : Exchange) (now : Micros) (topic : String)
    (payload : List UInt8) :
    let y := c.publish x now topic payload
    (y.1 = .settled (.error .notConnected) ∧ y.2.1.nextId = c.nextId) ∨
    (y.2.1.nextId = Client.idAfter c.nextId ∧
      (y.1 = .settled (.error .encodeOverflow) ∨ ∃ id, awaitedId y.1 = some id)) := by
  rw [Client.publish]
  split
  · exact .inl ⟨rfl, rfl⟩
  · dsimp only
    rcases new?_cases topic payload c.nextId with hlong | ⟨request, hrequest, -⟩
    · rw [hlong]
      exact .inr ⟨rfl, .inl rfl⟩
    · rw [hrequest]
      exact .inr ⟨rfl, .inr ⟨_, (advance_offering_empty rfl).1⟩⟩

/-- The client's counter goes on with each call that takes an id, and with no other. -/
theorem takes_step {s : System} (hfree : s.isBusy = false) (topic : String) (payload : List UInt8)
    (turns : List Turn) :
    (s.step (.publish topic payload)).client.nextId =
      if takesId (returned (s.step (.publish topic payload)) turns) then
        Client.idAfter s.client.nextId
      else s.client.nextId := by
  have ht := System.step_publish hfree topic payload
  generalize s.step (.publish topic payload) = t at ht ⊢
  rcases publish_takes s.client s.session.exchange s.now topic payload with
    ⟨hsettled, hnext⟩ | ⟨hnext, hlong | ⟨id, hid⟩⟩
  · have hcall : t.call = some (.settled (.error .notConnected)) := by
      rw [ht]
      exact congrArg some hsettled
    rw [returned_of_settled hcall, ht]
    exact hnext
  · have hcall : t.call = some (.settled (.error .encodeOverflow)) := by
      rw [ht]
      exact congrArg some hlong
    rw [returned_of_settled hcall, ht]
    exact hnext
  · have hbusy : t.isBusy = true := by
      rw [ht]
      exact busy_of_awaited rfl hid
    rw [if_pos (takesId_of_not_refused (returned_of_busy turns t hbusy)), ht]
    exact hnext

/-- One turn takes the next id or none. -/
theorem publishIds_cons (s : System) (turn : Turn) (turns : List Turn) :
    (publishIds s (turn :: turns) = publishIds (s.step turn) turns ∧
      (s.step turn).client.nextId = s.client.nextId) ∨
    (publishIds s (turn :: turns) = s.client.nextId :: publishIds (s.step turn) turns ∧
      (s.step turn).client.nextId = Client.idAfter s.client.nextId) := by
  cases turn with
  | publish topic payload =>
    by_cases hbusy : s.isBusy = true
    · refine .inl ⟨?_, by rw [System.step_publish_busy hbusy]⟩
      rw [publishIds, calls, if_pos hbusy]
      rfl
    · have hnext := takes_step (by simpa using hbusy) topic payload turns
      rw [publishIds, calls, if_neg hbusy]
      -- A call takes an id exactly if it is not refused, and only then the next one goes on.
      cases htakes : takesId (returned (s.step (.publish topic payload)) turns) with
      | false =>
        rw [htakes, if_neg Bool.false_ne_true] at hnext
        refine .inl ⟨?_, hnext⟩
        rw [List.filter_cons_of_neg (by simpa using htakes)]
        rfl
      | true =>
        rw [htakes, if_pos rfl] at hnext
        refine .inr ⟨?_, hnext⟩
        rw [List.filter_cons_of_pos (by exact htakes)]
        rfl
  | poll =>
    refine .inl ⟨rfl, ?_⟩
    cases hcall : s.call with
    | none => rw [System.step_poll_none hcall]
    | some call => rw [System.step_poll hcall]
  | _ => exact .inl ⟨rfl, congrArg Client.nextId (step_hears s rfl).2.2⟩

/-- The ids of the calls are the next ones of the counter. -/
theorem publishIds_eq (turns : List Turn) : ∀ s : System,
    publishIds s turns =
      List.iterate Client.idAfter s.client.nextId (publishIds s turns).length := by
  induction turns with
  | nil => exact fun s => rfl
  | cons turn turns ih =>
    intro s
    have hrest := ih (s.step turn)
    rcases publishIds_cons s turn turns with ⟨hids, hnext⟩ | ⟨hids, hnext⟩
    · rw [hids, ← hnext]
      exact hrest
    · rw [hids, List.length_cons, List.iterate, ← hnext, ← hrest]

/-! ### The ids of SUBSCRIBE -/

/-- The next id is the next place of the upper half. -/
theorem toNat_nextSubscribeId (id : UInt16) :
    (Session.nextSubscribeId id).toNat = 0x8000 + (id.toNat + 1) % 0x8000 := by
  have hmod := nextSubscribeId_mod id
  have hlt := (Session.nextSubscribeId id).toNat_lt
  have hhigh : 0x8000 ≤ (Session.nextSubscribeId id).toNat := by
    rw [Session.nextSubscribeId, UInt16.toNat_or]
    exact Nat.left_le_or
  omega

/-- The `k`-th id, the first one being the one after zero. -/
theorem toNat_iterate_nextSubscribeId (k : Nat) :
    (Session.nextSubscribeId^[k] (Session.nextSubscribeId 0)).toNat =
      0x8000 + (1 + k) % 0x8000 := by
  rw [← Function.iterate_succ_apply, Function.iterate_succ_apply', toNat_nextSubscribeId]
  have hmod := iterate_nextSubscribeId_mod k 0
  rw [UInt16.toNat_zero, Nat.zero_add] at hmod
  omega

/-- Whether the bytes are a SUBSCRIBE. -/
def isSubscribe : List UInt8 → Bool
  | header :: _ => header == 0x82
  | [] => false

/-- A PUBLISH begins with another byte. -/
theorem isPublish_of_isSubscribe {bytes : List UInt8} (h : isSubscribe bytes = true) :
    isPublish bytes = false := by
  cases bytes with
  | nil => rfl
  | cons header rest =>
    obtain rfl : header = 0x82 := beq_iff_eq.mp h
    rfl

/-- A SUBSCRIBE is known by its first byte. -/
theorem isSubscribe_encode (packet : Packet) :
    isSubscribe packet.encode = true ↔ ∃ id filters, packet = .subscribe id filters := by
  cases packet with
  | subscribe id filters => exact iff_of_true rfl ⟨id, filters, rfl⟩
  | publish message =>
    refine iff_of_false (fun hsubscribe => ?_) nofun
    have hpublish := (isPublish_encode (.publish message)).mpr ⟨message, rfl⟩
    rw [isPublish_of_isSubscribe hsubscribe] at hpublish
    cases hpublish
  | _ => exact iff_of_false nofun nofun

/-- The SUBSCRIBE packets given to the transport, first one first. -/
def subscribed : List Entry → List (List UInt8)
  | [] => []
  | e :: past =>
    match e.what with
    | .asked (.write bytes) => subscribed past ++ if isSubscribe bytes then [bytes] else []
    | _ => subscribed past

/-- The SUBSCRIBE packets with the first `n` ids. -/
def requests (config : SessionConfig) (n : Nat) : List (List UInt8) :=
  (List.iterate Session.nextSubscribeId (Session.nextSubscribeId 0) n).map (subscribeBytes config)

/-- One more attempt, with the next id. -/
theorem requests_succ (config : SessionConfig) (n : Nat) :
    requests config (n + 1) =
      requests config n ++ [subscribeBytes config (Session.nextSubscribeId^[n + 1] 0)] := by
  rw [requests, List.iterate_add, List.map_append, Function.iterate_succ_apply]
  rfl

/-- The SUBSCRIBE packets so far had the first `n` ids, and the session remembers the last one. -/
def Asked (n : Nat) (s : Session) : Prop :=
  subscribed s.exchange.journal = requests s.config n ∧
    s.subscribeId = Session.nextSubscribeId^[n] 0

/-- The ids at a point. Where a SUBSCRIBE is about to be written, it is the one with the next id,
and nothing keeps it from being written. -/
def Asks : Point → Session → Prop
  | .sending packet _ otherwise, s =>
    (isSubscribe packet.encode = false ∧ (∃ n, Asked n s) ∧ Asks otherwise s) ∨
      ∃ n, subscribed s.exchange.journal = requests s.config n ∧
        s.subscribeId = Session.nextSubscribeId^[n + 1] 0 ∧
        packet.encode = subscribeBytes s.config s.subscribeId ∧
        packet.encodeWithin outboundCapacity ≠ none
  | _, s => ∃ n, Asked n s

section
variable {now : Micros} {p q : Point} {s t : Session}

/-- A packet of another kind. -/
theorem Asks.other {packet : Packet} {errand : Errand} {otherwise : Point}
    (hother : ∀ id filters, packet ≠ .subscribe id filters) (h : ∃ n, Asked n s)
    (hotherwise : Asks otherwise s) : Asks (.sending packet errand otherwise) s := by
  refine .inl ⟨?_, h, hotherwise⟩
  rw [Bool.eq_false_iff]
  intro hsubscribe
  obtain ⟨id, filters, hpacket⟩ := (isSubscribe_encode packet).mp hsubscribe
  exact hother id filters hpacket

/-- Every move keeps it. -/
theorem Move.asks (move : Move now p s q t) (h : Asks p s) : Asks q t := by
  cases move with
  | subscribeSend htopics hfit =>
    obtain ⟨n, hsubscribed, hid⟩ := h
    obtain ⟨hwithin, -⟩ := encodeWithin_subscribe s.subscribeId hfit
    refine .inr ⟨n, hsubscribed, ?_, rfl, hwithin ▸ nofun⟩
    rw [Function.iterate_succ_apply', ← hid]
  | @send _ packet errand otherwise bytes hbytes =>
    obtain rfl := encodeWithin_eq hbytes
    -- Either another packet is sent, which does not count, or the SUBSCRIBE with the new id, which
    -- is the next one in the list.
    rcases h with ⟨hother, ⟨n, hsubscribed, hid⟩, -⟩ | ⟨n, hsubscribed, hid, hpacket, -⟩
    · refine ⟨n, ?_, hid⟩
      show subscribed s.exchange.journal ++ (if isSubscribe packet.encode then _ else []) = _
      rw [hother, hsubscribed]
      exact List.append_nil _
    · have hsubscribe : isSubscribe (subscribeBytes s.config s.subscribeId) = true := rfl
      refine ⟨n + 1, ?_, hid⟩
      show subscribed s.exchange.journal ++
        (if isSubscribe packet.encode then [packet.encode] else []) = requests s.config (n + 1)
      rw [hpacket, hsubscribe, hsubscribed, hid, requests_succ]
      rfl
  | sendNot hnone =>
    rcases h with ⟨-, -, hotherwise⟩ | ⟨n, -, -, -, hsome⟩
    · exact hotherwise
    · exact absurd hnone hsome
  | requested hphase hrequest => exact Asks.other nofun h h
  | dialed hphase => exact Asks.other nofun h h
  | pollFarewell hpending => exact Asks.other nofun h h
  | pollPing hpending hping hdue => exact Asks.other nofun h h
  | acknowledge hreply => exact Asks.other nofun h h
  | apply hframe hpacket =>
    obtain ⟨n, hsubscribed, hid⟩ := h
    obtain ⟨packet, hjournal, -⟩ := interpret_eq hpacket
    refine ⟨n, ?_, hid⟩
    show subscribed _ = _
    rw [hjournal]
    exact hsubscribed
  | _ => exact h

/-- Only the session subscribes. -/
theorem subscribed_of_aside {x y : Exchange} (h : Aside x y) :
    subscribed y.journal = subscribed x.journal := by
  refine h.keeps (P := fun past => subscribed past = subscribed x.journal) ?_ rfl
  rintro ⟨time, what⟩ past hother hpast
  cases what <;> first
    | exact hpast
    | cases hother

/-- The other tasks send no SUBSCRIBE. -/
theorem Asks.aside {exchange : Exchange} (haside : Aside s.exchange exchange)
    (h : Asks .waiting s) : Asks .waiting { s with exchange } := by
  obtain ⟨n, hsubscribed, hid⟩ := h
  exact ⟨n, (subscribed_of_aside haside).trans hsubscribed, hid⟩

/-- Giving way sends nothing. -/
theorem Asks.yield (h : Asks .waiting s) : Asks .waiting s.yield := by
  rw [Session.yield]
  split <;> exact h

end

/-- In every run the SUBSCRIBE packets have the first ids of the counter. -/
theorem asks_run (config : SessionConfig) (ackTimeout now : Micros) (turns : List Turn) :
    ∃ n, subscribed ((System.boot config ackTimeout now).run turns).journal =
      requests config n := by
  have h : Asks .waiting ((System.boot config ackTimeout now).run turns).session ∧
      ((System.boot config ackTimeout now).run turns).session.config = config :=
    System.invariant (P := fun p s => Asks p s ∧ s.config = config) ⟨⟨0, rfl, rfl⟩, rfl⟩
      (fun move h => ⟨move.asks h.1, move.config.trans h.2⟩)
      (fun haside h => ⟨h.1.aside haside, h.2⟩)
      (fun h => ⟨h.1.yield, (yield_frame _).1.trans h.2⟩) turns
  obtain ⟨⟨n, hsubscribed, -⟩, hconfig⟩ := h
  rw [hconfig] at hsubscribed
  exact ⟨n, hsubscribed⟩

/-! ### The result -/

/-- The ids of the messages of a run, whatever the broker, the transport and the other tasks do.

1. The ids that the publishes take go round those from 1 to 0x7FFF.
2. The ids of the SUBSCRIBE packets on the wire go round those from 0x8000 to 0xFFFF.
3. None of them is zero. So no packet with one of them is refused for its id.
4. No id is of both kinds. -/
theorem message_ids (config : SessionConfig) (ackTimeout now : Micros) (turns : List Turn) :
    let start := System.boot config ackTimeout now
    ∃ subscribeIds,
      subscribed (start.run turns).journal = subscribeIds.map (subscribeBytes config) ∧
      GoesRound 1 0x7FFF (publishIds start turns) ∧ GoesRound 0x8000 0x8000 subscribeIds ∧
      (∀ id ∈ publishIds start turns ++ subscribeIds, id ≠ 0 ∧
        ∀ (packet : Packet) capacity, packet.id? = some id → packet.encode.length ≤ capacity →
          packet.encodeWithin capacity = some packet.encode) ∧
      ∀ id ∈ publishIds start turns, id ∉ subscribeIds := by
  intro start
  obtain ⟨n, hsubscribed⟩ := asks_run config ackTimeout now turns
  have hpublish : GoesRound 1 0x7FFF (publishIds start turns) := by
    have hplaces : Places 1 0x7FFF 0 (publishIds start turns) := by
      rw [publishIds_eq]
      intro i hi
      rw [List.getElem_iterate, Nat.zero_add]
      exact toNat_iterate_idAfter i
    exact hplaces.goesRound (by decide)
  have hsubscribe : GoesRound 0x8000 0x8000
      (List.iterate Session.nextSubscribeId (Session.nextSubscribeId 0) n) := by
    have hplaces : Places 0x8000 0x8000 1
        (List.iterate Session.nextSubscribeId (Session.nextSubscribeId 0) n) := by
      intro i hi
      rw [List.getElem_iterate, toNat_iterate_nextSubscribeId]
    exact hplaces.goesRound (by decide)
  -- Neither range has the zero, for which the encoder refuses a packet, and the ranges are apart.
  refine ⟨_, hsubscribed, hpublish, hsubscribe, fun id hid => ?_, fun id hid hboth => ?_⟩
  · have hne : id ≠ 0 := by
      rintro rfl
      rcases List.mem_append.mp hid with hid | hid
      · exact absurd (hpublish.inRange 0 hid).1 (by decide)
      · exact absurd (hsubscribe.inRange 0 hid).1 (by decide)
    refine ⟨hne, fun packet capacity hpacket hlength => encodeWithin_of_le ?_ hlength⟩
    rw [hpacket]
    exact fun hzero => hne (Option.some.inj hzero)
  · have hlow := (hpublish.inRange id hid).2
    have hhigh := (hsubscribe.inRange id hboth).1
    omega

/-- Behind its last id each counter starts over. -/
example : Client.idAfter 0x7FFF = 1 ∧ Session.nextSubscribeId 0xFFFF = 0x8000 := by decide

end WeatherStation.Proofs.Mqtt
