import WeatherStation.Mqtt.Connection

/-!
# `WeatherStation.Proofs.Mqtt.Escalation`: failures in a row

The connection counts the failures to connect and to subscribe. When there are too many of them
it goes back to the resolution of the broker's name. The count is a single byte, it survives
events that the state does not expect, and it has to start anew with every state.

`after` is the connection after any sequence of events, whether a session would ever report them
in this order or not. `stay` lists those since the present state was entered. Histories are
written newest first.

`counted_after` is the invariant that ties the two together: the count is the number of failures
in the stay, and it is below the limit. `connection_law` reads everything else from it and from
the table of transitions.
-/

set_option autoImplicit false

namespace WeatherStation.Proofs.Mqtt

open WeatherStation.Mqtt

/-- The connection after these events. -/
def after (policy : Policy) : List Event → Connection
  | [] => .new policy
  | event :: past => ((after policy past).handle event).2

/-- The events since the state was last entered. -/
def stay (policy : Policy) : List Event → List Event
  | [] => []
  | event :: past =>
    if (after policy (event :: past)).state = (after policy past).state then
      event :: stay policy past
    else []

/-- Whether an event is a failure that the state counts. -/
def counts : ConnectionState → Event → Bool
  | .connectBroker, .connectFailed => true
  | .subscribe, .subscribeFailed => true
  | _, _ => false

/-- So many failures in a row lead back. A policy that allows none allows no second attempt
either. -/
def limit (policy : Policy) : Nat := max 1 policy.maxFailures.toNat

/-- No event changes the policy. -/
theorem policy_after (policy : Policy) (past : List Event) :
    (after policy past).policy = policy := by
  induction past with
  | nil => rfl
  | cons event past ih => exact ih

/-! ### One event -/

section
variable {policy : Policy} {state : ConnectionState} {failures : UInt8} {event : Event}

/-- Only the largest number has none after it, and there the count stays. -/
theorem toNat_countUp_of_ne (h : failures ≠ 255) :
    (countUp failures).toNat = failures.toNat + 1 := by
  have hlt := failures.toNat_lt
  have hnat : failures.toNat ≠ 255 := fun heq => h (UInt8.toNat_inj.mp heq)
  rw [countUp, if_neg h, UInt8.toNat_add]
  show (failures.toNat + 1) % 256 = failures.toNat + 1
  omega

/-- Below the limit the count has not come to its largest number. -/
theorem toNat_countUp (h : failures.toNat < limit policy) :
    (countUp failures).toNat = failures.toNat + 1 := by
  have hlimit : limit policy ≤ 255 :=
    Nat.max_le.mpr ⟨by decide, Nat.le_of_lt_succ policy.maxFailures.toNat_lt⟩
  refine toNat_countUp_of_ne ?_
  rintro rfl
  exact absurd (Nat.lt_of_lt_of_le h hlimit) (by decide)

/-- The comparison of the code, over the numbers. -/
theorem maxFailures_le_countUp (h : failures.toNat < limit policy) :
    policy.maxFailures ≤ countUp failures ↔ failures.toNat + 1 = limit policy := by
  rw [UInt8.le_iff_toNat_le, toNat_countUp h]
  rw [limit] at h ⊢
  omega

/-- A failure that counts leads back at the limit and is one more before it. -/
theorem transition_failure (hcounts : counts state event = true)
    (hbelow : failures.toNat < limit policy) :
    let next := transition policy state failures event
    if failures.toNat + 1 = limit policy then
      next.state = .resolveBroker ∧ next.failures = 0 ∧
        (state = .subscribe → next.action = .teardown)
    else next.state = state ∧ next.failures.toNat = failures.toNat + 1 := by
  have hiff := maxFailures_le_countUp hbelow
  cases state <;> cases event <;> first
    | exact absurd hcounts (by decide)
    | skip
  · simp only [transition, hiff]
    split
    · exact ⟨rfl, rfl, nofun⟩
    · exact ⟨rfl, toNat_countUp hbelow⟩
  · simp only [transition, hiff]
    split
    · exact ⟨rfl, rfl, fun _ => rfl⟩
    · exact ⟨rfl, toNat_countUp hbelow⟩

/-- Any other event leaves the count alone where the state stays, and clears it where the state
changes. So failures of one state never count for the next. -/
theorem transition_other (policy : Policy) (hcounts : counts state event = false)
    (hidle : state ≠ .connectBroker → state ≠ .subscribe → failures = 0) :
    let next := transition policy state failures event
    next.failures = if next.state = state then failures else 0 := by
  cases state <;> cases event <;> first
    | rfl
    | exact absurd hcounts (by decide)
    -- A state that counts nothing sets the count to zero, which it was.
    | exact (hidle nofun nofun).symm

/-- An open session comes from a subscription, and from nothing else. -/
theorem transition_connected (hbefore : state ≠ .connected)
    (hafter : (transition policy state failures event).state = .connected) :
    state = .subscribe ∧ event = .subscribed := by
  revert hafter
  fun_cases transition policy state failures event <;> intro hafter
  all_goals first
    | exact ⟨rfl, rfl⟩
    | exact absurd hafter hbefore
    | cases hafter

/-- No event leads back to the first state. -/
theorem transition_ne_disconnected (hbefore : state ≠ .disconnected) :
    (transition policy state failures event).state ≠ .disconnected := by
  fun_cases transition policy state failures event <;> first
    | exact hbefore
    | exact nofun

/-- A teardown leads from one of the three states with a connection to the resolution of the
name. -/
theorem transition_teardown (h : (transition policy state failures event).action = .teardown) :
    (state = .connectBroker ∨ state = .subscribe ∨ state = .connected) ∧
      (transition policy state failures event).state = .resolveBroker := by
  revert h
  fun_cases transition policy state failures event <;> intro h
  all_goals first
    | exact ⟨.inl rfl, rfl⟩
    | exact ⟨.inr (.inl rfl), rfl⟩
    | exact ⟨.inr (.inr rfl), rfl⟩
    | cases h
    -- No state is entered with a teardown.
    | cases state <;> cases h

/-- Without a rest or a teardown in between, the action of the state that is entered comes
next. -/
theorem transition_action :
    let next := transition policy state failures event
    next.action = .teardown ∨ (∃ delay, next.action = .retry delay) ∨
      next.action = next.state.entryAction policy := by
  fun_cases transition policy state failures event <;> first
    | exact .inr (.inr rfl)
    | exact .inr (.inl ⟨_, rfl⟩)
    | exact .inl rfl

end

/-! ### Any number of events -/

/-- The count is the number of failures since the state was entered, and it is below the limit. -/
def Counted (policy : Policy) (past : List Event) : Prop :=
  (after policy past).failures.toNat =
      (stay policy past).countP (counts (after policy past).state) ∧
    (after policy past).failures.toNat < limit policy

/-- A state without attempts counts nothing, so there is no failure in its stay. -/
theorem countP_counts_eq_zero {state : ConnectionState} (hconnect : state ≠ .connectBroker)
    (hsubscribe : state ≠ .subscribe) (events : List Event) : events.countP (counts state) = 0 := by
  refine List.countP_eq_zero.mpr fun event _ => ?_
  cases state with
  | connectBroker => exact absurd rfl hconnect
  | subscribe => exact absurd rfl hsubscribe
  | _ => exact Bool.false_ne_true

/-- The other states have nothing to count. -/
theorem Counted.failures_eq_zero {policy : Policy} {past : List Event} (h : Counted policy past)
    (hconnect : (after policy past).state ≠ .connectBroker)
    (hsubscribe : (after policy past).state ≠ .subscribe) : (after policy past).failures = 0 := by
  have hcount := h.1
  rw [countP_counts_eq_zero hconnect hsubscribe] at hcount
  exact UInt8.toNat_inj.mp hcount

/-- What the next event does, in terms of the table. -/
theorem after_cons (policy : Policy) (event : Event) (past : List Event) :
    let c := after policy past
    let next := transition policy c.state c.failures event
    (after policy (event :: past)).state = next.state ∧
      (after policy (event :: past)).failures = next.failures := by
  intro c next
  have hpolicy : c.policy = policy := policy_after policy past
  constructor
  · show (transition c.policy c.state c.failures event).state = _
    rw [hpolicy]
  · show (transition c.policy c.state c.failures event).failures = _
    rw [hpolicy]

/-- One more event. In a stay that goes on the failures are one more or as many as before, and a new
stay has none. -/
theorem counted_cons {policy : Policy} {past : List Event} (h : Counted policy past)
    (event : Event) : Counted policy (event :: past) := by
  obtain ⟨hcount, hbelow⟩ := h
  obtain ⟨hstate, hfailures⟩ := after_cons policy event past
  have hpos : 0 < limit policy := Nat.lt_of_lt_of_le Nat.one_pos (Nat.le_max_left _ _)
  rw [Counted, stay, hstate, hfailures]
  cases hcounts : counts (after policy past).state event with
  | true =>
    have hnext := transition_failure hcounts hbelow
    dsimp only at hnext
    split at hnext
    · -- Back to the start, where nothing counts.
      obtain ⟨hback, hzero, -⟩ := hnext
      rw [hback, hzero]
      exact ⟨(countP_counts_eq_zero (by simp) (by simp) _).symm, hpos⟩
    · obtain ⟨hstays, hmore⟩ := hnext
      rw [hstays, if_pos rfl, List.countP_cons_of_pos hcounts, hmore, hcount]
      refine ⟨rfl, ?_⟩
      omega
  | false =>
    have hnext := transition_other policy hcounts (Counted.failures_eq_zero ⟨hcount, hbelow⟩)
    dsimp only at hnext
    rw [hnext]
    by_cases hstays : (transition policy (after policy past).state (after policy past).failures
        event).state = (after policy past).state
    · rw [if_pos hstays, if_pos hstays, hstays,
        List.countP_cons_of_neg (by rw [hcounts]; exact Bool.false_ne_true)]
      exact ⟨hcount, hbelow⟩
    · rw [if_neg hstays, if_neg hstays]
      exact ⟨rfl, hpos⟩

/-- The invariant holds after any sequence of events. -/
theorem counted_after (policy : Policy) (past : List Event) : Counted policy past := by
  induction past with
  | nil => exact ⟨rfl, Nat.lt_of_lt_of_le Nat.one_pos (Nat.le_max_left _ _)⟩
  | cons event past ih => exact counted_cons ih event

/-- Once left, the first state is not seen again. -/
theorem ne_disconnected_after {policy : Policy} {past : List Event}
    (h : (after policy past).state ≠ .disconnected) (later : List Event) :
    (after policy (later ++ past)).state ≠ .disconnected := by
  induction later with
  | nil => exact h
  | cons event later ih =>
    rw [List.cons_append, (after_cons policy event (later ++ past)).1]
    exact transition_ne_disconnected ih

/-- After any events `past`, whatever event comes next:

* the count is the number of failures since the state was entered; it is below the limit, and it
  is zero unless the session is connecting or subscribing;
* the failure that makes the limit full leads back to the start, any earlier one keeps the state,
  and a subscription that is given up is followed by a teardown;
* the last state is entered from a subscription that has succeeded, and in no other way;
* the first state is never entered again;
* a teardown is ordered on the way back from one of the three states that have a connection, or
  are about to have one;
* any other action, except for a rest, is the one of the state that is entered. -/
theorem connection_law (policy : Policy) (past : List Event) (event : Event) :
    let c := after policy past
    let next := c.handle event
    let earlier := (stay policy past).countP (counts c.state)
    (c.failures.toNat = earlier ∧ earlier < limit policy ∧
      (c.failures ≠ 0 → c.state = .connectBroker ∨ c.state = .subscribe)) ∧
    (counts c.state event = true →
      next.2.state = (if earlier + 1 = limit policy then .resolveBroker else c.state) ∧
      (earlier + 1 = limit policy → c.state = .subscribe → next.1 = .teardown)) ∧
    (c.state ≠ .connected → next.2.state = .connected →
      c.state = .subscribe ∧ event = .subscribed) ∧
    (c.state ≠ .disconnected → ∀ later, (after policy (later ++ past)).state ≠ .disconnected) ∧
    (next.1 = .teardown →
      (c.state = .connectBroker ∨ c.state = .subscribe ∨ c.state = .connected) ∧
        next.2.state = .resolveBroker) ∧
    (next.1 = .teardown ∨ (∃ delay, next.1 = .retry delay) ∨ next.1 = next.2.entryAction) := by
  intro c next earlier
  have hcounted : Counted policy past := counted_after policy past
  have hcount : c.failures.toNat = earlier := hcounted.1
  have hpolicy : c.policy = policy := policy_after policy past
  have hstate : next.2.state = (transition c.policy c.state c.failures event).state := rfl
  have haction : next.1 = (transition c.policy c.state c.failures event).action := rfl
  have hentry : next.2.entryAction = next.2.state.entryAction c.policy := rfl
  -- Everything is now a question to the table, at a count that the invariant knows.
  rw [hentry, hstate, haction, hpolicy]
  refine ⟨⟨hcount, hcount ▸ hcounted.2, ?_⟩, ?_, transition_connected, ne_disconnected_after,
    transition_teardown, transition_action⟩
  · intro hsome
    by_cases hconnect : c.state = .connectBroker
    · exact .inl hconnect
    · refine .inr (Decidable.byContradiction fun hsubscribe => hsome ?_)
      exact hcounted.failures_eq_zero hconnect hsubscribe
  · intro hcounts
    have hnext := transition_failure hcounts hcounted.2
    dsimp only at hnext
    rw [show (after policy past).failures.toNat = earlier from hcount] at hnext
    split at hnext
    · rename_i hfull
      rw [if_pos hfull]
      exact ⟨hnext.1, fun _ => hnext.2.2⟩
    · rename_i hroom
      rw [if_neg hroom]
      exact ⟨hnext.1, fun hfull => absurd hfull hroom⟩

/-- An event that the state does not expect stands between two failures. -/
example :
    let policy : Policy := { maxFailures := 2 }
    let past := [.pollIdle, .connectFailed, .brokerResolved, .started]
    stay policy past = [.pollIdle, .connectFailed] ∧ (after policy past).state = .connectBroker ∧
      (after policy (.connectFailed :: past)).state = .resolveBroker := by decide

end WeatherStation.Proofs.Mqtt
