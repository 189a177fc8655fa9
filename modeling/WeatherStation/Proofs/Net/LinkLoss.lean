import WeatherStation.Bench.LinkRig

/-!
# `WeatherStation.Proofs.Net.LinkLoss`: when the loss of the link is noticed

The link manager remembers what it last reported, and `Wifi.monitor` runs the callback when it
finds a link lost that was reported as up. `Wifi.connect` and `Wifi.isConnected` look at the
association too, and keep to themselves what they find.

* `connect_eq`: over any monad, joining a network changes what the manager remembers in two
  places. The radio may have been started, and a success is a report of the link as up.
* `Watch` is the manager on the bed, beside a list of its reports. `faithful_run` says what holds
  whatever is called, in any order and with any history of the radio: what is remembered is the
  last report, and the callback has been run once for each report of a loss.
* `loss_law`: between a report of the link as up and the next call of `Wifi.monitor` nothing is
  run, and that call runs the callback exactly if it finds no association itself.
-/

set_option autoImplicit false

namespace WeatherStation.Proofs.Net

open WeatherStation.Net WeatherStation.Bench

/-! ### Joining a network -/

section
variable {m : Type → Type} [Monad m] {γ : Type}

/-- Whether the radio is ready, after what is needed for that. -/
def ready (started : Bool) (radio : Radio m) (a : AccessPoint) : m Bool := do
  if started then
    return true
  if !(← radio.configure a) then
    return false
  radio.start

/-- What `Wifi.connect` asks of its surroundings: whether the radio is ready, and how the attempt
to join ended. -/
def attempt [Timed m] (started : Bool) (radio : Radio m) (a : AccessPoint) :
    m (Bool × Except WifiError Unit) := do
  let started ← ready started radio a
  if !started then
    return (started, .error .driver)
  if !(← radio.associate) then
    return (started, .error .driver)
  if !(← Wifi.awaitAssociation radio associationChecks) then
    return (started, .error .associationTimeout)
  match ← Timed.within leaseTimeout radio.awaitAddress with
  | none => return (started, .error .dhcpTimeout)
  | some _ => return (started, .ok ())

/-- What the manager remembers after an attempt. -/
def remember (w : Wifi γ) (outcome : Bool × Except WifiError Unit) : Wifi γ :=
  { w with started := outcome.1, up := w.up || outcome.2.isOk }

/-- To prepare the radio is to start it once, and nothing else is remembered of it. -/
theorem prepare_eq [LawfulMonad m] (w : Wifi γ) (radio : Radio m) (a : AccessPoint) :
    w.prepare radio a =
      (fun started => (started, { w with started })) <$> ready w.started radio a := by
  obtain ⟨started, up, onLoss⟩ := w
  cases started with
  | true => simp [Wifi.prepare, ready]
  | false =>
    simp only [Wifi.prepare, ready, Bool.false_eq_true, if_false, map_bind]
    refine bind_congr fun configured => ?_
    cases configured with
    | false => simp
    | true =>
      simp only [Bool.not_true, Bool.false_eq_true, if_false, map_eq_pure_bind]
      refine bind_congr fun ok => ?_
      cases ok <;> rfl

/-- Joining a network is an attempt, and then the manager remembers how it ended. -/
theorem connect_eq [LawfulMonad m] [Timed m] (w : Wifi γ) (radio : Radio m) (a : AccessPoint) :
    w.connect radio a =
      (fun outcome => (outcome.2, remember w outcome)) <$> attempt w.started radio a := by
  rw [Wifi.connect, prepare_eq, attempt, map_bind, bind_map_left]
  refine bind_congr fun started => ?_
  cases started with
  | false => simp [remember, Except.isOk, Except.toBool]
  | true =>
    simp only [Bool.not_true, Bool.false_eq_true, if_false, map_bind]
    refine bind_congr fun associating => ?_
    cases associating with
    | false => simp [remember, Except.isOk, Except.toBool]
    | true =>
      simp only [Bool.not_true, Bool.false_eq_true, if_false, map_bind]
      refine bind_congr fun associated => ?_
      cases associated with
      | false => simp [remember, Except.isOk, Except.toBool]
      | true =>
        simp only [Bool.not_true, Bool.false_eq_true, if_false, map_bind]
        refine bind_congr fun lease => ?_
        cases lease <;> simp [remember, Except.isOk, Except.toBool]

end

/-! ### The manager at work -/

/-- One thing that happens to the manager on the bed. -/
inductive Event where
  /-- A callback is registered, in place of the one before. -/
  | register (callback : Nat)
  | connect (network : AccessPoint)
  /-- The manager is asked whether it is connected. -/
  | ask
  | monitor
  /-- Time goes by, or something changes in the radio, its script or the network. -/
  | change (f : Bed → Bed)

/-- Whether this is a call of `Wifi.monitor`. -/
def monitors : Event → Bool
  | .monitor => true
  | _ => false

/-- The manager on the bed, and what it has reported about the link. -/
structure Watch where
  rig : LinkRig
  /-- Whether the link was reported as up, latest report first. -/
  reports : List Bool

/-- Whether an attempt to join has succeeded. -/
def joined (result : Option (Except WifiError Unit)) : Bool := result.any Except.isOk

namespace Watch

/-- The manager as it is now. What it remembers counts as a report. -/
def begin (r : LinkRig) : Watch := ⟨r, [r.wifi.up]⟩

/-- A success of `Wifi.connect` is a report of the link as up, and `Wifi.monitor` reports what it
finds. -/
def step (s : Watch) : Event → Watch
  | .register callback => { s with rig := { s.rig with wifi := s.rig.wifi.setOnLoss callback } }
  | .connect network =>
    let (result, rig) := s.rig.connect network
    ⟨rig, if joined result then true :: s.reports else s.reports⟩
  | .ask => s
  | .monitor => ⟨s.rig.monitor, s.rig.monitor.wifi.up :: s.reports⟩
  | .change f => { s with rig := { s.rig with bed := f s.rig.bed } }

/-- To join a network is a report of the link as up if it succeeds, and no report if not. -/
theorem step_connect (s : Watch) (network : AccessPoint) :
    s.step (.connect network) =
      ⟨(s.rig.connect network).2,
        if joined (s.rig.connect network).1 then true :: s.reports else s.reports⟩ := rfl

/-- The manager after a list of events. -/
def run (s : Watch) (events : List Event) : Watch := events.foldl step s

end Watch

/-- How often the link was reported as lost right after it was reported as up, in a list with the
latest report first. -/
def losses : List Bool → Nat
  | [] => 0
  | up :: past => (if up = false ∧ past.head? = some true then 1 else 0) + losses past

/-- What is remembered is the last report, and since `before` callbacks had been run, one was run
for each loss. -/
structure Faithful (before : Nat) (s : Watch) : Prop where
  remembered : s.reports.head? = some s.rig.wifi.up
  registered : s.rig.wifi.onLoss.isSome = true
  counted : s.rig.lost.length = before + losses s.reports

/-- A run on the bed whose result is changed at the end. -/
theorem run_map {α β : Type} (b : Bed) (f : α → β) (x : OnBed α) :
    b.run (f <$> x) = ((b.run x).1.map f, (b.run x).2) := by
  simp only [Bed.run, Functor.map, ExceptT.map, ExceptT.mk, bind, StateT.bind]
  rcases x b with ⟨result, after⟩
  cases result <;> rfl

/-- Joining a network runs nothing, leaves the callback registered and turns what is remembered
only to a link that is up. -/
theorem rig_connect (r : LinkRig) (a : AccessPoint) :
    (r.connect a).2.lost = r.lost ∧ (r.connect a).2.wifi.onLoss = r.wifi.onLoss ∧
      (r.connect a).2.wifi.up = (r.wifi.up || joined (r.connect a).1) := by
  have hrun : r.bed.run (r.wifi.connect radio a) =
      ((r.bed.run (attempt r.wifi.started radio a)).1.map
          (fun outcome => (outcome.2, remember r.wifi outcome)),
        (r.bed.run (attempt r.wifi.started radio a)).2) := by
    rw [connect_eq, run_map]
  rw [LinkRig.connect, hrun]
  cases (r.bed.run (attempt r.wifi.started radio a)).1 with
  | ok outcome => exact ⟨rfl, rfl, rfl⟩
  -- An attempt that never comes to an end leaves no trace in what is remembered.
  | error halt => exact ⟨rfl, rfl, (Bool.or_false _).symm⟩

section
variable {before : Nat} {s : Watch}

/-- Every event keeps it. Only `monitor` can run the callback, and it reports what it finds. -/
theorem Faithful.step (h : Faithful before s) (e : Event) : Faithful before (s.step e) := by
  obtain ⟨hremembered, hregistered, hcounted⟩ := h
  cases e with
  | register callback => exact ⟨hremembered, rfl, hcounted⟩
  | ask => exact ⟨hremembered, hregistered, hcounted⟩
  | change f => exact ⟨hremembered, hregistered, hcounted⟩
  | connect network =>
    obtain ⟨hlost, honLoss, hup⟩ := rig_connect s.rig network
    rw [Watch.step_connect]
    cases hjoined : joined (s.rig.connect network).1 with
    | false =>
      -- A failure reports nothing and leaves what is remembered.
      rw [hjoined, Bool.or_false] at hup
      exact ⟨by rw [if_neg Bool.false_ne_true, hup, hremembered], honLoss ▸ hregistered,
        hlost ▸ hcounted⟩
    | true =>
      -- A success reports the link as up, whatever was the case before, so it never counts as a
      -- loss.
      rw [hjoined, Bool.or_true] at hup
      refine ⟨by rw [if_pos rfl, hup, List.head?_cons], honLoss ▸ hregistered, ?_⟩
      rw [hlost, hcounted, if_pos rfl, losses, if_neg (fun h => Bool.noConfusion h.1),
        Nat.zero_add]
  | monitor =>
    refine ⟨rfl, hregistered, ?_⟩
    show (LinkRig.monitor s.rig).lost.length =
      before + losses ((LinkRig.monitor s.rig).wifi.up :: s.reports)
    obtain ⟨callback, honLoss⟩ := Option.isSome_iff_exists.mp hregistered
    -- Here the callback is run, if the last report was up and the association is gone.
    rw [losses, hremembered]
    simp only [LinkRig.monitor, Wifi.monitor, honLoss, List.length_append, hcounted]
    cases s.rig.wifi.up <;> cases s.rig.bed.isAssociated <;> simp
    omega

/-- By induction on the events. -/
theorem faithful_run (h : Faithful before s) (events : List Event) :
    Faithful before (s.run events) := by
  induction events generalizing s with
  | nil => exact h
  | cons e events ih => exact ih (h.step e)

/-- Without a call of `Wifi.monitor` nothing is run, and a link that was reported as up is not
reported as lost. -/
theorem quiet_run {events : List Event} (hquiet : ∀ e ∈ events, monitors e = false) :
    (s.run events).rig.lost = s.rig.lost ∧
      (s.reports.head? = some true → (s.run events).reports.head? = some true) := by
  induction events generalizing s with
  | nil => exact ⟨rfl, id⟩
  | cons e events ih =>
    obtain ⟨he, hevents⟩ := List.forall_mem_cons.mp hquiet
    obtain ⟨hlost, hup⟩ := ih (s := s.step e) hevents
    have hstep : (s.step e).rig.lost = s.rig.lost ∧
        (s.reports.head? = some true → (s.step e).reports.head? = some true) := by
      cases e with
      | monitor => cases he
      | connect network =>
        rw [Watch.step_connect]
        refine ⟨(rig_connect s.rig network).1, fun h => ?_⟩
        split
        · rfl
        · exact h
      | _ => exact ⟨rfl, id⟩
    exact ⟨hlost.trans hstep.1, hup ∘ hstep.2⟩

/-- What a call of `Wifi.monitor` runs when the link was last reported as up. -/
theorem lost_monitor {callback : Nat} (hup : s.rig.wifi.up = true)
    (honLoss : s.rig.wifi.onLoss = some callback) :
    (s.step .monitor).rig.lost =
      if s.rig.bed.isAssociated then s.rig.lost else callback :: s.rig.lost := by
  show (LinkRig.monitor s.rig).lost = _
  simp only [LinkRig.monitor, Wifi.monitor, hup, honLoss]
  cases s.rig.bed.isAssociated <;> rfl

end

/-! ### When a loss is noticed -/

/-- For every manager with a callback, every order of its calls with any outcome, and every history
of the radio and the network:

1. The callback has been run once for each time that the link was reported as lost right after it
   was reported as up.
2. After the link was reported as up, nothing is run up to the next call of `Wifi.monitor`, whatever
   the calls in between find. When the manager is asked there, it says what the radio says at that
   moment. The call of `Wifi.monitor` runs the callback exactly if it finds no association itself,
   so that a link which is back by then was not reported as lost. -/
theorem loss_law (r : LinkRig) (events : List Event) (h : r.wifi.onLoss.isSome = true) :
    let s := (Watch.begin r).run events
    s.rig.lost.length = r.lost.length + losses s.reports ∧
      (s.reports.head? = some true → ∀ between, (∀ e ∈ between, monitors e = false) →
        let t := s.run between
        t.rig.lost = s.rig.lost ∧ t.rig.isConnected = t.rig.bed.isAssociated ∧
          ∃ callback, t.rig.wifi.onLoss = some callback ∧
            (t.step .monitor).rig.lost =
              if t.rig.bed.isAssociated then s.rig.lost else callback :: s.rig.lost) := by
  intro s
  have hbegin : Faithful r.lost.length (.begin r) := ⟨rfl, h, by simp [Watch.begin, losses]⟩
  have hs : Faithful r.lost.length s := faithful_run hbegin events
  refine ⟨hs.counted, fun hhead between hquiet => ?_⟩
  obtain ⟨hlost, hstays⟩ := quiet_run (s := s) hquiet
  have ht : Faithful r.lost.length (s.run between) := faithful_run hs between
  have hup : (s.run between).rig.wifi.up = true :=
    Option.some.inj (ht.remembered.symm.trans (hstays hhead))
  obtain ⟨callback, honLoss⟩ := Option.isSome_iff_exists.mp ht.registered
  refine ⟨hlost, ?_, callback, honLoss, ?_⟩
  · rw [LinkRig.isConnected, Wifi.isConnected, hup, Bool.true_and]
  · rw [lost_monitor hup honLoss, hlost]

/-- A network whose access point is away from the first second to two and a half. -/
def outage : Bed where
  links := [(0, true), (seconds 1, false), (millis 2500, true)]
  addresses := [(0, some ⟨10, 0, 0, 7⟩)]

/-- A manager that has joined the network at once. -/
def early : Watch :=
  (Watch.begin { bed := outage, wifi := { onLoss := some 0 } }).run [.connect ⟨"home", "secret"⟩]

/-- While the access point is away the manager is asked, and begins to join the network again. -/
def rejoining : List Event :=
  [.change fun bed => { bed with now := millis 1500 }, .ask, .connect ⟨"home", "secret"⟩]

/-- The link is lost and joined again, and neither is the callback run nor is it going to be. -/
theorem loss_law_masked :
    early.reports = [true, false] ∧
      (early.run (rejoining.take 2)).rig.isConnected = false ∧
      (early.run rejoining).rig.lost = early.rig.lost ∧
      (early.run rejoining).rig.isConnected = (early.run rejoining).rig.bed.isAssociated ∧
      (early.run rejoining).reports = [true, true, false] ∧
      ((early.run rejoining).step .monitor).rig.lost = [] := by
  obtain ⟨hlost, hanswer, -⟩ :=
    (loss_law { bed := outage, wifi := { onLoss := some 0 } } [.connect ⟨"home", "secret"⟩] rfl).2
      (by decide +kernel) rejoining (by simp [rejoining, monitors])
  unfold early
  exact ⟨by decide +kernel, by decide +kernel, hlost, hanswer, by decide +kernel,
    by decide +kernel⟩

end WeatherStation.Proofs.Net
