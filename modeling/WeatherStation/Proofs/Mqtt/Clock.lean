import WeatherStation.Proofs.Mqtt.Interpret
import WeatherStation.Proofs.Mqtt.System

/-!
# `WeatherStation.Proofs.Mqtt.Clock`: the journal and the clock

An entry of the journal carries the time of the turn in which it was made. In a turn the journal
grows by entries of that time (`step_stamped`), and the clock never goes back, so that the journal
is in the order of its times and none of them is ahead of the clock (`dated_run`).

Nothing here looks at what the entries say.
-/

set_option autoImplicit false

namespace WeatherStation.Proofs.Mqtt

open WeatherStation.Mqtt

/-- The journal of `y` is that of `x` with entries made at this time in front of it. The moves of
the session and what the others do beside it are each of this form, and so are their sequences. -/
def Stamped (now : Micros) (x y : Exchange) : Prop :=
  ∃ noted, y.journal = noted ++ x.journal ∧ ∀ e ∈ noted, e.time = now

namespace Stamped

section
variable {now : Micros} {x y z : Exchange}

/-- Whoever leaves the journal alone has added no entries. -/
theorem of_journal (h : y.journal = x.journal) : Stamped now x y := ⟨[], h, by simp⟩

/-- One entry, made now. -/
theorem note (x : Exchange) (what : Happening) : Stamped now x (x.note now what) :=
  ⟨[⟨now, what⟩], rfl, by simp⟩

/-- What is done in two steps at one time. -/
theorem trans (first : Stamped now x y) (second : Stamped now y z) : Stamped now x z := by
  obtain ⟨noted, hjournal, htimes⟩ := first
  obtain ⟨noted', hjournal', htimes'⟩ := second
  refine ⟨noted' ++ noted, by rw [hjournal', hjournal, List.append_assoc], ?_⟩
  intro e he
  rcases List.mem_append.mp he with he | he
  · exact htimes' e he
  · exact htimes e he

end

end Stamped

section
variable {now : Micros} {p q : Point} {s t : Session}

/-- Between two of its waits the session makes no entry, one or two. It has two to make where a
request is taken up and sent, and where a packet is noted as framed before it is looked into. -/
theorem Move.stamped (move : Move now p s q t) : Stamped now s.exchange t.exchange := by
  cases move with
  | requested hphase hrequest => exact ⟨[_, _], rfl, by simp⟩
  | skip hframe hpacket hfault => exact ⟨[_, _], rfl, by simp⟩
  | apply hframe hpacket =>
    -- The packet is noted as framed before it is interpreted.
    obtain ⟨packet, hjournal, -⟩ := interpret_eq hpacket
    exact ⟨[⟨now, .applied packet⟩, _], hjournal, by simp⟩
  | _ => first
    | exact .of_journal rfl
    | exact .note _ _

/-- The moves between two waits take no time. -/
theorem Path.stamped (path : Path now p s q t) : Stamped now s.exchange t.exchange := by
  induction path with
  | refl => exact .of_journal rfl
  | step head _ ih => exact head.stamped.trans ih

/-- The client and the dispatching task make their entries at the time of their turn as well. -/
theorem Beside.stamped {x y : Exchange} (h : Beside now x y) : Stamped now x y := by
  induction h with
  | refl => exact .of_journal rfl
  | forget _ ih => exact ih
  | request slot _ ih => exact ih
  | note hwhat _ ih => exact ih.trans (.note _ _)
  | notify _ ih => exact ih.trans ⟨[_], rfl, by simp⟩
  | dispatch hnext _ ih =>
    obtain ⟨rest, -, rfl⟩ := nextMessage_eq_some.mp hnext
    exact ih.trans ⟨[_], rfl, by simp⟩

end

/-- In a turn the journal grows by entries of the present time. -/
theorem step_stamped (s : System) (turn : Turn) :
    Stamped s.now s.session.exchange (s.step turn).session.exchange := by
  rcases s.step_changes turn with path | ⟨exchange, hbeside, heq⟩ | heq
  · exact path.stamped
  · rw [heq]
    exact hbeside.stamped
  · rw [heq, yield_exchange]
    exact .of_journal rfl

/-- Nothing is ever taken out of the journal, or put behind what it has already. -/
theorem step_suffix (s : System) (turn : Turn) : s.journal <:+ (s.step turn).journal := by
  obtain ⟨noted, hjournal, -⟩ := step_stamped s turn
  exact ⟨noted, hjournal.symm⟩

/-- A run only adds to the journal, so what has happened before it can still be read off
afterwards. -/
theorem run_suffix (turns : List Turn) : ∀ s : System, s.journal <:+ (s.run turns).journal := by
  induction turns with
  | nil => exact fun s => List.suffix_rfl
  | cons turn turns ih => exact fun s => (step_suffix s turn).trans (ih (s.step turn))

/-- Time goes by in one kind of turn only. All other turns are done at the time at which they
begin. -/
theorem now_step (s : System) {turn : Turn} (h : ∀ time, turn ≠ .pass time) :
    (s.step turn).now = s.now := by
  cases turn with
  | pass time => exact absurd rfl (h time)
  | begin => rw [System.step, System.beginNext]; split <;> rfl
  | dispatch => rw [System.step, System.dispatchNext]; split <;> rfl
  | publish topic payload => rw [System.step, System.publish]; split <;> rfl
  | poll => rw [System.step, System.poll]; split <;> rfl
  | _ => rfl

/-- The clock stands still or goes on. -/
theorem now_le_step (s : System) (turn : Turn) : s.now ≤ (s.step turn).now := by
  cases turn with
  | pass time => exact Nat.le_add_right s.now time
  | _ => exact Nat.le_of_eq (now_step s (by simp)).symm

/-- A journal in the order of its times, newest first, with no time ahead of the clock. -/
def Dated (s : System) : Prop :=
  s.journal.Pairwise (fun later earlier => earlier.time ≤ later.time) ∧
    ∀ e ∈ s.journal, e.time ≤ s.now

/-- The entries of a turn are of the present time, and those from before are not ahead of it. -/
theorem Dated.step {s : System} (h : Dated s) (turn : Turn) : Dated (s.step turn) := by
  obtain ⟨hordered, hpast⟩ := h
  obtain ⟨noted, hjournal, htimes⟩ := step_stamped s turn
  have hnow := now_le_step s turn
  rw [Dated, show (s.step turn).journal = noted ++ s.journal from hjournal]
  constructor
  · refine List.pairwise_append.mpr ⟨List.pairwise_of_forall_mem_list ?_, hordered, ?_⟩
    · intro later hlater earlier hearlier
      exact Nat.le_of_eq ((htimes earlier hearlier).trans (htimes later hlater).symm)
    · intro later hlater earlier hearlier
      rw [htimes later hlater]
      exact hpast earlier hearlier
  · intro e he
    rcases List.mem_append.mp he with he | he
    · rw [htimes e he]
      exact hnow
    · exact Nat.le_trans (hpast e he) hnow

/-- By induction on the turns. -/
theorem Dated.run (turns : List Turn) : ∀ {s : System}, Dated s → Dated (s.run turns) := by
  induction turns with
  | nil => intro s h; exact h
  | cons turn turns ih => intro s h; exact ih (h.step turn)

/-- The journal of a run tells what happened in the order in which it happened, and none of it is
still to come. For this reason every time that a law takes from the journal is at most the time of
the clock. -/
theorem dated_run (config : SessionConfig) (ackTimeout now : Micros) (turns : List Turn) :
    Dated ((System.boot config ackTimeout now).run turns) :=
  Dated.run turns ⟨List.pairwise_singleton _ _, by simp [System.boot, System.journal, Session.start,
    Session.finish, Session.note, Exchange.note, Session.new]⟩

end WeatherStation.Proofs.Mqtt
