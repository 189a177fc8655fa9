import WeatherStation.Proofs.Sensor.Waveform
import WeatherStation.Sensor.Cycle

/-!
# `WeatherStation.Proofs.Sensor.Handoff`: a read takes its own edges and no others

Interrupts report falling edges at any time, and between any two steps of the reader. `Bus` is the
reader beside the capture, with a history of what both did. A run is a list of events in any order:
an edge with any time stamp, a step of the reader in any surroundings, or the start of the next
read. Reads follow each other, and the first one finds the capture in any state.

`window` reads from the history whether edges are accepted, since when, and which ones have come
since. `handoff_law` says what this window has to do with the results: the frame of a read is what
an unused capture makes of the edges in the window of this read, the completion signal is raised if
and only if this frame is complete, and a read that saw the signal does not end with a timeout.

`Holds` says for each stage of the reader what the capture holds. A completion signal that an
earlier read has left behind survives up to the stage that lowers it, before edges are accepted
again.
-/

set_option autoImplicit false

namespace WeatherStation.Proofs.Sensor

open WeatherStation.Sensor

/-! ### Runs -/

/-- Something that happens. -/
inductive Event where
  /-- A falling edge, with the time that the interrupt handler stamps it with. -/
  | edge (stamp : UInt32)
  /-- The reader does the work of its stage, unless it has to wait or has finished. -/
  | step (sees : Surroundings)
  /-- The next read begins, if the one before has finished. -/
  | again

/-- What was done. -/
inductive Mark where
  | edge (stamp : UInt32)
  /-- The reader did the work of a stage and stands at the next one. -/
  | left (stage : Stage) (sees : Surroundings) (next : Stage)

/-- The reader and the capture. -/
structure Bus where
  stage : Stage
  capture : Capture
  /-- What was done so far, newest first. -/
  history : List Mark

namespace Bus

/-- The first read begins. -/
def boot (capture : Capture) : Bus := ⟨.disarming, capture, []⟩

/-- The bus after an event. -/
def after (b : Bus) : Event → Bus
  | .edge stamp =>
    { b with capture := b.capture.fallingEdge stamp, history := .edge stamp :: b.history }
  | .step sees =>
    match b.stage.next sees b.capture with
    | some (stage, capture) => ⟨stage, capture, .left b.stage sees stage :: b.history⟩
    | none => b
  | .again =>
    match b.stage with
    | .finished _ => { b with stage := .disarming }
    | _ => b

/-- The bus after a list of events. -/
def run (b : Bus) (events : List Event) : Bus := events.foldl after b

end Bus

/-! ### What the history tells -/

/-- The window in which edges are accepted: the time stamp it opened with and the edges that have
come since, oldest first. There is none before the capture is started and after it is disarmed. -/
def window : List Mark → Option (UInt32 × List UInt32)
  | [] => none
  | .edge stamp :: past => (window past).map fun w => (w.1, w.2 ++ [stamp])
  | .left .arming sees _ :: _ => some (sees.stamp, [])
  | .left .disarming _ _ :: _ => none
  | .left (.collecting _) _ _ :: _ => none
  | .left _ _ _ :: past => window past

/-- What an unused capture makes of the edges of a window. -/
def caught (w : UInt32 × List UInt32) : Capture := report (Capture.idle.arm w.1) w.2

/-- Whether the wait of the present read has ended, with the completion signal. -/
def signalled : List Mark → Bool
  | [] => false
  | .edge _ :: past => signalled past
  | .left .disarming _ _ :: _ => false
  | .left (.waiting _) _ (.unlistening complete) :: _ => complete
  | .left _ _ _ :: past => signalled past

/-- Whether a line operation turns the interrupt of the line on or off. -/
def switches : LineCall → Bool
  | .listen => true
  | .unlisten => true
  | _ => false

/-- The operations that turned the interrupt of the line on and off, newest first. -/
def switchings : List Mark → List LineCall
  | [] => []
  | .edge _ :: past => switchings past
  | .left stage _ _ :: past => (stage.call?.filter switches).toList ++ switchings past

/-- Every listen is followed by its unlisten. -/
def Paired (calls : List LineCall) : Prop :=
  ∃ n, calls = (List.replicate n [LineCall.unlisten, .listen]).flatten

/-- One more read that has listened and stopped to. -/
theorem Paired.unlisten_listen {calls : List LineCall} (h : Paired calls) :
    Paired (.unlisten :: .listen :: calls) := by
  obtain ⟨n, rfl⟩ := h
  exact ⟨n + 1, by rw [List.replicate_succ, List.flatten_cons]; rfl⟩

/-! ### A capture that was unused -/

/-- An edge brings an incomplete frame no further than to its end. -/
theorem edges_extend_le {f : Frame} {elapsed : UInt32} (h : f.edges < expectedEdges) :
    (Capture.extend f elapsed).edges ≤ expectedEdges := by
  have hlt : f.edges.toNat < 42 := h
  rw [Capture.extend]
  split
  · dsimp only
    split
    · decide
    · exact UInt32.le_of_lt h
  · rw [UInt32.le_iff_toNat_le, UInt32.toNat_add]
    show (f.edges.toNat + 1) % 2 ^ 32 ≤ 42
    omega

/-- An armed capture whose signal tells that its frame is complete. -/
structure Honest (c : Capture) : Prop where
  armed : c.armed = true
  edges_le : c.frame.edges ≤ expectedEdges
  done_iff : c.done = true ↔ c.frame.edges = expectedEdges

/-- An edge raises the signal with the last bit and not otherwise. -/
theorem Honest.fallingEdge {c : Capture} (h : Honest c) (stamp : UInt32) :
    Honest (c.fallingEdge stamp) := by
  by_cases hedges : c.frame.edges = expectedEdges
  · rwa [fallingEdge_of_complete hedges]
  · have hlt := UInt32.lt_of_le_of_ne h.edges_le hedges
    have hdone : c.done = false := by simpa [hedges] using h.done_iff
    rw [fallingEdge_of_incomplete h.armed hlt]
    refine ⟨rfl, edges_extend_le hlt, ?_⟩
    dsimp only
    rw [hdone, Bool.false_or]
    exact beq_iff_eq

/-- One more edge. -/
theorem caught_concat (start stamp : UInt32) (edges : List UInt32) :
    caught (start, edges ++ [stamp]) = (caught (start, edges)).fallingEdge stamp :=
  report_concat ..

/-- By induction on the edges, for an unused capture has neither a frame nor a signal. -/
theorem caught_honest (w : UInt32 × List UInt32) : Honest (caught w) := by
  obtain ⟨start, edges⟩ := w
  induction edges using List.reverseRecOn with
  | nil =>
    have hdone : false = true ↔ (0 : UInt32) = expectedEdges := by decide
    exact ⟨rfl, UInt32.zero_le, hdone⟩
  | append_singleton edges stamp ih =>
    rw [caught_concat]
    exact ih.fallingEdge stamp

/-- A complete frame is no timeout, whatever its bits are. -/
theorem decode_ne_timeout {f : Frame} (h : f.edges = expectedEdges) :
    f.decode ≠ .error .timeout := by
  have hcomplete : f.isComplete = true := beq_iff_eq.mpr h
  rw [Frame.decode, hcomplete]
  split
  · contradiction
  · split
    · exact fun heq => nomatch heq
    · exact fun heq => nomatch heq

/-! ### What the capture holds at each stage -/

/-- Edges are accepted. The capture holds what an unused one would, up to the completion signal,
which is lowered once the wait has ended with it. -/
def Accepting (b : Bus) (complete : Bool) : Prop :=
  signalled b.history = complete ∧
    ∃ w, window b.history = some w ∧
      b.capture = (if complete then (caught w).clearDone else caught w) ∧
      (complete = true → (caught w).frame.edges = expectedEdges)

/-- What is so at the stage where the reader stands. -/
def Holds (b : Bus) : Prop :=
  match b.stage with
  | .disarming => True
  | .lowering | .pulsing _ | .raising | .clearing =>
    b.capture.armed = false ∧ signalled b.history = false
  | .arming => b.capture.armed = false ∧ b.capture.done = false ∧ signalled b.history = false
  | .listening | .waiting _ => Accepting b false
  | .unlistening complete | .collecting complete => Accepting b complete
  | .finished _ => b.capture.armed = false

/-- What stands between listening and the end of listening. -/
def Listens (b : Bus) : Prop :=
  match b.stage with
  | .waiting _ | .unlistening _ => ∃ calls, switchings b.history = .listen :: calls ∧ Paired calls
  | _ => Paired (switchings b.history)

/-- How a read ends: without a line, or with the window of its own edges. -/
def EndsWell (past : List Mark) (source : Stage) (sees : Surroundings)
    (result : Except ReadError Reading) : Prop :=
  (source = .lowering ∨ source = .raising) ∧ sees.driven = false ∧ result = .error .notReady ∨
    ∃ w, source = .collecting (signalled past) ∧ window past = some w ∧
      if signalled past then
        (caught w).frame.edges = expectedEdges ∧ result = (caught w).frame.decode ∧
          result ≠ .error .timeout
      else result = .error .timeout

/-- All reads so far ended like this. -/
def Explained (history : List Mark) : Prop :=
  ∀ later past source sees result,
    history = later ++ .left source sees (.finished result) :: past →
      EndsWell past source sees result

/-- A mark that ends no read needs no explanation. -/
theorem Explained.cons {past : List Mark} {mark : Mark} (h : Explained past)
    (hmark : ∀ source sees result, mark = .left source sees (.finished result) →
      EndsWell past source sees result) : Explained (mark :: past) := by
  intro later past' source sees result heq
  cases later with
  | nil =>
    obtain ⟨hend, rfl⟩ := List.cons.inj heq
    exact hmark source sees result hend
  | cons mark' later => exact h later past' source sees result (List.cons.inj heq).2

/-! ### Events -/

/-- An edge belongs to the window that is open. -/
theorem Accepting.edge {b : Bus} {complete : Bool} (h : Accepting b complete) (stamp : UInt32) :
    Accepting (b.after (.edge stamp)) complete := by
  obtain ⟨hsignal, ⟨start, edges⟩, hwindow, hcapture, hedges⟩ := h
  refine ⟨hsignal, (start, edges ++ [stamp]), by simp [Bus.after, window, hwindow], ?_, ?_⟩
  · show b.capture.fallingEdge stamp = _
    rw [hcapture, caught_concat]
    cases complete with
    | false => rfl
    | true =>
      -- The frame is complete, so that the edge changes nothing.
      have hframe := hedges rfl
      have hlowered : (caught (start, edges)).clearDone.frame.edges = expectedEdges := hframe
      show (caught (start, edges)).clearDone.fallingEdge stamp =
        ((caught (start, edges)).fallingEdge stamp).clearDone
      rw [fallingEdge_of_complete hlowered, fallingEdge_of_complete hframe]
  · intro hcomplete
    rw [caught_concat, fallingEdge_of_complete (hedges hcomplete)]
    exact hedges hcomplete

/-- An edge that is not accepted is noted, and that is all. -/
theorem after_edge_of_disarmed {b : Bus} (h : b.capture.armed = false) (stamp : UInt32) :
    b.after (.edge stamp) = { b with history := .edge stamp :: b.history } := by
  rw [Bus.after, fallingEdge_of_disarmed h]

/-- An edge may come at any stage. While edges are accepted it goes into the window and into the
capture, and before and after it is ignored by both. -/
theorem Holds.edge {b : Bus} (h : Holds b) (stamp : UInt32) : Holds (b.after (.edge stamp)) := by
  obtain ⟨stage, capture, history⟩ := b
  cases stage with
  | disarming => trivial
  | lowering | pulsing due | raising | clearing | arming =>
    rw [after_edge_of_disarmed h.1]
    exact h
  | listening | waiting due | unlistening complete | collecting complete =>
    exact Accepting.edge h stamp
  | finished result =>
    rw [after_edge_of_disarmed h]
    exact h

/-- The reader's steps keep what each stage relies on. -/
theorem Holds.step {b : Bus} {sees : Surroundings} {stage : Stage} {capture : Capture}
    (h : Holds b) (hnext : b.stage.next sees b.capture = some (stage, capture)) :
    Holds ⟨stage, capture, .left b.stage sees stage :: b.history⟩ := by
  obtain ⟨source, capture₀, history⟩ := b
  cases source with
  | disarming =>
    obtain ⟨rfl, rfl⟩ : _ ∧ _ := by simpa [Stage.next] using hnext
    exact ⟨rfl, rfl⟩
  | lowering =>
    obtain ⟨harmed, hsignal⟩ := h
    cases hdriven : sees.driven with
    | true =>
      obtain ⟨rfl, rfl⟩ : _ ∧ _ := by simpa [Stage.next, hdriven] using hnext
      exact ⟨harmed, hsignal⟩
    | false =>
      obtain ⟨rfl, rfl⟩ : _ ∧ _ := by simpa [Stage.next, hdriven] using hnext
      exact harmed
  | pulsing due =>
    obtain ⟨-, rfl, rfl⟩ : _ ∧ _ ∧ _ := by simpa [Stage.next] using hnext
    exact h
  | raising =>
    obtain ⟨harmed, hsignal⟩ := h
    cases hdriven : sees.driven with
    | true =>
      obtain ⟨rfl, rfl⟩ : _ ∧ _ := by simpa [Stage.next, hdriven] using hnext
      exact ⟨harmed, hsignal⟩
    | false =>
      obtain ⟨rfl, rfl⟩ : _ ∧ _ := by simpa [Stage.next, hdriven] using hnext
      exact harmed
  | clearing =>
    obtain ⟨rfl, rfl⟩ : _ ∧ _ := by simpa [Stage.next] using hnext
    exact ⟨h.1, rfl, h.2⟩
  | arming =>
    -- The signal is down, and the capture starts like one that was not used.
    obtain ⟨-, hdone, hsignal⟩ := h
    obtain ⟨rfl, rfl⟩ : _ ∧ _ := by simpa [Stage.next] using hnext
    refine ⟨hsignal, (sees.stamp, []), rfl, ?_, fun hcomplete => nomatch hcomplete⟩
    show capture₀.start sees.stamp = Capture.idle.arm sees.stamp
    rw [Capture.start, show capture₀.done = false from hdone]
    rfl
  | listening =>
    obtain ⟨rfl, rfl⟩ : _ ∧ _ := by simpa [Stage.next] using hnext
    exact h
  | waiting due =>
    obtain ⟨-, w, hwindow, hcapture, -⟩ := h
    obtain rfl : capture₀ = caught w := hcapture
    cases hdone : (caught w).done with
    | true =>
      obtain ⟨rfl, rfl⟩ : _ ∧ _ := by simpa [Stage.next, Capture.takeDone, hdone] using hnext
      exact ⟨rfl, w, hwindow, rfl, fun _ => (caught_honest w).done_iff.mp hdone⟩
    | false =>
      obtain ⟨-, rfl, rfl⟩ : _ ∧ _ ∧ _ := by
        simpa [Stage.next, Capture.takeDone, hdone] using hnext
      have hlowered : (caught w).clearDone = caught w := by rw [Capture.clearDone, ← hdone]
      exact ⟨rfl, w, hwindow, hlowered, fun hcomplete => nomatch hcomplete⟩
  | unlistening complete =>
    obtain ⟨rfl, rfl⟩ : _ ∧ _ := by simpa [Stage.next] using hnext
    exact h
  | collecting complete =>
    obtain ⟨rfl, rfl⟩ : _ ∧ _ := by simpa [Stage.next] using hnext
    exact rfl
  | finished result => cases hnext

/-- The interrupt of the line is on while the reader waits, and the reader turns it off. -/
theorem Listens.step {b : Bus} {sees : Surroundings} {stage : Stage} {capture : Capture}
    (h : Listens b) (hnext : b.stage.next sees b.capture = some (stage, capture)) :
    Listens ⟨stage, capture, .left b.stage sees stage :: b.history⟩ := by
  obtain ⟨source, capture₀, history⟩ := b
  cases source with
  | disarming | clearing | arming | collecting complete =>
    obtain ⟨rfl, rfl⟩ : _ ∧ _ := by simpa [Stage.next] using hnext
    exact h
  | lowering | raising =>
    cases hdriven : sees.driven with
    | true =>
      obtain ⟨rfl, rfl⟩ : _ ∧ _ := by simpa [Stage.next, hdriven] using hnext
      exact h
    | false =>
      obtain ⟨rfl, rfl⟩ : _ ∧ _ := by simpa [Stage.next, hdriven] using hnext
      exact h
  | pulsing due =>
    obtain ⟨-, rfl, rfl⟩ : _ ∧ _ ∧ _ := by simpa [Stage.next] using hnext
    exact h
  | listening =>
    obtain ⟨rfl, rfl⟩ : _ ∧ _ := by simpa [Stage.next] using hnext
    exact ⟨switchings history, rfl, h⟩
  | waiting due =>
    cases hdone : capture₀.done with
    | true =>
      obtain ⟨rfl, rfl⟩ : _ ∧ _ := by simpa [Stage.next, Capture.takeDone, hdone] using hnext
      exact h
    | false =>
      obtain ⟨-, rfl, rfl⟩ : _ ∧ _ ∧ _ := by
        simpa [Stage.next, Capture.takeDone, hdone] using hnext
      exact h
  | unlistening complete =>
    obtain ⟨rfl, rfl⟩ : _ ∧ _ := by simpa [Stage.next] using hnext
    -- The call that stops listening goes with the one that began it.
    obtain ⟨calls, hcalls, hpaired⟩ := h
    have hswitched : switchings (.left (.unlistening complete) sees (.collecting complete) ::
        history) = .unlisten :: .listen :: calls := congrArg (List.cons LineCall.unlisten) hcalls
    show Paired (switchings _)
    rw [hswitched]
    exact hpaired.unlisten_listen
  | finished result => cases hnext

/-- A reader that finishes does so without a line or with its own window. -/
theorem Holds.endsWell {b : Bus} {sees : Surroundings} {result : Except ReadError Reading}
    {capture : Capture} (h : Holds b)
    (hnext : b.stage.next sees b.capture = some (.finished result, capture)) :
    EndsWell b.history b.stage sees result := by
  obtain ⟨source, capture₀, history⟩ := b
  cases source with
  | lowering =>
    cases hdriven : sees.driven with
    | true => simp [Stage.next, hdriven] at hnext
    | false =>
      obtain ⟨rfl, -⟩ : _ ∧ _ := by simpa [Stage.next, hdriven] using hnext
      exact .inl ⟨.inl rfl, hdriven, rfl⟩
  | raising =>
    cases hdriven : sees.driven with
    | true => simp [Stage.next, hdriven] at hnext
    | false =>
      obtain ⟨rfl, -⟩ : _ ∧ _ := by simpa [Stage.next, hdriven] using hnext
      exact .inl ⟨.inr rfl, hdriven, rfl⟩
  | collecting complete =>
    -- The read has listened. Its frame is what came in its window, and it is complete if the signal
    -- was seen.
    obtain ⟨hsignal, w, hwindow, hcapture, hedges⟩ := h
    obtain rfl : capture₀ = if complete then (caught w).clearDone else caught w := hcapture
    obtain rfl : signalled history = complete := hsignal
    obtain ⟨rfl, -⟩ : _ ∧ _ := by simpa [Stage.next] using hnext
    refine .inr ⟨w, rfl, hwindow, ?_⟩
    cases hcomplete : signalled history with
    | true => exact ⟨hedges hcomplete, rfl, decode_ne_timeout (hedges hcomplete)⟩
    | false => rfl
  | waiting due =>
    cases hdone : capture₀.done with
    | true => simp [Stage.next, Capture.takeDone, hdone] at hnext
    | false => simp [Stage.next, Capture.takeDone, hdone] at hnext
  | disarming | pulsing due | clearing | arming | listening | unlistening complete =>
    simp [Stage.next] at hnext
  | finished result => cases hnext

/-! ### Every run -/

/-- The bus is as the reader relies on. -/
structure Sound (b : Bus) : Prop where
  holds : Holds b
  listens : Listens b
  explained : Explained b.history

/-- At first no read has ended, and of the capture nothing is known. -/
theorem sound_boot (capture : Capture) : Sound (Bus.boot capture) where
  holds := trivial
  listens := ⟨0, rfl⟩
  explained := fun _ _ _ _ _ heq => absurd heq (by simp [Bus.boot])

/-- Every event keeps it: an edge, a step of the reader, and the start of the next read. -/
theorem Sound.after {b : Bus} (h : Sound b) (event : Event) : Sound (b.after event) := by
  cases event with
  | edge stamp =>
    have hlistens : Listens (b.after (.edge stamp)) := h.listens
    exact ⟨h.holds.edge stamp, hlistens, h.explained.cons fun _ _ _ heq => nomatch heq⟩
  | step sees =>
    rw [Bus.after]
    cases hnext : b.stage.next sees b.capture with
    | none => exact h
    | some next =>
      obtain ⟨stage, capture⟩ := next
      refine ⟨h.holds.step hnext, h.listens.step hnext, h.explained.cons ?_⟩
      intro source sees' result heq
      obtain ⟨rfl, rfl, rfl⟩ := Mark.left.inj heq
      exact h.holds.endsWell hnext
  | again =>
    rw [Bus.after]
    split
    · rename_i result hstage
      have hpaired := h.listens
      rw [Listens, hstage] at hpaired
      exact ⟨trivial, hpaired, h.explained⟩
    · exact h

/-- By induction on the events. -/
theorem sound_run {b : Bus} (h : Sound b) (events : List Event) : Sound (b.run events) := by
  induction events generalizing b with
  | nil => exact h
  | cons event events ih => exact ih (h.after event)

/-- Whether edges are accepted at this stage. -/
def accepts : Stage → Bool
  | .listening | .waiting _ | .unlistening _ | .collecting _ => true
  | _ => false

/-- The frame and the signal, in terms of the window. -/
def Tells (b : Bus) : Prop :=
  ∃ w, window b.history = some w ∧ b.capture.frame = (caught w).frame ∧
    if signalled b.history then b.capture.frame.edges = expectedEdges
    else b.capture.done = true ↔ b.capture.frame.edges = expectedEdges

/-- While edges are accepted the capture is what the window makes of an unused one. -/
theorem Accepting.tells {b : Bus} {complete : Bool} (h : Accepting b complete) : Tells b := by
  obtain ⟨rfl, w, hwindow, hcapture, hedges⟩ := h
  refine ⟨w, hwindow, ?_⟩
  cases hsignal : signalled b.history with
  | true =>
    rw [hcapture, hsignal]
    exact ⟨rfl, hedges hsignal⟩
  | false =>
    rw [hcapture, hsignal]
    exact ⟨rfl, (caught_honest w).done_iff⟩

/-- At each stage that accepts edges. -/
theorem Holds.tells {b : Bus} (h : Holds b) (haccepts : accepts b.stage = true) : Tells b := by
  obtain ⟨stage, capture, history⟩ := b
  cases stage with
  | listening | waiting due | unlistening complete | collecting complete => exact Accepting.tells h
  | _ => cases haccepts

/-- In every run, whatever the capture holds at its beginning, and however edges and steps of the
reader follow each other:

1. From the stage after arming up to disarming, the captured frame is what an unused capture makes
   of the edges that have come since this arming. Once the wait has ended with the completion
   signal, the frame has all its edges. Before that the signal is raised if and only if it has.
2. Every read that has ended could not drive the line, or it ended with the window of its own edges:
   with the decoded frame of this window, which is complete and no timeout, if its wait ended with
   the signal, and else with a timeout.
3. After every read the capture is disarmed, and every listen was followed by its unlisten. -/
theorem handoff_law (capture : Capture) (events : List Event) :
    let b := (Bus.boot capture).run events
    (accepts b.stage = true → Tells b) ∧
    (∀ later past source sees result,
      b.history = later ++ .left source sees (.finished result) :: past →
        EndsWell past source sees result) ∧
    (∀ result, b.stage.result? = some result →
      b.capture.armed = false ∧ Paired (switchings b.history)) := by
  intro b
  obtain ⟨hholds, hlistens, hexplained⟩ : Sound b := sound_run (sound_boot capture) events
  refine ⟨hholds.tells, hexplained, ?_⟩
  intro result hresult
  cases hstage : b.stage with
  | finished result' =>
    rw [Holds, hstage] at hholds
    rw [Listens, hstage] at hlistens
    exact ⟨hholds, hlistens⟩
  | _ =>
    rw [hstage] at hresult
    cases hresult

/-- The steps of a read from its beginning to its wait. -/
def upToWait : List Event :=
  List.replicate 2 (.step ⟨0, 0, true⟩) ++ List.replicate 5 (.step ⟨startPulse, 0, true⟩)

/-- The steps of a read from its wait, once the time is over, to its end. -/
def fromWait : List Event := List.replicate 3 (.step ⟨startPulse + readTimeout, 0, true⟩)

/-- A read whose time is over when its frame has one bit too few. The last edge comes before the
capture is disarmed, so that nobody takes the completion signal. -/
def lateRead : List Event :=
  let times := edgeTimes 0 ([30, 160] ++ List.replicate 40 78)
  upToWait ++ (times.take 41).map .edge ++ fromWait.take 1 ++ (times.drop 41).map .edge ++
    fromWait.drop 1

/-- A read that sees a preamble and no bit. -/
def emptyRead : List Event := upToWait ++ (edgeTimes 0 [30, 160]).map .edge ++ fromWait

/-- The signal that a late read leaves behind is not taken for the signal of the next one. -/
theorem handoff_law_late :
    let b := (Bus.boot .idle).run (lateRead ++ .again :: emptyRead)
    ((Bus.boot .idle).run lateRead).capture.done = true ∧
      b.stage.result? = some (.error .timeout) ∧ b.capture.done = false ∧
      b.capture.armed = false ∧ Paired (switchings b.history) := by
  have hended := (handoff_law .idle (lateRead ++ .again :: emptyRead)).2.2 (.error .timeout)
    (by decide +kernel)
  exact ⟨by decide +kernel, by decide +kernel, by decide +kernel, hended⟩

end WeatherStation.Proofs.Sensor
