import Mathlib.Data.List.Basic
import WeatherStation.Net.Tcp

/-!
# `WeatherStation.Proofs.Net.WholeWrite`: every byte is written once, or the write says why not

`TcpSocket.writeAll` offers what is left of the bytes until the socket has taken all of them. A
socket can take any number of the bytes it is offered, none of them too, and it can fail.

The socket here is any socket under observation. A `Line` fixes what the socket answers to its
first write, to its second and so on for ever, and keeps the offers that were made to it. An
answer that is larger than the offer counts as the whole offer, so that the sequences of answers
are exactly those that a socket can give.

`Written bytes offers result` is what an observer sees of one call. It has a constructor for each
way in which the loop goes on or ends. `run_writeAll` shows that every call is of this kind, and
the laws are read off the relation by induction:

* `Written.bytes_eq`, `Written.taken_isPrefix`: each offer is what was left, and the bytes that
  were taken are the first ones, in order and each once.
* `Written.ok_iff`, `Written.closed_iff`, `Written.tcp_iff`: which result comes when.
* `Written.goes_on`, `Written.length_le`: there is no offer after an answer that ends the loop, and
  there are no more offers than bytes.

`written_exactly` collects them.
-/

set_option autoImplicit false

namespace WeatherStation.Proofs.Net

open WeatherStation.Net

/-! ### A socket under observation -/

/-- Bytes that were offered to a socket, and its answer. -/
structure Offer where
  bytes : List UInt8
  answer : Except StreamError Nat

/-- The bytes that the socket took of an offer. -/
def Offer.taken (o : Offer) : List UInt8 :=
  match o.answer with
  | .ok n => o.bytes.take n
  | .error _ => []

/-- The bytes that the socket took of all the offers, in order. -/
def taken (offers : List Offer) : List UInt8 := offers.flatMap Offer.taken

/-- The answers that a socket is going to give, and the offers so far in order. -/
structure Line where
  answers : Nat → Except StreamError Nat
  offers : List Offer := []

namespace Line

/-- The answer to an offer of so many bytes that comes after `k` others. -/
def answer (l : Line) (k length : Nat) : Except StreamError Nat :=
  (l.answers (l.offers.length + k)).map (min · length)

/-- After some more offers. -/
def after (l : Line) (offers : List Offer) : Line := { l with offers := l.offers ++ offers }

/-- After one more offer. -/
def offer (l : Line) (bytes : List UInt8) : Line :=
  l.after [⟨bytes, l.answer 0 bytes.length⟩]

/-- No offers, nothing changes. -/
theorem after_nil (l : Line) : l.after [] = l := by
  simp [after]

/-- Some offers and then others. -/
theorem after_after (l : Line) (first second : List Offer) :
    (l.after first).after second = l.after (first ++ second) := by
  simp [after]

/-- An offer brings the later answers nearer by one. -/
theorem answer_offer (l : Line) (bytes : List UInt8) (k length : Nat) :
    (l.offer bytes).answer k length = l.answer (k + 1) length := by
  have hmoment : l.offers.length + 1 + k = l.offers.length + (k + 1) := by omega
  simp [answer, offer, after, hmoment]

/-- No more is taken than was offered. -/
theorem le_of_answer {l : Line} {k length n : Nat} (h : l.answer k length = .ok n) :
    n ≤ length := by
  rw [answer] at h
  cases hanswer : l.answers (l.offers.length + k) with
  | error e => simp [hanswer, Except.map] at h
  | ok most =>
    simp only [hanswer, Except.map, Except.ok.injEq] at h
    omega

end Line

/-- Offers that were answered as the socket was going to. -/
def Answered (l : Line) (offers : List Offer) : Prop :=
  ∀ k o, offers[k]? = some o → o.answer = l.answer k o.bytes.length

/-- No offer needs an answer. -/
theorem answered_nil (l : Line) : Answered l [] := by
  simp [Answered]

/-- The first offer has the first answer, and the others have those of the line behind it. -/
theorem Answered.cons {l : Line} {bytes : List UInt8} {offers : List Offer}
    (h : Answered (l.offer bytes) offers) :
    Answered l (⟨bytes, l.answer 0 bytes.length⟩ :: offers) := by
  intro k o ho
  cases k with
  | zero =>
    obtain rfl := Option.some.inj ho
    rfl
  | succ k =>
    rw [← l.answer_offer bytes]
    exact h k o ho

/-- A socket whose writes are observed. What it does otherwise is left open. -/
def observed (s : TcpSocket (StateM Line)) : TcpSocket (StateM Line) :=
  { s with write := fun bytes l => (l.answer 0 bytes.length, l.offer bytes) }

/-! ### What is seen of a call -/

/-- The offers of one call and its result. -/
inductive Written : List UInt8 → List Offer → Except NetError Unit → Prop where
  /-- Nothing is left. -/
  | done : Written [] [] (.ok ())
  /-- The socket took some of the bytes, and the others are written after that. -/
  | more {bytes : List UInt8} {n : Nat} {offers : List Offer} {result : Except NetError Unit}
      (left : bytes ≠ []) (progress : 0 < n) (within : n ≤ bytes.length)
      (rest : Written (bytes.drop n) offers result) :
      Written bytes (⟨bytes, .ok n⟩ :: offers) result
  /-- The socket took nothing. -/
  | refused {bytes : List UInt8} (left : bytes ≠ []) :
      Written bytes [⟨bytes, .ok 0⟩] (.error .closed)
  | failed {bytes : List UInt8} (left : bytes ≠ []) (e : StreamError) :
      Written bytes [⟨bytes, .error e⟩] (.error (.tcp e))

/-- One round of the loop. -/
theorem writeAll_round (s : TcpSocket (StateM Line)) (l : Line) {bytes : List UInt8}
    (hleft : bytes ≠ []) :
    (observed s).writeAll bytes l =
      match l.answer 0 bytes.length with
      | .error e => (.error (.tcp e), l.offer bytes)
      | .ok n =>
        if n = 0 then (.error .closed, l.offer bytes)
        else (observed s).writeAll (bytes.drop n) (l.offer bytes) := by
  rw [TcpSocket.writeAll, if_neg hleft]
  -- The write is the first thing that happens, and it leaves the line with the offer.
  show (match l.answer 0 bytes.length with
    | .error e => _
    | .ok n => _ : StateM Line (Except NetError Unit)) (l.offer bytes) = _
  cases l.answer 0 bytes.length with
  | error e => rfl
  | ok n =>
    dsimp only
    split <;> rfl

/-- Every call comes to an end and is of this kind. It adds its offers to those before, and the
socket answers each of them as it was going to. -/
theorem run_writeAll (s : TcpSocket (StateM Line)) (l : Line) (bytes : List UInt8) :
    ∃ offers result, (observed s).writeAll bytes l = (result, l.after offers) ∧
      Written bytes offers result ∧ Answered l offers := by
  -- The recursion is the loop's own: the bytes get fewer, and the line has one offer more.
  induction bytes using TcpSocket.writeAll.induct generalizing l with
  | case1 =>
    refine ⟨[], .ok (), ?_, .done, answered_nil l⟩
    rw [TcpSocket.writeAll, if_pos rfl, Line.after_nil]
    rfl
  | case2 bytes hleft ih =>
    have hsingle := (answered_nil (l.offer bytes)).cons
    rw [writeAll_round s l hleft]
    cases hanswer : l.answer 0 bytes.length with
    | error e =>
      rw [hanswer] at hsingle
      exact ⟨_, _, by rw [Line.offer, hanswer], .failed hleft e, hsingle⟩
    | ok n =>
      dsimp only
      split
      · next hzero =>
        subst hzero
        rw [hanswer] at hsingle
        exact ⟨_, _, by rw [Line.offer, hanswer], .refused hleft, hsingle⟩
      · next hsome =>
        obtain ⟨offers, result, hrun, hwritten, hanswers⟩ := ih n hsome (l.offer bytes)
        have hmore : Written bytes (⟨bytes, .ok n⟩ :: offers) result :=
          .more hleft (Nat.pos_of_ne_zero hsome) (Line.le_of_answer hanswer) hwritten
        have hall := hanswers.cons
        rw [hanswer] at hall
        refine ⟨_, result, ?_, hmore, hall⟩
        rw [hrun, Line.offer, Line.after_after, hanswer]
        rfl

/-! ### The laws of a call -/

section
variable {bytes : List UInt8} {offers : List Offer} {result : Except NetError Unit}

/-- The bytes that were taken are the first ones, in order and each once. -/
theorem Written.taken_isPrefix (h : Written bytes offers result) : taken offers <+: bytes := by
  induction h with
  | done => simp [taken]
  | @more bytes n offers result left progress within rest ih =>
    -- The first `n` bytes are taken now, and what is taken later begins behind them.
    show bytes.take n ++ taken offers <+: bytes
    conv => rhs; rw [← List.take_append_drop n bytes]
    exact (List.prefix_append_right_inj _).mpr ih
  | refused left => simp [taken, Offer.taken]
  | failed left e => simp [taken, Offer.taken]

/-- Each offer is what was left, and something was left. -/
theorem Written.bytes_eq (h : Written bytes offers result) {before later : List Offer} {o : Offer}
    (hsplit : offers = before ++ o :: later) :
    o.bytes = bytes.drop (taken before).length ∧ o.bytes ≠ [] := by
  induction h generalizing before with
  | done => simp at hsplit
  | @more bytes n offers result left progress within rest ih =>
    cases before with
    | nil =>
      obtain ⟨rfl, rfl⟩ := List.cons.inj hsplit
      exact ⟨by simp [taken], left⟩
    | cons first before =>
      obtain ⟨rfl, hrest⟩ := List.cons.inj hsplit
      -- What the first offer has taken is in front of what the later ones take.
      obtain ⟨hbytes, hsome⟩ := ih hrest
      have hlength : (bytes.take n).length = n := List.length_take_of_le within
      refine ⟨?_, hsome⟩
      rw [hbytes, List.drop_drop]
      show _ = bytes.drop (bytes.take n ++ taken before).length
      rw [List.length_append, hlength]
  | refused left =>
    obtain ⟨rfl, rfl, -⟩ : before = [] ∧ _ ∧ _ := by
      simpa [List.singleton_eq_append_iff] using hsplit
    exact ⟨by simp [taken], left⟩
  | failed left e =>
    obtain ⟨rfl, rfl, -⟩ : before = [] ∧ _ ∧ _ := by
      simpa [List.singleton_eq_append_iff] using hsplit
    exact ⟨by simp [taken], left⟩

/-- The call succeeds exactly if the socket has taken all the bytes. -/
theorem Written.ok_iff (h : Written bytes offers result) :
    result = .ok () ↔ taken offers = bytes := by
  induction h with
  | done => simp [taken]
  | @more bytes n offers result left progress within rest ih =>
    rw [ih]
    show _ ↔ bytes.take n ++ taken offers = bytes
    conv => rhs; rhs; rw [← List.take_append_drop n bytes]
    exact (List.append_right_inj _).symm
  | refused left => simp [taken, Offer.taken, left.symm]
  | failed left e => simp [taken, Offer.taken, left.symm]

/-- It finds the connection closed exactly if an offer was not taken at all. -/
theorem Written.closed_iff (h : Written bytes offers result) :
    result = .error .closed ↔ ∃ o ∈ offers, o.answer = .ok 0 := by
  induction h with
  | done => simp
  | more left progress within rest ih =>
    rw [ih]
    simp [Nat.ne_of_gt progress]
  | refused left => simp
  | failed left e => simp

/-- It reports the error of an offer that failed, and no other. -/
theorem Written.tcp_iff (h : Written bytes offers result) (e : StreamError) :
    result = .error (.tcp e) ↔ ∃ o ∈ offers, o.answer = .error e := by
  induction h with
  | done => simp
  | more left progress within rest ih =>
    rw [ih]
    simp
  | refused left => simp
  | failed left e' => simp

/-- There is no other result. -/
theorem Written.result_cases (h : Written bytes offers result) :
    result = .ok () ∨ result = .error .closed ∨ ∃ e, result = .error (.tcp e) := by
  induction h with
  | done => exact .inl rfl
  | more left progress within rest ih => exact ih
  | refused left => exact .inr (.inl rfl)
  | failed left e => exact .inr (.inr ⟨e, rfl⟩)

/-- All offers but the last were taken in part, so that one which was not taken is the last. -/
theorem Written.goes_on (h : Written bytes offers result) :
    ∀ o ∈ offers.dropLast, ∃ n, 0 < n ∧ o.answer = .ok n := by
  induction h with
  | done => simp
  | @more bytes n offers result left progress within rest ih =>
    intro o ho
    cases offers with
    | nil => simp at ho
    | cons next later =>
      rw [List.dropLast_cons_cons] at ho
      rcases List.mem_cons.mp ho with rfl | ho
      · exact ⟨n, progress, rfl⟩
      · exact ih o ho
  | refused left => simp
  | failed left e => simp

/-- There are no more offers than bytes. -/
theorem Written.length_le (h : Written bytes offers result) : offers.length ≤ bytes.length := by
  induction h with
  | done => exact Nat.le_refl 0
  | more left progress within rest ih =>
    rw [List.length_drop] at ih
    rw [List.length_cons]
    omega
  | refused left => exact List.length_pos_of_ne_nil left
  | failed left e => exact List.length_pos_of_ne_nil left

end

/-- For all bytes, every socket and every sequence of its answers, of which each takes any number of
the bytes that are offered or is an error, the call comes to an end, with these offers and this
result:

1. The offers are answered by the sequence, one after the other.
2. Each offer is what the offers before it have left, and not empty. So the bytes that the socket
   takes are the first ones, in order and each once.
3. The result is success exactly if the socket took all of them, `closed` exactly if it took nothing
   of an offer, and a stream error exactly if an offer failed with it. It is one of the three.
4. All offers but the last were taken in part. An offer that ends the call is the last one.
5. There are no more offers than bytes. -/
theorem written_exactly (s : TcpSocket (StateM Line)) (answers : Nat → Except StreamError Nat)
    (bytes : List UInt8) :
    ∃ offers result, (observed s).writeAll bytes { answers } = (result, { answers, offers }) ∧
      (∀ k o, offers[k]? = some o → o.answer = (answers k).map (min · o.bytes.length)) ∧
      (∀ before o later, offers = before ++ o :: later →
        o.bytes = bytes.drop (taken before).length ∧ o.bytes ≠ []) ∧
      taken offers <+: bytes ∧
      (result = .ok () ↔ taken offers = bytes) ∧
      (result = .error .closed ↔ ∃ o ∈ offers, o.answer = .ok 0) ∧
      (∀ e, result = .error (.tcp e) ↔ ∃ o ∈ offers, o.answer = .error e) ∧
      (result = .ok () ∨ result = .error .closed ∨ ∃ e, result = .error (.tcp e)) ∧
      (∀ o ∈ offers.dropLast, ∃ n, 0 < n ∧ o.answer = .ok n) ∧
      offers.length ≤ bytes.length := by
  obtain ⟨offers, result, hrun, hwritten, hanswered⟩ := run_writeAll s { answers } bytes
  refine ⟨offers, result, hrun, fun k o ho => ?_, fun _ _ _ hsplit => hwritten.bytes_eq hsplit,
    hwritten.taken_isPrefix, hwritten.ok_iff, hwritten.closed_iff, hwritten.tcp_iff,
    hwritten.result_cases, hwritten.goes_on, hwritten.length_le⟩
  have hanswer := hanswered k o ho
  rw [Line.answer] at hanswer
  simpa using hanswer

end WeatherStation.Proofs.Net
