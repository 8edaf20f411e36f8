/-
# The callback channel under many guests

The guests of the Rego runtime send their requests into one bounded `mpsc`
channel with `try_send` (`make_request_via_callback_channel`) and block on the
request's reply; the router receives from the channel, answers, and may shut
down. `Bus` is that system: the channel, each guest's remaining requests, and
the guests whose request the router holds. Any interleaving of sends, receives,
replies and the shutdown is a run of `busStep`.

`try_send` does not wait: a send fails with `CallbackSend` exactly when the
router has shut down or the channel already holds `capacity` requests the
router has not received (`send_fails_iff`), also while the router is running
(`send_fails_while_open`). No request is lost or duplicated: a waiting guest's
request is queued or held by the router exactly once (`bus_requests_tracked`);
the shutdown drops the queued ones and fails their guests. Nothing can leave a
guest blocked for good: from every reachable state the router can receive
every queued request and answer every one it holds, after which no guest
waits (`router_answers_every_guest`).
-/
import Kubewarden.Rego.ContextAware

namespace Kubewarden
namespace Rego

/-- The bounded channel: its capacity, the requests sent and not yet received
(each with its guest), and whether the receiver was dropped. -/
structure Channel where
  capacity : ℕ
  queue : List (ℕ × CallbackRequestType)
  closed : Bool

/-- `Sender::try_send`. -/
def Channel.trySend (ch : Channel) (msg : ℕ × CallbackRequestType) : Except TrySendError Channel :=
  if ch.closed then .error .closed
  else if ch.queue.length < ch.capacity then .ok { ch with queue := ch.queue ++ [msg] }
  else .error .full

/-- A guest: the requests it has still to make, blocked on the reply to the one
it sent, or stopped by an error. -/
inductive Guest
  | ready (requests : List CallbackRequestType)
  | waiting (rest : List CallbackRequestType)
  | failed (e : RegoRuntimeError)
  deriving DecidableEq, Repr

/-- The channel, the guests, and the guests whose request the router has received. -/
structure Bus where
  channel : Channel
  guests : List Guest
  inFlight : List ℕ

/-- A step of a run: a guest sends its next request, the router receives the
oldest one, answers one it holds (or fails it with an error), or shuts down. -/
inductive BusEvent
  | send (g : ℕ)
  | recv
  | reply (g : ℕ) (err : Option RegoRuntimeError)
  | shutdown

/-- The try-send of guest `g`'s next request. -/
def sendStep (s : Bus) (g : ℕ) (req : CallbackRequestType) (rest : List CallbackRequestType) : Bus :=
  match s.channel.trySend (g, req) with
  | .ok ch => { s with channel := ch, guests := s.guests.set g (.waiting rest) }
  | .error e => { s with guests := s.guests.set g (.failed (.callbackSend e.toString)) }

/-- The machine's step; `none` when the event cannot happen. -/
def busStep (s : Bus) : BusEvent → Option Bus
  | .send g =>
    match s.guests[g]? with
    | some (.ready (req :: rest)) => some (sendStep s g req rest)
    | _ => none
  | .recv =>
    match s.channel.queue with
    | (g, _) :: q => if s.channel.closed then none
      else some { s with channel := { s.channel with queue := q }, inFlight := s.inFlight ++ [g] }
    | [] => none
  | .reply g err =>
    match s.guests[g]? with
    | some (.waiting rest) =>
      if g ∈ s.inFlight then
        some { s with inFlight := s.inFlight.erase g
                      guests := s.guests.set g (match err with
                        | none => .ready rest
                        | some e => .failed e) }
      else none
    | _ => none
  | .shutdown =>
    some { s with
      channel := { s.channel with closed := true, queue := [] }
      guests := s.channel.queue.foldl
        (fun gs m => gs.set m.1 (.failed (.callbackResponse "channel closed"))) s.guests }

/-- Guests with their programs, an empty channel of `capacity`, a running router. -/
def Bus.init (capacity : ℕ) (programs : List (List CallbackRequestType)) : Bus :=
  ⟨⟨capacity, [], false⟩, programs.map .ready, []⟩

/-- The states some run reaches. -/
inductive BusReachable (capacity : ℕ) (programs : List (List CallbackRequestType)) : Bus → Prop
  | init : BusReachable capacity programs (Bus.init capacity programs)
  | step {s s' : Bus} (e : BusEvent) : BusReachable capacity programs s → busStep s e = some s' →
      BusReachable capacity programs s'

/-! ### The channel stays within its capacity -/

theorem trySend_ok {ch ch' : Channel} {msg : ℕ × CallbackRequestType}
    (h : ch.trySend msg = .ok ch') :
    ch.closed = false ∧ ch.queue.length < ch.capacity ∧ ch' = { ch with queue := ch.queue ++ [msg] } := by
  unfold Channel.trySend at h
  split_ifs at h with h1 h2; cases h
  exact ⟨by simpa using h1, h2, rfl⟩

theorem trySend_error {ch : Channel} {msg : ℕ × CallbackRequestType} {e : TrySendError}
    (h : ch.trySend msg = .error e) :
    (ch.closed = true ∧ e = .closed) ∨ (ch.closed = false ∧ ch.capacity ≤ ch.queue.length ∧ e = .full) := by
  unfold Channel.trySend at h
  split_ifs at h with h1 h2 <;> cases h
  · exact .inl ⟨h1, rfl⟩
  · exact .inr ⟨by simpa using h1, by omega, rfl⟩

/-- The channel never holds more than its capacity. -/
def Bounded (s : Bus) : Prop := s.channel.queue.length ≤ s.channel.capacity

/-- What a step can do: a ready guest's send, the router's receive of the
oldest request while it runs, its answer to a waiting guest whose request it
holds, or its shutdown. -/
theorem busStep_cases {s s' : Bus} {e : BusEvent} (h : busStep s e = some s') :
    (∃ g req rest, s.guests[g]? = some (.ready (req :: rest)) ∧ s' = sendStep s g req rest) ∨
    (∃ g x q, s.channel.queue = (g, x) :: q ∧ s.channel.closed = false ∧
      s' = { s with channel := { s.channel with queue := q }, inFlight := s.inFlight ++ [g] }) ∨
    (∃ g err rest, s.guests[g]? = some (.waiting rest) ∧ g ∈ s.inFlight ∧
      s' = { s with inFlight := s.inFlight.erase g
                    guests := s.guests.set g (match err with
                      | none => .ready rest
                      | some e => .failed e) }) ∨
    s' = { s with channel := { s.channel with closed := true, queue := [] }
                  guests := s.channel.queue.foldl
                    (fun gs m => gs.set m.1 (.failed (.callbackResponse "channel closed"))) s.guests } := by
  cases e with
  | send g =>
    simp only [busStep] at h
    split at h
    · cases h; exact .inl ⟨g, _, _, ‹_›, rfl⟩
    · cases h
  | recv =>
    simp only [busStep] at h
    split at h
    · split_ifs at h with hc; cases h
      exact .inr (.inl ⟨_, _, _, ‹_›, by simpa using hc, rfl⟩)
    · cases h
  | reply g err =>
    simp only [busStep] at h
    split at h
    · split_ifs at h with hin; cases h
      exact .inr (.inr (.inl ⟨g, err, _, ‹_›, hin, rfl⟩))
    · cases h
  | shutdown => exact .inr (.inr (.inr (Option.some.inj h).symm))

theorem busStep_bounded {s s' : Bus} {e : BusEvent} (hb : Bounded s) (h : busStep s e = some s') :
    Bounded s' := by
  rcases busStep_cases h with ⟨g, req, rest, -, rfl⟩ | ⟨g, x, q, hq, -, rfl⟩ | ⟨-, -, -, -, -, rfl⟩ | rfl
  · unfold sendStep; split
    · rename_i ch hch
      obtain ⟨-, hlt, rfl⟩ := trySend_ok hch
      simp only [Bounded, List.length_append, List.length_singleton]; omega
    · exact hb
  · simp only [Bounded, hq, List.length_cons] at hb ⊢; omega
  · exact hb
  · simp [Bounded]

theorem reachable_bounded {capacity : ℕ} {programs : List (List CallbackRequestType)} {s : Bus}
    (hs : BusReachable capacity programs s) : Bounded s := by
  induction hs with
  | init => simp [Bounded, Bus.init]
  | step e _ h ih => exact busStep_bounded ih h

/-! ### When a send fails -/

/-- **A send fails exactly on a closed or full channel, and never waits.** In
every state a run reaches, a guest with a request to make can always take its
send step, and the step stops the guest with `CallbackSend` exactly when the
router has shut down ("channel closed") or the channel holds `capacity`
requests the router has not received ("no available capacity"); otherwise the
request is queued and the guest waits for its reply. -/
theorem send_fails_iff {capacity : ℕ} {programs : List (List CallbackRequestType)} {s : Bus}
    (hs : BusReachable capacity programs s) (g : ℕ) (req : CallbackRequestType)
    (rest : List CallbackRequestType) (hg : s.guests[g]? = some (.ready (req :: rest))) :
    busStep s (.send g) = some (sendStep s g req rest) ∧
    ((∃ msg, (sendStep s g req rest).guests[g]? = some (.failed (.callbackSend msg))) ↔
      s.channel.closed = true ∨ s.channel.queue.length = s.channel.capacity) ∧
    (s.channel.closed = true →
      (sendStep s g req rest).guests[g]? = some (.failed (.callbackSend "channel closed"))) ∧
    (s.channel.closed = false → s.channel.queue.length = s.channel.capacity →
      (sendStep s g req rest).guests[g]? = some (.failed (.callbackSend "no available capacity"))) ∧
    (s.channel.closed = false → s.channel.queue.length < s.channel.capacity →
      sendStep s g req rest = { s with channel := { s.channel with queue := s.channel.queue ++ [(g, req)] }
                                       guests := s.guests.set g (.waiting rest) }) := by
  have hb := reachable_bounded hs
  have hlen : g < s.guests.length := (List.getElem?_eq_some_iff.1 hg).1
  have hfail : ∀ e, s.channel.trySend (g, req) = .error e →
      (sendStep s g req rest).guests[g]? = some (.failed (.callbackSend e.toString)) :=
    fun e h => by simp [sendStep, h, List.getElem?_set, hlen]
  refine ⟨by simp [busStep, hg], ?_, fun hc => hfail .closed (by simp [Channel.trySend, hc]),
    fun hc hfull => hfail .full (by simp [Channel.trySend, hc, hfull]), fun hc hlt => ?_⟩
  · unfold sendStep
    rcases h : s.channel.trySend (g, req) with e | ch
    · rcases trySend_error h with ⟨hc, rfl⟩ | ⟨hc, hle, rfl⟩
      · simp [List.getElem?_set, hlen, hc]
      · simp [List.getElem?_set, hlen, Bounded] at hb ⊢; omega
    · obtain ⟨hc, hlt, rfl⟩ := trySend_ok h
      simp [List.getElem?_set, hlen, hc]; omega
  · have : s.channel.trySend (g, req) = .ok { s.channel with queue := s.channel.queue ++ [(g, req)] } := by
      simp [Channel.trySend, hc, hlt]
    simp [sendStep, this]

/-! ### No request is lost or duplicated -/

/-- The guest is blocked on the reply to a request it sent. -/
def Guest.isWaiting : Guest → Bool
  | .waiting _ => true
  | _ => false

/-- Guest `g` of the list is waiting. -/
def waitingAt (gs : List Guest) (g : ℕ) : Bool := (gs[g]?.map Guest.isWaiting).getD false

/-- The guests whose request is queued or held by the router, queued ones first. -/
def pending (s : Bus) : List ℕ := s.channel.queue.map Prod.fst ++ s.inFlight

/-- Every waiting guest has exactly one request queued or held, every other guest none. -/
def Tracked (s : Bus) : Prop := ∀ g, (pending s).count g = if waitingAt s.guests g then 1 else 0

theorem waitingAt_of_length_le {gs : List Guest} {j : ℕ} (h : gs.length ≤ j) :
    waitingAt gs j = false := by
  simp [waitingAt, List.getElem?_eq_none h]

theorem waitingAt_set (gs : List Guest) (i j : ℕ) (x : Guest) :
    waitingAt (gs.set i x) j = if i = j ∧ i < gs.length then x.isWaiting else waitingAt gs j := by
  by_cases hij : i = j
  · subst hij
    by_cases hi : i < gs.length
    · simp [waitingAt, hi]
    · rw [List.set_eq_of_length_le (not_lt.1 hi)]; simp [hi]
  · simp [waitingAt, hij]

theorem waitingAt_foldl_set (q : List (ℕ × CallbackRequestType)) {x : Guest}
    (hx : x.isWaiting = false) : ∀ (gs : List Guest) (j : ℕ),
      waitingAt (q.foldl (fun gs m => gs.set m.1 x) gs) j =
        (waitingAt gs j && !(q.map Prod.fst).contains j) := by
  induction q with
  | nil => simp
  | cons m q ih =>
    intro gs j
    rw [List.foldl_cons, ih, waitingAt_set]
    by_cases hm : m.1 = j
    · subst hm
      by_cases hl : m.1 < gs.length
      · simp [hl, hx]
      · simp [hl, waitingAt_of_length_le (not_lt.1 hl)]
    · have hne : (j == m.1) = false := by simpa using Ne.symm hm
      simp [hm, hne]

theorem waitingAt_of_ready {gs : List Guest} {g : ℕ} {l : List CallbackRequestType}
    (h : gs[g]? = some (.ready l)) : waitingAt gs g = false := by
  simp [waitingAt, h, Guest.isWaiting]

theorem sendStep_tracked {s : Bus} {g : ℕ} {req : CallbackRequestType} {rest : List CallbackRequestType}
    (ht : Tracked s) (hg : s.guests[g]? = some (.ready (req :: rest))) :
    Tracked (sendStep s g req rest) := by
  have hlen : g < s.guests.length := (List.getElem?_eq_some_iff.1 hg).1
  have h0 := ht g
  rw [waitingAt_of_ready hg] at h0
  intro j
  unfold sendStep
  split
  · rename_i ch hch
    obtain ⟨-, -, rfl⟩ := trySend_ok hch
    have := ht j
    simp only [pending, List.map_append, List.map_singleton, List.count_append,
      List.count_singleton', waitingAt_set, hlen, and_true] at this h0 ⊢
    by_cases hj : g = j
    · subst hj; simp [Guest.isWaiting] at h0 ⊢; omega
    · simp only [hj, if_false, Ne.symm hj] at this ⊢; omega
  · have := ht j
    simp only [pending, waitingAt_set, hlen, and_true] at this h0 ⊢
    by_cases hj : g = j
    · subst hj; simpa [Guest.isWaiting] using h0
    · simpa [hj] using this

theorem busStep_tracked {s s' : Bus} {e : BusEvent} (ht : Tracked s) (h : busStep s e = some s') :
    Tracked s' := by
  rcases busStep_cases h with ⟨g, req, rest, hg, rfl⟩ | ⟨g, x, q, hq, -, rfl⟩ |
    ⟨g, err, rest, hg, hin, rfl⟩ | rfl
  · exact sendStep_tracked ht hg
  · intro j
    have := ht j
    simp only [pending, hq, List.map_cons, List.cons_append, List.count_cons, List.count_append,
      List.count_singleton', List.count_nil] at this ⊢
    split_ifs at this ⊢ <;> omega
  · have hlen : g < s.guests.length := (List.getElem?_eq_some_iff.1 hg).1
    have hpos : 0 < s.inFlight.count g := List.count_pos_iff.2 hin
    intro j
    have := ht j
    simp only [pending, List.count_append, waitingAt_set, hlen, and_true] at this ⊢
    by_cases hj : g = j
    · subst hj
      simp only [waitingAt, hg, Option.map_some', Guest.isWaiting, Option.getD_some, if_true,
        List.count_erase_self] at this ⊢
      cases err <;> simp [Guest.isWaiting] <;> omega
    · simpa [hj, List.count_erase_of_ne (Ne.symm hj)] using this
  · intro j
    have := ht j
    rw [pending, List.count_append] at this
    simp only [pending, List.map_nil, List.nil_append,
      @waitingAt_foldl_set s.channel.queue (.failed (.callbackResponse "channel closed")) rfl]
    by_cases hq : j ∈ s.channel.queue.map Prod.fst
    · have hq' : 0 < (s.channel.queue.map Prod.fst).count j := List.count_pos_iff.2 hq
      split_ifs at this <;> simp [hq] <;> omega
    · simpa [hq, List.count_eq_zero_of_not_mem hq] using this

theorem reachable_tracked {capacity : ℕ} {programs : List (List CallbackRequestType)} {s : Bus}
    (hs : BusReachable capacity programs s) : Tracked s := by
  induction hs with
  | init =>
    intro g
    simp only [pending, Bus.init, List.map_nil, List.append_nil, List.count_nil, waitingAt,
      List.getElem?_map]
    cases (programs[g]?) <;> rfl
  | step e _ h ih => exact busStep_tracked ih h

/-- **No request is lost or duplicated.** In every state a run reaches, from any
guests and any capacity, through any sends, receives, replies and shutdown: a
guest waiting for a reply has its request exactly once in the channel or in the
router's hands, and a guest that is not waiting has none there. -/
theorem bus_requests_tracked {capacity : ℕ} {programs : List (List CallbackRequestType)} {s : Bus}
    (hs : BusReachable capacity programs s) (g : ℕ) :
    (s.channel.queue.map Prod.fst ++ s.inFlight).count g = if waitingAt s.guests g then 1 else 0 :=
  reachable_tracked hs g

/-! ### The router can answer every guest -/

/-- A schedule run from a state. -/
def busRun (s : Bus) : List BusEvent → Option Bus
  | [] => some s
  | e :: es => (busStep s e).bind fun s' => busRun s' es

theorem busRun_append (s : Bus) (es es' : List BusEvent) :
    busRun s (es ++ es') = (busRun s es).bind fun s' => busRun s' es' := by
  induction es generalizing s with
  | nil => rfl
  | cons e es ih =>
    simp only [List.cons_append, busRun]
    cases busStep s e <;> simp [ih]

theorem busRun_tracked : ∀ (es : List BusEvent) {s s' : Bus}, Tracked s →
    busRun s es = some s' → Tracked s'
  | [], _, _, ht, h => by cases h; exact ht
  | e :: es, _, _, ht, h => by
    obtain ⟨s₁, h₁, h₂⟩ := Option.bind_eq_some.1 h
    exact busRun_tracked es (busStep_tracked ht h₁) h₂

/-- A shut-down channel holds nothing. -/
def ClosedEmpty (s : Bus) : Prop := s.channel.closed = true → s.channel.queue = []

theorem busStep_closedEmpty {s s' : Bus} {e : BusEvent} (hc : ClosedEmpty s)
    (h : busStep s e = some s') : ClosedEmpty s' := by
  rcases busStep_cases h with ⟨g, req, rest, -, rfl⟩ | ⟨g, x, q, -, hcl, rfl⟩ |
    ⟨-, -, -, -, -, rfl⟩ | rfl
  · unfold sendStep
    split
    · rename_i ch hch
      obtain ⟨hcl, -, rfl⟩ := trySend_ok hch
      simp [ClosedEmpty, hcl]
    · exact hc
  · simp [ClosedEmpty, hcl]
  · exact hc
  · intro _; rfl

theorem reachable_closedEmpty {capacity : ℕ} {programs : List (List CallbackRequestType)} {s : Bus}
    (hs : BusReachable capacity programs s) : ClosedEmpty s := by
  induction hs with
  | init => intro h; cases h
  | step e _ h ih => exact busStep_closedEmpty ih h

/-- The router receives a running channel's whole queue, oldest first. -/
theorem busRun_recv_all : ∀ (q : List (ℕ × CallbackRequestType)) (s : Bus),
    s.channel.queue = q → (s.channel.closed = false ∨ q = []) →
    busRun s (List.replicate q.length .recv) =
      some { s with channel := { s.channel with queue := [] },
                    inFlight := s.inFlight ++ q.map Prod.fst }
  | [], ⟨⟨_, _, _⟩, _, _⟩, hq, _ => by
    cases hq
    simp [busRun]
  | (g, x) :: q, ⟨⟨capacity, _, closed⟩, guests, inFlight⟩, hq, hcl => by
    cases hq
    have hcl : closed = false := hcl.resolve_right (List.cons_ne_nil _ _)
    subst hcl
    rw [List.length_cons, List.replicate_succ, busRun]
    simp [busStep, busRun_recv_all q ⟨⟨capacity, q, false⟩, guests, inFlight ++ [g]⟩ rfl (.inl rfl)]

/-- What the router's answer makes of a waiting guest: ready for its next
request, or stopped by the error. -/
def answerGuest : Option RegoRuntimeError → List CallbackRequestType → Guest
  | none, rest => .ready rest
  | some e, _ => .failed e

theorem waitingAt_eq_true {gs : List Guest} {g : ℕ} :
    waitingAt gs g = true ↔ ∃ rest, gs[g]? = some (.waiting rest) := by
  unfold waitingAt
  rcases gs[g]? with _ | (_ | rest | _) <;> simp [Guest.isWaiting]

/-- With nothing queued, a tracked guest is waiting exactly when the router
holds its request, and then it holds it once. -/
theorem count_inFlight_of_tracked {s : Bus} (ht : Tracked s) (hq : s.channel.queue = [])
    (g : ℕ) : s.inFlight.count g = if waitingAt s.guests g then 1 else 0 := by
  simpa [pending, hq] using ht g

/-- Replying to each held request in turn, with a queue left empty, answers
each of those guests once and leaves every other guest alone. -/
theorem busRun_reply_all (answer : ℕ → Option RegoRuntimeError) :
    ∀ (L : List ℕ) (s : Bus), s.inFlight = L → s.channel.queue = [] → Tracked s →
      ∃ s', busRun s (L.map fun g => .reply g (answer g)) = some s' ∧
        s'.channel = s.channel ∧ s'.inFlight = [] ∧
        (∀ g ∈ L, ∃ rest, s.guests[g]? = some (.waiting rest) ∧
          s'.guests[g]? = some (answerGuest (answer g) rest)) ∧
        (∀ g, g ∉ L → s'.guests[g]? = s.guests[g]?)
  | [], s, hin, _, _ => ⟨s, rfl, rfl, hin, by simp, fun _ _ => rfl⟩
  | g :: L, s, hin, hq, ht => by
    have hcount := count_inFlight_of_tracked ht hq g
    rw [hin, List.count_cons_self] at hcount
    have hw : waitingAt s.guests g = true := by
      by_contra h
      simp [h] at hcount
    obtain ⟨rest, hg⟩ := waitingAt_eq_true.1 hw
    have hgL : g ∉ L := by
      rw [hw, if_pos rfl, add_left_eq_self] at hcount
      exact List.count_eq_zero.1 hcount
    have hlen : g < s.guests.length := (List.getElem?_eq_some_iff.1 hg).1
    have hstep : busStep s (.reply g (answer g)) =
        some { s with inFlight := L, guests := s.guests.set g (answerGuest (answer g) rest) } := by
      cases h : answer g <;> simp [busStep, hg, hin, answerGuest, h]
    obtain ⟨s', hrun, hch, hin', hL, hnot⟩ :=
      busRun_reply_all answer L { s with inFlight := L, guests := s.guests.set g (answerGuest (answer g) rest) }
        rfl hq (busStep_tracked ht hstep)
    refine ⟨s', by simp [busRun, hstep, hrun], hch, hin', fun g' hg' => ?_, fun g' hg' => ?_⟩
    · rcases List.mem_cons.1 hg' with rfl | hg'
      · exact ⟨rest, hg, by rw [hnot g' hgL]; simp [hlen]⟩
      · have hne : g ≠ g' := fun h => hgL (h ▸ hg')
        obtain ⟨r', h1, h2⟩ := hL g' hg'
        exact ⟨r', by simpa [List.getElem?_set_ne hne] using h1, h2⟩
    · have hne : g ≠ g' := fun h => hg' (h ▸ List.mem_cons_self _ _)
      rw [hnot g' (fun h => hg' (List.mem_cons_of_mem _ h))]
      simp [List.getElem?_set_ne hne]

/-- The router's schedule that answers everyone: receive every queued request,
then reply to every request it holds, oldest first, with `answer`. -/
def drainSchedule (answer : ℕ → Option RegoRuntimeError) (s : Bus) : List BusEvent :=
  List.replicate s.channel.queue.length .recv ++
    (s.inFlight ++ s.channel.queue.map Prod.fst).map fun g => .reply g (answer g)

/-- **The router can answer every guest.** From every state a run reaches,
whatever the guests and the capacity, receiving every queued request and then
replying to every request held, with any answers, is a run of the bus; it ends
with the channel empty and nothing held, each guest that was waiting holds the
answer to its own request (ready for its next one, or failed with the error),
every other guest is as it was, and no guest is left blocked on a reply. -/
theorem router_answers_every_guest {capacity : ℕ} {programs : List (List CallbackRequestType)}
    {s : Bus} (hs : BusReachable capacity programs s) (answer : ℕ → Option RegoRuntimeError) :
    ∃ s', busRun s (drainSchedule answer s) = some s' ∧
      s'.channel.queue = [] ∧ s'.inFlight = [] ∧
      (∀ g rest, s.guests[g]? = some (.waiting rest) →
        s'.guests[g]? = some (answerGuest (answer g) rest)) ∧
      (∀ g, waitingAt s.guests g = false → s'.guests[g]? = s.guests[g]?) ∧
      ∀ g, waitingAt s'.guests g = false := by
  have ht := reachable_tracked hs
  have hopen : s.channel.closed = false ∨ s.channel.queue = [] :=
    (Bool.eq_false_or_eq_true _).symm.imp_right (reachable_closedEmpty hs)
  have hrecv := busRun_recv_all _ s rfl hopen
  obtain ⟨s', hrun, hch, hin, hL, hnot⟩ := busRun_reply_all answer _ _ rfl rfl
    (busRun_tracked _ ht hrecv)
  -- a guest is waiting exactly when its request is pending
  have hmem : ∀ g, waitingAt s.guests g = true ↔ g ∈ s.inFlight ++ s.channel.queue.map Prod.fst := by
    intro g
    have hc := ht g
    rw [pending, List.count_append, add_comm, ← List.count_append] at hc
    rw [← List.count_pos_iff, hc]
    cases waitingAt s.guests g <;> simp
  have hwait : ∀ g rest, s.guests[g]? = some (.waiting rest) →
      s'.guests[g]? = some (answerGuest (answer g) rest) := by
    intro g rest hg
    obtain ⟨r', h1, h2⟩ := hL g ((hmem g).1 (waitingAt_eq_true.2 ⟨rest, hg⟩))
    simp only [hg, Option.some.injEq, Guest.waiting.injEq] at h1
    rwa [h1]
  have hidle : ∀ g, waitingAt s.guests g = false → s'.guests[g]? = s.guests[g]? :=
    fun g hw => hnot g fun h => by simp [(hmem g).2 h] at hw
  refine ⟨s', by rw [drainSchedule, busRun_append, hrecv, Option.some_bind, hrun],
    by rw [hch], hin, hwait, hidle, fun g => ?_⟩
  cases hw : waitingAt s.guests g
  · rw [waitingAt, hidle g hw]; exact hw
  · obtain ⟨rest, hg⟩ := waitingAt_eq_true.1 hw
    cases h : answer g <;> simp [waitingAt, hwait g rest hg, answerGuest, h, Guest.isWaiting]

/-- A request of the plural-name verb, for the runs below. -/
def podsPluralRequest : CallbackRequestType := .kubernetesGetResourcePluralName "v1" "Pod"

theorem busRun_reachable {capacity : ℕ} {programs : List (List CallbackRequestType)} :
    ∀ (es : List BusEvent) {s s' : Bus}, BusReachable capacity programs s → busRun s es = some s' →
      BusReachable capacity programs s'
  | [], _, _, hs, h => by cases h; exact hs
  | e :: es, _, _, hs, h => by
    obtain ⟨s₁, h₁, h₂⟩ := Option.bind_eq_some.1 h
    exact busRun_reachable es (.step e hs h₁) h₂

/-- Two guests, each with one plural-name request, on a channel of capacity one. -/
def twoGuests : Bus := Bus.init 1 [[podsPluralRequest], [podsPluralRequest]]

/-- Guest 0 has sent its request; the channel is full. -/
def oneQueued : Bus := sendStep twoGuests 0 podsPluralRequest []

theorem oneQueued_reachable : BusReachable 1 [[podsPluralRequest], [podsPluralRequest]] oneQueued :=
  .step (.send 0) .init rfl

theorem send_fails_iff_full :
    BusReachable 1 [[podsPluralRequest], [podsPluralRequest]] oneQueued ∧
    oneQueued.guests[1]? = some (.ready [podsPluralRequest]) ∧
    (busStep oneQueued (.send 1) = some (sendStep oneQueued 1 podsPluralRequest []) ∧
      ((∃ msg, (sendStep oneQueued 1 podsPluralRequest []).guests[1]? =
          some (.failed (.callbackSend msg))) ↔
        oneQueued.channel.closed = true ∨
          oneQueued.channel.queue.length = oneQueued.channel.capacity) ∧
      (oneQueued.channel.closed = true → (sendStep oneQueued 1 podsPluralRequest []).guests[1]? =
        some (.failed (.callbackSend "channel closed"))) ∧
      (oneQueued.channel.closed = false →
        oneQueued.channel.queue.length = oneQueued.channel.capacity →
        (sendStep oneQueued 1 podsPluralRequest []).guests[1]? =
          some (.failed (.callbackSend "no available capacity"))) ∧
      (oneQueued.channel.closed = false →
        oneQueued.channel.queue.length < oneQueued.channel.capacity →
        sendStep oneQueued 1 podsPluralRequest [] =
          { oneQueued with
            channel := { oneQueued.channel with
              queue := oneQueued.channel.queue ++ [(1, podsPluralRequest)] }
            guests := oneQueued.guests.set 1 (.waiting []) })) :=
  ⟨oneQueued_reachable, rfl, send_fails_iff oneQueued_reachable 1 podsPluralRequest [] rfl⟩

/-- Guest 0's request is in the router's hands, guest 1's in the channel. -/
def twoPending : Bus := (busRun twoGuests [.send 0, .recv, .send 1]).getD twoGuests

theorem twoPending_reachable : BusReachable 1 [[podsPluralRequest], [podsPluralRequest]] twoPending :=
  busRun_reachable [.send 0, .recv, .send 1] .init
    (show busRun twoGuests [.send 0, .recv, .send 1] = some twoPending from rfl)

theorem bus_requests_tracked_pending :
    BusReachable 1 [[podsPluralRequest], [podsPluralRequest]] twoPending ∧
    twoPending.inFlight = [0] ∧ twoPending.channel.queue = [(1, podsPluralRequest)] ∧
    ∀ g, (twoPending.channel.queue.map Prod.fst ++ twoPending.inFlight).count g =
      if waitingAt twoPending.guests g then 1 else 0 :=
  ⟨twoPending_reachable, rfl, rfl, bus_requests_tracked twoPending_reachable⟩

theorem router_answers_every_guest_sent :
    let s := sendStep (Bus.init 1 [[podsPluralRequest]]) 0 podsPluralRequest []
    BusReachable 1 [[podsPluralRequest]] s ∧
    ∃ s', busRun s (drainSchedule (fun _ => none) s) = some s' ∧
      s'.channel.queue = [] ∧ s'.inFlight = [] ∧
      (∀ (g : ℕ) rest, s.guests[g]? = some (Guest.waiting rest) →
        s'.guests[g]? = some (answerGuest none rest)) ∧
      (∀ g, waitingAt s.guests g = false → s'.guests[g]? = s.guests[g]?) ∧
      ∀ g, waitingAt s'.guests g = false := by
  have hs : BusReachable 1 [[podsPluralRequest]]
      (sendStep (Bus.init 1 [[podsPluralRequest]]) 0 podsPluralRequest []) :=
    .step (.send 0) .init rfl
  exact ⟨hs, router_answers_every_guest hs fun _ => none⟩

/-- Two guests on a channel of capacity one: the second guest's send fails with
`CallbackSend` ("no available capacity") while the router still runs. -/
theorem send_fails_while_open :
    BusReachable 1 [[podsPluralRequest], [podsPluralRequest]]
        (sendStep (sendStep (Bus.init 1 [[podsPluralRequest], [podsPluralRequest]]) 0
          podsPluralRequest []) 1 podsPluralRequest []) ∧
    (sendStep (sendStep (Bus.init 1 [[podsPluralRequest], [podsPluralRequest]]) 0
        podsPluralRequest []) 1 podsPluralRequest []).channel.closed = false ∧
    (sendStep (sendStep (Bus.init 1 [[podsPluralRequest], [podsPluralRequest]]) 0
        podsPluralRequest []) 1 podsPluralRequest []).guests[1]? =
      some (.failed (.callbackSend "no available capacity")) :=
  ⟨.step (.send 1) (.step (.send 0) .init rfl) rfl, rfl, rfl⟩

end Rego
end Kubewarden
