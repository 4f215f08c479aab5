import Deliberation.Pipe.Client
import Deliberation.Script.Server
import Mathlib.Algebra.Ring.Nat
import Mathlib.Data.List.Basic

namespace Deliberation.Pipe

variable {σ : Type}

namespace Network

def after (n : Network σ) (timeout : Nat) (q : HttpRequest) (s : σ) : Nat → σ
  | 0 => s
  | k + 1 => (n.send timeout q (n.after timeout q s k)).2

def dispatch (n : Network σ) (timeout : Nat) (q : HttpRequest) (s : σ) (k : Nat) : Dispatch :=
  (n.send timeout q (n.after timeout q s k)).1

def logged (n : Network σ) : Network (σ × List (HttpRequest × Dispatch)) where
  send timeout q s :=
    let (x, s') := n.send timeout q s.1
    (x, s', s.2 ++ [(q, x)])
  undecodable := n.undecodable

variable {n : Network σ} {q : HttpRequest} {s : σ} {log : List (HttpRequest × Dispatch)}
  {timeout k : Nat}

theorem after_logged : n.logged.after timeout q (s, log) k =
    (n.after timeout q s k, log ++ (List.range k).map fun i => (q, n.dispatch timeout q s i)) := by
  induction k with
  | zero => rw [after, after, List.range_zero, List.map_nil, List.append_nil]
  | succ k ih =>
    rw [after, ih, after, List.range_succ, List.map_append, ← List.append_assoc]
    rfl

end Network

namespace Client

variable {n : Network σ} {c : Client} {q : HttpRequest} {d : Delivery} {x y : PipeResponse}
  {e : PipeFailure} {r : PipeRequest} {s : σ} {left k : Nat} {before : Called}

inductive Usable : Delivery → PipeResponse → Prop
  | answered {status : Nat} {body : Body} {x : PipeResponse} (good : 200 ≤ status ∧ status < 300)
      (decoded : Json.decodeBytes PipeResponse.decode body.bytes = some x)
      (success : x.success = true) : Usable (.answered status (.ok body)) x

inductive Fails (n : Network σ) (c : Client) (q : HttpRequest) : Delivery → PipeFailure → Prop
  | timedOut {text : String} : Fails n c q (.failed ⟨true, text⟩) (.timeout c.timeout)
  | transport {text : String} : Fails n c q (.failed ⟨false, text⟩) (.http text)
  | status {status : Nat} {body : Body} (bad : ¬(200 ≤ status ∧ status < 300)) :
      Fails n c q (.answered status (.ok body)) (.api status body.text)
  | statusOnly {status : Nat} {e : TransportError} (bad : ¬(200 ≤ status ∧ status < 300)) :
      Fails n c q (.answered status (.error e)) (.api status "")
  | cutShort {status : Nat} {e : TransportError} (good : 200 ≤ status ∧ status < 300) :
      Fails n c q (.answered status (.error e)) (invalid runPath e.text)
  | undecodable {status : Nat} {body : Body} (good : 200 ≤ status ∧ status < 300)
      (undecoded : Json.decodeBytes PipeResponse.decode body.bytes = none) :
      Fails n c q (.answered status (.ok body)) (invalid runPath (n.undecodable q body.bytes))
  | unsuccessful {status : Nat} {body : Body} {x : PipeResponse}
      (good : 200 ≤ status ∧ status < 300)
      (decoded : Json.decodeBytes PipeResponse.decode body.bytes = some x)
      (failure : x.success = false) :
      Fails n c q (.answered status (.ok body)) (.invalidResponse "Pipe reported success=false")

def reply (n : Network σ) (c : Client) (q : HttpRequest) (d : Delivery) :
    Except PipeFailure PipeResponse :=
  (receive n c q runPath PipeResponse.decode d).bind refusing

theorem Usable.reply (h : Usable d x) : reply n c q d = .ok x := by
  cases h with
  | answered good decoded success =>
    rw [Client.reply, receive, decodeReply, if_pos good, decoded]
    exact if_pos success

theorem Fails.reply (h : Fails n c q d e) : reply n c q d = .error e := by
  cases h with
  | timedOut | transport => rfl
  | status bad | statusOnly bad =>
    rw [Client.reply, receive, decodeReply, if_neg bad]
    rfl
  | cutShort good =>
    rw [Client.reply, receive, decodeReply, if_pos good]
    rfl
  | undecodable good undecoded =>
    rw [Client.reply, receive, decodeReply, if_pos good, undecoded]
    rfl
  | unsuccessful good decoded failure =>
    rw [Client.reply, receive, decodeReply, if_pos good, decoded]
    exact if_neg (Bool.eq_false_iff.1 failure)

theorem usable_or_fails (n : Network σ) (c : Client) (q : HttpRequest) (d : Delivery) :
    (∃ x, Usable d x) ∨ ∃ e, Fails n c q d e := by
  match d with
  | .failed ⟨true, _⟩ => exact .inr ⟨_, .timedOut⟩
  | .failed ⟨false, _⟩ => exact .inr ⟨_, .transport⟩
  | .answered status (.error _) =>
    by_cases good : 200 ≤ status ∧ status < 300
    · exact .inr ⟨_, .cutShort good⟩
    · exact .inr ⟨_, .statusOnly good⟩
  | .answered status (.ok body) =>
    by_cases good : 200 ≤ status ∧ status < 300
    · cases decoded : Json.decodeBytes PipeResponse.decode body.bytes with
      | none => exact .inr ⟨_, .undecodable good decoded⟩
      | some x =>
        cases success : x.success with
        | true => exact .inl ⟨x, .answered good decoded success⟩
        | false => exact .inr ⟨_, .unsuccessful good decoded success⟩
    · exact .inr ⟨_, .status good⟩

theorem fails_of_reply (h : reply n c q d = .error e) : Fails n c q d e := by
  obtain ⟨x, hx⟩ | ⟨e', he⟩ := usable_or_fails n c q d
  · cases hx.reply.symm.trans h
  · cases he.reply.symm.trans h
    exact he

theorem Usable.not_fails (h : Usable d x) : ¬Fails n c q d e := fun h' => by
  cases h.reply.symm.trans h'.reply

theorem reply_of_not_usable (h : ∀ x, ¬Usable d x) : ∃ e, reply n c q d = .error e := by
  obtain ⟨x, hx⟩ | ⟨e, he⟩ := usable_or_fails n c q d
  · exact absurd hx (h x)
  · exact ⟨e, he.reply⟩

def asked (c : Client) (r : PipeRequest) : HttpRequest :=
  c.request runPath r.encode

def tried (n : Network σ) (c : Client) (r : PipeRequest) (s : σ) (k : Nat) : Timed PipeResponse :=
  (callOnce n c r (n.after c.timeout (c.asked r) s k)).1

theorem tried_result :
    (tried n c r s k).result =
      reply n c (c.asked r) (n.dispatch c.timeout (c.asked r) s k).delivery :=
  rfl

theorem tried_logged {log : List (HttpRequest × Dispatch)} :
    tried n.logged c r (s, log) k = tried n c r s k := by
  rw [tried, Network.after_logged]
  rfl

def pause (c : Client) (i : Nat) : Nat :=
  min (c.retryDelay * 2 ^ i) longestWait

theorem backoff_succ (c : Client) (i : Nat) : c.backoff (i + 1) = c.pause i :=
  c.backoff_eq (i + 1)

structure Spent (c : Client) (time : Nat → Nat) (made waited : Nat) (called : Called) : Prop where
  attempts : called.attempts = made
  waits : called.waits = (List.range waited).map c.pause
  elapsed : called.elapsed = ((List.range made).map time).sum + called.waits.sum

theorem spent_notCalled (c : Client) (time : Nat → Nat) : Spent c time 0 0 notCalled :=
  ⟨rfl, rfl, rfl⟩

def Called.tried (before : Called) (t : Timed PipeResponse) : Called where
  result := t.result.mapError fun e => .unavailable e.message (before.attempts + 1)
  attempts := before.attempts + 1
  waits := before.waits
  elapsed := before.elapsed + t.elapsed

def Called.waited (before : Called) (wait : Nat) : Called :=
  { before with waits := before.waits ++ [wait], elapsed := before.elapsed + wait }

theorem Spent.tried {time : Nat → Nat} (h : Spent c time k k before) {t : Timed PipeResponse}
    (ht : t.elapsed = time k) : Spent c time (k + 1) k (before.tried t) where
  attempts := congrArg (· + 1) h.attempts
  waits := h.waits
  elapsed := by
    simp only [Called.tried, h.elapsed, ht, List.range_succ, List.map_append, List.sum_append,
      List.map_singleton, List.sum_singleton]
    omega

theorem Spent.waited {time : Nat → Nat} (h : Spent c time (k + 1) k before) :
    Spent c time (k + 1) (k + 1) (before.waited (c.pause k)) where
  attempts := h.attempts
  waits := by
    simp only [Called.waited, h.waits, List.range_succ, List.map_append, List.map_singleton]
  elapsed := by
    simp only [Called.waited, h.elapsed, List.sum_append, List.sum_singleton]
    omega

theorem attempts_stop (h : (∃ x, (callOnce n c r s).1.result = .ok x) ∨ left = 0) :
    attempts n c none r left before s =
      (before.tried (callOnce n c r s).1, (callOnce n c r s).2) := by
  rw [attempts.eq_def]
  dsimp only
  rw [Called.tried]
  cases hresult : (callOnce n c r s).1.result with
  | ok x => rfl
  | error e =>
    obtain ⟨x, hx⟩ | rfl := h
    · cases hresult.symm.trans hx
    · rfl

theorem attempts_next (h : (callOnce n c r s).1.result = .error e) :
    attempts n c none r (left + 1) before s =
      attempts n c none r left
        ((before.tried (callOnce n c r s).1).waited (c.pause before.attempts))
        (callOnce n c r s).2 := by
  rw [attempts.eq_def]
  dsimp only
  rw [h, Called.tried, h, ← backoff_succ]
  rfl

inductive Settled (answer : Nat → Except PipeFailure PipeResponse) (last k : Nat) :
    Except PipeFailure PipeResponse → Prop
  | usable {x : PipeResponse} (h : answer k = .ok x) : Settled answer last k (.ok x)
  | exhausted {e : PipeFailure} (hk : k = last) (h : answer k = .error e) :
      Settled answer last k (.error (.unavailable e.message (k + 1)))

theorem settled_tried {answer : Nat → Except PipeFailure PipeResponse} {last : Nat}
    {t : Timed PipeResponse} (hk : before.attempts = k) (ht : t.result = answer k)
    (h : (∃ x, answer k = .ok x) ∨ k = last) : Settled answer last k (before.tried t).result := by
  rw [Called.tried, hk, ht]
  cases hresult : answer k with
  | ok x => exact .usable hresult
  | error e =>
    obtain ⟨x, hx⟩ | hlast := h
    · cases hresult.symm.trans hx
    · exact .exhausted hlast hresult

structure Ended (n : Network σ) (c : Client) (r : PipeRequest) (s : σ) (m last k : Nat)
    (ended : Called × σ) : Prop where
  started : m ≤ k
  allowed : k ≤ last
  failed : ∀ i, m ≤ i → i < k → ∃ e, (tried n c r s i).result = .error e
  world : ended.2 = n.after c.timeout (c.asked r) s (k + 1)
  spent : Spent c (fun i => (tried n c r s i).elapsed) (k + 1) k ended.1
  settled : Settled (fun i => (tried n c r s i).result) last k ended.1.result

theorem ended_stop {m : Nat} (hb : Spent c (fun i => (tried n c r s i).elapsed) m m before)
    (h : (∃ x, (tried n c r s m).result = .ok x) ∨ left = 0) :
    Ended n c r s m (m + left) m
      (attempts n c none r left before (n.after c.timeout (c.asked r) s m)) := by
  rw [attempts_stop h]
  exact {
    started := Nat.le_refl m
    allowed := Nat.le_add_right m left
    failed := fun i hi hlt => absurd hi (Nat.not_le.2 hlt)
    world := rfl
    spent := hb.tried rfl
    settled := settled_tried hb.attempts rfl (h.imp_right fun h => by rw [h, Nat.add_zero]) }

-- By induction on the retries left: an attempt is the last one, or it failed and is followed by
-- a wait and by the next one.
theorem attempts_end {m : Nat} (hb : Spent c (fun i => (tried n c r s i).elapsed) m m before) :
    ∃ k, Ended n c r s m (m + left) k
      (attempts n c none r left before (n.after c.timeout (c.asked r) s m)) := by
  induction left generalizing m before with
  | zero => exact ⟨m, ended_stop hb (.inr rfl)⟩
  | succ left ih =>
    cases hm : (tried n c r s m).result with
    | ok x => exact ⟨m, ended_stop hb (.inl ⟨x, hm⟩)⟩
    | error e =>
      have hnext : Spent c (fun i => (tried n c r s i).elapsed) (m + 1) (m + 1)
          ((before.tried (tried n c r s m)).waited (c.pause m)) := (hb.tried rfl).waited
      obtain ⟨k, hk⟩ := ih hnext
      have hlast : m + (left + 1) = m + 1 + left := by omega
      rw [attempts_next hm, hb.attempts, hlast]
      refine ⟨k, Nat.le_of_lt hk.started, hk.allowed, fun i hi hlt => ?_, hk.world, hk.spent,
        hk.settled⟩
      obtain rfl | hi := Nat.eq_or_lt_of_le hi
      · exact ⟨e, hm⟩
      · exact hk.failed i hi hlt

theorem call_end (n : Network σ) (c : Client) (r : PipeRequest) (s : σ) :
    ∃ k, Ended n c r s 0 c.maxRetries k (call n c none r s) := by
  obtain ⟨k, hk⟩ : ∃ k, Ended n c r s 0 (0 + c.maxRetries) k (call n c none r s) :=
    attempts_end (spent_notCalled c _)
  rw [Nat.zero_add] at hk
  exact ⟨k, hk⟩

section

variable {last j : Nat} {ended : Called × σ}

theorem Ended.recovered (h : Ended n c r s 0 last k ended) (hj : j ≤ last)
    (hx : (tried n c r s j).result = .ok x)
    (hfirst : ∀ i < j, ∃ e, (tried n c r s i).result = .error e) :
    k = j ∧ ended.1.result = .ok x := by
  have hjk : ¬j < k := fun hlt => by
    obtain ⟨e, he⟩ := h.failed j (Nat.zero_le j) hlt
    cases hx.symm.trans he
  have hsettled := h.settled
  cases hresult : ended.1.result with
  | ok y =>
    rw [hresult] at hsettled
    obtain ⟨hy⟩ := hsettled
    have hkj : ¬k < j := fun hlt => by
      obtain ⟨e, he⟩ := hfirst k hlt
      cases hy.symm.trans he
    obtain rfl : k = j := by omega
    cases hx.symm.trans hy
    exact ⟨rfl, rfl⟩
  | error f =>
    rw [hresult] at hsettled
    cases hsettled with
    | exhausted hlast he =>
      obtain rfl : k = j := by omega
      cases hx.symm.trans he

theorem Ended.exhausted (h : Ended n c r s 0 last k ended)
    (hall : ∀ i ≤ last, ∃ e, (tried n c r s i).result = .error e) :
    k = last ∧ ∃ e, (tried n c r s last).result = .error e ∧
      ended.1.result = .error (.unavailable e.message (last + 1)) := by
  have hsettled := h.settled
  cases hresult : ended.1.result with
  | ok y =>
    rw [hresult] at hsettled
    obtain ⟨hy⟩ := hsettled
    obtain ⟨e, he⟩ := hall k h.allowed
    cases hy.symm.trans he
  | error f =>
    rw [hresult] at hsettled
    cases hsettled with
    | exhausted hlast he =>
      subst hlast
      exact ⟨rfl, _, he, rfl⟩

end

section

variable {last : Nat} {ended : Called × σ × List (HttpRequest × Dispatch)}

theorem Ended.handed (h : Ended n.logged c r (s, []) 0 last k ended) :
    ended.2.2 = (List.range (k + 1)).map fun i =>
      (c.asked r, n.dispatch c.timeout (c.asked r) s i) := by
  rw [h.world, Network.after_logged, List.nil_append]

theorem Ended.sent (h : Ended n.logged c r (s, []) 0 last k ended)
    (hone : ∀ i ≤ last, (n.dispatch c.timeout (c.asked r) s i).sent = [c.asked r]) :
    ended.2.2.flatMap (fun x => x.2.sent) = List.replicate ended.1.attempts (c.asked r) := by
  have hsent : ∀ i ∈ List.range (k + 1),
      (n.dispatch c.timeout (c.asked r) s i).sent = [c.asked r] := fun i hi =>
    hone i (Nat.le_trans (Nat.lt_succ_iff.1 (List.mem_range.1 hi)) h.allowed)
  rw [h.handed, h.spent.attempts, List.flatMap_map]
  dsimp only
  rw [List.flatMap_congr hsent, ← List.map_eq_flatMap, List.map_const', List.length_range]

end

theorem call_retries (n : Network σ) (c : Client) (r : PipeRequest) (s : σ)
    (h : c.maxRetries < Number.halfWordBound - 1) :
    let q := c.request runPath r.encode
    let dispatch := n.dispatch c.timeout q s
    let ended := call n.logged c none r (s, [])
    let called := ended.1
    let handed := ended.2.2
    let time := fun i => (dispatch i).elapsed
    called.attempts < Number.halfWordBound ∧
    (∀ k ≤ c.maxRetries, ∀ x, Usable (dispatch k).delivery x →
      (∀ i < k, ∀ y, ¬Usable (dispatch i).delivery y) →
        called.result = .ok x ∧ handed = (List.range (k + 1)).map (fun i => (q, dispatch i)) ∧
          Spent c time (k + 1) k called) ∧
    ((∀ i ≤ c.maxRetries, ∀ y, ¬Usable (dispatch i).delivery y) →
      ∃ e, Fails n c q (dispatch c.maxRetries).delivery e ∧
        called.result = .error (.unavailable e.message (c.maxRetries + 1)) ∧
          handed = (List.range (c.maxRetries + 1)).map (fun i => (q, dispatch i)) ∧
            Spent c time (c.maxRetries + 1) c.maxRetries called) ∧
    ((∀ i ≤ c.maxRetries, (dispatch i).sent = [q]) →
      handed.flatMap (fun x => x.2.sent) = List.replicate called.attempts q) := by
  intro q dispatch ended called handed time
  obtain ⟨k, hk⟩ := call_end n.logged c r (s, [])
  have hspent : Spent c time (k + 1) k called := by
    have hspent := hk.spent
    simp only [tried_logged] at hspent
    exact hspent
  refine ⟨?_, fun j hj x hx hfirst => ?_, fun hnone => ?_, hk.sent⟩
  · rw [hk.spent.attempts]
    have hle := hk.allowed
    omega
  · have hj' : (tried n.logged c r (s, []) j).result = .ok x := by
      rw [tried_logged, tried_result]
      exact hx.reply
    have hbefore : ∀ i < j, ∃ e, (tried n.logged c r (s, []) i).result = .error e := by
      intro i hi
      rw [tried_logged, tried_result]
      exact reply_of_not_usable (hfirst i hi)
    obtain ⟨rfl, hresult⟩ := hk.recovered hj hj' hbefore
    exact ⟨hresult, hk.handed, hspent⟩
  · have hall : ∀ i ≤ c.maxRetries, ∃ e, (tried n.logged c r (s, []) i).result = .error e := by
      intro i hi
      rw [tried_logged, tried_result]
      exact reply_of_not_usable (hnone i hi)
    obtain ⟨rfl, e, he, hresult⟩ := hk.exhausted hall
    rw [tried_logged, tried_result] at he
    exact ⟨e, fails_of_reply he, hresult, hk.handed, hspent⟩

def playing : Network (List Delivery) where
  send timeout q
    | [] => (⟨[q], timeout, .failed ⟨true, "operation timed out"⟩⟩, [])
    | d :: ds => (⟨[q], 5, d⟩, ds)
  undecodable _ _ := "error decoding response body"

theorem sent_playing (timeout : Nat) (q : HttpRequest) (ds : List Delivery) :
    (playing.send timeout q ds).1.sent = [q] := by
  cases ds <;> rfl

def bytes (text : String) : List UInt8 :=
  text.toUTF8.data.toList

def flaky : List Delivery :=
  [.failed ⟨false, "connection refused"⟩, .answered 500 (.ok ⟨[], ""⟩),
    .answered 200 (.error ⟨true, "operation timed out"⟩),
    .answered 200 (.ok ⟨bytes "\x7b\"success\":false\x7d", ""⟩),
    .answered 200 (.ok ⟨bytes "\x7b\"completion\":\"Blue\"\x7d", ""⟩)]

def patient (retries : Nat) : Client :=
  ⟨"http://localhost", "key", 30000, retries, 100⟩

theorem usable_flaky (timeout : Nat) (q : HttpRequest) :
    Usable (playing.dispatch timeout q flaky 4).delivery ⟨true, "Blue", none, none⟩ :=
  .answered (by decide) (by decide +kernel) rfl

theorem flaky_fails (timeout : Nat) (q : HttpRequest) : ∀ i < 4,
    ∃ e, Fails playing (patient 4) q (playing.dispatch timeout q flaky i).delivery e
  | 0, _ => ⟨_, .transport⟩
  | 1, _ => ⟨_, .status (by decide)⟩
  | 2, _ => ⟨_, .cutShort (by decide)⟩
  | 3, _ => ⟨_, .unsuccessful (x := ⟨false, "", none, none⟩) (by decide) (by decide +kernel) rfl⟩

theorem call_retries_flaky :
    let r : PipeRequest := ⟨"pipe", [], none⟩
    let q := (patient 4).request runPath r.encode
    let ended (retries : Nat) := call playing.logged (patient retries) none r (flaky, [])
    (patient 4).maxRetries < Number.halfWordBound - 1 ∧
    (ended 4).1.result = .ok ⟨true, "Blue", none, none⟩ ∧
    (ended 4).1.waits = [100, 200, 400, 800] ∧ (ended 4).1.elapsed = 1525 ∧
    (ended 4).2.2.flatMap (fun x => x.2.sent) = List.replicate 5 q ∧
    ∃ e, (ended 3).1.result = .error (.unavailable e 4) := by
  intro r q ended
  have hunusable (q : HttpRequest) : ∀ i < 4, ∀ y,
      ¬Usable (playing.dispatch 30000 q flaky i).delivery y := by
    intro i hi y hy
    obtain ⟨e, he⟩ := flaky_fails 30000 q i hi
    exact hy.not_fails he
  obtain ⟨-, hfirst, -, hsent⟩ := call_retries playing (patient 4) r flaky (by decide)
  obtain ⟨hresult, -, hspent⟩ := hfirst 4 (Nat.le_refl 4) _ (usable_flaky _ _) (hunusable q)
  obtain ⟨-, -, hnone, -⟩ := call_retries playing (patient 3) r flaky (by decide)
  obtain ⟨e, -, hexhausted, -⟩ := hnone fun i hi => hunusable _ i (Nat.lt_succ_of_le hi)
  refine ⟨by decide, hresult, hspent.waits, ?_, ?_, e.message, hexhausted⟩
  · rw [hspent.elapsed, hspent.waits]
    decide +kernel
  · exact (hsent fun _ _ => sent_playing _ _ _).trans (by rw [hspent.attempts])

theorem unbuilt_unsent :
    let c : Client := ⟨"http://localhost", "bad\nkey", 30000, 2, 100⟩
    let server := Script.Server.start "http://localhost" []
    let ended := call Script.network c none ⟨"pipe", [], none⟩ server
    ended.1.attempts = 3 ∧
      ended.1.result = .error (.unavailable "HTTP error: builder error" 3) ∧ ended.2.seen = [] :=
  ⟨by decide +kernel, by decide +kernel, rfl⟩

end Client

end Deliberation.Pipe
