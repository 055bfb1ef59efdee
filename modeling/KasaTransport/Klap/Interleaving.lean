import KasaTransport.Klap.Run

/-!
Calls on one `KlapTransport` interleaved at their `await`s. Each call runs atomically up to the
`await` of one of its POSTs and stays suspended there until the reply, or the `CancelledError`
of cancelling its caller, is delivered; any other call may run in between. `__init__` creates
`_handshake_lock` and `_query_lock` but no method acquires them, so nothing orders the calls.
Overlapped, sends break the pairing of a request with its `seq`: a reply is decrypted under the
`seq` of whichever send encrypted last. Each POST still carries its own `seq`, so no IV is used
twice.
-/

namespace KasaTransport
namespace KlapTransport

variable {V : KlapVariant}

/-- A call suspended at the `await` of its POST, with the locals it keeps across it. -/
inductive Suspended where
  /-- `perform_handshake`, inside `perform_handshake1`. -/
  | handshake1 (localSeed : Bytes)
  /-- `perform_handshake`, inside `perform_handshake2`. -/
  | handshake2 (localSeed remoteSeed authHash : Bytes)
  /-- `send`, with the `seq` its request was encrypted under. -/
  | send (seq : Int)

/-- How a call ended: returned or raised. -/
inductive Finished where
  | handshake (result : Except PyException Unit)
  | send (result : Except PyException Json)

/-- The environment's next move: start a call as task `task`, deliver the reply to the POST a
suspended task waits on (a `failure` for a network error or for cancelling the task), close the
transport, or let time pass. -/
inductive Action where
  | startHandshake (task : Nat) (localSeed : Bytes)
  | startSend (task : Nat) (request : String)
  | deliver (task : Nat) (reply : PostReply)
  | close
  | tick (seconds : Nat)

/-- The transport shared by the tasks, the clock, where each task is suspended, every POST
issued so far (latest first) and how each finished task ended. -/
structure Tasks (V : KlapVariant) where
  transport : KlapTransport V
  now : Int
  suspended : Nat → Option Suspended
  posts : List (Nat × PostRequest)
  finished : Nat → Option Finished

namespace Tasks

def start (t : KlapTransport V) (now : Int) : Tasks V :=
  ⟨t, now, fun _ => none, [], fun _ => none⟩

def suspend (w : Tasks V) (t : KlapTransport V) (task : Nat) (s : Suspended)
    (post : PostRequest) : Tasks V :=
  { w with
    transport := t
    suspended := Function.update w.suspended task (some s)
    posts := (task, post) :: w.posts }

def finish (w : Tasks V) (t : KlapTransport V) (task : Nat) (r : Finished) : Tasks V :=
  { w with
    transport := t
    suspended := Function.update w.suspended task none
    finished := Function.update w.finished task (some r) }

end Tasks

section Interleave

variable (P : Primitives)

/-- One move of the environment, and the atomic stretch of code it lets run. -/
def interleave (w : Tasks V) : Action → Tasks V
  | .startHandshake task localSeed =>
      let (t, post) := w.transport.performHandshakeBegin localSeed
      w.suspend t task (.handshake1 localSeed) post
  | .startSend task request =>
      match w.transport.sendBegin P w.now request with
      | (t, .error e) => w.finish t task (.send (.error e))
      | (t, .ok (post, seq)) => w.suspend t task (.send seq) post
  | .deliver task reply =>
      match w.suspended task with
      | none => w
      | some (.handshake1 localSeed) =>
          match w.transport.performHandshakeResume1 localSeed reply w.now with
          | (t, .error e) => w.finish t task (.handshake (.error e))
          | (t, .ok (post, localSeed, remoteSeed, authHash)) =>
              w.suspend t task (.handshake2 localSeed remoteSeed authHash) post
      | some (.handshake2 localSeed remoteSeed authHash) =>
          let (t, r) := w.transport.performHandshakeResume2 P localSeed remoteSeed authHash reply
          w.finish t task (.handshake r)
      | some (.send seq) =>
          let (t, r) := w.transport.sendResume P seq reply
          w.finish t task (.send r)
  | .close => { w with transport := w.transport.close }
  | .tick seconds => { w with now := w.now + seconds }

def interleaveAll (w : Tasks V) (actions : List Action) : Tasks V :=
  actions.foldl (interleave P) w

end Interleave

/-- Two sends started back to back on a ready transport, the first then answered 200: its
request went out under `seq + 1`, but its reply is decrypted under the session as the second
send left it, with `seq + 2`, whose IV differs. -/
theorem concurrent_sends_decrypt_under_later_seq (P : Primitives) (t : KlapTransport V)
    (now : Int) {session : KlapEncryptionSession} (hready : t.needsHandshake now = false)
    (hsession : t.encryptionSession = some session)
    (hseq1 : KlapEncryptionSession.InInt32 (session.seq + 1))
    (hseq2 : KlapEncryptionSession.InInt32 (session.seq + 2))
    (requestA requestB : String) (body : Bytes) (setCookies : CookieJar) :
    let w := interleaveAll P (Tasks.start t now)
      [.startSend 0 requestA, .startSend 1 requestB, .deliver 0 (.response 200 body setCookies)]
    (∃ post, (0, post) ∈ w.posts ∧ post.seq = some (session.seq + 1) ∧
      (session.encrypt P (P.utf8.encode requestA)).2 = .ok (post.data, session.seq + 1)) ∧
    w.finished 0 = some (.send
      ((KlapEncryptionSession.decrypt P { session with seq := session.seq + 2 } body).bind
        fun text => orRaise .jsonDecodeError (P.jsonLoads text))) ∧
    KlapEncryptionSession.ivSeq { session with seq := session.seq + 2 } ≠
      KlapEncryptionSession.ivSeq { session with seq := session.seq + 1 } := by
  intro w
  obtain ⟨payloadA, hencA, hbeginA⟩ := sendBegin_eq P t now requestA hready hsession hseq1
  obtain ⟨payloadB, -, hbeginB⟩ := sendBegin_eq P
    { t with encryptionSession := some { session with seq := session.seq + 1 }, httpClient := some [] }
    now requestB hready rfl (by simpa [add_assoc] using hseq2)
  simp only [w, interleaveAll, List.foldl, interleave, Tasks.start, hbeginA, Tasks.suspend,
    hbeginB, Function.update_noteq (show (0 : Nat) ≠ 1 by decide), Function.update_same,
    Tasks.finish]
  refine ⟨⟨⟨s!"http://{t.host}/app/request", some (session.seq + 1), payloadA,
    attachedCookie t.sessionCookie⟩, by simp, rfl, hencA⟩, ?_, KlapEncryptionSession.ivSeq_ne session hseq2 hseq1 (by omega)⟩
  rw [sendResume_200 P _ _ body setCookies rfl, add_assoc]
  rfl

theorem concurrent_sends_decrypt_under_later_seq_readySample :
    ∃ session, readySample.needsHandshake 0 = false ∧ readySample.encryptionSession = some session ∧
      KlapEncryptionSession.InInt32 (session.seq + 1) ∧
      KlapEncryptionSession.InInt32 (session.seq + 2) ∧
      ∃ body, (session.encrypt Primitives.sample (Primitives.sample.utf8.encode "null")).2 =
          .ok (body, session.seq + 1) ∧
        (interleaveAll Primitives.sample (Tasks.start readySample 0)
          [.startSend 0 "null", .startSend 1 "null", .deliver 0 (.response 200 body [])]).finished 0 =
          some (.send (.ok (.string "nulo"))) := by
  have hready : readySample.needsHandshake 0 = false := by decide
  refine ⟨_, hready, rfl, by decide, by decide, _, rfl, ?_⟩
  exact (concurrent_sends_decrypt_under_later_seq Primitives.sample readySample 0 hready rfl
    (by decide) (by decide) "null" "null" _ []).2.1.trans rfl

section WireSeq

def Action.startsHandshake : Action → Bool
  | .startHandshake _ _ => true
  | _ => false

def Tasks.OnlySends (w : Tasks V) : Prop :=
  ∀ task x, w.suspended task = some x → ∃ seq, x = .send seq

/-- The `seq` of each POST, in the order the POSTs were made. -/
def Tasks.postedSeqs (w : Tasks V) : List (Option Int) :=
  w.posts.reverse.map fun p => p.2.seq

variable {P : Primitives} {s : KlapEncryptionSession}

theorem interleave_seqsPosted (hs : -2 ^ 31 ≤ s.seq) {w : Tasks V} {posted : List Int}
    (hposted : w.postedSeqs = posted.map some) (hsends : w.OnlySends)
    (h : SeqsPosted s w.transport posted) {a : Action} (ha : a.startsHandshake = false) :
    ∃ posted', (interleave P w a).postedSeqs = posted'.map some ∧
      (interleave P w a).OnlySends ∧ SeqsPosted s (interleave P w a).transport posted' := by
  have hfinish : ∀ t task r, (w.finish t task r).OnlySends := fun t task r task' x hx => by
    by_cases ht : task' = task
    · subst ht
      simp [Tasks.finish] at hx
    · simp only [Tasks.finish, Function.update_noteq ht] at hx
      exact hsends task' x hx
  cases a with
  | startHandshake => cases ha
  | startSend task request =>
      obtain ⟨s', hs'⟩ := h.session
      have hcases := sendBegin_seq P w.transport w.now request hs'
      rcases hb : w.transport.sendBegin P w.now request with ⟨t, e | ⟨post, seq⟩⟩ <;>
        simp only [hb, Except.toBool] at hcases <;> simp only [interleave, hb]
      · refine ⟨posted, hposted, hfinish _ _ _, ?_⟩
        rcases hcases with ⟨h1, -⟩ | ⟨h1, ⟨-, _, hpost, -⟩ | ⟨hin, -⟩⟩
        · exact h.keep (h1.trans hs'.symm)
        · cases hpost
        · exact h.overflow hs hs' hin h1
      · rcases hcases with ⟨-, hfalse⟩ | ⟨h1, ⟨hin, _, hpost, hseq⟩ | ⟨-, hfalse⟩⟩
        · cases hfalse
        · obtain ⟨rfl, rfl⟩ := Prod.mk.inj (Except.ok.inj hpost)
          refine ⟨posted ++ [s'.seq + 1], ?_, fun task' x hx => ?_, h.post hs' hin h1⟩
          · simp [Tasks.postedSeqs, Tasks.suspend, ← hposted, hseq]
          · by_cases ht : task' = task
            · subst ht
              simp only [Tasks.suspend, Function.update_same, Option.some.injEq] at hx
              exact ⟨_, hx.symm⟩
            · simp only [Tasks.suspend, Function.update_noteq ht] at hx
              exact hsends task' x hx
        · cases hfalse
  | deliver task reply =>
      rcases hx : w.suspended task with _ | x
      · simp only [interleave, hx]
        exact ⟨posted, hposted, hsends, h⟩
      obtain ⟨seq, rfl⟩ := hsends task x hx
      rcases hr : w.transport.sendResume P seq reply with ⟨t, r⟩
      simp only [interleave, hx, hr]
      refine ⟨posted, hposted, hfinish _ _ _, h.keep ?_⟩
      rw [show t = (w.transport.sendResume P seq reply).1 by rw [hr], sendResume_fst]
      rfl
  | close => exact ⟨posted, hposted, hsends, h.keep rfl⟩
  | tick => exact ⟨posted, hposted, hsends, h.keep rfl⟩

theorem interleaveAll_seqsPosted (hs : -2 ^ 31 ≤ s.seq) {actions : List Action}
    (hactions : ∀ a ∈ actions, a.startsHandshake = false) {w : Tasks V} {posted : List Int}
    (hposted : w.postedSeqs = posted.map some) (hsends : w.OnlySends)
    (h : SeqsPosted s w.transport posted) :
    ∃ posted', (interleaveAll P w actions).postedSeqs = posted'.map some ∧
      SeqsPosted s (interleaveAll P w actions).transport posted' := by
  induction actions generalizing w posted with
  | nil => exact ⟨posted, hposted, h⟩
  | cons a actions ih =>
      obtain ⟨posted', hposted', hsends', h'⟩ :=
        interleave_seqsPosted hs hposted hsends h (hactions a (.head _))
      exact ih (fun b hb => hactions b (.tail _ hb)) hposted' hsends' h'

/-- No IV is used twice: however sends on a ready transport interleave at their POSTs, and
whatever the replies, closes and clock moves, as long as no handshake starts the request POSTs
carry `seq + 1`, `seq + 2`, ... of the session in the order they are made, one each. -/
theorem interleaved_sends_post_consecutive_seqs (P : Primitives) (t : KlapTransport V)
    (now : Int) (actions : List Action) (hactions : ∀ a ∈ actions, a.startsHandshake = false)
    {s : KlapEncryptionSession} (hs : t.encryptionSession = some s)
    (hseq : KlapEncryptionSession.InInt32 s.seq) :
    ∃ k : Nat, (interleaveAll P (Tasks.start t now) actions).postedSeqs =
      (List.range k).map fun i => some (s.seq + 1 + i) := by
  obtain ⟨posted, hposted, k, -, -, rfl, -⟩ := @interleaveAll_seqsPosted V P s hseq.1 actions
    hactions (Tasks.start t now) [] rfl (fun _ _ hx => by cases hx)
    ⟨0, 0, ⟨s, hs, .refl s, by simp⟩, rfl, .inl rfl⟩
  exact ⟨k, by simp [hposted, Function.comp_def]⟩

theorem interleaved_sends_post_consecutive_seqs_readySample :
    ∃ k : Nat, (interleaveAll Primitives.sample (Tasks.start readySample 0)
      [.startSend 0 "a", .startSend 1 "b", .deliver 1 (.response 200 [] []), .close, .tick 5,
        .startSend 2 "c", .deliver 0 (.response 403 [] []), .startSend 3 "d"]).postedSeqs =
      (List.range k).map fun i => some ((KlapEncryptionSession.new Primitives.sample
        (List.replicate 16 0) (List.replicate 16 0) (List.replicate 16 0)).seq + 1 + i) :=
  interleaved_sends_post_consecutive_seqs Primitives.sample _ _ _ (by decide) rfl (by decide)

end WireSeq

end KlapTransport
end KasaTransport
