import KasaTransport.Klap.Handshake
import KasaTransport.Klap.Send

/-!
Sequential runs of one transport: each call runs to its end, or stops where one of its POSTs
fails or is cancelled, before the next call starts, and the clock only moves forward. For
every such run the state's session, cookie and expiry are those of the latest handshake, as
long as `needs_handshake` is false.
-/

namespace KasaTransport
namespace KlapTransport

variable {V : KlapVariant}

/-- One call of a sequential run, with what the environment gave it. -/
inductive Event where
  /-- `perform_handshake`, with the seed `secrets.token_bytes(16)` drew and its POSTs' replies. -/
  | handshake (localSeed : Bytes) (reply1 reply2 : PostReply)
  | send (request : String) (reply : PostReply)
  | close
  | tick (seconds : Nat)

structure World (V : KlapVariant) where
  transport : KlapTransport V
  now : Int

section Runs

variable (P : Primitives)

def step (w : World V) : Event → World V
  | .handshake localSeed reply1 reply2 =>
      { w with transport := (w.transport.performHandshake P localSeed w.now reply1 reply2).1 }
  | .send request reply => { w with transport := (w.transport.send P w.now request reply).1 }
  | .close => { w with transport := w.transport.close }
  | .tick seconds => { w with now := w.now + seconds }

def run (w : World V) (events : List Event) : World V := events.foldl (step P) w

/-- A send that made its POST and was answered 403. -/
def Answered403 (w : World V) : Event → Prop
  | .send request reply =>
      reply.isForbidden = true ∧ (w.transport.sendBegin P w.now request).2.toBool = true
  | _ => False

def NoAnswered403 : World V → List Event → Prop
  | _, [] => True
  | w, e :: events => ¬Answered403 P w e ∧ NoAnswered403 (step P w e) events

def Event.posted (w : World V) : Event → Option Int
  | .send request _ =>
      match (w.transport.sendBegin P w.now request).2 with
      | .ok (_, seq) => some seq
      | .error _ => none
  | _ => none

/-- The `seq`s a run puts on the wire, in order. -/
def postedSeqs : World V → List Event → List Int
  | _, [] => []
  | w, e :: events => (e.posted P w).toList ++ postedSeqs (step P w e) events

end Runs

def Event.IsHandshake : Event → Prop
  | .handshake _ _ _ => True
  | _ => False

/-- The session fields of `t'` are still those of `t`: same cookie and expiry, and the same
session object, whose `seq` alone may have moved. -/
def SessionKept (t t' : KlapTransport V) : Prop :=
  t'.sessionCookie = t.sessionCookie ∧ t'.sessionExpireAt = t.sessionExpireAt ∧
    ∀ s, t.encryptionSession = some s →
      ∃ s', t'.encryptionSession = some s' ∧ s.SameExceptSeq s'

theorem SessionKept.refl (t : KlapTransport V) : SessionKept t t :=
  ⟨rfl, rfl, fun s hs => ⟨s, hs, KlapEncryptionSession.SameExceptSeq.refl s⟩⟩

theorem SessionKept.trans {t t' t'' : KlapTransport V} (h : SessionKept t t')
    (h' : SessionKept t' t'') : SessionKept t t'' := by
  refine ⟨h'.1.trans h.1, h'.2.1.trans h.2.1, fun s hs => ?_⟩
  obtain ⟨s', hs', hss'⟩ := h.2.2 s hs
  obtain ⟨s'', hs'', hs's''⟩ := h'.2.2 s' hs'
  exact ⟨s'', hs'', hss'.trans hs's''⟩

variable {P : Primitives}

@[simp] theorem run_nil (w : World V) : run P w [] = w := rfl

/-- `handshake_done` only ever holds with a session in place, so `send` never reaches the
branch where `payload`, `seq` or `decrypted_response` are unbound. -/
def HasSessionWhenDone (t : KlapTransport V) : Prop :=
  t.handshakeDone = true → t.encryptionSession.isSome

section WireSeq

/-- Between handshakes, from a session `s`: the session held is `s` moved on by `m`, the run
has posted `s.seq + 1`, ..., `s.seq + k`, and `m = k` unless the `seq` after the last post did
not fit in 32 bits. -/
def SeqsPosted (s : KlapEncryptionSession) (t : KlapTransport V) (posted : List Int) : Prop :=
  ∃ k m : Nat, (∃ s', t.encryptionSession = some s' ∧ s.SameExceptSeq s' ∧ s'.seq = s.seq + m) ∧
    posted = (List.range k).map (fun i => s.seq + 1 + i) ∧
    (m = k ∨ k < m ∧ 2 ^ 31 ≤ s.seq + k + 1)

section SeqsPostedMoves

variable {s : KlapEncryptionSession} {t t' : KlapTransport V} {posted : List Int}

theorem SeqsPosted.session (h : SeqsPosted s t posted) : ∃ s', t.encryptionSession = some s' :=
  let ⟨_, _, ⟨s', hs', _⟩, _⟩ := h
  ⟨s', hs'⟩

theorem SeqsPosted.keep (h : SeqsPosted s t posted)
    (ht : t'.encryptionSession = t.encryptionSession) : SeqsPosted s t' posted :=
  let ⟨k, m, ⟨s', hs', hsame, hseq⟩, hposted, hkm⟩ := h
  ⟨k, m, ⟨s', ht.trans hs', hsame, hseq⟩, hposted, hkm⟩

theorem SeqsPosted.post (h : SeqsPosted s t posted) {s' : KlapEncryptionSession}
    (hs' : t.encryptionSession = some s') (hin : KlapEncryptionSession.InInt32 (s'.seq + 1))
    (ht : t'.encryptionSession = some { s' with seq := s'.seq + 1 }) :
    SeqsPosted s t' (posted ++ [s'.seq + 1]) := by
  obtain ⟨k, m, ⟨s'', hs'', hsame, hseq⟩, rfl, hkm⟩ := h
  rw [hs', Option.some.injEq] at hs''
  subst hs''
  have hmk : m = k := by
    have := hin.2
    omega
  refine ⟨k + 1, m + 1, ⟨_, ht, hsame.trans (.withSeq _ _), by simp [hseq]; ring⟩, ?_,
    .inl (by omega)⟩
  simp [List.range_succ, hseq, hmk]
  ring

theorem SeqsPosted.overflow (hs : -2 ^ 31 ≤ s.seq) (h : SeqsPosted s t posted)
    {s' : KlapEncryptionSession} (hs' : t.encryptionSession = some s')
    (hin : ¬KlapEncryptionSession.InInt32 (s'.seq + 1))
    (ht : t'.encryptionSession = some { s' with seq := s'.seq + 1 }) :
    SeqsPosted s t' posted := by
  obtain ⟨k, m, ⟨s'', hs'', hsame, hseq⟩, rfl, hkm⟩ := h
  rw [hs', Option.some.injEq] at hs''
  subst hs''
  simp only [KlapEncryptionSession.InInt32, not_and, not_lt] at hin
  refine ⟨k, m + 1, ⟨_, ht, hsame.trans (.withSeq _ _), by simp [hseq]; ring⟩, rfl, .inr ?_⟩
  have := hin (by omega)
  omega

end SeqsPostedMoves

end WireSeq

section Expiry

theorem step_expiry_done (w : World V) {e : Event} (he : ¬e.IsHandshake) :
    (step P w e).transport.sessionExpireAt = w.transport.sessionExpireAt ∧
      ((step P w e).transport.handshakeDone = true ↔
        w.transport.handshakeDone = true ∧ ¬Answered403 P w e) := by
  cases e with
  | handshake => exact absurd trivial he
  | send request reply =>
      rcases send_fst P w.transport w.now request reply with
        ⟨h, hbegin⟩ | ⟨s, -, -, ⟨h, hbegin⟩ | ⟨h, hbegin⟩⟩ <;>
        simp [step, h, Answered403, hbegin]
  | close | tick => simp [step, close, Answered403]

/-- Along calls other than handshakes the expiry stays, and `handshake_done` stays set exactly
as long as no send is answered 403. -/
theorem run_expiry_done (w : World V) (events : List Event)
    (hevents : ∀ e ∈ events, ¬e.IsHandshake) :
    (run P w events).transport.sessionExpireAt = w.transport.sessionExpireAt ∧
      ((run P w events).transport.handshakeDone = true ↔
        w.transport.handshakeDone = true ∧ NoAnswered403 P w events) := by
  induction events generalizing w with
  | nil => simp [NoAnswered403]
  | cons e events ih =>
      obtain ⟨hexp, hdone⟩ := step_expiry_done (P := P) w (hevents e (.head _))
      obtain ⟨hexp', hdone'⟩ := ih (step P w e) fun e' he' => hevents e' (.tail _ he')
      refine ⟨hexp'.trans hexp, ?_⟩
      rw [show run P w (e :: events) = run P (step P w e) events from rfl, hdone', hdone,
        NoAnswered403, and_assoc]

/-- A session stays usable exactly until its expiry unless a request is answered 403: after
an accepted handshake at clock reading `T`, through any sends, closes and clock moves,
`needs_handshake` is false exactly when the clock is before `T + 86400` and no send since the
handshake was answered 403. -/
theorem session_usable_until_expiry (P : Primitives) (w : World V) (localSeed : Bytes)
    (reply1 reply2 : PostReply) (events : List Event)
    (haccepted : HandshakeAccepted V w.transport.credentials localSeed reply1 reply2)
    (hevents : ∀ e ∈ events, ¬e.IsHandshake) :
    (run P w (.handshake localSeed reply1 reply2 :: events)).transport.needsHandshake
        (run P w (.handshake localSeed reply1 reply2 :: events)).now = false ↔
      (run P w (.handshake localSeed reply1 reply2 :: events)).now < w.now + 86400 ∧
        NoAnswered403 P (step P w (.handshake localSeed reply1 reply2)) events := by
  obtain ⟨-, -, hfields⟩ := performHandshake_fields P w.transport localSeed w.now reply1 reply2
  obtain ⟨-, hexpire⟩ := hfields haccepted
  obtain ⟨-, hdone, -⟩ := performHandshake_outcome P w.transport localSeed w.now reply1 reply2
  obtain ⟨body, setCookies, authHash, rfl, hm, htwice, content, setCookies2, rfl⟩ := haccepted
  have hdone1 : (step P w (.handshake localSeed (.response 200 body setCookies)
      (.response 200 content setCookies2))).transport.handshakeDone = true := by
    simp [step, hdone, handshakeOutcome_of_accepted hm htwice, Except.toBool]
  obtain ⟨hexp, hdone'⟩ := run_expiry_done (P := P) _ events hevents
  rw [show run P w (_ :: events) = run P (step P w _) events from rfl, needsHandshake_eq_false,
    hdone', hexp]
  simp only [step] at hexpire hdone1 ⊢
  rw [hexpire]
  simp [hdone1, and_comm]

theorem session_usable_until_expiry_sample :
    (run Primitives.sample ⟨init (v1 Primitives.sample) "device" none none, 0⟩
      [.handshake (List.replicate 16 0) (.response 200 (List.replicate 48 0) [])
        (.response 200 [] []), .send "a" (.response 200 [] []),
        .tick 86399]).transport.needsHandshake 86399 = false :=
  (session_usable_until_expiry Primitives.sample
    ⟨init (v1 Primitives.sample) "device" none none, 0⟩
    (List.replicate 16 0) (.response 200 (List.replicate 48 0) []) (.response 200 [] [])
    [.send "a" (.response 200 [] []), .tick 86399]
    ⟨List.replicate 48 0, [], List.replicate 16 0, rfl, by decide, by decide, [], [], rfl⟩
    (List.forall_mem_cons.2 ⟨id, List.forall_mem_cons.2 ⟨id, nofun⟩⟩)).2
    ⟨by decide, by simp [NoAnswered403, Answered403, PostReply.isForbidden]⟩

end Expiry

section Signatures

/-- The calls of two runs, alike but for the signatures in the replies to their sends. -/
def Event.SameButSignature : Event → Event → Prop
  | .send request reply, .send request' reply' =>
      request = request' ∧ reply.SameButSignature reply'
  | .send _ _, _ => False
  | e, e' => e = e'

variable (P : Primitives)

def Event.result (w : World V) : Event → Option (Except PyException Json)
  | .send request reply => some (w.transport.send P w.now request reply).2
  | _ => none

def sendResults : World V → List Event → List (Except PyException Json)
  | _, [] => []
  | w, e :: events => (e.result P w).toList ++ sendResults (step P w e) events

theorem sendResume_sameButSignature (t : KlapTransport V) (seq : Int) {reply reply' : PostReply}
    (h : reply.SameButSignature reply') : t.sendResume P seq reply = t.sendResume P seq reply' := by
  cases reply <;> cases reply' <;> simp only [PostReply.SameButSignature] at h
  case response.response status content setCookies _ content' _ =>
    obtain ⟨rfl, hdrop, rfl⟩ := h
    by_cases h200 : status = 200
    · simp [sendResume, h200, KlapEncryptionSession.decrypt_drop_signature _ hdrop]
    · simp [sendResume, h200]
  case failure.failure => rw [h]

theorem send_sameButSignature (t : KlapTransport V) (now : Int) (request : String)
    {reply reply' : PostReply} (h : reply.SameButSignature reply') :
    t.send P now request reply = t.send P now request reply' := by
  rcases hb : t.sendBegin P now request with ⟨t', _ | ⟨_, seq⟩⟩ <;> simp only [send, hb]
  exact sendResume_sameButSignature P t' seq h

theorem step_sameButSignature (w : World V) {e e' : Event} (h : e.SameButSignature e') :
    step P w e' = step P w e ∧ e'.result P w = e.result P w := by
  cases e with
  | send request reply =>
    cases e' <;> simp only [Event.SameButSignature] at h
    obtain ⟨rfl, hreply⟩ := h
    simp [step, Event.result, send_sameButSignature P _ _ _ hreply]
  | handshake | close | tick =>
    obtain rfl := h
    exact ⟨rfl, rfl⟩

/-- The device's signature is never checked: in every sequential run, a party on the path that
rewrites the first 32 bytes of any replies to `/app/request` changes neither what any send
returns nor the state the run ends in. -/
theorem response_signatures_unobservable (P : Primitives) (w : World V)
    {events events' : List Event}
    (h : List.Forall₂ Event.SameButSignature events events') :
    run P w events' = run P w events ∧ sendResults P w events' = sendResults P w events := by
  induction h generalizing w with
  | nil => exact ⟨rfl, rfl⟩
  | cons he _ ih =>
    obtain ⟨hstep, hresult⟩ := step_sameButSignature P w he
    obtain ⟨hrun, hresults⟩ := ih (step P w _)
    refine ⟨?_, ?_⟩
    · simp only [run, List.foldl_cons] at hrun ⊢
      rw [hstep]
      exact hrun
    · simp only [sendResults, hresult, hstep, hresults]

theorem response_signatures_unobservable_readySample :
    let signed := [Event.send "a" (.response 500 (List.replicate 32 0) []), .tick 5,
      .send "b" (.response 200 (List.replicate 32 0 ++ List.replicate 16 1) [])]
    let forged := [Event.send "a" (.response 500 (List.replicate 32 1) []), .tick 5,
      .send "b" (.response 200 (List.replicate 32 255 ++ List.replicate 16 1) [])]
    List.Forall₂ Event.SameButSignature signed forged ∧
      run Primitives.sample ⟨readySample, 0⟩ forged =
        run Primitives.sample ⟨readySample, 0⟩ signed ∧
      sendResults Primitives.sample ⟨readySample, 0⟩ forged =
        sendResults Primitives.sample ⟨readySample, 0⟩ signed := by
  intro signed forged
  have h : List.Forall₂ Event.SameButSignature signed forged :=
    .cons ⟨rfl, rfl, rfl, rfl⟩ (.cons rfl (.cons ⟨rfl, rfl, rfl, rfl⟩ .nil))
  exact ⟨h, response_signatures_unobservable Primitives.sample _ h⟩

end Signatures

end KlapTransport
end KasaTransport
