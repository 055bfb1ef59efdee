import KasaTransport.Klap.Transport

/-!
`send` on a transport that needs no handshake, for every reply of its POST. The outcome is
the status mapping of the code: 403 raises `AuthenticationException` and clears
`handshake_done`, another non-200 status raises `SmartDeviceException`, and a 200 body goes
through `decrypt` and `json_loads`. Nothing maps the failures of the POST itself or of the
decoding, so those escape as the library raised them.
-/

namespace KasaTransport
namespace KlapTransport

variable {V : KlapVariant}

/-- `send` after its POST changes only the jar and, on a 403, `handshake_done`. -/
theorem sendResume_fst (P : Primitives) (t : KlapTransport V) (seq : Int) (reply : PostReply) :
    (t.sendResume P seq reply).1 = { t with
      httpClient := t.httpClient.map (·.extractCookies reply.setCookies)
      handshakeDone := t.handshakeDone && !reply.isForbidden } := by
  cases reply with
  | failure e => cases t; simp [sendResume, PostReply.setCookies, PostReply.isForbidden]
  | response status body setCookies =>
      by_cases h200 : status = 200
      · subst h200
        simp only [sendResume, clientPostResume_response, ne_eq, not_true_eq_false, if_false]
        split <;> (try split) <;> simp [PostReply.isForbidden, PostReply.setCookies]
      · by_cases h403 : status = 403
        · subst h403; simp [sendResume, PostReply.isForbidden, PostReply.setCookies]
        · simp [sendResume, h200, h403, PostReply.isForbidden, PostReply.setCookies]

theorem send_fst (P : Primitives) (t : KlapTransport V) (now : Int) (request : String)
    (reply : PostReply) :
    (t.send P now request reply).1 = t ∧ (t.sendBegin P now request).2.toBool = false ∨
      ∃ session, t.needsHandshake now = false ∧ t.encryptionSession = some session ∧
        ((t.send P now request reply).1 =
            { t with encryptionSession := some { session with seq := session.seq + 1 } } ∧
          (t.sendBegin P now request).2.toBool = false ∨
        (t.send P now request reply).1 = { t with
            encryptionSession := some { session with seq := session.seq + 1 }
            httpClient := some (CookieJar.extractCookies [] reply.setCookies)
            handshakeDone := t.handshakeDone && !reply.isForbidden } ∧
          (t.sendBegin P now request).2.toBool = true) := by
  unfold send sendBegin
  by_cases hready : t.needsHandshake now = true
  · simp [hready, Except.toBool]
  simp only [Bool.not_eq_true] at hready
  simp only [hready, Bool.false_eq_true, if_false]
  cases hsession : t.encryptionSession with
  | none => simp [Except.toBool]
  | some session =>
      right
      refine ⟨session, by simp [hready], rfl, ?_⟩
      cases hout : (session.encrypt P (P.utf8.encode request)).2 with
      | error e =>
          have henc : session.encrypt P (P.utf8.encode request) =
              ({ session with seq := session.seq + 1 }, .error e) := Prod.ext rfl hout
          simp [henc, Except.toBool]
      | ok r =>
          obtain ⟨payload, seq⟩ := r
          have henc : session.encrypt P (P.utf8.encode request) =
              ({ session with seq := session.seq + 1 }, .ok (payload, seq)) := Prod.ext rfl hout
          simp [henc, Except.toBool, sendResume_fst, clientPostBegin]

theorem sendBegin_eq_ok {P : Primitives} {t : KlapTransport V} {now : Int} {request : String}
    {post : PostRequest} {seq : Int} (h : (t.sendBegin P now request).2 = .ok (post, seq)) :
    ∃ session, t.encryptionSession = some session ∧ post.cookie = attachedCookie t.sessionCookie ∧
      (session.encrypt P (P.utf8.encode request)).2 = .ok (post.data, seq) := by
  unfold sendBegin at h
  split at h
  · cases h
  · split at h
    · cases h
    · rename_i session hsession
      cases hout : (session.encrypt P (P.utf8.encode request)).2 with
      | error e =>
          have henc : session.encrypt P (P.utf8.encode request) =
              ({ session with seq := session.seq + 1 }, .error e) := Prod.ext rfl hout
          simp [henc] at h
      | ok r =>
          have henc : session.encrypt P (P.utf8.encode request) =
              ({ session with seq := session.seq + 1 }, .ok r) := Prod.ext rfl hout
          simp only [henc, clientPostBegin, Except.ok.injEq, Prod.mk.injEq] at h
          obtain ⟨rfl, rfl⟩ := h
          exact ⟨session, hsession, rfl, by simp [hout]⟩

/-- `send` up to its POST on a ready transport whose session's next `seq` fits in 32 bits: the
request goes out encrypted under that `seq`, with the stored cookie, on a fresh jar. -/
theorem sendBegin_eq (P : Primitives) (t : KlapTransport V) (now : Int) (request : String)
    {session : KlapEncryptionSession} (hready : t.needsHandshake now = false)
    (hsession : t.encryptionSession = some session)
    (hseq : KlapEncryptionSession.InInt32 (session.seq + 1)) :
    ∃ payload, (session.encrypt P (P.utf8.encode request)).2 = .ok (payload, session.seq + 1) ∧
      t.sendBegin P now request =
        ({ t with
            encryptionSession := some { session with seq := session.seq + 1 }
            httpClient := some [] },
          .ok (⟨s!"http://{t.host}/app/request", some (session.seq + 1), payload,
            attachedCookie t.sessionCookie⟩, session.seq + 1)) := by
  obtain ⟨seqBytes, ciphertext, -, -, hout⟩ :=
    KlapEncryptionSession.encrypt_of_inInt32 session (P.utf8.encode request) hseq
  have henc : session.encrypt P (P.utf8.encode request) =
      ({ session with seq := session.seq + 1 },
        .ok (P.sha256 (session.sig ++ seqBytes ++ ciphertext) ++ ciphertext, session.seq + 1)) :=
    Prod.ext rfl hout
  refine ⟨_, hout, ?_⟩
  simp only [sendBegin, hready, hsession, henc, clientPostBegin, Bool.false_eq_true, if_false]

theorem sendBegin_seq (P : Primitives) (t : KlapTransport V) (now : Int) (request : String)
    {session : KlapEncryptionSession} (hsession : t.encryptionSession = some session) :
    (t.sendBegin P now request).1.encryptionSession = some session ∧
        (t.sendBegin P now request).2.toBool = false ∨
      (t.sendBegin P now request).1.encryptionSession =
          some { session with seq := session.seq + 1 } ∧
        (KlapEncryptionSession.InInt32 (session.seq + 1) ∧
            (∃ post, (t.sendBegin P now request).2 = .ok (post, session.seq + 1) ∧
              post.seq = some (session.seq + 1)) ∨
          ¬KlapEncryptionSession.InInt32 (session.seq + 1) ∧
            (t.sendBegin P now request).2.toBool = false) := by
  by_cases hready : t.needsHandshake now = true
  · exact .inl (by simp [sendBegin, hready, hsession, Except.toBool])
  rw [Bool.not_eq_true] at hready
  by_cases hin : KlapEncryptionSession.InInt32 (session.seq + 1)
  · obtain ⟨payload, -, hbegin⟩ := sendBegin_eq P t now request hready hsession hin
    rw [hbegin]
    exact .inr ⟨rfl, .inl ⟨hin, _, rfl, rfl⟩⟩
  · have henc : session.encrypt P (P.utf8.encode request) =
        ({ session with seq := session.seq + 1 }, .error .overflowError) :=
      Prod.ext rfl (KlapEncryptionSession.encrypt_of_not_inInt32 session _ hin)
    exact .inr (by simp [sendBegin, hready, hsession, henc, hin, Except.toBool])

/-- `send` when the transport is ready and its session's next `seq` fits in 32 bits. The
state after it differs from the one before only in the session's `seq`, the client's jar and,
on a 403, `handshake_done`. -/
theorem send_eq (P : Primitives) (t : KlapTransport V) (now : Int) (request : String)
    (reply : PostReply) {session : KlapEncryptionSession}
    (hready : t.needsHandshake now = false) (hsession : t.encryptionSession = some session)
    (hseq : KlapEncryptionSession.InInt32 (session.seq + 1)) :
    t.send P now request reply =
      let t' := { t with
        encryptionSession := some { session with seq := session.seq + 1 }
        httpClient := some (CookieJar.extractCookies [] reply.setCookies) }
      match reply with
      | .failure e => (t', .error e)
      | .response status body _ =>
          if status ≠ 200 then
            if status = 403 then
              ({ t' with handshakeDone := false },
                .error (.authenticationException (securityErrorMessage t.host)))
            else
              (t', .error (.smartDeviceException
                (requestStatusMessage t.host status (session.seq + 1))))
          else
            (t', (KlapEncryptionSession.decrypt P { session with seq := session.seq + 1 } body).bind
              fun text => orRaise .jsonDecodeError (P.jsonLoads text)) := by
  obtain ⟨payload, -, hbegin⟩ := sendBegin_eq P t now request hready hsession hseq
  simp only [send, hbegin]
  cases reply with
  | failure e => rfl
  | response status body setCookies =>
      by_cases h200 : status = 200
      · subst h200
        simp only [sendResume, clientPostResume_response]
        simp only [PostReply.setCookies, ne_eq, not_true_eq_false, if_false, if_true,
          Option.map_some', List.append_nil, Option.getD_some]
        cases KlapEncryptionSession.decrypt P { session with seq := session.seq + 1 } body <;> rfl
      · by_cases h403 : status = 403 <;>
          simp [sendResume, h200, h403, PostReply.setCookies]

/-- A 200 reply is decrypted under the session the transport holds when the reply arrives,
whatever `seq` the request was sent with. -/
theorem sendResume_200 (P : Primitives) (t : KlapTransport V) (seq : Int) (body : Bytes)
    (setCookies : List Cookie) {session : KlapEncryptionSession}
    (hsession : t.encryptionSession = some session) :
    (t.sendResume P seq (.response 200 body setCookies)).2 =
      (session.decrypt P body).bind fun text => orRaise .jsonDecodeError (P.jsonLoads text) := by
  simp only [sendResume, clientPostResume_response, ne_eq, not_true_eq_false, if_false, if_true,
    hsession, Option.getD_some]
  cases session.decrypt P body <;> rfl

/-- The exceptions `send` raises on a ready transport holding a session whose next `seq` fits
in 32 bits. Only the two status failures are `SmartDeviceException`s; the failure of the POST
and those of `decrypt` and `json_loads` escape unchanged. Every exit changes only the
session's `seq`, the client's jar and, on a 403, `handshake_done`. -/
theorem send_exceptions (P : Primitives) (t : KlapTransport V) (now : Int) (request : String)
    (reply : PostReply) {session : KlapEncryptionSession}
    (hready : t.needsHandshake now = false) (hsession : t.encryptionSession = some session)
    (hseq : KlapEncryptionSession.InInt32 (session.seq + 1)) :
    ((∃ body setCookies, reply = .response 403 body setCookies) →
      (t.send P now request reply).1 = { t with
        encryptionSession := some { session with seq := session.seq + 1 }
        httpClient := some (CookieJar.extractCookies [] reply.setCookies)
        handshakeDone := false } ∧
      ∃ msg, (t.send P now request reply).2 = .error (.authenticationException msg)) ∧
    (¬(∃ body setCookies, reply = .response 403 body setCookies) →
      (t.send P now request reply).1 = { t with
        encryptionSession := some { session with seq := session.seq + 1 }
        httpClient := some (CookieJar.extractCookies [] reply.setCookies) }) ∧
    (∀ status body setCookies, reply = .response status body setCookies → status ≠ 200 →
      status ≠ 403 → ∃ msg, (t.send P now request reply).2 = .error (.smartDeviceException msg)) ∧
    (∀ body setCookies, reply = .response 200 body setCookies →
      (t.send P now request reply).2 =
        (KlapEncryptionSession.decrypt P { session with seq := session.seq + 1 } body).bind
          fun text => orRaise .jsonDecodeError (P.jsonLoads text)) ∧
    (∀ e, reply = .failure e → (t.send P now request reply).2 = .error e) := by
  have heq := send_eq P t now request reply hready hsession hseq
  refine ⟨?_, fun h403 => ?_, ?_, ?_, ?_⟩
  · rintro ⟨body, setCookies, rfl⟩
    exact ⟨by simp [heq], securityErrorMessage t.host, by simp [heq]⟩
  · rw [heq]
    cases reply with
    | failure e => rfl
    | response status body setCookies =>
        have hne : status ≠ 403 := fun h => h403 ⟨body, setCookies, h ▸ rfl⟩
        by_cases h200 : status = 200 <;> simp [h200, hne]
  · rintro status body setCookies rfl h200 h403
    exact ⟨requestStatusMessage t.host status (session.seq + 1), by simp [heq, h200, h403]⟩
  · rintro body setCookies rfl
    simp [heq]
  · rintro e rfl
    simp [heq]

/-- A transport right after a handshake under the sample primitives: blank credentials, a
zero local seed, and a device that answers both stages with 200. -/
def readySample : KlapTransport (v1 Primitives.sample) :=
  ((init (v1 Primitives.sample) "device" none none).performHandshake Primitives.sample
    (List.replicate 16 0) 0 (.response 200 (List.replicate 48 0) []) (.response 200 [] [])).1

theorem send_exceptions_readySample :
    ∃ session, readySample.needsHandshake 0 = false ∧ readySample.encryptionSession = some session ∧
      KlapEncryptionSession.InInt32 (session.seq + 1) ∧
      (readySample.send Primitives.sample 0 "null" (.response 500 [] [])).1 = { readySample with
        encryptionSession := some { session with seq := session.seq + 1 }
        httpClient := some [] } ∧
      ∃ msg, (readySample.send Primitives.sample 0 "null" (.response 500 [] [])).2 =
        .error (.smartDeviceException msg) := by
  have hready : readySample.needsHandshake 0 = false := by decide
  obtain ⟨-, hstate, hstatus, -, -⟩ := send_exceptions Primitives.sample readySample 0 "null"
    (.response 500 [] []) hready rfl (by decide)
  exact ⟨_, hready, rfl, by decide, hstate (by simp), hstatus 500 [] [] rfl (by decide) (by decide)⟩

/-- A network failure of the request POST escapes `send` as it was raised, not as a
`SmartDeviceException`. -/
theorem send_network_failure_escapes :
    readySample.needsHandshake 0 = false ∧
      (readySample.send Primitives.sample 0 "null" (.failure .httpError)).2 = .error .httpError ∧
      ¬PyException.IsSmartDeviceException .httpError := by
  have hready : readySample.needsHandshake 0 = false := by decide
  refine ⟨hready, ?_, fun h => h⟩
  rw [send_eq Primitives.sample readySample 0 "null" _ hready rfl (by decide)]

end KlapTransport
end KasaTransport
