import KasaTransport.Klap.Transport

/-!
The two-stage handshake. `performHandshake1Resume` is shown equal to its specification, the
first candidate of the credential ladder whose handshake1 hash is the server hash, so the
cached setup and blank hashes never change an outcome. The outcome of `perform_handshake` is
then characterised for every variant, credentials, local seed and pair of replies.
-/

namespace KasaTransport
namespace KlapTransport

variable {V : KlapVariant}

/-- The candidates `perform_handshake1` tries, in order: the configured credentials, the kasa
setup credentials, then blank credentials unless the configured ones are blank. -/
def authHashLadder (V : KlapVariant) (credentials : Credentials) : List Bytes :=
  [V.generateAuthHash credentials, V.generateAuthHash kasaSetupCredentials] ++
    if credentials ≠ blankCredentials then [V.generateAuthHash blankCredentials] else []

/-- The first candidate whose handshake1 hash is `serverHash`. -/
def firstMatch (V : KlapVariant) (localSeed remoteSeed serverHash : Bytes)
    (candidates : List Bytes) : Option Bytes :=
  candidates.find? fun h => V.handshake1SeedAuthHash localSeed remoteSeed h = serverHash

/-- The outcome `perform_handshake1` should have after its POST. -/
def handshake1Outcome (V : KlapVariant) (host : String) (credentials : Credentials)
    (localSeed : Bytes) : PostReply → Except PyException (Bytes × Bytes × Bytes)
  | .failure e => .error e
  | .response status body _ =>
      if status ≠ 200 then
        .error (.authenticationException (handshakeStatusMessage host status "handshake1"))
      else
        match firstMatch V localSeed (body.take 16) (body.drop 16)
            (authHashLadder V credentials) with
        | some h => .ok (localSeed, body.take 16, h)
        | none => .error (.authenticationException (challengeMessage host))

/-- Two states that differ at most in the two cached hashes, which the structure pins to the
generated hashes anyway. -/
def EqualButCaches (t t' : KlapTransport V) : Prop :=
  t'.host = t.host ∧ t'.credentials = t.credentials ∧ t'.handshakeDone = t.handshakeDone ∧
    t'.encryptionSession = t.encryptionSession ∧ t'.sessionExpireAt = t.sessionExpireAt ∧
    t'.timeout = t.timeout ∧ t'.sessionCookie = t.sessionCookie ∧ t'.httpClient = t.httpClient

theorem EqualButCaches.refl (t : KlapTransport V) : EqualButCaches t t := by
  simp [EqualButCaches]

theorem EqualButCaches.trans {t t' t'' : KlapTransport V} (h : EqualButCaches t t')
    (h' : EqualButCaches t' t'') : EqualButCaches t t'' := by
  obtain ⟨h1, h2, h3, h4, h5, h6, h7, h8⟩ := h
  obtain ⟨h1', h2', h3', h4', h5', h6', h7', h8'⟩ := h'
  exact ⟨h1'.trans h1, h2'.trans h2, h3'.trans h3, h4'.trans h4, h5'.trans h5, h6'.trans h6,
    h7'.trans h7, h8'.trans h8⟩

theorem kasaSetupAuthHashCached_spec (t : KlapTransport V) :
    EqualButCaches t t.kasaSetupAuthHashCached.1 ∧
      t.kasaSetupAuthHashCached.2 = V.generateAuthHash kasaSetupCredentials := by
  unfold kasaSetupAuthHashCached
  split
  · rename_i b bs hcache
    exact ⟨EqualButCaches.refl t, t.kasaSetupAuthHash_eq _ hcache⟩
  · exact ⟨by simp [EqualButCaches], rfl⟩

theorem blankAuthHashCached_spec (t : KlapTransport V) :
    EqualButCaches t t.blankAuthHashCached.1 ∧
      t.blankAuthHashCached.2 = V.generateAuthHash blankCredentials := by
  unfold blankAuthHashCached
  split
  · rename_i b bs hcache
    exact ⟨EqualButCaches.refl t, t.blankAuthHash_eq _ hcache⟩
  · exact ⟨by simp [EqualButCaches], rfl⟩

/-- `perform_handshake1` after its POST is the ladder specification, and besides the caches
changes only what `client_post` changed. -/
theorem performHandshake1Resume_spec (t : KlapTransport V) (localSeed : Bytes)
    (reply : PostReply) :
    EqualButCaches (t.clientPostResume reply).1 (t.performHandshake1Resume localSeed reply).1 ∧
      (t.performHandshake1Resume localSeed reply).2 =
        handshake1Outcome V t.host t.credentials localSeed reply := by
  cases reply with
  | failure e => exact ⟨EqualButCaches.refl t, rfl⟩
  | response status body setCookies =>
      generalize ht1 : (t.clientPostResume (.response status body setCookies)).1 = t1
      have hpost : t.clientPostResume (.response status body setCookies) =
          (t1, .ok (status, if status = 200 then some body else none)) := by
        rw [← ht1]; rfl
      have hhost : t1.host = t.host := by rw [← ht1]; rfl
      have hcred : t1.credentials = t.credentials := by rw [← ht1]; rfl
      by_cases hs : status = 200
      case neg =>
        simp [performHandshake1Resume, hpost, hs, handshake1Outcome, hhost, EqualButCaches.refl]
      subst hs
      obtain ⟨h1, hk⟩ := kasaSetupAuthHashCached_spec t1
      generalize hkc : t1.kasaSetupAuthHashCached = kc at h1 hk
      obtain ⟨t2, k⟩ := kc
      obtain ⟨h2, hb⟩ := blankAuthHashCached_spec t2
      generalize hbc : t2.blankAuthHashCached = bc at h2 hb
      obtain ⟨t3, b⟩ := bc
      dsimp only at hk hb h1 h2
      subst hk hb
      have h12 := h1.trans h2
      simp only [performHandshake1Resume, hpost, hkc, hbc, handshake1Outcome, authHashLadder,
        firstMatch, t1.localAuthHash_eq, hhost, hcred, h1.1, h1.2.1, h12.1, h12.2.1]
      split_ifs <;> simp_all [EqualButCaches.refl]

@[simp] theorem performHandshakeBegin_host (t : KlapTransport V) (localSeed : Bytes) :
    (t.performHandshakeBegin localSeed).1.host = t.host := rfl

@[simp] theorem performHandshakeBegin_credentials (t : KlapTransport V) (localSeed : Bytes) :
    (t.performHandshakeBegin localSeed).1.credentials = t.credentials := rfl

theorem performHandshakeResume1_eq (t : KlapTransport V) (localSeed : Bytes) (reply : PostReply)
    (now : Int) (jar : CookieJar) (hjar : t.httpClient = some jar) :
    ∃ t1 : KlapTransport V, EqualButCaches (t.clientPostResume reply).1 t1 ∧
      t.performHandshakeResume1 localSeed reply now =
        match handshake1Outcome V t.host t.credentials localSeed reply with
        | .error e => (t1, .error e)
        | .ok (ls, rs, h) =>
            match (jar.extractCookies reply.setCookies).get sessionCookieName with
            | .error e => (t1, .error e)
            | .ok cookie =>
                ({ t1 with
                    sessionCookie := cookie
                    sessionExpireAt := some (now + 86400)
                    httpClient := some [] },
                  .ok (⟨s!"http://{t.host}/app/handshake2", none, V.handshake2SeedAuthHash ls rs h,
                    attachedCookie cookie⟩, ls, rs, h)) := by
  obtain ⟨hsame, hout⟩ := performHandshake1Resume_spec t localSeed reply
  generalize ht1 : (t.performHandshake1Resume localSeed reply).1 = t1 at hsame
  refine ⟨t1, hsame, ?_⟩
  have hres : t.performHandshake1Resume localSeed reply =
      (t1, handshake1Outcome V t.host t.credentials localSeed reply) := by
    rw [← ht1, ← hout]
  have hhost : t1.host = t.host := by rw [hsame.1]; cases reply <;> rfl
  have hclient : t1.httpClient = some (jar.extractCookies reply.setCookies) := by
    rw [hsame.2.2.2.2.2.2.2]
    cases reply <;> simp [hjar, PostReply.setCookies, CookieJar.extractCookies]
  simp only [performHandshakeResume1, hres]
  cases handshake1Outcome V t.host t.credentials localSeed reply with
  | error e => rfl
  | ok r =>
      obtain ⟨ls, rs, h⟩ := r
      simp only [hclient]
      cases (jar.extractCookies reply.setCookies).get sessionCookieName with
      | error e => rfl
      | ok cookie => simp [performHandshake2Begin, clientPostBegin, hhost]

/-- `perform_handshake` run alone, as a function of the ladder outcome, the cookie read and
handshake2's reply. `t1` is the state after handshake1, equal up to the caches to the reset
state whose jar holds the cookies handshake1 set. -/
theorem performHandshake_eq (P : Primitives) (t : KlapTransport V) (localSeed : Bytes)
    (now : Int) (reply1 reply2 : PostReply) :
    ∃ t1 : KlapTransport V,
      EqualButCaches
        { t.resetSession with httpClient := some (CookieJar.extractCookies [] reply1.setCookies) }
        t1 ∧
      t.performHandshake P localSeed now reply1 reply2 =
        match handshake1Outcome V t.host t.credentials localSeed reply1 with
        | .error e => (t1, .error e)
        | .ok (ls, rs, h) =>
            match (CookieJar.extractCookies [] reply1.setCookies).get sessionCookieName with
            | .error e => (t1, .error e)
            | .ok cookie =>
                let t2 := { t1 with
                  sessionCookie := cookie
                  sessionExpireAt := some (now + 86400)
                  httpClient := some (CookieJar.extractCookies [] reply2.setCookies) }
                match reply2 with
                | .failure e => (t2, .error e)
                | .response status _ _ =>
                    if status ≠ 200 then
                      (t2, .error (.authenticationException
                        (handshakeStatusMessage t.host status "handshake2")))
                    else
                      ({ t2 with
                          encryptionSession := some (KlapEncryptionSession.new P ls rs h)
                          handshakeDone := true }, .ok ()) := by
  obtain ⟨t1, hsame, hres⟩ := performHandshakeResume1_eq (t.performHandshakeBegin localSeed).1
    localSeed reply1 now [] rfl
  simp only [performHandshakeBegin_host, performHandshakeBegin_credentials] at hres
  have hclient : ((t.performHandshakeBegin localSeed).1.clientPostResume reply1).1 =
      { t.resetSession with httpClient := some (CookieJar.extractCookies [] reply1.setCookies) } := by
    cases reply1 <;> simp [performHandshakeBegin, performHandshake1Begin, clientPostBegin,
      PostReply.setCookies, CookieJar.extractCookies]
  rw [hclient] at hsame
  refine ⟨t1, hsame, ?_⟩
  have hhost : t1.host = t.host := hsame.1
  simp only [performHandshake, hres]
  cases handshake1Outcome V t.host t.credentials localSeed reply1 with
  | error e => rfl
  | ok r =>
      obtain ⟨ls, rs, h⟩ := r
      cases (CookieJar.extractCookies [] reply1.setCookies).get sessionCookieName with
      | error e => rfl
      | ok cookie =>
          cases reply2 with
          | failure e =>
              simp [performHandshakeResume2, performHandshake2Resume, PostReply.setCookies,
                CookieJar.extractCookies]
          | response status content setCookies =>
              by_cases hs : status = 200 <;>
                simp [performHandshakeResume2, performHandshake2Resume, PostReply.setCookies, hs,
                  hhost]

/-- The outcome `perform_handshake` should have: the ladder's, then the cookie read, then
handshake2's status. -/
def handshakeOutcome (P : Primitives) (V : KlapVariant) (host : String)
    (credentials : Credentials) (localSeed : Bytes) (reply1 reply2 : PostReply) :
    Except PyException KlapEncryptionSession :=
  match handshake1Outcome V host credentials localSeed reply1 with
  | .error e => .error e
  | .ok (ls, rs, h) =>
      match (CookieJar.extractCookies [] reply1.setCookies).get sessionCookieName with
      | .error e => .error e
      | .ok _ =>
          match reply2 with
          | .failure e => .error e
          | .response status _ _ =>
              if status ≠ 200 then
                .error (.authenticationException (handshakeStatusMessage host status "handshake2"))
              else .ok (KlapEncryptionSession.new P ls rs h)

/-- What `perform_handshake` leaves: `handshake_done` is whether the outcome is a session, which
then replaces the old one; otherwise the old session stays. -/
theorem performHandshake_outcome (P : Primitives) (t : KlapTransport V) (localSeed : Bytes)
    (now : Int) (reply1 reply2 : PostReply) :
    (t.performHandshake P localSeed now reply1 reply2).2 =
        (handshakeOutcome P V t.host t.credentials localSeed reply1 reply2).map (fun _ => ()) ∧
      (t.performHandshake P localSeed now reply1 reply2).1.handshakeDone =
        (handshakeOutcome P V t.host t.credentials localSeed reply1 reply2).toBool ∧
      (t.performHandshake P localSeed now reply1 reply2).1.encryptionSession =
        ((handshakeOutcome P V t.host t.credentials localSeed reply1 reply2).toOption.or
          t.encryptionSession) := by
  obtain ⟨t1, hsame, heq⟩ := performHandshake_eq P t localSeed now reply1 reply2
  have hdone : t1.handshakeDone = false := hsame.2.2.1
  have hsession : t1.encryptionSession = t.encryptionSession := hsame.2.2.2.1
  rw [heq, handshakeOutcome]
  cases handshake1Outcome V t.host t.credentials localSeed reply1 with
  | error e => simp [hdone, hsession, Except.map, Except.toBool, Except.toOption]
  | ok r =>
      obtain ⟨ls, rs, h⟩ := r
      cases (CookieJar.extractCookies [] reply1.setCookies).get sessionCookieName with
      | error e => simp [hdone, hsession, Except.map, Except.toBool, Except.toOption]
      | ok cookie =>
          cases reply2 with
          | failure e => simp [hdone, hsession, Except.map, Except.toBool, Except.toOption]
          | response status content setCookies =>
              by_cases hs : status = 200 <;>
                simp [hs, hdone, hsession, Except.map, Except.toBool, Except.toOption]

/-- The replies `perform_handshake` accepts: handshake1 answered 200 with a body whose server
hash a ladder candidate explains and with cookies that file `TP_SESSIONID` under at most one
key, then handshake2 answered 200. -/
def HandshakeAccepted (V : KlapVariant) (credentials : Credentials) (localSeed : Bytes)
    (reply1 reply2 : PostReply) : Prop :=
  ∃ body setCookies h, reply1 = .response 200 body setCookies ∧
    firstMatch V localSeed (body.take 16) (body.drop 16) (authHashLadder V credentials) = some h ∧
    ¬CookieJar.SetsTwice setCookies sessionCookieName ∧
    ∃ content setCookies2, reply2 = .response 200 content setCookies2

theorem handshakeOutcome_of_accepted {P : Primitives} {host : String} {credentials : Credentials}
    {localSeed body content : Bytes} {setCookies setCookies2 : List Cookie} {h : Bytes}
    (hm : firstMatch V localSeed (body.take 16) (body.drop 16) (authHashLadder V credentials) =
      some h)
    (htwice : ¬CookieJar.SetsTwice setCookies sessionCookieName) :
    handshakeOutcome P V host credentials localSeed (.response 200 body setCookies)
      (.response 200 content setCookies2) = .ok (KlapEncryptionSession.new P localSeed (body.take 16) h) := by
  obtain ⟨cookie, hcookie⟩ := (CookieJar.get_extractCookies_nil_eq_ok_iff _ _).2 htwice
  simp [handshakeOutcome, handshake1Outcome, hm, PostReply.setCookies, hcookie]

theorem performHandshake_fields (P : Primitives) (t : KlapTransport V) (localSeed : Bytes)
    (now : Int) (reply1 reply2 : PostReply) :
    (t.performHandshake P localSeed now reply1 reply2).1.host = t.host ∧
      (t.performHandshake P localSeed now reply1 reply2).1.credentials = t.credentials ∧
      (HandshakeAccepted V t.credentials localSeed reply1 reply2 →
        (CookieJar.extractCookies [] reply1.setCookies).get sessionCookieName =
          .ok (t.performHandshake P localSeed now reply1 reply2).1.sessionCookie ∧
        (t.performHandshake P localSeed now reply1 reply2).1.sessionExpireAt =
          some (now + 86400)) := by
  obtain ⟨t1, hsame, heq⟩ := performHandshake_eq P t localSeed now reply1 reply2
  have hhost : t1.host = t.host := hsame.1
  have hcred : t1.credentials = t.credentials := hsame.2.1
  have hconf : (t.performHandshake P localSeed now reply1 reply2).1.host = t.host ∧
      (t.performHandshake P localSeed now reply1 reply2).1.credentials = t.credentials := by
    rw [heq]
    cases handshake1Outcome V t.host t.credentials localSeed reply1 with
    | error e => exact ⟨hhost, hcred⟩
    | ok r =>
        cases (CookieJar.extractCookies [] reply1.setCookies).get sessionCookieName with
        | error e => exact ⟨hhost, hcred⟩
        | ok cookie =>
            cases reply2 with
            | failure e => exact ⟨hhost, hcred⟩
            | response status content setCookies =>
                by_cases hs : status = 200 <;> simp [hs, hhost, hcred]
  refine ⟨hconf.1, hconf.2, ?_⟩
  rintro ⟨body, setCookies, h, rfl, hm, htwice, content, setCookies2, rfl⟩
  obtain ⟨cookie, hcookie⟩ := (CookieJar.get_extractCookies_nil_eq_ok_iff _ _).2 htwice
  rw [heq]
  simp [handshake1Outcome, hm, PostReply.setCookies, hcookie]

end KlapTransport
end KasaTransport