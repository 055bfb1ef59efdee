import KasaTransport.Klap.EncryptionSession
import KasaTransport.Klap.CookieJar

/-!
The state of a `KlapTransport` and its methods, each cut at its `await`s: a `…Begin` function
runs the code before a POST's `await` and returns the request, a `…Resume` function runs the
code after it on the reply the `await` gave. The sequential methods are these pieces composed.
Both protocol variants are one `KlapVariant` value each; every result below is stated for an
arbitrary variant.
-/

namespace KasaTransport

/-- Modelled from the spec: `kasa.credentials.Credentials`, absent from the sources, is a
username and a password, either of which may be missing. -/
structure Credentials where
  username : Option String
  password : Option String
  deriving DecidableEq

/-- `Credentials(username="", password="")`. -/
def blankCredentials : Credentials := ⟨some "", some ""⟩

/-- The request `client_post` makes: URL, the `seq` query parameter if any, body, and the
`TP_SESSIONID` cookie it attaches if any. -/
structure PostRequest where
  url : String
  seq : Option Int
  data : Bytes
  cookie : Option String

/-- What the `await` of one POST gives back: a response, or the exception raised there
(a failed request, a timeout, or cancellation of the caller). -/
inductive PostReply where
  | response (status : Nat) (content : Bytes) (setCookies : List Cookie)
  | failure (e : PyException)

def PostReply.setCookies : PostReply → List Cookie
  | .response _ _ setCookies => setCookies
  | .failure _ => []

def PostReply.isForbidden : PostReply → Bool
  | .response 403 _ _ => true
  | _ => false

/-- Two replies that differ at most in the first 32 bytes of their content, where a reply to
`/app/request` carries the device's signature. -/
def PostReply.SameButSignature : PostReply → PostReply → Prop
  | .response status content setCookies, .response status' content' setCookies' =>
      status = status' ∧ content.drop 32 = content'.drop 32 ∧ setCookies = setCookies'
  | .failure e, .failure e' => e = e'
  | _, _ => False

/-- The three static methods `TPlinkKlapTransportV2` overrides. The handshake1 hash is a
SHA-256 digest in both variants. -/
structure KlapVariant where
  generateAuthHash : Credentials → Bytes
  handshake1SeedAuthHash : Bytes → Bytes → Bytes → Bytes
  handshake2SeedAuthHash : Bytes → Bytes → Bytes → Bytes
  handshake1SeedAuthHash_length : ∀ localSeed remoteSeed authHash,
    (handshake1SeedAuthHash localSeed remoteSeed authHash).length = 32

/-- `KASA_SETUP_EMAIL` and `KASA_SETUP_PASSWORD`. -/
def kasaSetupCredentials : Credentials := ⟨some "kasa@tp-link.net", some "kasaSetup"⟩

/-- `SESSION_COOKIE_NAME`. -/
def sessionCookieName : String := "TP_SESSIONID"

structure KlapTransport (V : KlapVariant) where
  host : String
  credentials : Credentials
  localAuthHash : Bytes
  kasaSetupAuthHash : Option Bytes
  blankAuthHash : Option Bytes
  handshakeDone : Bool
  encryptionSession : Option KlapEncryptionSession
  sessionExpireAt : Option Int
  timeout : Nat
  sessionCookie : Option String
  httpClient : Option CookieJar
  localAuthHash_eq : localAuthHash = V.generateAuthHash credentials
  kasaSetupAuthHash_eq : ∀ h ∈ kasaSetupAuthHash, h = V.generateAuthHash kasaSetupCredentials
  blankAuthHash_eq : ∀ h ∈ blankAuthHash, h = V.generateAuthHash blankCredentials

namespace KlapTransport

section Variants

variable (P : Primitives)

/-- `KlapTransport.generate_auth_hash` and the v1 handshake hashes. -/
def v1 : KlapVariant where
  generateAuthHash creds :=
    P.md5 (P.md5 (P.utf8.encode (creds.username.getD "")) ++
      P.md5 (P.utf8.encode (creds.password.getD "")))
  handshake1SeedAuthHash localSeed _ authHash := P.sha256 (localSeed ++ authHash)
  handshake2SeedAuthHash _ remoteSeed authHash := P.sha256 (remoteSeed ++ authHash)
  handshake1SeedAuthHash_length _ _ _ := P.sha256_length _

/-- `TPlinkKlapTransportV2.generate_auth_hash` and the v2 handshake hashes. -/
def v2 : KlapVariant where
  generateAuthHash creds :=
    P.sha256 (P.sha1 (P.utf8.encode (creds.username.getD "")) ++
      P.sha1 (P.utf8.encode (creds.password.getD "")))
  handshake1SeedAuthHash localSeed remoteSeed authHash :=
    P.sha256 (localSeed ++ remoteSeed ++ authHash)
  handshake2SeedAuthHash localSeed remoteSeed authHash :=
    P.sha256 (remoteSeed ++ localSeed ++ authHash)
  handshake1SeedAuthHash_length _ _ _ := P.sha256_length _

end Variants

variable {V : KlapVariant}

/-- `__init__`; `DEFAULT_TIMEOUT` is 5 and a falsy timeout falls back to it. -/
def init (V : KlapVariant) (host : String) (credentials : Option Credentials)
    (timeout : Option Nat) : KlapTransport V where
  host := host
  credentials := credentials.getD blankCredentials
  localAuthHash := V.generateAuthHash (credentials.getD blankCredentials)
  kasaSetupAuthHash := none
  blankAuthHash := none
  handshakeDone := false
  encryptionSession := none
  sessionExpireAt := none
  timeout := match timeout with
    | some (t + 1) => t + 1
    | _ => 5
  sessionCookie := none
  httpClient := some []
  localAuthHash_eq := rfl
  kasaSetupAuthHash_eq := by simp
  blankAuthHash_eq := by simp

/-- `_handshake_session_expired()` at clock reading `now`. -/
def handshakeSessionExpired (t : KlapTransport V) (now : Int) : Bool :=
  match t.sessionExpireAt with
  | none => true
  | some expireAt => decide (expireAt - now ≤ 0)

/-- The `needs_handshake` property at clock reading `now`. -/
def needsHandshake (t : KlapTransport V) (now : Int) : Bool :=
  !t.handshakeDone || t.handshakeSessionExpired now

theorem needsHandshake_eq_false {t : KlapTransport V} {now : Int} :
    t.needsHandshake now = false ↔
      t.handshakeDone = true ∧ ∃ expireAt, t.sessionExpireAt = some expireAt ∧ now < expireAt := by
  unfold needsHandshake handshakeSessionExpired
  cases t.sessionExpireAt with
  | none => simp
  | some expireAt => simp

/-- The `TP_SESSIONID` cookie `client_post` attaches: the stored one when it is truthy. -/
def attachedCookie : Option String → Option String
  | some "" | none => none
  | some c => some c

/-- The part of `client_post` before its `await`: a closed client is replaced by a fresh one,
the stored cookie is attached when it is truthy, and the jar is cleared. -/
def clientPostBegin (t : KlapTransport V) (url : String) (seq : Option Int) (data : Bytes) :
    KlapTransport V × PostRequest :=
  ({ t with httpClient := some [] }, ⟨url, seq, data, attachedCookie t.sessionCookie⟩)

/-- The part of `client_post` after its `await`: `httpx` files the response's cookies in the
client's jar, and the content is returned only with status 200. -/
def clientPostResume (t : KlapTransport V) (reply : PostReply) :
    KlapTransport V × Except PyException (Nat × Option Bytes) :=
  match reply with
  | .failure e => (t, .error e)
  | .response status content setCookies =>
      ({ t with httpClient := t.httpClient.map (·.extractCookies setCookies) },
        .ok (status, if status = 200 then some content else none))

@[simp] theorem clientPostResume_failure (t : KlapTransport V) (e : PyException) :
    t.clientPostResume (.failure e) = (t, .error e) := rfl

@[simp] theorem clientPostResume_response (t : KlapTransport V) (status : Nat)
    (content : Bytes) (setCookies : List Cookie) :
    t.clientPostResume (.response status content setCookies) =
      ({ t with httpClient := t.httpClient.map (·.extractCookies setCookies) },
        .ok (status, if status = 200 then some content else none)) := rfl

/-- `self._kasa_setup_auth_hash`, generated and cached when it is falsy. -/
def kasaSetupAuthHashCached (t : KlapTransport V) : KlapTransport V × Bytes :=
  match t.kasaSetupAuthHash with
  | some (b :: bs) => (t, b :: bs)
  | _ =>
      ({ t with
          kasaSetupAuthHash := some (V.generateAuthHash kasaSetupCredentials)
          kasaSetupAuthHash_eq := by simp }, V.generateAuthHash kasaSetupCredentials)

/-- `self._blank_auth_hash`, generated and cached when it is falsy. -/
def blankAuthHashCached (t : KlapTransport V) : KlapTransport V × Bytes :=
  match t.blankAuthHash with
  | some (b :: bs) => (t, b :: bs)
  | _ =>
      ({ t with
          blankAuthHash := some (V.generateAuthHash blankCredentials)
          blankAuthHash_eq := by simp }, V.generateAuthHash blankCredentials)

def handshakeStatusMessage (host : String) (status : Nat) (stage : String) : String :=
  s!"Device {host} responded with {status} to {stage}"

def challengeMessage (host : String) : String :=
  s!"Server response doesn\x27t match our challenge on ip {host}"

/-- `perform_handshake1` up to its POST; `local_seed` is what `secrets.token_bytes(16)` drew. -/
def performHandshake1Begin (t : KlapTransport V) (localSeed : Bytes) :
    KlapTransport V × PostRequest :=
  t.clientPostBegin s!"http://{t.host}/app/handshake1" none localSeed

/-- `perform_handshake1` after its POST: the status check, then the credential ladder against
the server hash. -/
def performHandshake1Resume (t : KlapTransport V) (localSeed : Bytes) (reply : PostReply) :
    KlapTransport V × Except PyException (Bytes × Bytes × Bytes) :=
  match t.clientPostResume reply with
  | (t, .error e) => (t, .error e)
  | (t, .ok (responseStatus, responseData)) =>
      if responseStatus ≠ 200 then
        (t, .error (.authenticationException
          (handshakeStatusMessage t.host responseStatus "handshake1")))
      else
        let remoteSeed := (responseData.getD []).take 16
        let serverHash := (responseData.getD []).drop 16
        if V.handshake1SeedAuthHash localSeed remoteSeed t.localAuthHash = serverHash then
          (t, .ok (localSeed, remoteSeed, t.localAuthHash))
        else
          let (t, kasaSetupAuthHash) := t.kasaSetupAuthHashCached
          if V.handshake1SeedAuthHash localSeed remoteSeed kasaSetupAuthHash = serverHash then
            (t, .ok (localSeed, remoteSeed, kasaSetupAuthHash))
          else if t.credentials ≠ blankCredentials then
            let (t, blankAuthHash) := t.blankAuthHashCached
            if V.handshake1SeedAuthHash localSeed remoteSeed blankAuthHash = serverHash then
              (t, .ok (localSeed, remoteSeed, blankAuthHash))
            else (t, .error (.authenticationException (challengeMessage t.host)))
          else (t, .error (.authenticationException (challengeMessage t.host)))

def performHandshake2Begin (t : KlapTransport V) (localSeed remoteSeed authHash : Bytes) :
    KlapTransport V × PostRequest :=
  t.clientPostBegin s!"http://{t.host}/app/handshake2" none
    (V.handshake2SeedAuthHash localSeed remoteSeed authHash)

def performHandshake2Resume (P : Primitives) (t : KlapTransport V)
    (localSeed remoteSeed authHash : Bytes) (reply : PostReply) :
    KlapTransport V × Except PyException KlapEncryptionSession :=
  match t.clientPostResume reply with
  | (t, .error e) => (t, .error e)
  | (t, .ok (responseStatus, _)) =>
      if responseStatus ≠ 200 then
        (t, .error (.authenticationException
          (handshakeStatusMessage t.host responseStatus "handshake2")))
      else (t, .ok (KlapEncryptionSession.new P localSeed remoteSeed authHash))

/-- The first three assignments of `perform_handshake`. -/
def resetSession (t : KlapTransport V) : KlapTransport V :=
  { t with handshakeDone := false, sessionExpireAt := none, sessionCookie := none }

def performHandshakeBegin (t : KlapTransport V) (localSeed : Bytes) :
    KlapTransport V × PostRequest :=
  t.resetSession.performHandshake1Begin localSeed

/-- `perform_handshake` from handshake1's reply up to handshake2's POST, at clock reading
`now`: the cookie is read from the client's jar, where `Cookies.get` raises on a closed client
and on a name filed twice, and the expiry set a day ahead. -/
def performHandshakeResume1 (t : KlapTransport V) (localSeed : Bytes) (reply : PostReply)
    (now : Int) : KlapTransport V × Except PyException (PostRequest × Bytes × Bytes × Bytes) :=
  match t.performHandshake1Resume localSeed reply with
  | (t, .error e) => (t, .error e)
  | (t, .ok (localSeed, remoteSeed, authHash)) =>
      match t.httpClient with
      | none => (t, .error .attributeError)
      | some jar =>
          match jar.get sessionCookieName with
          | .error e => (t, .error e)
          | .ok sessionCookie =>
              let t := { t with
                sessionCookie := sessionCookie
                sessionExpireAt := some (now + 86400) }
              let (t, request) := t.performHandshake2Begin localSeed remoteSeed authHash
              (t, .ok (request, localSeed, remoteSeed, authHash))

def performHandshakeResume2 (P : Primitives) (t : KlapTransport V)
    (localSeed remoteSeed authHash : Bytes) (reply : PostReply) :
    KlapTransport V × Except PyException Unit :=
  match t.performHandshake2Resume P localSeed remoteSeed authHash reply with
  | (t, .error e) => (t, .error e)
  | (t, .ok session) => ({ t with encryptionSession := some session, handshakeDone := true }, .ok ())

/-- `perform_handshake` run alone, with the replies of its two POSTs. -/
def performHandshake (P : Primitives) (t : KlapTransport V) (localSeed : Bytes) (now : Int)
    (reply1 reply2 : PostReply) : KlapTransport V × Except PyException Unit :=
  match (t.performHandshakeBegin localSeed).1.performHandshakeResume1 localSeed reply1 now with
  | (t, .error e) => (t, .error e)
  | (t, .ok (_, localSeed, remoteSeed, authHash)) =>
      t.performHandshakeResume2 P localSeed remoteSeed authHash reply2

def sendBeforeHandshakeMessage : String := "Handshake must be complete before trying to send"

/-- `send` up to its POST. `needs_login` is always false, so its check never raises. -/
def sendBegin (P : Primitives) (t : KlapTransport V) (now : Int) (request : String) :
    KlapTransport V × Except PyException (PostRequest × Int) :=
  if t.needsHandshake now then (t, .error (.smartDeviceException sendBeforeHandshakeMessage))
  else
    match t.encryptionSession with
    | none => (t, .error .unboundLocalError)
    | some session =>
        match session.encrypt P (P.utf8.encode request) with
        | (session, .error e) => ({ t with encryptionSession := some session }, .error e)
        | (session, .ok (payload, seq)) =>
            let (t, post) := clientPostBegin { t with encryptionSession := some session }
              s!"http://{t.host}/app/request" (some seq) payload
            (t, .ok (post, seq))

def securityErrorMessage (host : String) : String :=
  s!"Got a security error from {host} after handshake completed"

def requestStatusMessage (host : String) (status : Nat) (seq : Int) : String :=
  s!"Device {host} responded with {status} torequest with seq {seq}"

/-- `send` after its POST: a 403 clears `handshake_done`; a 200 body is decrypted under the
session held now and parsed. -/
def sendResume (P : Primitives) (t : KlapTransport V) (seq : Int) (reply : PostReply) :
    KlapTransport V × Except PyException Json :=
  match t.clientPostResume reply with
  | (t, .error e) => (t, .error e)
  | (t, .ok (responseStatus, responseData)) =>
      if responseStatus ≠ 200 then
        if responseStatus = 403 then
          ({ t with handshakeDone := false }, .error (.authenticationException
            (securityErrorMessage t.host)))
        else (t, .error (.smartDeviceException (requestStatusMessage t.host responseStatus seq)))
      else
        match t.encryptionSession with
        | none => (t, .error .unboundLocalError)
        | some session =>
            match session.decrypt P (responseData.getD []) with
            | .error e => (t, .error e)
            | .ok decryptedResponse => (t, orRaise .jsonDecodeError (P.jsonLoads decryptedResponse))

/-- `send` run alone, with the reply of its POST. -/
def send (P : Primitives) (t : KlapTransport V) (now : Int) (request : String)
    (reply : PostReply) : KlapTransport V × Except PyException Json :=
  match t.sendBegin P now request with
  | (t, .error e) => (t, .error e)
  | (t, .ok (_, seq)) => t.sendResume P seq reply

/-- `close()`: the client is dropped before its `aclose` is awaited. -/
def close (t : KlapTransport V) : KlapTransport V := { t with httpClient := none }

def login : Except PyException Unit :=
  .error (.smartDeviceException "KLAP does not perform logins and return needs_login == False")

end KlapTransport

end KasaTransport
