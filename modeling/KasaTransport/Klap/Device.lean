import KasaTransport.Klap.Handshake
import KasaTransport.Klap.Send

/-!
A KLAP device as the protocol describes one, and the transport run against it. The device holds
an auth hash, draws its seed for a handshake and sets the session cookie (with the `TIMEOUT`
cookie the transport must not echo). Its key, IV prefix, signature prefix and initial `seq` are
derived from the protocol's formulas, not from the transport's `KlapEncryptionSession`: a
request to `/app/request` is checked against its signature, decrypted under the IV of its `seq`
and answered, signed and encrypted under the same `seq`. When the device holds the hash of the
transport's credentials, both ends derive the same secrets, `perform_handshake` succeeds, and
every `send` made after it, one at a time, until the session expires or `seq` leaves the signed
32-bit range, returns the device's answer to its own request.
-/

namespace KasaTransport

/-- The device end of KLAP: its host name, the auth hash it holds, the seed it draws for a
handshake, the session cookie it sets, and the text it answers to a request. -/
structure KlapDevice where
  host : String
  authHash : Bytes
  remoteSeed : Bytes
  cookie : String
  respond : String → String

namespace KlapDevice

section Secrets

variable (P : Primitives) (d : KlapDevice) (localSeed : Bytes)

/-- `sha256("lsk" ‖ local_seed ‖ remote_seed ‖ auth_hash)[:16]`. -/
def key : Bytes :=
  (P.sha256 ([0x6c, 0x73, 0x6b] ++ localSeed ++ d.remoteSeed ++ d.authHash)).take 16

/-- `sha256("iv" ‖ local_seed ‖ remote_seed ‖ auth_hash)`. -/
def ivDigest : Bytes := P.sha256 ([0x69, 0x76] ++ localSeed ++ d.remoteSeed ++ d.authHash)

def ivPrefix : Bytes := (d.ivDigest P localSeed).take 12

/-- `sha256("ldk" ‖ local_seed ‖ remote_seed ‖ auth_hash)[:28]`. -/
def sigPrefix : Bytes :=
  (P.sha256 ([0x6c, 0x64, 0x6b] ++ localSeed ++ d.remoteSeed ++ d.authHash)).take 28

end Secrets

/-- A `seq` of the signed 32-bit range as four two's-complement big-endian bytes. -/
def seqBytes (seq : Int) : Bytes := beBytes 4 (seq % 2 ^ 32).toNat

section Replies

variable (P : Primitives) (V : KlapVariant) (d : KlapDevice)

/-- handshake1: the device's seed and its proof of the auth hash over both seeds, with the
session cookie and a `TIMEOUT` cookie. -/
def handshake1Reply (post : PostRequest) : PostReply :=
  .response 200 (d.remoteSeed ++ V.handshake1SeedAuthHash post.data d.remoteSeed d.authHash)
    [⟨d.host, "/", sessionCookieName, d.cookie⟩, ⟨d.host, "/", "TIMEOUT", "86400"⟩]

/-- handshake2: accepted when it carries the session cookie and proves the same auth hash over
the seeds of handshake1. -/
def handshake2Reply (localSeed : Bytes) (post : PostRequest) : PostReply :=
  if post.cookie = some d.cookie ∧
      post.data = V.handshake2SeedAuthHash localSeed d.remoteSeed d.authHash then
    .response 200 [] []
  else .response 403 [] []

/-- A request: with the session cookie, a `seq` in the signed 32-bit range and a signature over
that `seq` and the ciphertext, the ciphertext is decrypted under the IV of that `seq`, and the
answer is encrypted and signed under the same `seq`. -/
def requestReply (localSeed : Bytes) (post : PostRequest) : PostReply :=
  match post.seq with
  | none => .response 400 [] []
  | some seq =>
      if post.cookie ≠ some d.cookie then .response 403 [] []
      else if ¬(-2 ^ 31 ≤ seq ∧ seq < 2 ^ 31) then .response 400 [] []
      else
        let iv := d.ivPrefix P localSeed ++ seqBytes seq
        let ciphertext := post.data.drop 32
        if post.data.take 32 ≠ P.sha256 (d.sigPrefix P localSeed ++ seqBytes seq ++ ciphertext) then
          .response 403 [] []
        else
          match ((cbcDecrypt P.aes (d.key P localSeed) iv ciphertext).bind pkcs7Unpad).bind
              P.utf8.decode with
          | none => .response 400 [] []
          | some request =>
              match cbcEncrypt P.aes (d.key P localSeed) iv
                  (pkcs7Pad (P.utf8.encode (d.respond request))) with
              | none => .response 500 [] []
              | some answer =>
                  .response 200
                    (P.sha256 (d.sigPrefix P localSeed ++ seqBytes seq ++ answer) ++ answer) []

end Replies

section Conversation

variable (P : Primitives) {V : KlapVariant} (d : KlapDevice)

/-- `perform_handshake` with both POSTs answered by the device, which keeps the local seed that
handshake1 carried. -/
def handshake (t : KlapTransport V) (localSeed : Bytes) (now : Int) :
    KlapTransport V × Except PyException Unit :=
  match (t.performHandshakeBegin localSeed).1.performHandshakeResume1 localSeed
      (d.handshake1Reply V (t.performHandshakeBegin localSeed).2) now with
  | (t, .error e) => (t, .error e)
  | (t, .ok (post2, localSeed', remoteSeed, authHash)) =>
      t.performHandshakeResume2 P localSeed' remoteSeed authHash
        (d.handshake2Reply V localSeed post2)

def send (t : KlapTransport V) (localSeed : Bytes) (now : Int) (request : String) :
    KlapTransport V × Except PyException Json :=
  match t.sendBegin P now request with
  | (t, .error e) => (t, .error e)
  | (t, .ok (post, seq)) => t.sendResume P seq (d.requestReply P localSeed post)

def sendAll (t : KlapTransport V) (localSeed : Bytes) :
    List (Int × String) → KlapTransport V × List (Except PyException Json)
  | [] => (t, [])
  | (now, request) :: rest =>
      let sent := send P d t localSeed now request
      let sentAll := sendAll sent.1 localSeed rest
      (sentAll.1, sent.2 :: sentAll.2)

/-- The transport between sends: handshake done, until `expireAt`, with the device's cookie and
the session of the device's seed and auth hash at `seq`. -/
structure Ready (t : KlapTransport V) (localSeed : Bytes) (expireAt seq : Int) : Prop where
  handshakeDone : t.handshakeDone = true
  sessionExpireAt : t.sessionExpireAt = some expireAt
  cookie : KlapTransport.attachedCookie t.sessionCookie = some d.cookie
  encryptionSession : t.encryptionSession =
    some { KlapEncryptionSession.new P localSeed d.remoteSeed d.authHash with seq }
  seq_lower : -2 ^ 31 ≤ seq

end Conversation

section Agreement

variable {P : Primitives} {V : KlapVariant} {d : KlapDevice}

theorem toBytesSigned_eq_seqBytes {seq : Int} (h : KlapEncryptionSession.InInt32 seq) :
    toBytesSigned seq = some (seqBytes seq) :=
  toBytesSigned_eq_some h

theorem cipherArgsValid_key (localSeed : Bytes) (seq : Int) :
    CipherArgsValid (d.key P localSeed) (d.ivPrefix P localSeed ++ seqBytes seq) := by
  simp [CipherArgsValid, key, ivPrefix, ivDigest, seqBytes, P.sha256_length]

/-- The device reads a request that the transport's session encrypted at `seq`, and answers it
encrypted and signed under the same `seq`. -/
theorem requestReply_of_encrypt {localSeed : Bytes} {seq seq' : Int} {request : String}
    {payload : Bytes} (url : String)
    (henc : (KlapEncryptionSession.encrypt P
      { KlapEncryptionSession.new P localSeed d.remoteSeed d.authHash with seq }
      (P.utf8.encode request)).2 = .ok (payload, seq')) :
    ∃ answer, cbcEncrypt P.aes (d.key P localSeed) (d.ivPrefix P localSeed ++ seqBytes seq')
        (pkcs7Pad (P.utf8.encode (d.respond request))) = some answer ∧
      d.requestReply P localSeed ⟨url, some seq', payload, some d.cookie⟩ =
        .response 200 (P.sha256 (d.sigPrefix P localSeed ++ seqBytes seq' ++ answer) ++ answer)
          [] := by
  obtain ⟨hin, rfl⟩ := KlapEncryptionSession.encrypt_eq_ok henc
  obtain ⟨seqBytes', ciphertext, hseq, hcipher, hout⟩ :=
    KlapEncryptionSession.encrypt_of_inInt32 _ (P.utf8.encode request) hin
  have hin' : -2 ^ 31 ≤ seq + 1 ∧ seq + 1 < 2 ^ 31 := hin
  rw [toBytesSigned_eq_seqBytes hin, Option.some.injEq] at hseq
  subst hseq
  rw [henc, Except.ok.injEq, Prod.mk.injEq] at hout
  obtain ⟨rfl, -⟩ := hout
  change cbcEncrypt P.aes (d.key P localSeed) (d.ivPrefix P localSeed ++ seqBytes (seq + 1))
    (pkcs7Pad (P.utf8.encode request)) = some ciphertext at hcipher
  have hanswer : cbcEncrypt P.aes (d.key P localSeed)
      (d.ivPrefix P localSeed ++ seqBytes (seq + 1))
      (pkcs7Pad (P.utf8.encode (d.respond request))) = some _ :=
    if_pos ⟨cipherArgsValid_key localSeed (seq + 1), pkcs7Pad_length_mod _⟩
  refine ⟨_, hanswer, ?_⟩
  have hsig := P.sha256_length (d.sigPrefix P localSeed ++ seqBytes (seq + 1) ++ ciphertext)
  change d.requestReply P localSeed ⟨url, some (seq + 1),
    P.sha256 (d.sigPrefix P localSeed ++ seqBytes (seq + 1) ++ ciphertext) ++ ciphertext,
    some d.cookie⟩ = _
  dsimp only [requestReply]
  rw [if_neg (not_not.2 rfl), if_neg (not_not.2 hin'), List.take_left' hsig, List.drop_left' hsig,
    if_neg (not_not.2 rfl)]
  simp only [cbcDecrypt_cbcEncrypt P.aes hcipher, Option.some_bind, pkcs7Unpad_pkcs7Pad,
    P.utf8.decode_encode, hanswer]

/-- One `send` on a ready transport, before expiry and with the next `seq` in range: the
device reads the request, and the transport returns the device's answer to it, one `seq` on. -/
theorem Ready.send {t : KlapTransport V} {localSeed : Bytes} {expireAt seq : Int}
    (h : Ready P d t localSeed expireAt seq) {now : Int} (hnow : now < expireAt)
    (hseq : seq + 1 < 2 ^ 31) (request : String) :
    (d.send P t localSeed now request).2 =
        orRaise .jsonDecodeError (P.jsonLoads (d.respond request)) ∧
      Ready P d (d.send P t localSeed now request).1 localSeed expireAt (seq + 1) := by
  have hin : KlapEncryptionSession.InInt32 (seq + 1) := ⟨by have := h.seq_lower; omega, hseq⟩
  have hready : t.needsHandshake now = false :=
    KlapTransport.needsHandshake_eq_false.mpr ⟨h.handshakeDone, expireAt, h.sessionExpireAt, hnow⟩
  obtain ⟨payload, henc, hbegin⟩ :=
    KlapTransport.sendBegin_eq P t now request hready h.encryptionSession hin
  obtain ⟨answer, hanswer, hreply⟩ := requestReply_of_encrypt s!"http://{t.host}/app/request" henc
  have hanswered : KlapEncryptionSession.decrypt P
      { KlapEncryptionSession.new P localSeed d.remoteSeed d.authHash with seq := seq + 1 }
      (P.sha256 (d.sigPrefix P localSeed ++ seqBytes (seq + 1) ++ answer) ++ answer) =
        .ok (d.respond request) :=
    KlapEncryptionSession.decrypt_after_encrypt
      { KlapEncryptionSession.new P localSeed d.remoteSeed d.authHash with seq }
      (toBytesSigned_eq_seqBytes hin) hanswer
  simp only [KlapDevice.send, hbegin, h.cookie, hreply]
  refine ⟨?_, ?_⟩
  · rw [@KlapTransport.sendResume_200 V P _ _ _ _
      { KlapEncryptionSession.new P localSeed d.remoteSeed d.authHash with seq := seq + 1 } rfl,
      hanswered]
    rfl
  · rw [KlapTransport.sendResume_fst]
    exact ⟨by simp [h.handshakeDone, PostReply.isForbidden], h.sessionExpireAt, h.cookie, rfl,
      by have := h.seq_lower; omega⟩

theorem Ready.sendAll {t : KlapTransport V} {localSeed : Bytes} {expireAt seq : Int}
    (h : Ready P d t localSeed expireAt seq) {requests : List (Int × String)}
    (htimes : ∀ p ∈ requests, p.1 < expireAt) (hcount : seq + requests.length < 2 ^ 31) :
    (d.sendAll P t localSeed requests).2 =
      requests.map fun p => orRaise .jsonDecodeError (P.jsonLoads (d.respond p.2)) := by
  induction requests generalizing t seq with
  | nil => rfl
  | cons p rest ih =>
    rw [List.length_cons] at hcount
    have hsend := h.send (htimes p (.head _)) (by omega) p.2
    simp only [KlapDevice.sendAll, List.map_cons, hsend.1,
      ih hsend.2 (fun q hq => htimes q (.tail _ hq)) (by omega)]

end Agreement

end KlapDevice

end KasaTransport
