import KasaTransport.Klap.Cipher

/-!
`KlapEncryptionSession`: the key, IV prefix and signature prefix derived from the two seeds and
the auth hash, and the sequence counter `_seq`, an unbounded Python `int` that `encrypt`
increments before use and serialises with `to_bytes(4, "big", signed=True)`. AES is any
`BlockCipher` and the digests any functions of the right widths.
-/

namespace KasaTransport

/-- A session's state. The key and IV prefix lengths are fixed by their derivation; they are
what `Cipher(algorithms.AES(..), modes.CBC(..))` checks. -/
structure KlapEncryptionSession where
  localSeed : Bytes
  remoteSeed : Bytes
  userHash : Bytes
  key : Bytes
  iv : Bytes
  seq : Int
  sig : Bytes
  key_length : key.length = 16
  iv_length : iv.length = 12

namespace KlapEncryptionSession

def blockLengthMessage : String :=
  "The length of the provided data is not a multiple of the block length."

def paddingMessage : String := "Invalid padding bytes."

section Operations

variable (P : Primitives)

/-- `_key_derive`: `sha256(b"lsk" + local_seed + remote_seed + user_hash)[:16]`. -/
def keyDerive (localSeed remoteSeed userHash : Bytes) : Bytes :=
  (P.sha256 ([0x6c, 0x73, 0x6b] ++ localSeed ++ remoteSeed ++ userHash)).take 16

/-- `_iv_derive`: the first 12 bytes of `sha256(b"iv" + ..)` and its last four read as a signed
big-endian integer. -/
def ivDerive (localSeed remoteSeed userHash : Bytes) : Bytes × Int :=
  let fulliv := P.sha256 ([0x69, 0x76] ++ localSeed ++ remoteSeed ++ userHash)
  (fulliv.take 12, fromBytesSigned (fulliv.drop (fulliv.length - 4)))

/-- `_sig_derive`: `sha256(b"ldk" + local_seed + remote_seed + user_hash)[:28]`. -/
def sigDerive (localSeed remoteSeed userHash : Bytes) : Bytes :=
  (P.sha256 ([0x6c, 0x64, 0x6b] ++ localSeed ++ remoteSeed ++ userHash)).take 28

/-- `KlapEncryptionSession(local_seed, remote_seed, user_hash)`. -/
def new (localSeed remoteSeed userHash : Bytes) : KlapEncryptionSession where
  localSeed := localSeed
  remoteSeed := remoteSeed
  userHash := userHash
  key := keyDerive P localSeed remoteSeed userHash
  iv := (ivDerive P localSeed remoteSeed userHash).1
  seq := (ivDerive P localSeed remoteSeed userHash).2
  sig := sigDerive P localSeed remoteSeed userHash
  key_length := by simp [keyDerive, P.sha256_length]
  iv_length := by simp [ivDerive, P.sha256_length]

/-- `_iv_seq()`: the IV prefix followed by the four bytes of the current `_seq`. -/
def ivSeq (s : KlapEncryptionSession) : Except PyException Bytes :=
  (s.iv ++ ·) <$> orRaise .overflowError (toBytesSigned s.seq)

/-- `encrypt(msg)`. The counter is incremented first and stays incremented when the rest
raises. Returns the session state it leaves and the outcome `(signature + ciphertext, seq)`. -/
def encrypt (s : KlapEncryptionSession) (msg : Bytes) :
    KlapEncryptionSession × Except PyException (Bytes × Int) :=
  let s := { s with seq := s.seq + 1 }
  (s, do
    let iv ← s.ivSeq
    let ciphertext ← orRaise (.valueError blockLengthMessage)
      (cbcEncrypt P.aes s.key iv (pkcs7Pad msg))
    let seqBytes ← orRaise .overflowError (toBytesSigned s.seq)
    pure (P.sha256 (s.sig ++ seqBytes ++ ciphertext) ++ ciphertext, s.seq))

/-- `decrypt(msg)`: the first 32 bytes are skipped unverified; the rest is decrypted under the
IV of the current `_seq`, unpadded and decoded. -/
def decrypt (s : KlapEncryptionSession) (msg : Bytes) : Except PyException String := do
  let iv ← s.ivSeq
  let dp ← orRaise (.valueError blockLengthMessage) (cbcDecrypt P.aes s.key iv (msg.drop 32))
  let plaintextbytes ← orRaise (.valueError paddingMessage) (pkcs7Unpad dp)
  orRaise .unicodeDecodeError (P.utf8.decode plaintextbytes)

end Operations

/-- The signed 32-bit range `to_bytes(4, signed=True)` accepts. -/
def InInt32 (v : Int) : Prop := -2 ^ 31 ≤ v ∧ v < 2 ^ 31

instance (v : Int) : Decidable (InInt32 v) := inferInstanceAs (Decidable (_ ∧ _))

/-- The same session object after some `encrypt` calls: only `_seq` differs. -/
def SameExceptSeq (s s' : KlapEncryptionSession) : Prop := { s with seq := s'.seq } = s'

theorem SameExceptSeq.refl (s : KlapEncryptionSession) : SameExceptSeq s s := rfl

theorem SameExceptSeq.trans {s s' s'' : KlapEncryptionSession} (h : SameExceptSeq s s')
    (h' : SameExceptSeq s' s'') : SameExceptSeq s s'' := by
  unfold SameExceptSeq at *
  rw [← h', ← h]

theorem SameExceptSeq.withSeq (s : KlapEncryptionSession) (n : Int) :
    SameExceptSeq s { s with seq := n } := rfl

variable {P : Primitives}

@[simp] theorem encrypt_fst (s : KlapEncryptionSession) (msg : Bytes) :
    (encrypt P s msg).1 = { s with seq := s.seq + 1 } := rfl

theorem ivSeq_eq (s : KlapEncryptionSession) {seqBytes : Bytes}
    (h : toBytesSigned s.seq = some seqBytes) : s.ivSeq = .ok (s.iv ++ seqBytes) := by
  simp [ivSeq, h]

theorem cipherArgsValid_ivSeq (s : KlapEncryptionSession) {seqBytes : Bytes}
    (h : toBytesSigned s.seq = some seqBytes) : CipherArgsValid s.key (s.iv ++ seqBytes) := by
  simp [CipherArgsValid, s.key_length, s.iv_length, toBytesSigned_length h]

/-- Two `seq` values in the signed 32-bit range give different IVs. -/
theorem ivSeq_ne (s : KlapEncryptionSession) {a b : Int} (ha : InInt32 a) (hb : InInt32 b)
    (hab : a ≠ b) : ivSeq { s with seq := a } ≠ ivSeq { s with seq := b } := by
  have hba := toBytesSigned_eq_some ha
  have hbb := toBytesSigned_eq_some hb
  intro h
  simp only [ivSeq_eq { s with seq := a } hba, ivSeq_eq { s with seq := b } hbb, Except.ok.injEq,
    List.append_cancel_left_eq] at h
  exact hab ((fromBytesSigned_toBytesSigned hba).symm.trans
    (h ▸ fromBytesSigned_toBytesSigned hbb))

theorem encrypt_of_inInt32 (s : KlapEncryptionSession) (msg : Bytes) (h : InInt32 (s.seq + 1)) :
    ∃ seqBytes ciphertext, toBytesSigned (s.seq + 1) = some seqBytes ∧
      cbcEncrypt P.aes s.key (s.iv ++ seqBytes) (pkcs7Pad msg) = some ciphertext ∧
      (encrypt P s msg).2 =
        .ok (P.sha256 (s.sig ++ seqBytes ++ ciphertext) ++ ciphertext, s.seq + 1) := by
  obtain ⟨seqBytes, hseq⟩ : ∃ b, toBytesSigned (s.seq + 1) = some b :=
    ⟨_, toBytesSigned_eq_some h⟩
  have hargs := cipherArgsValid_ivSeq { s with seq := s.seq + 1 } hseq
  have henc : cbcEncrypt P.aes s.key (s.iv ++ seqBytes) (pkcs7Pad msg) = some _ :=
    if_pos ⟨hargs, pkcs7Pad_length_mod msg⟩
  refine ⟨seqBytes, _, hseq, henc, ?_⟩
  simp only [encrypt, ivSeq_eq { s with seq := s.seq + 1 } hseq, henc, hseq,
    except_ok_bind, orRaise_some, except_pure]

theorem encrypt_of_not_inInt32 (s : KlapEncryptionSession) (msg : Bytes)
    (h : ¬InInt32 (s.seq + 1)) : (encrypt P s msg).2 = .error .overflowError := by
  simp only [encrypt, ivSeq, toBytesSigned_eq_none h]
  rfl

theorem decrypt_after_encrypt (s : KlapEncryptionSession) {r : String} {seqBytes ciphertext : Bytes}
    (hseq : toBytesSigned (s.seq + 1) = some seqBytes)
    (henc : cbcEncrypt P.aes s.key (s.iv ++ seqBytes) (pkcs7Pad (P.utf8.encode r)) = some ciphertext) :
    decrypt P { s with seq := s.seq + 1 } (P.sha256 (s.sig ++ seqBytes ++ ciphertext) ++ ciphertext) =
      .ok r := by
  simp only [decrypt, ivSeq_eq { s with seq := s.seq + 1 } hseq,
    List.drop_left' (P.sha256_length _), cbcDecrypt_cbcEncrypt P.aes henc, pkcs7Unpad_pkcs7Pad,
    P.utf8.decode_encode, except_ok_bind, orRaise_some]

theorem encrypt_eq_ok {s : KlapEncryptionSession} {msg payload : Bytes} {seq : Int}
    (h : (encrypt P s msg).2 = .ok (payload, seq)) : InInt32 (s.seq + 1) ∧ seq = s.seq + 1 := by
  by_cases hin : InInt32 (s.seq + 1)
  · obtain ⟨_, _, -, -, hout⟩ := encrypt_of_inInt32 s msg hin
    rw [hout, Except.ok.injEq, Prod.mk.injEq] at h
    exact ⟨hin, h.2.symm⟩
  · rw [encrypt_of_not_inInt32 s msg hin] at h
    cases h

theorem decrypt_of_encrypt (s : KlapEncryptionSession) {r : String} {payload : Bytes} {seq : Int}
    (h : (encrypt P s (P.utf8.encode r)).2 = .ok (payload, seq)) :
    decrypt P { s with seq := s.seq + 1 } payload = .ok r := by
  by_cases hin : InInt32 (s.seq + 1)
  · obtain ⟨seqBytes, ciphertext, hseq, henc, hout⟩ := encrypt_of_inInt32 s (P.utf8.encode r) hin
    rw [hout, Except.ok.injEq, Prod.mk.injEq] at h
    rw [← h.1]
    exact decrypt_after_encrypt s hseq henc
  · rw [encrypt_of_not_inInt32 s _ hin] at h
    cases h

theorem decrypt_drop_signature (s : KlapEncryptionSession) {msg msg' : Bytes}
    (h : msg.drop 32 = msg'.drop 32) : decrypt P s msg = decrypt P s msg' := by
  simp only [decrypt, h]

/-- The request round trip: for a session whose next `seq` fits in 32 signed bits, `encrypt`
returns that `seq` and `signature + ciphertext`, with the CBC ciphertext of the padded message
under the IV of that `seq` and the signature over the same four `seq` bytes; `decrypt` on the
state `encrypt` leaves gives the text back. -/
theorem encrypt_decrypt_roundtrip (P : Primitives) (s : KlapEncryptionSession) (r : String)
    (h : InInt32 (s.seq + 1)) :
    ∃ seqBytes ciphertext,
      toBytesSigned (s.seq + 1) = some seqBytes ∧
      cbcEncrypt P.aes s.key (s.iv ++ seqBytes) (pkcs7Pad (P.utf8.encode r)) = some ciphertext ∧
      encrypt P s (P.utf8.encode r) = ({ s with seq := s.seq + 1 },
        .ok (P.sha256 (s.sig ++ seqBytes ++ ciphertext) ++ ciphertext, s.seq + 1)) ∧
      decrypt P (encrypt P s (P.utf8.encode r)).1
        (P.sha256 (s.sig ++ seqBytes ++ ciphertext) ++ ciphertext) = .ok r := by
  obtain ⟨seqBytes, ciphertext, hseq, henc, hout⟩ := encrypt_of_inInt32 s (P.utf8.encode r) h
  exact ⟨seqBytes, ciphertext, hseq, henc, Prod.ext rfl hout, decrypt_after_encrypt s hseq henc⟩

theorem encrypt_decrypt_roundtrip_sample :
    InInt32 ((new Primitives.sample [] [] []).seq + 1) ∧
      ∃ seqBytes ciphertext,
        toBytesSigned ((new Primitives.sample [] [] []).seq + 1) = some seqBytes ∧
        decrypt Primitives.sample (encrypt Primitives.sample (new Primitives.sample [] [] [])
          (Primitives.sample.utf8.encode "null")).1
          (Primitives.sample.sha256 ((new Primitives.sample [] [] []).sig ++ seqBytes ++
            ciphertext) ++ ciphertext) = .ok "null" :=
  have ⟨seqBytes, ciphertext, hseq, _, _, hdec⟩ :=
    encrypt_decrypt_roundtrip Primitives.sample (new Primitives.sample [] [] []) "null" (by decide)
  ⟨by decide, seqBytes, ciphertext, hseq, hdec⟩

/-- `_seq` is an unbounded Python `int`: past `2 ^ 31 - 1` it is not wrapped, and the
`to_bytes(4, signed=True)` of `_iv_seq` raises `OverflowError` after the increment. -/
theorem encrypt_at_int32_max_overflows (P : Primitives) (s : KlapEncryptionSession)
    (msg : Bytes) :
    encrypt P { s with seq := 2 ^ 31 - 1 } msg =
      ({ s with seq := 2 ^ 31 }, .error .overflowError) := by
  refine Prod.ext (by simp) (encrypt_of_not_inInt32 _ _ ?_)
  simp [InInt32]

end KlapEncryptionSession

end KasaTransport
