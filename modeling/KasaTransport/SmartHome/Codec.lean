import KasaTransport.Primitives

/-!
The legacy frame codec of `TPLinkSmartHomeProtocol`: the auto-keyed XOR generators
`_xor_payload` and `_xor_encrypted_payload`, `encrypt`, `decrypt`, and the way `_execute_query`
reads one response frame off the stream. The two generators keep different running keys (the
encoder keeps its output byte, the decoder its input byte); they are shown mutually inverse on
every byte string, and a frame written by `encrypt` is read back exactly.
-/

namespace KasaTransport
namespace TPLinkSmartHomeProtocol

def initializationVector : UInt8 := 171

/-- The loop of `_xor_payload` from running key `key`: each output byte is the next key. -/
def xorPayloadFrom : UInt8 → Bytes → Bytes
  | _, [] => []
  | key, unencryptedbyte :: rest =>
      (key ^^^ unencryptedbyte) :: xorPayloadFrom (key ^^^ unencryptedbyte) rest

def xorPayload (unencrypted : Bytes) : Bytes :=
  xorPayloadFrom initializationVector unencrypted

/-- The loop of `_xor_encrypted_payload` from running key `key`: each input byte is the next
key. -/
def xorEncryptedPayloadFrom : UInt8 → Bytes → Bytes
  | _, [] => []
  | key, cipherbyte :: rest => (key ^^^ cipherbyte) :: xorEncryptedPayloadFrom cipherbyte rest

def xorEncryptedPayload (ciphertext : Bytes) : Bytes :=
  xorEncryptedPayloadFrom initializationVector ciphertext

section Frames

variable (P : Primitives)

/-- `encrypt(request)`: the big-endian length of the encoded request, then its XOR stream;
`none` is the `struct.error` of a request of `2 ^ 32` bytes or more. -/
def encrypt (request : String) : Option Bytes :=
  let plainbytes := P.utf8.encode request
  (· ++ xorPayload plainbytes) <$> structPackU32 plainbytes.length

/-- `decrypt(ciphertext)`; `none` is the `UnicodeDecodeError` of `.decode()`. -/
def decrypt (ciphertext : Bytes) : Option String :=
  P.utf8.decode (xorEncryptedPayload ciphertext)

/-- `reader.readexactly(n)` on a stream that holds `stream`; `none` is the
`IncompleteReadError` raised at its end. -/
def readExactly (n : Nat) (stream : Bytes) : Option (Bytes × Bytes) :=
  if n ≤ stream.length then some (stream.take n, stream.drop n) else none

/-- One response as `_execute_query` reads it: four bytes unpacked as the length, that many
bytes, then `decrypt`. Returns the text and what is left of the stream. -/
def readFrame (stream : Bytes) : Option (String × Bytes) := do
  let (packedBlockSize, stream) ← readExactly 4 stream
  let (buffer, stream) ← readExactly (structUnpackU32 packedBlockSize) stream
  let response ← decrypt P buffer
  pure (response, stream)

end Frames

@[simp] theorem xorPayloadFrom_length (key : UInt8) (unencrypted : Bytes) :
    (xorPayloadFrom key unencrypted).length = unencrypted.length := by
  induction unencrypted generalizing key with
  | nil => rfl
  | cons b rest ih => simp [xorPayloadFrom, ih]

@[simp] theorem xorPayload_length (unencrypted : Bytes) :
    (xorPayload unencrypted).length = unencrypted.length :=
  xorPayloadFrom_length _ _

@[simp] theorem xorEncryptedPayloadFrom_length (key : UInt8) (ciphertext : Bytes) :
    (xorEncryptedPayloadFrom key ciphertext).length = ciphertext.length := by
  induction ciphertext generalizing key with
  | nil => rfl
  | cons c rest ih => simp [xorEncryptedPayloadFrom, ih]

theorem xorEncryptedPayloadFrom_xorPayloadFrom (key : UInt8) (unencrypted : Bytes) :
    xorEncryptedPayloadFrom key (xorPayloadFrom key unencrypted) = unencrypted := by
  induction unencrypted generalizing key with
  | nil => rfl
  | cons b rest ih =>
      simp only [xorPayloadFrom, xorEncryptedPayloadFrom, ih, uint8_xor_cancel_left]

theorem xorPayloadFrom_xorEncryptedPayloadFrom (key : UInt8) (ciphertext : Bytes) :
    xorPayloadFrom key (xorEncryptedPayloadFrom key ciphertext) = ciphertext := by
  induction ciphertext generalizing key with
  | nil => rfl
  | cons c rest ih =>
      simp only [xorEncryptedPayloadFrom, xorPayloadFrom, uint8_xor_cancel_left, ih]

theorem readExactly_append {n : Nat} {front : Bytes} (h : front.length = n) (rest : Bytes) :
    readExactly n (front ++ rest) = some (front, rest) := by
  subst h
  simp [readExactly]

theorem encrypt_eq (P : Primitives) (request : String)
    (h : (P.utf8.encode request).length < 2 ^ 32) :
    encrypt P request = some (beBytes 4 (P.utf8.encode request).length ++
      xorPayload (P.utf8.encode request)) := by
  simp only [encrypt, structPackU32_of_lt h]
  rfl

theorem decrypt_xorPayload (P : Primitives) (text : String) :
    decrypt P (xorPayload (P.utf8.encode text)) = some text := by
  rw [decrypt, xorPayload, xorEncryptedPayload, xorEncryptedPayloadFrom_xorPayloadFrom,
    P.utf8.decode_encode]

theorem encrypt_eq_some {P : Primitives} {request : String} {frame : Bytes}
    (h : encrypt P request = some frame) :
    (P.utf8.encode request).length < 2 ^ 32 ∧
      frame = beBytes 4 (P.utf8.encode request).length ++ xorPayload (P.utf8.encode request) := by
  by_cases hlen : (P.utf8.encode request).length < 2 ^ 32
  · rw [encrypt_eq P request hlen] at h
    exact ⟨hlen, (Option.some.inj h).symm⟩
  · simp only [encrypt, structPackU32, if_neg hlen, Option.map_eq_map, Option.map_none'] at h
    cases h

@[simp] theorem readFrame_nil (P : Primitives) : readFrame P [] = none := rfl

theorem readFrame_append (P : Primitives) (payload rest : Bytes)
    (h : payload.length < 2 ^ 32) :
    readFrame P (beBytes 4 payload.length ++ payload ++ rest) =
      (decrypt P payload).map (·, rest) := by
  have hlen : structUnpackU32 (beBytes 4 payload.length) = payload.length :=
    structUnpackU32_beBytes h
  rw [readFrame, List.append_assoc, readExactly_append (beBytes_length 4 _)]
  simp only [Option.pure_def, Option.bind_eq_bind, Option.some_bind, hlen,
    readExactly_append rfl]
  cases decrypt P payload <;> rfl

/-- The frame of `text`, as `encrypt` writes it, read off the front of a stream. -/
theorem readFrame_encrypt (P : Primitives) (text : String)
    (h : (P.utf8.encode text).length < 2 ^ 32) (rest : Bytes) :
    readFrame P (beBytes 4 (P.utf8.encode text).length ++ (xorPayload (P.utf8.encode text) ++ rest)) =
      some (text, rest) := by
  have hlen : (xorPayload (P.utf8.encode text)).length = (P.utf8.encode text).length :=
    xorPayloadFrom_length _ _
  have hread := readFrame_append P (xorPayload (P.utf8.encode text)) rest (hlen ▸ h)
  rw [hlen, List.append_assoc, decrypt_xorPayload] at hread
  exact hread

/-- A device reading a stream that holds exactly one frame reads its request and nothing
more. -/
theorem readFrame_of_encrypt {P : Primitives} {request : String} {frame : Bytes}
    (h : encrypt P request = some frame) : readFrame P frame = some (request, []) := by
  obtain ⟨hlen, rfl⟩ := encrypt_eq_some h
  simpa using readFrame_encrypt P request hlen []

/-- The frame codec: `encrypt` writes the four-byte length and exactly that many payload bytes,
the frame reader gives the text back and stops at the frame's end, and the two XOR generators
are mutually inverse and length-preserving on every byte string. -/
theorem encrypt_frame_roundtrip (P : Primitives) (t : String)
    (h : (P.utf8.encode t).length < 2 ^ 32) :
    (∃ frame, encrypt P t = some frame ∧
      frame.take 4 = beBytes 4 (P.utf8.encode t).length ∧
      structUnpackU32 (frame.take 4) = (P.utf8.encode t).length ∧
      (frame.drop 4).length = (P.utf8.encode t).length ∧
      ∀ rest, readFrame P (frame ++ rest) = some (t, rest)) ∧
    (∀ x, xorEncryptedPayload (xorPayload x) = x) ∧
    (∀ y, xorPayload (xorEncryptedPayload y) = y) ∧
    (∀ x, (xorPayload x).length = x.length) ∧
    (∀ y, (xorEncryptedPayload y).length = y.length) := by
  refine ⟨⟨_, encrypt_eq P t h, ?_, ?_, ?_, fun rest => ?_⟩,
    fun x => xorEncryptedPayloadFrom_xorPayloadFrom _ x,
    fun y => xorPayloadFrom_xorEncryptedPayloadFrom _ y,
    fun x => xorPayloadFrom_length _ x, fun y => xorEncryptedPayloadFrom_length _ y⟩
  · simp
  · simp [structUnpackU32_beBytes h]
  · simp [xorPayload]
  · have hlen : (xorPayload (P.utf8.encode t)).length = (P.utf8.encode t).length :=
      xorPayloadFrom_length _ _
    have hround := readFrame_append P (xorPayload (P.utf8.encode t)) rest (hlen ▸ h)
    rw [hlen] at hround
    rw [hround, decrypt_xorPayload]
    rfl

theorem encrypt_frame_roundtrip_sample :
    (Primitives.sample.utf8.encode "null").length < 2 ^ 32 ∧
      ∃ frame, encrypt Primitives.sample "null" = some frame ∧
        ∀ rest, readFrame Primitives.sample (frame ++ rest) = some ("null", rest) :=
  have ⟨⟨frame, hframe, _, _, _, hread⟩, _⟩ :=
    encrypt_frame_roundtrip Primitives.sample "null" (by decide)
  ⟨by decide, frame, hframe, hread⟩

/-- The running key on the bytes of `{"a":1}`: each output byte keys the next one. -/
example : xorPayload [0x7b, 0x22, 0x61, 0x22, 0x3a, 0x31, 0x7d] =
    [0xd0, 0xf2, 0x93, 0xb1, 0x8b, 0xba, 0xc7] := by decide

end TPLinkSmartHomeProtocol
end KasaTransport
