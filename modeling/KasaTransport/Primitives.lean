import KasaTransport.Bytes

/-!
The library calls both transports make: the digests of `cryptography.hazmat` (`md5`, `_sha1`,
`_sha256`), the AES block cipher behind `Cipher(algorithms.AES(key), ..)`, Python's UTF-8 codec
(`str.encode()` and strict `bytes.decode()`) and `kasa.json.loads`. None of them is code of this
repository, so each is a field of `Primitives`, constrained only by what the transports rely on:
the digest widths, that AES decryption undoes encryption on a block, and that decoding an
encoding gives the text back.
-/

namespace KasaTransport

/-- A keyed permutation of 16-byte blocks together with its inverse, as AES-128 is used. -/
structure BlockCipher where
  encrypt : Bytes → Bytes → Bytes
  decrypt : Bytes → Bytes → Bytes
  encrypt_length : ∀ key block, block.length = 16 → (encrypt key block).length = 16
  decrypt_encrypt : ∀ key block, block.length = 16 → decrypt key (encrypt key block) = block

/-- `str.encode()` and `bytes.decode()`: decoding fails (`UnicodeDecodeError`) on bytes that
are not an encoding, and gives back every text it encoded. -/
structure Utf8Codec where
  encode : String → Bytes
  decode : Bytes → Option String
  decode_encode : ∀ text, decode (encode text) = some text

/-- A decoded JSON document, as `kasa.json.loads` returns it to the caller. -/
inductive Json where
  | null
  | bool (b : Bool)
  | number (n : Int)
  | string (s : String)
  | array (items : List Json)
  | object (fields : List (String × Json))

/-- The exceptions the modelled code raises or lets escape. `AuthenticationException` is a
subclass of `SmartDeviceException` in `kasa.exceptions`. -/
inductive PyException where
  | smartDeviceException (msg : String)
  | authenticationException (msg : String)
  /-- `int.to_bytes` on a value outside the signed 32-bit range. -/
  | overflowError
  /-- The cipher and padding checks of `cryptography`. -/
  | valueError (msg : String)
  | unicodeDecodeError
  | jsonDecodeError
  /-- A failed `httpx` request: connection error, timeout, closed client. -/
  | httpError
  /-- `asyncio.CancelledError`, delivered to a task at an `await`. -/
  | cancelledError
  /-- A local read before assignment, the guarded-for-mypy branch of `KlapTransport.send`. -/
  | unboundLocalError
  /-- An attribute read on `None`, such as the cookies of a closed client. -/
  | attributeError
  /-- `httpx.CookieConflict`, raised by `Cookies.get` on a second cookie of the name. -/
  | cookieConflict
  deriving DecidableEq, Repr

/-- An exception `except SmartDeviceException` catches. -/
def PyException.IsSmartDeviceException : PyException → Prop
  | .smartDeviceException _ | .authenticationException _ => True
  | _ => False

/-- A failing library call as the exception it raises. -/
def orRaise {α : Type} (e : PyException) : Option α → Except PyException α
  | none => .error e
  | some a => .ok a

@[simp] theorem orRaise_some {α : Type} (e : PyException) (a : α) :
    orRaise e (some a) = .ok a := rfl

@[simp] theorem orRaise_none {α : Type} (e : PyException) :
    orRaise e (none : Option α) = .error e := rfl

@[simp] theorem except_ok_bind {ε α β : Type} (a : α) (f : α → Except ε β) :
    (Except.ok a >>= f) = f a := rfl

@[simp] theorem except_error_bind {ε α β : Type} (e : ε) (f : α → Except ε β) :
    (Except.error e >>= f) = Except.error e := rfl

@[simp] theorem except_pure {ε α : Type} (a : α) : (pure a : Except ε α) = Except.ok a := rfl

structure Primitives where
  md5 : Bytes → Bytes
  md5_length : ∀ payload, (md5 payload).length = 16
  sha1 : Bytes → Bytes
  sha1_length : ∀ payload, (sha1 payload).length = 20
  sha256 : Bytes → Bytes
  sha256_length : ∀ payload, (sha256 payload).length = 32
  aes : BlockCipher
  utf8 : Utf8Codec
  /-- `kasa.json.loads`; `none` is the `JSONDecodeError` it raises. -/
  jsonLoads : String → Option Json

namespace Primitives

/-- Four bytes per character: a codec that meets `Utf8Codec`'s law, used to run the model. -/
def wideEncode (text : String) : Bytes :=
  text.data.flatMap fun c => beBytes 4 c.toNat

def wideDecodeChars : Bytes → Option (List Char)
  | [] => some []
  | b0 :: b1 :: b2 :: b3 :: rest =>
      (Char.ofNat (beValue [b0, b1, b2, b3]) :: ·) <$> wideDecodeChars rest
  | _ => none

theorem wideDecodeChars_flatMap (cs : List Char) :
    wideDecodeChars (cs.flatMap fun c => beBytes 4 c.toNat) = some cs := by
  induction cs with
  | nil => rfl
  | cons c cs ih =>
      have hc : c.toNat < 256 ^ 4 := by
        rcases c.valid with h | h <;> simp only [Char.toNat] <;> omega
      have hbytes : beValue (beBytes 4 c.toNat) = c.toNat := by
        rw [beValue_beBytes, Nat.mod_eq_of_lt hc]
      obtain ⟨b0, b1, b2, b3, hb⟩ : ∃ b0 b1 b2 b3, beBytes 4 c.toNat = [b0, b1, b2, b3] :=
        ⟨_, _, _, _, rfl⟩
      rw [hb] at hbytes
      rw [List.flatMap_cons, hb]
      simp [wideDecodeChars, ih, hbytes]

/-- Primitives under which the model can be evaluated on concrete inputs: truncating digests,
the identity cipher and the four-byte codec. They stand in for the libraries nowhere else. -/
def sample : Primitives where
  md5 payload := (payload ++ List.replicate 16 0).take 16
  md5_length _ := by simp
  sha1 payload := (payload ++ List.replicate 20 0).take 20
  sha1_length _ := by simp
  sha256 payload := (payload ++ List.replicate 32 0).take 32
  sha256_length _ := by simp
  aes := ⟨fun _ block => block, fun _ block => block, fun _ _ h => h, fun _ _ _ => rfl⟩
  utf8 := ⟨wideEncode, fun bytes => String.mk <$> wideDecodeChars bytes,
    fun text => by simp [wideEncode, wideDecodeChars_flatMap]⟩
  jsonLoads text := some (.string text)

end Primitives

end KasaTransport
