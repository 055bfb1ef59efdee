import KasaTransport.Primitives

/-!
The `cryptography` building blocks `KlapEncryptionSession` composes: PKCS#7 padding to 16-byte
blocks (`padding.PKCS7(128)`) and CBC mode over the block cipher (`modes.CBC(iv)`), each with
the `ValueError` checks of the library. The round trips hold for every message length, a whole
padding block being added to messages that are already aligned, and for every block cipher.
-/

namespace KasaTransport

/-- `padder.update(msg) + padder.finalize()`. -/
def pkcs7Pad (msg : Bytes) : Bytes :=
  let padLen := 16 - msg.length % 16
  msg ++ List.replicate padLen (UInt8.ofNat padLen)

/-- `unpadder.update(data) + unpadder.finalize()`: `finalize` needs exactly one block left in
the buffer, a last byte between 1 and 16, and that many copies of it at the end. -/
def pkcs7Unpad (data : Bytes) : Option Bytes :=
  if data.length % 16 = 0 ∧ 16 ≤ data.length then
    let padSize := (data.getLastD 0).toNat
    if 1 ≤ padSize ∧ padSize ≤ 16 ∧
        (data.drop (data.length - padSize)).all (· == UInt8.ofNat padSize) then
      some (data.take (data.length - padSize))
    else none
  else none

def blocksOf : Nat → Bytes → List Bytes
  | 0, _ => []
  | count + 1, data => data.take 16 :: blocksOf count (data.drop 16)

def cbcEncryptBlocks (encryptBlock : Bytes → Bytes) : Bytes → List Bytes → List Bytes
  | _, [] => []
  | iv, block :: rest =>
      encryptBlock (xorBytes iv block) :: cbcEncryptBlocks encryptBlock
        (encryptBlock (xorBytes iv block)) rest

def cbcDecryptBlocks (decryptBlock : Bytes → Bytes) : Bytes → List Bytes → List Bytes
  | _, [] => []
  | iv, block :: rest => xorBytes iv (decryptBlock block) :: cbcDecryptBlocks decryptBlock block rest

/-- What `Cipher(algorithms.AES(key), modes.CBC(iv))` checks: an AES key size and a one-block
IV. -/
def CipherArgsValid (key iv : Bytes) : Prop :=
  (key.length = 16 ∨ key.length = 24 ∨ key.length = 32) ∧ iv.length = 16

instance (key iv : Bytes) : Decidable (CipherArgsValid key iv) :=
  inferInstanceAs (Decidable (_ ∧ _))

/-- `encryptor.update(data) + encryptor.finalize()`; `finalize` raises `ValueError` when the
data is not a whole number of blocks. -/
def cbcEncrypt (aes : BlockCipher) (key iv data : Bytes) : Option Bytes :=
  if CipherArgsValid key iv ∧ data.length % 16 = 0 then
    some (cbcEncryptBlocks (aes.encrypt key) iv (blocksOf (data.length / 16) data)).flatten
  else none

/-- `decryptor.update(data) + decryptor.finalize()`, with the same checks. -/
def cbcDecrypt (aes : BlockCipher) (key iv data : Bytes) : Option Bytes :=
  if CipherArgsValid key iv ∧ data.length % 16 = 0 then
    some (cbcDecryptBlocks (aes.decrypt key) iv (blocksOf (data.length / 16) data)).flatten
  else none

theorem xorBytes_length (a b : Bytes) : (xorBytes a b).length = min a.length b.length :=
  List.length_zipWith _ _ _

theorem xorBytes_cancel_left {a b : Bytes} (h : a.length = b.length) :
    xorBytes a (xorBytes a b) = b := by
  induction a generalizing b with
  | nil => cases b <;> simp_all [xorBytes]
  | cons x a ih =>
      cases b with
      | nil => simp at h
      | cons y b =>
          simp only [xorBytes, List.zipWith_cons_cons, uint8_xor_cancel_left] at ih ⊢
          rw [ih (by simpa using h)]

theorem pkcs7Pad_length (msg : Bytes) :
    (pkcs7Pad msg).length = msg.length + (16 - msg.length % 16) := by
  simp [pkcs7Pad]

theorem pkcs7Pad_length_mod (msg : Bytes) : (pkcs7Pad msg).length % 16 = 0 := by
  rw [pkcs7Pad_length]; omega

theorem pkcs7Unpad_pkcs7Pad (msg : Bytes) : pkcs7Unpad (pkcs7Pad msg) = some msg := by
  have hpos : 0 < 16 - msg.length % 16 := by omega
  have hle : 16 - msg.length % 16 ≤ 16 := by omega
  have hlast : (pkcs7Pad msg).getLastD 0 = UInt8.ofNat (16 - msg.length % 16) := by
    obtain ⟨k, hk⟩ : ∃ k, 16 - msg.length % 16 = k + 1 := ⟨_, (Nat.succ_pred_eq_of_pos hpos).symm⟩
    simp [pkcs7Pad, hk, List.replicate_succ', List.getLastD_eq_getLast?]
  have hsize : (UInt8.ofNat (16 - msg.length % 16)).toNat = 16 - msg.length % 16 := by
    rw [uint8_toNat_ofNat]; omega
  have hsplit : (pkcs7Pad msg).length - (16 - msg.length % 16) = msg.length := by
    rw [pkcs7Pad_length]; omega
  rw [pkcs7Unpad, if_pos ⟨pkcs7Pad_length_mod msg, by rw [pkcs7Pad_length]; omega⟩, hlast, hsize]
  dsimp only
  rw [hsplit, if_pos ⟨hpos, hle, by simp [pkcs7Pad]⟩]
  simp [pkcs7Pad]

section Cbc

variable {encryptBlock decryptBlock : Bytes → Bytes}

@[simp] theorem blocksOf_length (count : Nat) (data : Bytes) :
    (blocksOf count data).length = count := by
  induction count generalizing data <;> simp_all [blocksOf]

theorem flatten_length_of_blocks {blocks : List Bytes} (h : ∀ b ∈ blocks, b.length = 16) :
    blocks.flatten.length = 16 * blocks.length := by
  induction blocks with
  | nil => rfl
  | cons b blocks ih =>
      simp only [List.flatten, List.length_append, List.length_cons,
        h b (List.mem_cons_self _ _), ih fun b' hb' => h b' (List.mem_cons_of_mem _ hb')]
      omega

theorem blocksOf_flatten {blocks : List Bytes} (h : ∀ b ∈ blocks, b.length = 16) :
    blocksOf blocks.length blocks.flatten = blocks := by
  induction blocks with
  | nil => rfl
  | cons b blocks ih =>
      have hb : b.length = 16 := h b (List.mem_cons_self _ _)
      simp only [List.length_cons, List.flatten, blocksOf, List.take_left' hb, List.drop_left' hb,
        ih fun b' hb' => h b' (List.mem_cons_of_mem _ hb')]

theorem blocksOf_spec {count : Nat} {data : Bytes} (h : data.length = 16 * count) :
    (blocksOf count data).flatten = data ∧ ∀ b ∈ blocksOf count data, b.length = 16 := by
  induction count generalizing data with
  | zero => simp_all [blocksOf]
  | succ count ih =>
      obtain ⟨hflat, hlen⟩ := @ih (data.drop 16) (by simp [h]; omega)
      refine ⟨by simp [blocksOf, hflat], ?_⟩
      simp only [blocksOf, List.mem_cons, forall_eq_or_imp, List.length_take]
      exact ⟨by omega, hlen⟩

theorem cbcEncryptBlocks_spec
    (hE : ∀ block, block.length = 16 → (encryptBlock block).length = 16)
    {iv : Bytes} (hiv : iv.length = 16) {blocks : List Bytes} (h : ∀ b ∈ blocks, b.length = 16) :
    (cbcEncryptBlocks encryptBlock iv blocks).length = blocks.length ∧
      ∀ c ∈ cbcEncryptBlocks encryptBlock iv blocks, c.length = 16 := by
  induction blocks generalizing iv with
  | nil => simp [cbcEncryptBlocks]
  | cons b blocks ih =>
      have hb : b.length = 16 := h b (List.mem_cons_self _ _)
      have hc : (encryptBlock (xorBytes iv b)).length = 16 :=
        hE _ (by rw [xorBytes_length, hiv, hb]; rfl)
      obtain ⟨hlen, hall⟩ := ih hc fun b' hb' => h b' (List.mem_cons_of_mem _ hb')
      simp only [cbcEncryptBlocks, List.length_cons, hlen, List.mem_cons, forall_eq_or_imp]
      exact ⟨trivial, hc, hall⟩

theorem cbcDecryptBlocks_cbcEncryptBlocks
    (hE : ∀ block, block.length = 16 → (encryptBlock block).length = 16)
    (hDE : ∀ block, block.length = 16 → decryptBlock (encryptBlock block) = block)
    {iv : Bytes} (hiv : iv.length = 16) {blocks : List Bytes} (h : ∀ b ∈ blocks, b.length = 16) :
    cbcDecryptBlocks decryptBlock iv (cbcEncryptBlocks encryptBlock iv blocks) = blocks := by
  induction blocks generalizing iv with
  | nil => rfl
  | cons b blocks ih =>
      have hb : b.length = 16 := h b (List.mem_cons_self _ _)
      have hx : (xorBytes iv b).length = 16 := by rw [xorBytes_length, hiv, hb]; rfl
      simp only [cbcEncryptBlocks, cbcDecryptBlocks, hDE _ hx, xorBytes_cancel_left (hiv.trans hb.symm),
        ih (hE _ hx) fun b' hb' => h b' (List.mem_cons_of_mem _ hb')]

end Cbc

/-- CBC decryption under the same key and IV undoes CBC encryption, for every block cipher. -/
theorem cbcDecrypt_cbcEncrypt (aes : BlockCipher) {key iv data ciphertext : Bytes}
    (h : cbcEncrypt aes key iv data = some ciphertext) :
    cbcDecrypt aes key iv ciphertext = some data := by
  unfold cbcEncrypt at h
  split at h
  · rename_i hargs
    cases h
    obtain ⟨hflat, hblocks⟩ := @blocksOf_spec (data.length / 16) data (by omega)
    obtain ⟨-, hall⟩ := cbcEncryptBlocks_spec (aes.encrypt_length key) hargs.1.2 hblocks
    have hclen := flatten_length_of_blocks hall
    rw [cbcDecrypt, if_pos ⟨hargs.1, by omega⟩, hclen, Nat.mul_div_cancel_left _ (by decide),
      blocksOf_flatten hall, cbcDecryptBlocks_cbcEncryptBlocks (aes.encrypt_length key)
        (aes.decrypt_encrypt key) hargs.1.2 hblocks, hflat]
  · cases h

end KasaTransport
