import IssuerGate.Digest.Pbkdf2
import Mathlib.Tactic

/-!
# IssuerGate — keys derived from passwords

A key is derived in thousands of rounds, so the rounds start from two prepared states and compress
one block each. The standards say it in bytes: a code is a digest of a digest, the key block in
front of both, and a derived key is the exclusive or of codes, each the code of the one before.

* **`Hmac.mac`** and **`Pbkdf2.key`** — the code and the key as the standards have them.
* **`Sha256.digest_append`** — a whole block in front is absorbed first.
* **`Hmac.bytes_code`**, **`Hmac.codeOfDigest_eq_code`** — so prepared states give the code, and two
  compressions give that of a digest.
* **`Pbkdf2.derive_eq_key`** — the rounds derive the key.
* **`Pbkdf2.key_congr`** — passwords that prepare to one key block derive the same keys.
* **`Hmac.preparedKey_append_zeros`** — so do a short password and the same with zeros behind it.
-/

namespace IssuerGate

/-! ## Digests of messages that start with a whole block -/

namespace Sha256

/-- Four bytes make a word. -/
theorem length_words (xs : Bytes) : (words xs).length = xs.length / 4 := by
  fun_induction words xs with
  | case1 a b c d rest ih =>
    simp only [List.length_cons, ih]
    omega
  | case2 xs hshort =>
    have hlt : xs.length < 4 := by
      match xs, hshort with
      | [], _ | [_], _ | [_, _], _ | [_, _, _], _ => simp
      | a :: b :: c :: d :: rest, hshort => exact absurd rfl (hshort a b c d rest)
    rw [List.length_nil]
    omega

/-- Bytes in whole words are read before those that follow. -/
theorem words_append {xs : Bytes} (h : xs.length % 4 = 0) (ys : Bytes) :
    words (xs ++ ys) = words xs ++ words ys := by
  fun_induction words xs with
  | case1 a b c d rest ih =>
    have hrest : rest.length % 4 = 0 := by
      simp only [List.length_cons] at h
      omega
    rw [List.cons_append, List.cons_append, List.cons_append, List.cons_append, words, ih hrest,
      List.cons_append]
  | case2 xs hshort =>
    -- fewer than four bytes that are whole words are none
    have hnil : xs = [] := by
      match xs, h, hshort with
      | [], _, _ => rfl
      | a :: b :: c :: d :: rest, _, hshort => exact absurd rfl (hshort a b c d rest)
    rw [hnil]
    rfl

/-- A block is absorbed before the words that follow. -/
theorem absorb_append {block : List UInt32} (s : State) (h : block.length = 16)
    (ws : List UInt32) : absorb s (block ++ ws) = absorb (absorb s block) ws := by
  match block, h with
  | [_, _, _, _, _, _, _, _, _, _, _, _, _, _, _, _], _ => rfl

/-- A message that starts with a whole block is digested from the state after that block. -/
theorem digest_append {block : Bytes} (h : block.length = 64) (message : Bytes) :
    digest (block ++ message) = (finish (absorb initial (words block)) 64 message).bytes := by
  have hwords : (words block).length = 16 := by rw [length_words, h]
  unfold digest finish
  rw [List.append_assoc, words_append (by omega), absorb_append initial hwords, List.length_append,
    h, Nat.zero_add]

theorem length_bytes (s : State) : s.bytes.length = 32 := rfl

/-- A word is put together again from its bytes. -/
theorem word_wordBytes (w : UInt32) :
    word (w >>> 24).toUInt8 (w >>> 16).toUInt8 (w >>> 8).toUInt8 w.toUInt8 = w := by
  refine UInt32.eq_of_toBitVec_eq (BitVec.eq_of_getLsbD_eq fun i hi => ?_)
  have h24 : ((24 : UInt32).toBitVec % 32).toNat = 24 := rfl
  have h16 : ((16 : UInt32).toBitVec % 32).toNat = 16 := rfl
  have h8 : ((8 : UInt32).toBitVec % 32).toNat = 8 := rfl
  simp only [word, UInt32.toBitVec_or, UInt32.toBitVec_shiftLeft, UInt8.toBitVec_toUInt32,
    UInt32.toBitVec_toUInt8, UInt32.toBitVec_shiftRight, BitVec.getLsbD_or, BitVec.shiftLeft_eq',
    BitVec.ushiftRight_eq', BitVec.getLsbD_shiftLeft, BitVec.getLsbD_setWidth,
    BitVec.getLsbD_ushiftRight, h24, h16, h8]
  -- bit `i` comes from the byte that holds it, and the other three have a zero there
  grind

theorem words_bytes_append (s : State) (rest : Bytes) :
    words (s.bytes ++ rest) = [s.a, s.b, s.c, s.d, s.e, s.f, s.g, s.h] ++ words rest := by
  have hbytes : s.bytes.length % 4 = 0 := by rw [length_bytes]
  have hwords : words s.bytes = [s.a, s.b, s.c, s.d, s.e, s.f, s.g, s.h] := by
    simp only [State.bytes, wordBytes, List.cons_append, List.nil_append, words, word_wordBytes]
  rw [words_append hbytes, hwords]

/-! ## Exclusive or -/

/-- The exclusive or of two byte lists, place by place. -/
def xorBytes (xs ys : Bytes) : Bytes := List.zipWith (· ^^^ ·) xs ys

theorem wordBytes_xor (v w : UInt32) :
    wordBytes (v ^^^ w) = xorBytes (wordBytes v) (wordBytes w) := by
  have hshift (n : UInt32) : (v ^^^ w) >>> n = (v >>> n) ^^^ (w >>> n) :=
    UInt32.eq_of_toBitVec_eq (BitVec.ushiftRight_xor_distrib v.toBitVec w.toBitVec _)
  simp only [wordBytes, xorBytes, hshift, UInt32.toUInt8_xor, List.zipWith_cons_cons,
    List.zipWith_nil_left]

theorem bytes_xor (s t : State) : (s.xor t).bytes = xorBytes s.bytes t.bytes := by
  simp only [State.bytes, State.xor, wordBytes_xor]
  rfl

end Sha256

/-! ## Codes -/

namespace Hmac

/-- The code of a message under a key: the digest of the outer key block and of the digest of the
inner key block and the message. -/
def mac (key message : Bytes) : Bytes :=
  let inner := (preparedKey key).map (· ^^^ 0x36)
  let outer := (preparedKey key).map (· ^^^ 0x5C)
  Sha256.digest (outer ++ Sha256.digest (inner ++ message))

theorem length_preparedKey (key : Bytes) : (preparedKey key).length = 64 := by
  have hshort : (if key.length > 64 then Sha256.digest key else key).length ≤ 64 := by
    split
    · unfold Sha256.digest
      rw [Sha256.length_bytes]
      decide
    · omega
  unfold preparedKey blockSize
  rw [List.length_append, List.length_replicate]
  omega

/-- The code that starts from the two prepared states is the code by the definition. -/
theorem bytes_code (key message : Bytes) :
    ((Keyed.ofKey key).code message).bytes = mac key message := by
  have hblock (pad : UInt8) : ((preparedKey key).map (· ^^^ pad)).length = 64 := by
    rw [List.length_map, length_preparedKey]
  unfold mac
  dsimp only
  rw [Sha256.digest_append (hblock 0x36), Sha256.digest_append (hblock 0x5C)]
  rfl

/-- After a block, the bytes of a digest and the end of the message make up one more block. -/
theorem finish_bytes (s t : Sha256.State) :
    Sha256.finish s blockSize t.bytes = Sha256.compress s (digestBlock t) := by
  have hpadding : Sha256.words (Sha256.padding (64 + 32))
      = [0x80000000, 0, 0, 0, 0, 0, 0, 768] := by decide
  unfold Sha256.finish blockSize
  rw [Sha256.words_bytes_append, Sha256.length_bytes, hpadding]
  rfl

/-- The code of a digest, whose padding is known, is the code of its bytes. -/
theorem codeOfDigest_eq_code (k : Keyed) (s : Sha256.State) :
    k.codeOfDigest s = k.code s.bytes := by
  unfold Keyed.codeOfDigest Keyed.code
  rw [finish_bytes, finish_bytes]

/-- A key of at most a block and the same key with zeros behind it prepare to one block. -/
theorem preparedKey_append_zeros {key : Bytes} {n : Nat} (h : key.length + n ≤ 64) :
    preparedKey (key ++ List.replicate n 0) = preparedKey key := by
  have hlong : ¬ key.length + n > 64 := by omega
  have hshort : ¬ key.length > 64 := by omega
  have hzeros : n + (64 - (key.length + n)) = 64 - key.length := by omega
  unfold preparedKey blockSize
  rw [List.length_append, List.length_replicate, if_neg hlong, if_neg hshort]
  dsimp only
  rw [List.length_append, List.length_replicate, List.append_assoc, List.replicate_append_replicate,
    hzeros]

end Hmac

/-! ## Derived keys -/

namespace Pbkdf2

/-- The codes whose exclusive or is the key: the first one of the salt and the number of the block,
and each other one of the code before. -/
def codes (password salt : Bytes) : Nat → Bytes
  | 0 => Hmac.mac password (salt ++ [0, 0, 0, 1])
  | n + 1 => Hmac.mac password (codes password salt n)

/-- The exclusive or of the codes up to number `n`. -/
def sum (password salt : Bytes) : Nat → Bytes
  | 0 => codes password salt 0
  | n + 1 => Sha256.xorBytes (sum password salt n) (codes password salt (n + 1))

/-- The first block of the key derived from a password in a number of rounds, at least one. -/
def key (password salt : Bytes) (rounds : Nat) : Bytes := sum password salt (rounds - 1)

/-- From the states of round `i`, the next `n` rounds end with the sum of all codes. -/
theorem bytes_iterate {password salt : Bytes} {u acc : Sha256.State} {i : Nat}
    (hu : u.bytes = codes password salt i) (hacc : acc.bytes = sum password salt i) (n : Nat) :
    (iterate (Hmac.Keyed.ofKey password) n u acc).bytes = sum password salt (i + n) := by
  induction n generalizing u acc i with
  | zero => exact hacc
  | succ n ih =>
    -- one round takes the next code and adds it to the sum
    have hnext : ((Hmac.Keyed.ofKey password).codeOfDigest u).bytes
        = codes password salt (i + 1) := by
      rw [Hmac.codeOfDigest_eq_code, Hmac.bytes_code, hu]
      rfl
    have hsum : (acc.xor ((Hmac.Keyed.ofKey password).codeOfDigest u)).bytes
        = sum password salt (i + 1) := by
      rw [Sha256.bytes_xor, hacc, hnext]
      rfl
    have hrest := ih hnext hsum
    rw [Nat.add_right_comm] at hrest
    exact hrest

/-- **The rounds derive the key**: the exclusive or of as many codes as there are rounds. -/
theorem derive_eq_key (password salt : Bytes) (rounds : Nat) :
    derive password salt rounds = key password salt rounds := by
  have hfirst : ((Hmac.Keyed.ofKey password).code (salt ++ [0, 0, 0, 1])).bytes
      = codes password salt 0 := Hmac.bytes_code _ _
  unfold derive key
  dsimp only
  rw [bytes_iterate hfirst hfirst, Nat.zero_add]

/-- A password enters a derived key only through its key block. -/
theorem key_congr {p q : Bytes} (h : Hmac.preparedKey p = Hmac.preparedKey q) (salt : Bytes)
    (rounds : Nat) : key p salt rounds = key q salt rounds := by
  rw [← derive_eq_key, ← derive_eq_key]
  unfold derive Hmac.Keyed.ofKey
  rw [h]

end Pbkdf2

end IssuerGate
