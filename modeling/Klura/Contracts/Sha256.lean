import Klura.Contracts.Common

/-! The digest function of the contracts: SHA-256, over words that are numbers below 2^32. -/

namespace Klura

/-- The number of words of thirty-two bits. -/
def WORD_MODULUS : Nat := 4294967296

/-- One more than the modulus: a product with it sets a word beside a copy of itself. -/
def WORD_REPEAT : Nat := 4294967297

/-- The number of blocks of sixteen words. -/
def BLOCK_MODULUS : Nat := 2 ^ 512

/-- The constant of each round. -/
def sha256Constants : List Nat :=
  [0x428a2f98, 0x71374491, 0xb5c0fbcf, 0xe9b5dba5, 0x3956c25b, 0x59f111f1, 0x923f82a4, 0xab1c5ed5,
   0xd807aa98, 0x12835b01, 0x243185be, 0x550c7dc3, 0x72be5d74, 0x80deb1fe, 0x9bdc06a7, 0xc19bf174,
   0xe49b69c1, 0xefbe4786, 0x0fc19dc6, 0x240ca1cc, 0x2de92c6f, 0x4a7484aa, 0x5cb0a9dc, 0x76f988da,
   0x983e5152, 0xa831c66d, 0xb00327c8, 0xbf597fc7, 0xc6e00bf3, 0xd5a79147, 0x06ca6351, 0x14292967,
   0x27b70a85, 0x2e1b2138, 0x4d2c6dfc, 0x53380d13, 0x650a7354, 0x766a0abb, 0x81c2c92e, 0x92722c85,
   0xa2bfe8a1, 0xa81a664b, 0xc24b8b70, 0xc76c51a3, 0xd192e819, 0xd6990624, 0xf40e3585, 0x106aa070,
   0x19a4c116, 0x1e376c08, 0x2748774c, 0x34b0bcb5, 0x391c0cb3, 0x4ed8aa4a, 0x5b9cca4f, 0x682e6ff3,
   0x748f82ee, 0x78a5636f, 0x84c87814, 0x8cc70208, 0x90befffa, 0xa4506ceb, 0xbef9a3f7, 0xc67178f2]

/-- The eight words a message is folded into. -/
structure Sha256WordsV1 where
  a : Nat
  b : Nat
  c : Nat
  d : Nat
  e : Nat
  f : Nat
  g : Nat
  h : Nat

/-- The words before the first block. -/
def sha256Initial : Sha256WordsV1 :=
  ⟨0x6a09e667, 0xbb67ae85, 0x3c6ef372, 0xa54ff53a, 0x510e527f, 0x9b05688c, 0x1f83d9ab, 0x5be0cd19⟩

/-- Goes on with a word that has been computed, so that no evaluation of it is put off. -/
def withWord {α : Type} (word : Nat) (next : Nat → α) : α :=
  match word with
  | 0 => next 0
  | word + 1 => next (word + 1)

/-- A word, turned right by three distances, as one sum without carries. -/
def turned (word first second third : Nat) : Nat :=
  ((word * WORD_REPEAT) >>> first ^^^ (word * WORD_REPEAT) >>> second ^^^
    (word * WORD_REPEAT) >>> third) % WORD_MODULUS

/-- A word, turned right by two distances and shifted by a third, as one sum without carries. -/
def turnedAndShifted (word first second shift : Nat) : Nat :=
  ((word * WORD_REPEAT) >>> first ^^^ (word * WORD_REPEAT) >>> second ^^^ word >>> shift) %
    WORD_MODULUS

/-- The word of the schedule that follows the sixteen words of a window. -/
def nextScheduledWord (window : Nat) : Nat :=
  (window >>> 480 + turnedAndShifted ((window >>> 448) % WORD_MODULUS) 7 18 3 + window >>> 192 +
    turnedAndShifted ((window >>> 32) % WORD_MODULUS) 17 19 10) % WORD_MODULUS

/-- The words after the rounds of the remaining constants, on a window of sixteen words. -/
def sha256Rounds : List Nat → Nat → Nat → Nat → Nat → Nat → Nat → Nat → Nat → Nat → Sha256WordsV1
  | [], _, a, b, c, d, e, f, g, h => ⟨a, b, c, d, e, f, g, h⟩
  | constant :: constants, window, a, b, c, d, e, f, g, h =>
    let choice := g ^^^ (e &&& (f ^^^ g))
    let majority := (a &&& b) ||| (c &&& (a ||| b))
    withWord ((window <<< 32) % BLOCK_MODULUS + nextScheduledWord window) fun next =>
      withWord (h + turned e 6 11 25 + choice + constant + window >>> 480) fun first =>
        withWord ((d + first) % WORD_MODULUS) fun lower =>
          withWord ((first + turned a 2 13 22 + majority) % WORD_MODULUS) fun upper =>
            sha256Rounds constants next upper a b c lower e f g

/-- The words after one block. -/
def sha256Block (words : Sha256WordsV1) (block : Nat) : Sha256WordsV1 :=
  let last := sha256Rounds sha256Constants block words.a words.b words.c words.d words.e words.f
    words.g words.h
  withWord ((words.a + last.a) % WORD_MODULUS) fun a =>
    withWord ((words.b + last.b) % WORD_MODULUS) fun b =>
      withWord ((words.c + last.c) % WORD_MODULUS) fun c =>
        withWord ((words.d + last.d) % WORD_MODULUS) fun d =>
          withWord ((words.e + last.e) % WORD_MODULUS) fun e =>
            withWord ((words.f + last.f) % WORD_MODULUS) fun f =>
              withWord ((words.g + last.g) % WORD_MODULUS) fun g =>
                withWord ((words.h + last.h) % WORD_MODULUS) fun h => ⟨a, b, c, d, e, f, g, h⟩

/-- The words after the last blocks of a padded message, as many as are counted. -/
def sha256Blocks : Nat → Nat → Sha256WordsV1 → Sha256WordsV1
  | 0, _, words => words
  | count + 1, message, words =>
    withWord ((message >>> (512 * count)) % BLOCK_MODULUS) fun block =>
      sha256Blocks count message (sha256Block words block)

/-- The number that bytes are the digits of, after the digits before them. -/
def numberOfBytes : Bytes → Nat → Nat
  | [], number => number
  | byte :: rest, number => withWord (number * 256 + byte.toNat) (numberOfBytes rest)

/-- The digest of a message. -/
def sha256Digest (message : Bytes) : Sha256DigestV1 :=
  -- One bit, the zeros and the length in bits fill the last block.
  let zeros := (119 - message.length % 64) % 64
  let padded := ((numberOfBytes message 0 * 256 + 128) <<< (8 * zeros + 64)) + 8 * message.length
  let words := sha256Blocks ((message.length + zeros + 9) / 64) padded sha256Initial
  let digits := [words.a, words.b, words.c, words.d, words.e, words.f, words.g, words.h]
  ⟨BitVec.ofNat 256 (digits.foldl (fun value word => value * WORD_MODULUS + word) 0)⟩

/-- The digest of the three bytes that the standard gives as its first example. -/
example : (sha256Digest (utf8 "abc")).bits =
    0xba7816bf8f01cfea414140de5dae2223b00361a396177a9cb410ff61f20015ad#256 := by decide +kernel

end Klura
