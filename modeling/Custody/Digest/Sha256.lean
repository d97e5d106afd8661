/-
  Custody.Digest.Sha256
  ────────────────────────────────
  **SHA-256, ONCE AND TWICE.**

  The message is padded to whole blocks of sixteen words, each block is
  stretched to sixty-four words, and sixty-four rounds mix them into eight
  chaining words.  Transactions, block headers and inner Merkle nodes are
  named by the digest of the digest; keys and main outputs by one digest.

  Everything that reasons about digests uses them as functions of their
  bytes: two equal byte lists have one digest, and a theorem that needs
  different byte lists to have different digests says so.
-/
import Custody.Octets
import Custody.Word

namespace Custody.Sha256

/-! ## §1. Word functions. -/

/-- Rotation to the right. -/
def rotateRight (x n : UInt32) : UInt32 := (x >>> n) ||| (x <<< (32 - n))

/-- Stretching function of the older word. -/
def stretch0 (x : UInt32) : UInt32 := rotateRight x 7 ^^^ rotateRight x 18 ^^^ (x >>> 3)

/-- Stretching function of the newer word. -/
def stretch1 (x : UInt32) : UInt32 := rotateRight x 17 ^^^ rotateRight x 19 ^^^ (x >>> 10)

/-- Round function of the first chaining word. -/
def mix0 (x : UInt32) : UInt32 := rotateRight x 2 ^^^ rotateRight x 13 ^^^ rotateRight x 22

/-- Round function of the fifth chaining word. -/
def mix1 (x : UInt32) : UInt32 := rotateRight x 6 ^^^ rotateRight x 11 ^^^ rotateRight x 25

/-- Bits of `y` where `x` is set, of `z` where it is not. -/
def choose (x y z : UInt32) : UInt32 := (x &&& y) ^^^ (~~~ x &&& z)

/-- Bits set in at least two of three words. -/
def majority (x y z : UInt32) : UInt32 := (x &&& y) ^^^ (x &&& z) ^^^ (y &&& z)

/-! ## §2. Rounds. -/

/-- The round constants. -/
def roundConstants : List UInt32 := [
  0x428a2f98, 0x71374491, 0xb5c0fbcf, 0xe9b5dba5, 0x3956c25b, 0x59f111f1, 0x923f82a4, 0xab1c5ed5,
  0xd807aa98, 0x12835b01, 0x243185be, 0x550c7dc3, 0x72be5d74, 0x80deb1fe, 0x9bdc06a7, 0xc19bf174,
  0xe49b69c1, 0xefbe4786, 0x0fc19dc6, 0x240ca1cc, 0x2de92c6f, 0x4a7484aa, 0x5cb0a9dc, 0x76f988da,
  0x983e5152, 0xa831c66d, 0xb00327c8, 0xbf597fc7, 0xc6e00bf3, 0xd5a79147, 0x06ca6351, 0x14292967,
  0x27b70a85, 0x2e1b2138, 0x4d2c6dfc, 0x53380d13, 0x650a7354, 0x766a0abb, 0x81c2c92e, 0x92722c85,
  0xa2bfe8a1, 0xa81a664b, 0xc24b8b70, 0xc76c51a3, 0xd192e819, 0xd6990624, 0xf40e3585, 0x106aa070,
  0x19a4c116, 0x1e376c08, 0x2748774c, 0x34b0bcb5, 0x391c0cb3, 0x4ed8aa4a, 0x5b9cca4f, 0x682e6ff3,
  0x748f82ee, 0x78a5636f, 0x84c87814, 0x8cc70208, 0x90befffa, 0xa4506ceb, 0xbef9a3f7, 0xc67178f2]

/-- The eight chaining words. -/
structure Chain where
  (a b c d e f g h : UInt32)
deriving DecidableEq, Repr

/-- The chaining words before the first block. -/
def Chain.start : Chain :=
  ⟨0x6a09e667, 0xbb67ae85, 0x3c6ef372, 0xa54ff53a, 0x510e527f, 0x9b05688c, 0x1f83d9ab, 0x5be0cd19⟩

/-- One round with a word to which its constant has been added. -/
def round (x : Chain) (word : UInt32) : Chain :=
  let t1 := x.h + mix1 x.e + choose x.e x.f x.g + word
  let t2 := mix0 x.a + majority x.a x.b x.c
  ⟨t1 + t2, x.a, x.b, x.c, x.d + t1, x.e, x.f, x.g⟩

/-- Puts `n` further words in front of a schedule that is kept newest word first. -/
def stretch : Nat → List UInt32 → List UInt32
  | 0, words => words
  | n + 1, words =>
    -- Newest first, the words 2, 7, 15 and 16 back stand at the places 1, 6, 14 and 15.
    stretch n ((stretch1 (words.getD 1 0) + words.getD 6 0 + stretch0 (words.getD 14 0) +
      words.getD 15 0) :: words)

/-- Mixes one block of sixteen words into the chaining words. -/
def compress (x : Chain) (block : List UInt32) : Chain :=
  let schedule := (stretch 48 block.reverse).reverse
  let y := (List.zipWith (· + ·) roundConstants schedule).foldl round x
  ⟨x.a + y.a, x.b + y.b, x.c + y.c, x.d + y.d, x.e + y.e, x.f + y.f, x.g + y.g, x.h + y.h⟩

/-! ## §3. Messages. -/

/-- A message with a closing one bit, zeros up to a whole block, and its length in bits. -/
def pad (message : List UInt8) : List UInt8 :=
  let size := message.length
  -- The bit takes one byte and the length eight, and zeros fill up to a multiple of 64.
  message ++ [0x80] ++ List.replicate ((119 - size % 64) % 64) 0 ++ Word.bigEndian 8 (8 * size)

/-- Big-endian words of four bytes. -/
def words : List UInt8 → List UInt32
  | a :: b :: c :: d :: rest =>
    (a.toUInt32 <<< 24 ||| b.toUInt32 <<< 16 ||| c.toUInt32 <<< 8 ||| d.toUInt32) :: words rest
  | _ => []

/-- Mixes a number of blocks. -/
def absorb : Nat → Chain → List UInt32 → Chain
  | 0, x, _ => x
  | n + 1, x, ws => absorb n (compress x (ws.take 16)) (ws.drop 16)

/-- The four bytes of a word, most significant first. -/
def wordBytes (w : UInt32) : List UInt8 :=
  [(w >>> 24).toUInt8, (w >>> 16).toUInt8, (w >>> 8).toUInt8, w.toUInt8]

/-- The chaining words as bytes. -/
def Chain.digest (x : Chain) : Digest :=
  ⟨wordBytes x.a ++ wordBytes x.b ++ wordBytes x.c ++ wordBytes x.d ++
    wordBytes x.e ++ wordBytes x.f ++ wordBytes x.g ++ wordBytes x.h, rfl⟩

end Custody.Sha256

namespace Custody

/-- The SHA-256 digest of a message. -/
def sha256 (message : List UInt8) : Digest :=
  let padded := Sha256.pad message
  (Sha256.absorb (padded.length / 64) Sha256.Chain.start (Sha256.words padded)).digest

/-- The digest of the digest. -/
def doubleSha256 (message : List UInt8) : Digest := sha256 (sha256 message).bytes

/-- The double digest of two digests side by side: the parent of two Merkle nodes. -/
def doubleSha256Pair (left right : Digest) : Digest := doubleSha256 (left.bytes ++ right.bytes)

end Custody
