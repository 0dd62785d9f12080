import Runbook.Shell.Text.Numeral
import Runbook.Shell.Text.Raw

/-!
# `Shell/Tool/Digest/Rounds` — digests of messages

First the words that a digest is made of, and then the digests themselves.
-/

set_option autoImplicit false

/-!
## The words that a digest is made of

A digest is calculated on words of a fixed width. A text is filled up to whole blocks: behind it
stand a single bit, zeros, and the number of its bits.
-/

namespace Runbook.Shell.Digest

/-- The value of bytes of which the first counts most. -/
def bigValue (bytes : List UInt8) : Nat := bytes.foldl (fun n b => n * 256 + b.toNat) 0

/-- The value of bytes of which the first counts least. -/
def littleValue (bytes : List UInt8) : Nat := bigValue bytes.reverse

/-- The last bytes of a number, the one that counts least in front. -/
def littleBytes : (count n : Nat) → List UInt8
  | 0, _ => []
  | count + 1, n => UInt8.ofNat n :: littleBytes count (n / 256)

/-- The last bytes of a number, the one that counts most in front. -/
def bigBytes (count n : Nat) : List UInt8 := (littleBytes count n).reverse

/-- A list cut into pieces of one size, of which the last may be shorter; `fuel` bounds their
number. -/
def piecesFrom {α : Type} (size : Nat) : (fuel : Nat) → List α → List (List α)
  | 0, _ => []
  | _ + 1, [] => []
  | fuel + 1, xs => xs.take size :: piecesFrom size fuel (xs.drop size)

/-- A list cut into pieces of one size, of which the last may be shorter. -/
def pieces {α : Type} (size : Nat) (xs : List α) : List (List α) := piecesFrom size xs.length xs

/-- A text filled up to whole blocks; `tail` is the number of bytes for its length. -/
def filled (block tail : Nat) (lengthBytes : Nat → Nat → List UInt8) (bytes : List UInt8) :
    List UInt8 :=
  let used := (bytes.length + 1 + tail) % block
  bytes ++ 0x80 :: List.replicate ((block - used) % block) 0 ++ lengthBytes tail (bytes.length * 8)

/-- The words of a block. -/
def words (w : Nat) (value : List UInt8 → Nat) (block : List UInt8) : Array (BitVec w) :=
  ((pieces (w / 8) block).map fun p => BitVec.ofNat w (value p)).toArray

/-- A word of a list of words; there are zeros behind its end. -/
def at_ {w : Nat} (xs : Array (BitVec w)) (i : Nat) : BitVec w := xs.getD i 0

/-- Words as bytes. -/
def bytesOf {w : Nat} (bytes : Nat → Nat → List UInt8) (xs : Array (BitVec w)) : List UInt8 :=
  xs.toList.flatMap fun x => bytes (w / 8) x.toNat

/-- The sums of words at the same places. -/
def plus {w : Nat} (xs ys : Array (BitVec w)) : Array (BitVec w) := xs.zipWith (· + ·) ys

/-- The whole part of a root, from a part of it on, with so many bits still to find. -/
def wholeRoot (degree n : Nat) : (bits found : Nat) → Nat
  | 0, found => found
  | bits + 1, found =>
    let next := found + Nat.pow 2 bits
    wholeRoot degree n bits (if Nat.pow next degree ≤ n then next else found)

/-- The first bits behind the point of the root of a number less than 512. -/
def rootBits (w degree n : Nat) : BitVec w :=
  BitVec.ofNat w (wholeRoot degree (n * Nat.pow 2 (w * degree)) (w + 5) 0)

/-- The primes below 410, of which there are eighty. -/
def primes : List Nat :=
  (List.range 410).filter fun n =>
    2 ≤ n && (List.range 21).all fun d => d < 2 || d == n || n % d != 0

/-- The sine of a number, in units of a power of two, by so many terms of its series; `term` is the
one that comes next and `k` tells which one that is. -/
def sine (x : Nat) : (terms k : Nat) → (term : Int) → Int
  | 0, _, _ => 0
  | terms + 1, k, term =>
    term + sine x terms (k + 1) (-(term * (x * x : Nat)) / ((2 * k + 2) * (2 * k + 3) : Nat))

/-- The first 32 bits behind the point of the sine of a number, without its sign. -/
def sineBits (x : Nat) : BitVec 32 :=
  BitVec.ofNat 32 ((sine x 160 0 (x * Nat.pow 2 256 : Nat)).natAbs / Nat.pow 2 224)

/-!
## Digests of messages

Each of them goes through the blocks of a text in rounds that mix the words of a block into a few
words that are carried along, and gives these words in the end.
-/

/-! ## MD5 -/

/-- The constants of the rounds. -/
def md5Constants : Array (BitVec 32) := ((List.range 64).map fun i => sineBits (i + 1)).toArray

/-- How far words are rotated in each quarter. -/
def md5Turns : Array (Array Nat) := #[#[7, 12, 17, 22], #[5, 9, 14, 20], #[4, 11, 16, 23], #[6, 10, 15, 21]]

/-- A round on four words. -/
def md5Round (block : Array (BitVec 32)) (s : Array (BitVec 32)) (i : Nat) : Array (BitVec 32) :=
  let (a, b, c, d) := (at_ s 0, at_ s 1, at_ s 2, at_ s 3)
  let (f, place) :=
    match i / 16 with
    | 0 => ((b &&& c) ||| (~~~b &&& d), i)
    | 1 => ((d &&& b) ||| (~~~d &&& c), 5 * i + 1)
    | 2 => (b ^^^ c ^^^ d, 3 * i + 5)
    | _ => (c ^^^ (b ||| ~~~d), 7 * i)
  let mixed := a + f + at_ md5Constants i + at_ block (place % 16)
  let turn := (md5Turns.getD (i / 16) #[]).getD (i % 4) 0
  #[d, b + mixed.rotateLeft turn, b, c]

/-- The words that digests of 32 bits begin with. -/
def start32 : Array (BitVec 32) := #[0x67452301, 0xefcdab89, 0x98badcfe, 0x10325476, 0xc3d2e1f0]

/-- The digest MD5. -/
def md5 (bytes : List UInt8) : List UInt8 :=
  let step (s : Array (BitVec 32)) (block : List UInt8) : Array (BitVec 32) :=
    plus s ((List.range 64).foldl (md5Round (words 32 littleValue block)) s)
  bytesOf littleBytes ((pieces 64 (filled 64 8 littleBytes bytes)).foldl step (start32.extract 0 4))

/-! ## SHA-1 -/

/-- The words of a block and those that are made of them, up to a number. -/
def schedule {w : Nat} (next : Array (BitVec w) → Nat → BitVec w) (count : Nat)
    (block : Array (BitVec w)) : Array (BitVec w) :=
  (List.range' 16 (count - 16)).foldl (fun xs i => xs.push (next xs i)) block

/-- A round on five words. -/
def sha1Round (block : Array (BitVec 32)) (s : Array (BitVec 32)) (i : Nat) : Array (BitVec 32) :=
  let (a, b, c, d) := (at_ s 0, at_ s 1, at_ s 2, at_ s 3)
  let (f, k) : BitVec 32 × BitVec 32 :=
    match i / 20 with
    | 0 => ((b &&& c) ||| (~~~b &&& d), 0x5a827999)
    | 1 => (b ^^^ c ^^^ d, 0x6ed9eba1)
    | 2 => ((b &&& c) ||| (b &&& d) ||| (c &&& d), 0x8f1bbcdc)
    | _ => (b ^^^ c ^^^ d, 0xca62c1d6)
  #[a.rotateLeft 5 + f + at_ s 4 + k + at_ block i, a, b.rotateLeft 30, c, d]

/-- The digest SHA-1. -/
def sha1 (bytes : List UInt8) : List UInt8 :=
  let next (xs : Array (BitVec 32)) (i : Nat) : BitVec 32 :=
    (at_ xs (i - 3) ^^^ at_ xs (i - 8) ^^^ at_ xs (i - 14) ^^^ at_ xs (i - 16)).rotateLeft 1
  let step (s : Array (BitVec 32)) (block : List UInt8) : Array (BitVec 32) :=
    plus s ((List.range 80).foldl (sha1Round (schedule next 80 (words 32 bigValue block))) s)
  bytesOf bigBytes ((pieces 64 (filled 64 8 bigBytes bytes)).foldl step start32)

/-! ## SHA-2 -/

/-- What tells digests of the family SHA-2 with one width of words from those with another. -/
structure Sha2 (w : Nat) where
  rounds : Nat
  /-- How far words are rotated that are carried along, and for the words made of a block. -/
  great : List (List Nat)
  small : List (List Nat × Nat)
  constants : Array (BitVec w)

namespace Sha2

/-- The digests with words of 32 bits. -/
def narrow : Sha2 32 where
  rounds := 64
  great := [[2, 13, 22], [6, 11, 25]]
  small := [([7, 18], 3), ([17, 19], 10)]
  constants := ((primes.take 64).map (rootBits 32 3)).toArray

/-- The digests with words of 64 bits. -/
def wide : Sha2 64 where
  rounds := 80
  great := [[28, 34, 39], [14, 18, 41]]
  small := [([1, 8], 7), ([19, 61], 6)]
  constants := (primes.map (rootBits 64 3)).toArray

variable {w : Nat}

/-- A word rotated in several ways, all put together. -/
def turned (turns : List Nat) (x : BitVec w) : BitVec w :=
  turns.foldl (fun y n => y ^^^ x.rotateRight n) 0

/-- The rotations of a word that is carried along. -/
def greatTurn (v : Sha2 w) (which : Nat) (x : BitVec w) : BitVec w :=
  turned (v.great.getD which []) x

/-- The rotations of a word of a block. -/
def smallTurn (v : Sha2 w) (which : Nat) (x : BitVec w) : BitVec w :=
  let (turns, shift) := v.small.getD which ([], 0)
  turned turns x ^^^ (x >>> shift)

/-- A round on eight words. -/
def round (v : Sha2 w) (block : Array (BitVec w)) (s : Array (BitVec w)) (i : Nat) :
    Array (BitVec w) :=
  let (a, b, c) := (at_ s 0, at_ s 1, at_ s 2)
  let (e, f, g) := (at_ s 4, at_ s 5, at_ s 6)
  let choice := (e &&& f) ^^^ (~~~e &&& g)
  let most := (a &&& b) ^^^ (a &&& c) ^^^ (b &&& c)
  let one := at_ s 7 + v.greatTurn 1 e + choice + at_ v.constants i + at_ block i
  #[one + v.greatTurn 0 a + most, a, b, c, at_ s 3 + one, e, f, g]

/-- The digest that begins with some words and gives so many bytes. -/
def digest (v : Sha2 w) (start : List (BitVec w)) (size : Nat) (bytes : List UInt8) : List UInt8 :=
  let block := w * 2
  let next (xs : Array (BitVec w)) (i : Nat) : BitVec w :=
    at_ xs (i - 16) + v.smallTurn 0 (at_ xs (i - 15)) + at_ xs (i - 7) +
      v.smallTurn 1 (at_ xs (i - 2))
  let step (s : Array (BitVec w)) (text : List UInt8) : Array (BitVec w) :=
    plus s ((List.range v.rounds).foldl
      (v.round (schedule next v.rounds (words w bigValue text))) s)
  let last := (pieces block (filled block (w / 4) bigBytes bytes)).foldl step start.toArray
  (bytesOf bigBytes last).take size

end Sha2

/-- The roots of the first eight primes, and of the eight behind them. -/
def earlyRoots (w : Nat) : List (BitVec w) := (primes.take 8).map (rootBits w 2)

@[inherit_doc earlyRoots]
def lateRoots : List (BitVec 64) := ((primes.drop 8).take 8).map (rootBits 64 2)

/-- The digest SHA-224. -/
def sha224 : List UInt8 → List UInt8 := Sha2.narrow.digest (lateRoots.map (·.setWidth 32)) 28

/-- The digest SHA-256. -/
def sha256 : List UInt8 → List UInt8 := Sha2.narrow.digest (earlyRoots 32) 32

/-- The digest SHA-384. -/
def sha384 : List UInt8 → List UInt8 := Sha2.wide.digest lateRoots 48

/-- The digest SHA-512. -/
def sha512 : List UInt8 → List UInt8 := Sha2.wide.digest (earlyRoots 64) 64

/-! ## BLAKE2b -/

/-- The orders in which the words of a block are mixed in. -/
def blakeOrders : Array (Array Nat) :=
  #[#[0, 1, 2, 3, 4, 5, 6, 7, 8, 9, 10, 11, 12, 13, 14, 15],
    #[14, 10, 4, 8, 9, 15, 13, 6, 1, 12, 0, 2, 11, 7, 5, 3],
    #[11, 8, 12, 0, 5, 2, 15, 13, 10, 14, 3, 6, 7, 1, 9, 4],
    #[7, 9, 3, 1, 13, 12, 11, 14, 2, 6, 5, 10, 4, 0, 15, 8],
    #[9, 0, 5, 7, 2, 4, 10, 15, 14, 1, 11, 12, 6, 8, 3, 13],
    #[2, 12, 6, 10, 0, 11, 8, 3, 4, 13, 7, 5, 15, 14, 1, 9],
    #[12, 5, 1, 15, 14, 13, 4, 10, 0, 7, 6, 3, 9, 2, 8, 11],
    #[13, 11, 7, 14, 12, 1, 3, 9, 5, 0, 15, 4, 8, 6, 2, 10],
    #[6, 15, 14, 9, 11, 3, 0, 8, 12, 2, 13, 7, 1, 4, 10, 5],
    #[10, 2, 8, 4, 7, 6, 1, 5, 15, 11, 9, 14, 3, 12, 13, 0]]

/-- The four words that are mixed at a time: the columns, then the diagonals. -/
def blakeWays : List (Nat × Nat × Nat × Nat) :=
  [(0, 4, 8, 12), (1, 5, 9, 13), (2, 6, 10, 14), (3, 7, 11, 15),
    (0, 5, 10, 15), (1, 6, 11, 12), (2, 7, 8, 13), (3, 4, 9, 14)]

/-- Four words mixed with two words of a block. -/
def blakeMix (s : Array (BitVec 64)) (way : Nat × Nat × Nat × Nat) (x y : BitVec 64) :
    Array (BitVec 64) :=
  let (i, j, k, l) := way
  let half (a b c d m : BitVec 64) (p q : Nat) : BitVec 64 × BitVec 64 × BitVec 64 × BitVec 64 :=
    let a := a + b + m
    let d := (d ^^^ a).rotateRight p
    let c := c + d
    (a, (b ^^^ c).rotateRight q, c, d)
  let (a, b, c, d) := half (at_ s i) (at_ s j) (at_ s k) (at_ s l) x 32 24
  let (a, b, c, d) := half a b c d y 16 63
  (((s.setIfInBounds i a).setIfInBounds j b).setIfInBounds k c).setIfInBounds l d

/-- A round of mixing on sixteen words. -/
def blakeRound (block : Array (BitVec 64)) (s : Array (BitVec 64)) (i : Nat) :
    Array (BitVec 64) :=
  let order := blakeOrders.getD (i % 10) #[]
  blakeWays.zipIdx.foldl (fun s (way, n) =>
    blakeMix s way (at_ block (order.getD (2 * n) 0)) (at_ block (order.getD (2 * n + 1) 0))) s

/-- The digest BLAKE2b of so many bytes. -/
def blake2b (size : Nat) (bytes : List UInt8) : List UInt8 :=
  let roots := (earlyRoots 64).toArray
  let start := roots.setIfInBounds 0 (at_ roots 0 ^^^ 0x01010000 ^^^ BitVec.ofNat 64 size)
  let blocks := pieces 128 bytes
  let blocks := if blocks.isEmpty then [[]] else blocks
  let step (s : Array (BitVec 64)) (b : List UInt8 × Nat) : Array (BitVec 64) :=
    let (block, n) := b
    let isLast := n + 1 == blocks.length
    let done := if isLast then bytes.length else 128 * (n + 1)
    let block := words 64 littleValue (block ++ List.replicate (128 - block.length) 0)
    let late := roots.setIfInBounds 4 (at_ roots 4 ^^^ BitVec.ofNat 64 done)
    let late := if isLast then late.setIfInBounds 6 (~~~at_ late 6) else late
    let mixed := (List.range 12).foldl (blakeRound block) (s ++ late)
    (List.range 8).foldl (fun s i =>
      s.setIfInBounds i (at_ s i ^^^ at_ mixed i ^^^ at_ mixed (i + 8))) s
  (bytesOf littleBytes (blocks.zipIdx.foldl step start)).take size

/-! ## Check sums -/

/-- The remainder of a polynomial over bits, with a further byte. -/
def remainderByte (r : BitVec 32) (b : UInt8) : BitVec 32 :=
  let step (r : BitVec 32) (_ : Nat) : BitVec 32 :=
    if r.msb then (r <<< 1) ^^^ 0x04c11db7 else r <<< 1
  (List.range 8).foldl step (r ^^^ (BitVec.ofNat 32 b.toNat <<< 24))

/-- The bytes of a number, as few as there are, the one that counts least in front; `fuel` bounds
their number. -/
def fewBytes : (fuel n : Nat) → List UInt8
  | 0, _ => []
  | fuel + 1, n => if n = 0 then [] else UInt8.ofNat n :: fewBytes fuel (n / 256)

/-- The check sum of a text by the remainder of a polynomial: of its bytes and their number. -/
def cyclic (bytes : List UInt8) : Nat :=
  (~~~(bytes ++ fewBytes 9 bytes.length).foldl remainderByte 0).toNat

/-- The check sum of 16 bits that is rotated by a bit for every byte. -/
def turningSum (bytes : List UInt8) : Nat :=
  (bytes.foldl (fun s b => s.rotateRight 1 + BitVec.ofNat 16 b.toNat) (0 : BitVec 16)).toNat

/-- The check sum of all bytes, folded to 16 bits. -/
def foldedSum (bytes : List UInt8) : Nat :=
  let n := bytes.foldl (fun n b => n + b.toNat) 0 % Nat.pow 2 32
  let r := n % 65536 + n / 65536
  r % 65536 + r / 65536

end Runbook.Shell.Digest
