/-! # Digests

Short numbers that stand for a content: the cyclic checksum of 32 bits, the two simple sums, and
the digests MD5, SHA-1, SHA-2 and BLAKE2b.  The constants of SHA-2 are the first bits of the
fractions of square and cube roots of the first primes, and are computed as such. -/

namespace ShaderBuild.Digest

/-! ### Words -/

/-- The number that bytes spell, the lowest byte first. -/
def littleEndian : List UInt8 → Nat
  | [] => 0
  | b :: bs => b.toNat + 256 * littleEndian bs

/-- The number that bytes spell, the highest byte first. -/
def bigEndian (bs : List UInt8) : Nat :=
  bs.foldl (fun n b => 256 * n + b.toNat) 0

/-- The `n` lowest bytes of a number, the lowest first. -/
def lowBytes : Nat → Nat → List UInt8
  | 0, _ => []
  | n + 1, k => k.toUInt8 :: lowBytes n (k / 256)

/-- The `n` lowest bytes of a number, the highest first. -/
def highBytes (n k : Nat) : List UInt8 :=
  (lowBytes n k).reverse

/-- A list cut into pieces of `size` elements, at most `n` of them. -/
def chunks {α : Type} (size : Nat) : Nat → List α → List (List α)
  | 0, _ => []
  | n + 1, xs => if xs.isEmpty then [] else xs.take size :: chunks size n (xs.drop size)

/-- A message cut into blocks. -/
def blocks (size : Nat) (bs : List UInt8) : List (List UInt8) :=
  chunks size (bs.length / size + 1) bs

/-- Bytes by their hexadecimal digits. -/
def hexText (bs : List UInt8) : String :=
  String.ofList (bs.flatMap fun b => [Nat.digitChar (b.toNat / 16), Nat.digitChar (b.toNat % 16)])

/-- A message that is filled up to whole blocks, of which the last ends with the length in bits. -/
def padded (size lengthBytes : Nat) (spell : Nat → Nat → List UInt8) (bs : List UInt8) :
    List UInt8 :=
  let filled := bs.length + 1 + lengthBytes
  let zeros := (size - filled % size) % size
  bs ++ 0x80 :: List.replicate zeros 0 ++ spell lengthBytes (8 * bs.length)

/-! ### Sums -/

/-- One bit of the cyclic checksum. -/
def crcBit (c : UInt32) : UInt32 :=
  if c &&& 0x80000000 != 0 then (c <<< 1) ^^^ 0x04c11db7 else c <<< 1

/-- One byte of the cyclic checksum. -/
def crcByte (c : UInt32) (b : UInt8) : UInt32 :=
  (List.range 8).foldl (fun c _ => crcBit c) (c ^^^ (b.toUInt32 <<< 24))

/-- The fewest bytes of a number, the lowest first. -/
def shortBytes : Nat → Nat → List UInt8
  | 0, _ => []
  | n + 1, k => if k == 0 then [] else k.toUInt8 :: shortBytes n (k / 256)

/-- The cyclic checksum of a content and its length. -/
def cyclic (bs : List UInt8) : Nat :=
  (((bs ++ shortBytes 16 bs.length).foldl crcByte 0) ^^^ 0xffffffff).toNat

/-- The sum of 16 bits that is turned by one bit before each byte. -/
def turningSum (bs : List UInt8) : Nat :=
  bs.foldl (fun s b => ((s / 2 + s % 2 * 0x8000) + b.toNat) % 0x10000) 0

/-- The sum of all bytes, folded to 16 bits. -/
def foldedSum (bs : List UInt8) : Nat :=
  let s := bs.foldl (fun s b => (s + b.toNat) % 0x100000000) 0
  let r := s % 0x10000 + s / 0x10000 % 0x10000
  r % 0x10000 + r / 0x10000

/-! ### MD5 -/

/-- A word turned to the left. -/
def turnLeft (w : UInt32) (n : UInt32) : UInt32 :=
  (w <<< n) ||| (w >>> (32 - n))

/-- The constants of the steps: the first 32 bits of the fractions of the sines of 1 to 64. -/
def sines : Array UInt32 :=
  #[0xd76aa478, 0xe8c7b756, 0x242070db, 0xc1bdceee, 0xf57c0faf, 0x4787c62a, 0xa8304613, 0xfd469501,
    0x698098d8, 0x8b44f7af, 0xffff5bb1, 0x895cd7be, 0x6b901122, 0xfd987193, 0xa679438e, 0x49b40821,
    0xf61e2562, 0xc040b340, 0x265e5a51, 0xe9b6c7aa, 0xd62f105d, 0x02441453, 0xd8a1e681, 0xe7d3fbc8,
    0x21e1cde6, 0xc33707d6, 0xf4d50d87, 0x455a14ed, 0xa9e3e905, 0xfcefa3f8, 0x676f02d9, 0x8d2a4c8a,
    0xfffa3942, 0x8771f681, 0x6d9d6122, 0xfde5380c, 0xa4beea44, 0x4bdecfa9, 0xf6bb4b60, 0xbebfbc70,
    0x289b7ec6, 0xeaa127fa, 0xd4ef3085, 0x04881d05, 0xd9d4d039, 0xe6db99e5, 0x1fa27cf8, 0xc4ac5665,
    0xf4292244, 0x432aff97, 0xab9423a7, 0xfc93a039, 0x655b59c3, 0x8f0ccc92, 0xffeff47d, 0x85845dd1,
    0x6fa87e4f, 0xfe2ce6e0, 0xa3014314, 0x4e0811a1, 0xf7537e82, 0xbd3af235, 0x2ad7d2bb, 0xeb86d391]

/-- By how many bits each step turns. -/
def turns : Array UInt32 :=
  #[7, 12, 17, 22, 5, 9, 14, 20, 4, 11, 16, 23, 6, 10, 15, 21]

/-- One step of MD5 on a block of words. -/
def md5Step (words : Array UInt32) (s : UInt32 × UInt32 × UInt32 × UInt32) (i : Nat) :
    UInt32 × UInt32 × UInt32 × UInt32 :=
  let (a, b, c, d) := s
  let (f, k) := match i / 16 with
    | 0 => ((b &&& c) ||| (~~~b &&& d), i)
    | 1 => ((d &&& b) ||| (~~~d &&& c), (5 * i + 1) % 16)
    | 2 => (b ^^^ c ^^^ d, (3 * i + 5) % 16)
    | _ => (c ^^^ (b ||| ~~~d), 7 * i % 16)
  let sum := a + f + sines.getD i 0 + words.getD k 0
  (d, b + turnLeft sum (turns.getD (4 * (i / 16) + i % 4) 0), b, c)

/-- The digest MD5. -/
def md5 (bs : List UInt8) : List UInt8 :=
  let start : UInt32 × UInt32 × UInt32 × UInt32 := (0x67452301, 0xefcdab89, 0x98badcfe, 0x10325476)
  let (a, b, c, d) := (blocks 64 (padded 64 8 lowBytes bs)).foldl (fun s block =>
    let words := ((chunks 4 16 block).map fun w => (littleEndian w).toUInt32).toArray
    let t := (List.range 64).foldl (md5Step words) s
    (s.1 + t.1, s.2.1 + t.2.1, s.2.2.1 + t.2.2.1, s.2.2.2 + t.2.2.2)) start
  [a, b, c, d].flatMap fun w => lowBytes 4 w.toNat

/-! ### SHA-1 -/

/-- The words of a block and those made of them, up to `count`. -/
def extended {α : Type} [Inhabited α] (next : Array α → Nat → α) (words : Array α) (count : Nat) :
    Array α :=
  (List.range (count - words.size)).foldl (fun ws i => ws.push (next ws (words.size + i))) words

/-- One step of SHA-1. -/
def sha1Step (words : Array UInt32) (s : Array UInt32) (i : Nat) : Array UInt32 :=
  let a := s.getD 0 0
  let b := s.getD 1 0
  let c := s.getD 2 0
  let d := s.getD 3 0
  let (f, k) : UInt32 × UInt32 := match i / 20 with
    | 0 => ((b &&& c) ||| (~~~b &&& d), 0x5a827999)
    | 1 => (b ^^^ c ^^^ d, 0x6ed9eba1)
    | 2 => ((b &&& c) ||| (b &&& d) ||| (c &&& d), 0x8f1bbcdc)
    | _ => (b ^^^ c ^^^ d, 0xca62c1d6)
  #[turnLeft a 5 + f + s.getD 4 0 + k + words.getD i 0, a, turnLeft b 30, c, d]

/-- The digest SHA-1. -/
def sha1 (bs : List UInt8) : List UInt8 :=
  let start : Array UInt32 := #[0x67452301, 0xefcdab89, 0x98badcfe, 0x10325476, 0xc3d2e1f0]
  let s := (blocks 64 (padded 64 8 highBytes bs)).foldl (fun s block =>
    let words := extended (fun ws i => turnLeft
        (ws.getD (i - 3) 0 ^^^ ws.getD (i - 8) 0 ^^^ ws.getD (i - 14) 0 ^^^ ws.getD (i - 16) 0) 1)
      ((chunks 4 16 block).map fun w => (bigEndian w).toUInt32).toArray 80
    Array.zipWith (· + ·) s ((List.range 80).foldl (sha1Step words) s)) start
  s.toList.flatMap fun w => highBytes 4 w.toNat

/-! ### SHA-2 -/

/-- The greatest number whose `k`-th power is at most `n`, given that it is less than
`low + 2 ^ bits`. -/
def rootFrom (k n : Nat) : Nat → Nat → Nat
  | 0, low => low
  | bits + 1, low =>
    let middle := low + Nat.pow 2 bits
    rootFrom k n bits (if Nat.pow middle k ≤ n then middle else low)

/-- Whether a number has no divisor but 1 and itself. -/
def isPrime (n : Nat) : Bool :=
  2 ≤ n && (List.range n).all fun d => d < 2 || n % d != 0

/-- The first primes; the 80th is 409. -/
def primes : List Nat :=
  (List.range 410).filter isPrime

/-- The first `bits` bits of the fraction of the `k`-th root of a number below 512. -/
def rootFraction (k bits n : Nat) : Nat :=
  rootFrom k (n * Nat.pow 2 (k * bits)) (bits + 5) 0 % Nat.pow 2 bits

/-- A kind of SHA-2: its words have `bytes` bytes; `big` and `small` are the amounts by which words
are turned and, at last, shifted. -/
structure Sha2 where
  bytes : Nat
  rounds : Nat
  start : List Nat
  size : Nat
  bigA : List Nat
  bigE : List Nat
  smallLow : List Nat
  smallHigh : List Nat

namespace Sha2

/-- The number of bits of a word. -/
def bits (k : Sha2) : Nat := 8 * k.bytes

/-- A word turned to the right. -/
def turnRight (k : Sha2) (w n : Nat) : Nat :=
  w >>> n ||| (w <<< (k.bits - n)) % Nat.pow 2 k.bits

/-- A word turned by three amounts. -/
def big (k : Sha2) (ns : List Nat) (w : Nat) : Nat :=
  (ns.map (k.turnRight w)).foldl Nat.xor 0

/-- A word turned by two amounts and shifted by a third. -/
def small (k : Sha2) (ns : List Nat) (w : Nat) : Nat :=
  ((ns.dropLast.map (k.turnRight w)).foldl Nat.xor 0) ^^^ w >>> (ns.getLastD 0)

/-- The constants of the rounds. -/
def constants (k : Sha2) : Array Nat :=
  (primes.map (rootFraction 3 k.bits)).toArray

/-- One round. -/
def round (k : Sha2) (constants words : Array Nat) (s : Array Nat) (i : Nat) : Array Nat :=
  let word (j : Nat) : Nat := s.getD j 0
  let (a, b, c, e, f, g) := (word 0, word 1, word 2, word 4, word 5, word 6)
  let first := word 7 + k.big k.bigE e + ((e &&& f) ^^^ ((Nat.pow 2 k.bits - 1 - e) &&& g))
    + constants.getD i 0 + words.getD i 0
  let second := k.big k.bigA a + ((a &&& b) ^^^ (a &&& c) ^^^ (b &&& c))
  #[(first + second) % Nat.pow 2 k.bits, a, b, c, (word 3 + first) % Nat.pow 2 k.bits, e, f, g]

/-- The digest of a message. -/
def digest (k : Sha2) (bs : List UInt8) : List UInt8 :=
  let constants := k.constants
  let block := 16 * k.bytes
  let s := (blocks block (padded block (2 * k.bytes) highBytes bs)).foldl (fun s block =>
    let words := extended (fun ws i =>
        (k.small k.smallHigh (ws.getD (i - 2) 0) + ws.getD (i - 7) 0
          + k.small k.smallLow (ws.getD (i - 15) 0) + ws.getD (i - 16) 0) % Nat.pow 2 k.bits)
      ((chunks k.bytes 16 block).map bigEndian).toArray k.rounds
    Array.zipWith (fun x y => (x + y) % Nat.pow 2 k.bits) s
      ((List.range k.rounds).foldl (k.round constants words) s)) k.start.toArray
  (s.toList.flatMap (highBytes k.bytes)).take k.size

end Sha2

/-- The digest SHA-256. -/
def sha256 : Sha2 where
  bytes := 4
  rounds := 64
  start := (primes.take 8).map (rootFraction 2 32)
  size := 32
  bigA := [2, 13, 22]
  bigE := [6, 11, 25]
  smallLow := [7, 18, 3]
  smallHigh := [17, 19, 10]

/-- The digest SHA-512. -/
def sha512 : Sha2 where
  bytes := 8
  rounds := 80
  start := (primes.take 8).map (rootFraction 2 64)
  size := 64
  bigA := [28, 34, 39]
  bigE := [14, 18, 41]
  smallLow := [1, 8, 7]
  smallHigh := [19, 61, 6]

/-- The digest SHA-384: it starts from the next eight primes. -/
def sha384 : Sha2 :=
  { sha512 with start := ((primes.drop 8).take 8).map (rootFraction 2 64), size := 48 }

/-- The digest SHA-224: it starts from the low halves of the words of SHA-384. -/
def sha224 : Sha2 :=
  { sha256 with start := sha384.start.map (· % Nat.pow 2 32), size := 28 }

/-! ### BLAKE2b -/

/-- In which order each round takes the words of a block. -/
def orders : Array (Array Nat) :=
  #[#[0, 1, 2, 3, 4, 5, 6, 7, 8, 9, 10, 11, 12, 13, 14, 15],
    #[14, 10, 4, 8, 9, 15, 13, 6, 1, 12, 0, 2, 11, 7, 5, 3],
    #[11, 8, 12, 0, 5, 2, 15, 13, 10, 14, 3, 6, 7, 1, 9, 4],
    #[7, 9, 3, 1, 13, 12, 11, 14, 2, 6, 5, 10, 4, 0, 15, 8],
    #[9, 0, 5, 7, 2, 4, 10, 15, 14, 1, 11, 12, 6, 8, 3, 13],
    #[2, 12, 6, 10, 0, 11, 8, 3, 4, 13, 7, 5, 15, 14, 1, 9],
    #[12, 5, 1, 15, 14, 13, 4, 10, 0, 7, 6, 3, 9, 2, 8, 11],
    #[13, 11, 7, 14, 12, 1, 3, 9, 5, 0, 15, 4, 8, 6, 2, 10],
    #[6, 15, 14, 9, 11, 3, 0, 8, 12, 2, 13, 7, 1, 4, 10, 5],
    #[10, 2, 8, 4, 7, 6, 1, 5, 15, 11, 9, 14, 3, 12, 13, 0]]

/-- Mix two words of a block into four words of the state. -/
def mix (v : Array UInt64) (a b c d : Nat) (x y : UInt64) : Array UInt64 :=
  let turn (w n : UInt64) : UInt64 := (w >>> n) ||| (w <<< (64 - n))
  let va := v.getD a 0 + v.getD b 0 + x
  let vd := turn (v.getD d 0 ^^^ va) 32
  let vc := v.getD c 0 + vd
  let vb := turn (v.getD b 0 ^^^ vc) 24
  let va := va + vb + y
  let vd := turn (vd ^^^ va) 16
  let vc := vc + vd
  let vb := turn (vb ^^^ vc) 63
  (((v.setIfInBounds a va).setIfInBounds b vb).setIfInBounds c vc).setIfInBounds d vd

/-- Which words of the state are mixed in one round. -/
def mixes : List (Nat × Nat × Nat × Nat) :=
  [(0, 4, 8, 12), (1, 5, 9, 13), (2, 6, 10, 14), (3, 7, 11, 15),
    (0, 5, 10, 15), (1, 6, 11, 12), (2, 7, 8, 13), (3, 4, 9, 14)]

/-- Take a block into the state; `count` bytes have been taken then. -/
def blakeBlock (start h : Array UInt64) (block : List UInt8) (count : Nat) (last : Bool) :
    Array UInt64 :=
  let words := ((chunks 8 16 (block ++ List.replicate (128 - block.length) 0)).map fun w =>
    (littleEndian w).toUInt64).toArray
  let v := h ++ start
  let v := v.setIfInBounds 12 (v.getD 12 0 ^^^ count.toUInt64)
  let v := if last then v.setIfInBounds 14 (~~~ v.getD 14 0) else v
  let v := (List.range 12).foldl (fun v r =>
    let order := orders.getD (r % 10) #[]
    mixes.zipIdx.foldl (fun v ((a, b, c, d), i) =>
      mix v a b c d (words.getD (order.getD (2 * i) 0) 0)
        (words.getD (order.getD (2 * i + 1) 0) 0)) v) v
  ((List.range 8).map fun i => h.getD i 0 ^^^ v.getD i 0 ^^^ v.getD (i + 8) 0).toArray

/-- The digest BLAKE2b of 64 bytes. -/
def blake2b (bs : List UInt8) : List UInt8 :=
  let start := (sha512.start.map Nat.toUInt64).toArray
  let h := start.setIfInBounds 0 (start.getD 0 0 ^^^ 0x01010040)
  let pieces := match blocks 128 bs with
    | [] => [[]]
    | ps => ps
  let (h, _) := pieces.zipIdx.foldl (fun (h, count) (block, i) =>
    let count := count + block.length
    (blakeBlock start h block count (i + 1 == pieces.length), count)) (h, 0)
  h.toList.flatMap fun w => lowBytes 8 w.toNat

end ShaderBuild.Digest
