import FieldPipeline.Text.Quoted

/-!
Digests of texts, by the name of the algorithm.  The algorithms share their constants, and cut a
message into blocks.  The constants of the longer ones are the fractional parts of the square and
cube roots of the first primes, those of the shortest one come from the sine.  A message is followed
by a one bit, zeros and its length, so that it fills its last block.
-/

namespace FieldPipeline.Digest

def cubeRoots : Array UInt64 := #[
  0x428a2f98d728ae22, 0x7137449123ef65cd, 0xb5c0fbcfec4d3b2f, 0xe9b5dba58189dbbc,
  0x3956c25bf348b538, 0x59f111f1b605d019, 0x923f82a4af194f9b, 0xab1c5ed5da6d8118,
  0xd807aa98a3030242, 0x12835b0145706fbe, 0x243185be4ee4b28c, 0x550c7dc3d5ffb4e2,
  0x72be5d74f27b896f, 0x80deb1fe3b1696b1, 0x9bdc06a725c71235, 0xc19bf174cf692694,
  0xe49b69c19ef14ad2, 0xefbe4786384f25e3, 0x0fc19dc68b8cd5b5, 0x240ca1cc77ac9c65,
  0x2de92c6f592b0275, 0x4a7484aa6ea6e483, 0x5cb0a9dcbd41fbd4, 0x76f988da831153b5,
  0x983e5152ee66dfab, 0xa831c66d2db43210, 0xb00327c898fb213f, 0xbf597fc7beef0ee4,
  0xc6e00bf33da88fc2, 0xd5a79147930aa725, 0x06ca6351e003826f, 0x142929670a0e6e70,
  0x27b70a8546d22ffc, 0x2e1b21385c26c926, 0x4d2c6dfc5ac42aed, 0x53380d139d95b3df,
  0x650a73548baf63de, 0x766a0abb3c77b2a8, 0x81c2c92e47edaee6, 0x92722c851482353b,
  0xa2bfe8a14cf10364, 0xa81a664bbc423001, 0xc24b8b70d0f89791, 0xc76c51a30654be30,
  0xd192e819d6ef5218, 0xd69906245565a910, 0xf40e35855771202a, 0x106aa07032bbd1b8,
  0x19a4c116b8d2d0c8, 0x1e376c085141ab53, 0x2748774cdf8eeb99, 0x34b0bcb5e19b48a8,
  0x391c0cb3c5c95a63, 0x4ed8aa4ae3418acb, 0x5b9cca4f7763e373, 0x682e6ff3d6b2b8a3,
  0x748f82ee5defb2fc, 0x78a5636f43172f60, 0x84c87814a1f0ab72, 0x8cc702081a6439ec,
  0x90befffa23631e28, 0xa4506cebde82bde9, 0xbef9a3f7b2c67915, 0xc67178f2e372532b,
  0xca273eceea26619c, 0xd186b8c721c0c207, 0xeada7dd6cde0eb1e, 0xf57d4f7fee6ed178,
  0x06f067aa72176fba, 0x0a637dc5a2c898a6, 0x113f9804bef90dae, 0x1b710b35131c471b,
  0x28db77f523047d84, 0x32caab7b40c72493, 0x3c9ebe0a15c9bebc, 0x431d67c49c100d4c,
  0x4cc5d4becb3e42b6, 0x597f299cfc657e2a, 0x5fcb6fab3ad6faec, 0x6c44198c4a475817]

def squareRoots : Array UInt64 := #[
  0x6a09e667f3bcc908, 0xbb67ae8584caa73b, 0x3c6ef372fe94f82b, 0xa54ff53a5f1d36f1,
  0x510e527fade682d1, 0x9b05688c2b3e6c1f, 0x1f83d9abfb41bd6b, 0x5be0cd19137e2179]

/-- The square roots of the ninth to the sixteenth prime. -/
def laterSquareRoots : Array UInt64 := #[
  0xcbbb9d5dc1059ed8, 0x629a292a367cd507, 0x9159015a3070dd17, 0x152fecd8f70e5939,
  0x67332667ffc00b31, 0x8eb44a8768581511, 0xdb0c2e0d64f98fa7, 0x47b5481dbefa4fa4]

def sines : Array UInt32 := #[
  0xd76aa478, 0xe8c7b756, 0x242070db, 0xc1bdceee, 0xf57c0faf, 0x4787c62a,
  0xa8304613, 0xfd469501, 0x698098d8, 0x8b44f7af, 0xffff5bb1, 0x895cd7be,
  0x6b901122, 0xfd987193, 0xa679438e, 0x49b40821, 0xf61e2562, 0xc040b340,
  0x265e5a51, 0xe9b6c7aa, 0xd62f105d, 0x02441453, 0xd8a1e681, 0xe7d3fbc8,
  0x21e1cde6, 0xc33707d6, 0xf4d50d87, 0x455a14ed, 0xa9e3e905, 0xfcefa3f8,
  0x676f02d9, 0x8d2a4c8a, 0xfffa3942, 0x8771f681, 0x6d9d6122, 0xfde5380c,
  0xa4beea44, 0x4bdecfa9, 0xf6bb4b60, 0xbebfbc70, 0x289b7ec6, 0xeaa127fa,
  0xd4ef3085, 0x04881d05, 0xd9d4d039, 0xe6db99e5, 0x1fa27cf8, 0xc4ac5665,
  0xf4292244, 0x432aff97, 0xab9423a7, 0xfc93a039, 0x655b59c3, 0x8f0ccc92,
  0xffeff47d, 0x85845dd1, 0x6fa87e4f, 0xfe2ce6e0, 0xa3014314, 0x4e0811a1,
  0xf7537e82, 0xbd3af235, 0x2ad7d2bb, 0xeb86d391]

def bigBytes : Nat → Nat → List UInt8
  | 0, _ => []
  | count + 1, n => bigBytes count (n / 256) ++ [UInt8.ofNat (n % 256)]

def littleBytes : Nat → Nat → List UInt8
  | 0, _ => []
  | count + 1, n => UInt8.ofNat (n % 256) :: littleBytes count (n / 256)

def bigNumber (bytes : List UInt8) : Nat :=
  bytes.foldl (fun acc b => acc * 256 + b.toNat) 0

def littleNumber (bytes : List UInt8) : Nat :=
  bytes.foldr (fun b acc => acc * 256 + b.toNat) 0

/-- A message filled up to whole blocks; the length in bits takes `lengthSize` bytes. -/
def padded (block lengthSize : Nat) (lengthBytes : Nat → Nat → List UInt8)
    (message : List UInt8) : List UInt8 :=
  let used := (message.length + 1 + lengthSize) % block
  let zeros := (block - used) % block
  message ++ 128 :: List.replicate zeros 0 ++ lengthBytes lengthSize (8 * message.length)

def pieces {α : Type} (size : Nat) : Nat → List α → List (List α)
  | 0, _ => []
  | count + 1, xs => if xs.isEmpty then [] else xs.take size :: pieces size count (xs.drop size)

def blocks (size : Nat) (bytes : List UInt8) : List (List UInt8) :=
  pieces size bytes.length bytes

def words (size : Nat) (number : List UInt8 → Nat) (block : List UInt8) : List Nat :=
  (pieces size block.length block).map number

/-! ### Digests of 128 and 160 bits -/

def turnLeft (x : UInt32) (n : UInt32) : UInt32 :=
  (x <<< n) ||| (x >>> (32 - n))

namespace Md5

structure State where
  a : UInt32
  b : UInt32
  c : UInt32
  d : UInt32

def start : State := ⟨0x67452301, 0xefcdab89, 0x98badcfe, 0x10325476⟩

/-- By how much each step of a round turns its sum. -/
def turns (round : Nat) : List UInt32 :=
  match round with
  | 0 => [7, 12, 17, 22]
  | 1 => [5, 9, 14, 20]
  | 2 => [4, 11, 16, 23]
  | _ => [6, 10, 15, 21]

def mix (round : Nat) (s : State) : UInt32 :=
  match round with
  | 0 => (s.b &&& s.c) ||| (~~~s.b &&& s.d)
  | 1 => (s.d &&& s.b) ||| (~~~s.d &&& s.c)
  | 2 => s.b ^^^ s.c ^^^ s.d
  | _ => s.c ^^^ (s.b ||| ~~~s.d)

def wordPlace (round i : Nat) : Nat :=
  match round with
  | 0 => i
  | 1 => (5 * i + 1) % 16
  | 2 => (3 * i + 5) % 16
  | _ => 7 * i % 16

def step (ws : Array UInt32) (s : State) (i : Nat) : State :=
  let round := i / 16
  let sum := s.a + mix round s + sines.getD i 0 + ws.getD (wordPlace round i) 0
  let turned := turnLeft sum ((turns round).getD (i % 4) 0)
  ⟨s.d, s.b + turned, s.b, s.c⟩

def absorb (s : State) (block : List UInt8) : State :=
  let ws := ((words 4 littleNumber block).map UInt32.ofNat).toArray
  let t := (List.range 64).foldl (step ws) s
  ⟨s.a + t.a, s.b + t.b, s.c + t.c, s.d + t.d⟩

def digest (message : List UInt8) : List UInt8 :=
  let s := (blocks 64 (padded 64 8 littleBytes message)).foldl absorb start
  [s.a, s.b, s.c, s.d].flatMap fun w => littleBytes 4 w.toNat

end Md5

namespace Sha1

structure State where
  a : UInt32
  b : UInt32
  c : UInt32
  d : UInt32
  e : UInt32

def start : State := ⟨0x67452301, 0xefcdab89, 0x98badcfe, 0x10325476, 0xc3d2e1f0⟩

def schedule (block : List UInt8) : Array UInt32 :=
  let first := ((words 4 bigNumber block).map UInt32.ofNat).toArray
  (List.range 64).foldl (fun (ws : Array UInt32) k =>
    let i := k + 16
    let w := ws.getD (i - 3) 0 ^^^ ws.getD (i - 8) 0 ^^^ ws.getD (i - 14) 0 ^^^ ws.getD (i - 16) 0
    ws.push (turnLeft w 1)) first

def mix (round : Nat) (s : State) : UInt32 :=
  match round with
  | 0 => ((s.b &&& s.c) ||| (~~~s.b &&& s.d)) + 0x5a827999
  | 1 => (s.b ^^^ s.c ^^^ s.d) + 0x6ed9eba1
  | 2 => ((s.b &&& s.c) ||| (s.b &&& s.d) ||| (s.c &&& s.d)) + 0x8f1bbcdc
  | _ => (s.b ^^^ s.c ^^^ s.d) + 0xca62c1d6

def step (ws : Array UInt32) (s : State) (i : Nat) : State :=
  let sum := turnLeft s.a 5 + mix (i / 20) s + s.e + ws.getD i 0
  ⟨sum, s.a, turnLeft s.b 30, s.c, s.d⟩

def absorb (s : State) (block : List UInt8) : State :=
  let t := (List.range 80).foldl (step (schedule block)) s
  ⟨s.a + t.a, s.b + t.b, s.c + t.c, s.d + t.d, s.e + t.e⟩

def digest (message : List UInt8) : List UInt8 :=
  let s := (blocks 64 (padded 64 8 bigBytes message)).foldl absorb start
  [s.a, s.b, s.c, s.d, s.e].flatMap fun w => bigBytes 4 w.toNat

end Sha1

/-!
### Digests of 224 to 512 bits

All are made by one scheme, which differs in the width of its words, its turns and the number of its
steps.
-/

structure Scheme (W : Type) where
  ofNat : Nat → W
  toNat : W → Nat
  add : W → W → W
  choose : W → W → W → W
  majority : W → W → W → W
  /-- The two sums of a step and the two of the schedule. -/
  upperA : W → W
  upperE : W → W
  lowerEarly : W → W
  lowerLate : W → W
  constants : Array W
  wordSize : Nat

namespace Scheme

variable {W : Type}

def steps (s : Scheme W) : Nat := s.constants.size

def wordAt (s : Scheme W) (ws : Array W) (i : Nat) : W :=
  ws.getD i (s.ofNat 0)

def schedule (s : Scheme W) (block : List UInt8) : Array W :=
  let first := ((words s.wordSize bigNumber block).map s.ofNat).toArray
  (List.range (s.steps - 16)).foldl (fun ws k =>
    let i := k + 16
    ws.push (s.add (s.add (s.lowerLate (s.wordAt ws (i - 2))) (s.wordAt ws (i - 7)))
      (s.add (s.lowerEarly (s.wordAt ws (i - 15))) (s.wordAt ws (i - 16))))) first

def step (s : Scheme W) (ws : Array W) (state : List W) (i : Nat) : List W :=
  match state with
  | [a, b, c, d, e, f, g, h] =>
    let t1 := s.add (s.add (s.add h (s.upperE e)) (s.add (s.choose e f g) (s.wordAt s.constants i)))
      (s.wordAt ws i)
    let t2 := s.add (s.upperA a) (s.majority a b c)
    [s.add t1 t2, a, b, c, s.add d t1, e, f, g]
  | other => other

def absorb (s : Scheme W) (state : List W) (block : List UInt8) : List W :=
  let ws := s.schedule block
  List.zipWith s.add state ((List.range s.steps).foldl (s.step ws) state)

def digest (s : Scheme W) (start : List W) (size : Nat) (message : List UInt8) : List UInt8 :=
  let block := 16 * s.wordSize
  let final := (blocks block (padded block (2 * s.wordSize) bigBytes message)).foldl s.absorb start
  (final.flatMap fun w => bigBytes s.wordSize (s.toNat w)).take size

end Scheme

def turn32 (x n : UInt32) : UInt32 :=
  (x >>> n) ||| (x <<< (32 - n))

def turn64 (x n : UInt64) : UInt64 :=
  (x >>> n) ||| (x <<< (64 - n))

def narrow : Scheme UInt32 where
  ofNat := UInt32.ofNat
  toNat := UInt32.toNat
  add := (· + ·)
  choose e f g := (e &&& f) ^^^ (~~~e &&& g)
  majority a b c := (a &&& b) ^^^ (a &&& c) ^^^ (b &&& c)
  upperA a := turn32 a 2 ^^^ turn32 a 13 ^^^ turn32 a 22
  upperE e := turn32 e 6 ^^^ turn32 e 11 ^^^ turn32 e 25
  lowerEarly w := turn32 w 7 ^^^ turn32 w 18 ^^^ (w >>> 3)
  lowerLate w := turn32 w 17 ^^^ turn32 w 19 ^^^ (w >>> 10)
  constants := (cubeRoots.take 64).map fun (k : UInt64) => (k >>> 32).toUInt32
  wordSize := 4

def wide : Scheme UInt64 where
  ofNat := UInt64.ofNat
  toNat := UInt64.toNat
  add := (· + ·)
  choose e f g := (e &&& f) ^^^ (~~~e &&& g)
  majority a b c := (a &&& b) ^^^ (a &&& c) ^^^ (b &&& c)
  upperA a := turn64 a 28 ^^^ turn64 a 34 ^^^ turn64 a 39
  upperE e := turn64 e 14 ^^^ turn64 e 18 ^^^ turn64 e 41
  lowerEarly w := turn64 w 1 ^^^ turn64 w 8 ^^^ (w >>> 7)
  lowerLate w := turn64 w 19 ^^^ turn64 w 61 ^^^ (w >>> 6)
  constants := cubeRoots
  wordSize := 8

def sha256 : List UInt8 → List UInt8 :=
  narrow.digest (squareRoots.toList.map fun (h : UInt64) => (h >>> 32).toUInt32) 32

def sha224 : List UInt8 → List UInt8 :=
  narrow.digest (laterSquareRoots.toList.map UInt64.toUInt32) 28

def sha512 : List UInt8 → List UInt8 :=
  wide.digest squareRoots.toList 64

def sha384 : List UInt8 → List UInt8 :=
  wide.digest laterSquareRoots.toList 48

/-! ### Digests by name -/

inductive Algorithm where
  | md5 | sha1 | sha224 | sha256 | sha384 | sha512
  deriving DecidableEq, Repr

namespace Algorithm

def names : Algorithm → List String
  | .md5 => ["md5", "ssl3-md5"]
  | .sha1 => ["sha1", "sha-1", "ssl3-sha1"]
  | .sha224 => ["sha224", "sha-224", "sha2-224"]
  | .sha256 => ["sha256", "sha-256", "sha2-256"]
  | .sha384 => ["sha384", "sha-384", "sha2-384"]
  | .sha512 => ["sha512", "sha-512", "sha2-512"]

def catalogue : List Algorithm := [.md5, .sha1, .sha224, .sha256, .sha384, .sha512]

def named? (name : String) : Option Algorithm :=
  catalogue.find? fun a => a.names.contains (String.ofList (name.toList.map Char.toLower))

def digest : Algorithm → List UInt8 → List UInt8
  | .md5 => Md5.digest
  | .sha1 => Sha1.digest
  | .sha224 => Digest.sha224
  | .sha256 => Digest.sha256
  | .sha384 => Digest.sha384
  | .sha512 => Digest.sha512

def digestText (a : Algorithm) (s : String) : String :=
  let bytes := s.toUTF8.toList
  String.ofList ((a.digest bytes).flatMap fun b => Text.hexDigits b.toNat 2)

end Algorithm

end FieldPipeline.Digest
