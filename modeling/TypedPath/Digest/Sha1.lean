/-! The SHA-1 digest. -/
namespace TypedPath.Digest

def rotate (x : UInt32) (n : UInt32) : UInt32 := (x <<< n) ||| (x >>> (32 - n))

/-- Five words of chaining state. -/
structure Chain where
  a : UInt32
  b : UInt32
  c : UInt32
  d : UInt32
  e : UInt32
  deriving Repr, DecidableEq

namespace Chain

def start : Chain := ⟨0x67452301, 0xefcdab89, 0x98badcfe, 0x10325476, 0xc3d2e1f0⟩

def add (x y : Chain) : Chain := ⟨x.a + y.a, x.b + y.b, x.c + y.c, x.d + y.d, x.e + y.e⟩

/-- The mixing function and constant of round `i`. -/
def mix (s : Chain) (i : Nat) : UInt32 :=
  if i < 20 then ((s.b &&& s.c) ||| (~~~s.b &&& s.d)) + 0x5a827999
  else if i < 40 then (s.b ^^^ s.c ^^^ s.d) + 0x6ed9eba1
  else if i < 60 then ((s.b &&& s.c) ||| (s.b &&& s.d) ||| (s.c &&& s.d)) + 0x8f1bbcdc
  else (s.b ^^^ s.c ^^^ s.d) + 0xca62c1d6

def round (s : Chain) (i : Nat) (w : UInt32) : Chain :=
  ⟨rotate s.a 5 + s.mix i + s.e + w, s.a, rotate s.b 30, s.c, s.d⟩

end Chain

/-- Appends `n` words to a message schedule, whose latest word stands first. -/
def extend : Nat → List UInt32 → List UInt32
  | 0, ws => ws
  | n + 1, ws =>
    extend n (rotate (ws.getD 2 0 ^^^ ws.getD 7 0 ^^^ ws.getD 13 0 ^^^ ws.getD 15 0) 1 :: ws)

def compress (s : Chain) (block : List UInt32) : Chain :=
  let words := (extend 64 block.reverse).reverse
  s.add ((words.zipIdx.foldl (fun t (w, i) => t.round i w)) s)

/-- The bytes of `n`, the highest first. -/
def bytesOf (width n : Nat) : List UInt8 :=
  (List.range width).reverse.map fun i => (n >>> (8 * i) % 256).toUInt8

/-- The message with a one bit, zeros up to the last eight bytes of a block, and its length in bits.
-/
def padded (message : List UInt8) : List UInt8 :=
  let n := message.length
  message ++ 0x80 :: (List.replicate ((119 - n % 64) % 64) 0 ++ bytesOf 8 (8 * n))

/-- Groups bytes to words, the highest byte first. -/
def words : List UInt8 → List UInt32
  | a :: b :: c :: d :: rest =>
    (a.toUInt32 <<< 24 ||| b.toUInt32 <<< 16 ||| c.toUInt32 <<< 8 ||| d.toUInt32) :: words rest
  | _ => []

/-- Digests blocks of sixteen words, `n` of them. -/
def digestBlocks : Nat → Chain → List UInt32 → Chain
  | 0, s, _ => s
  | n + 1, s, ws => digestBlocks n (compress s (ws.take 16)) (ws.drop 16)

def sha1 (message : List UInt8) : List UInt8 :=
  let ws := words (padded message)
  let s := digestBlocks (ws.length / 16) Chain.start ws
  [s.a, s.b, s.c, s.d, s.e].flatMap fun w => bytesOf 4 w.toNat

end TypedPath.Digest
