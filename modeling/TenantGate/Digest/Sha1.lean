/-
The SHA-1 digest of a list of bytes: five words of 32 bits, taken
through every block of sixteen words of the padded message.
-/
namespace TenantGate.Digest.Sha1

/-- The five words of the running state. -/
structure State where
  a : UInt32
  b : UInt32
  c : UInt32
  d : UInt32
  e : UInt32
deriving DecidableEq

/-- The state before the first block. -/
def initial : State := ⟨0x67452301, 0xEFCDAB89, 0x98BADCFE, 0x10325476, 0xC3D2E1F0⟩

/-- Turns a word to the left by fewer than 32 places. -/
def rotate (n : UInt32) (w : UInt32) : UInt32 := (w <<< n) ||| (w >>> (32 - n))

/-- The number `n` in `count` bytes, most significant first. -/
def bigEndian (count n : Nat) : List UInt8 :=
  (List.range count).map fun i => UInt8.ofNat (n / Nat.pow 256 (count - 1 - i))

/-- The message, a one bit, zeros up to the last eight bytes of a block,
and the message's length in bits. -/
def pad (message : List UInt8) : List UInt8 :=
  let zeros := (119 - message.length % 64) % 64
  message ++ 0x80 :: (List.replicate zeros 0 ++ bigEndian 8 (8 * message.length))

/-- The words of a list of bytes, most significant byte first. -/
def words : List UInt8 → List UInt32
  | w :: x :: y :: z :: rest =>
      ((w.toUInt32 <<< 24) ||| (x.toUInt32 <<< 16) ||| (y.toUInt32 <<< 8) ||| z.toUInt32)
        :: words rest
  | _ => []

/-- Puts `count` more words before a schedule that has its newest word
first. -/
def extend : (count : Nat) → List UInt32 → List UInt32
  | 0, ws => ws
  | count + 1, ws =>
      let next := ws.getD 2 0 ^^^ ws.getD 7 0 ^^^ ws.getD 13 0 ^^^ ws.getD 15 0
      extend count (rotate 1 next :: ws)

/-- The eighty words of a block of sixteen. -/
def schedule (block : List UInt32) : List UInt32 := (extend 64 block.reverse).reverse

/-- The mixing function and the constant of a round. -/
def roundValues (t : Nat) (s : State) : UInt32 × UInt32 :=
  if t < 20 then ((s.b &&& s.c) ||| (~~~s.b &&& s.d), 0x5A827999)
  else if t < 40 then (s.b ^^^ s.c ^^^ s.d, 0x6ED9EBA1)
  else if t < 60 then ((s.b &&& s.c) ||| (s.b &&& s.d) ||| (s.c &&& s.d), 0x8F1BBCDC)
  else (s.b ^^^ s.c ^^^ s.d, 0xCA62C1D6)

/-- The rounds from number `t` on, one for each word. -/
def rounds : (t : Nat) → State → List UInt32 → State
  | _, s, [] => s
  | t, s, w :: ws =>
      let (f, k) := roundValues t s
      rounds (t + 1) ⟨rotate 5 s.a + f + s.e + k + w, s.a, rotate 30 s.b, s.c, s.d⟩ ws

/-- Takes the state through one block. -/
def compress (s : State) (block : List UInt32) : State :=
  let r := rounds 0 s (schedule block)
  ⟨s.a + r.a, s.b + r.b, s.c + r.c, s.d + r.d, s.e + r.e⟩

/-- Takes the state through all blocks of sixteen words. -/
def absorb (s : State) (ws : List UInt32) : State :=
  if ws.length < 16 then s
  else absorb (compress s (ws.take 16)) (ws.drop 16)
termination_by ws.length
decreasing_by simp; omega

/-- The digest of a message in twenty bytes. -/
def digest (message : List UInt8) : List UInt8 :=
  let s := absorb initial (words (pad message))
  [s.a, s.b, s.c, s.d, s.e].flatMap fun w => bigEndian 4 w.toNat

end TenantGate.Digest.Sha1
