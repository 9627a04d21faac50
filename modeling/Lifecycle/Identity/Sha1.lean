/-!
# SHA-1

The secure hash with a 160-bit digest, over lists of bytes.  Name-based identifiers are cut from
it.
-/

namespace Lifecycle.Identity.Sha1

structure State where
  a : UInt32
  b : UInt32
  c : UInt32
  d : UInt32
  e : UInt32
  deriving DecidableEq

def State.start : State :=
  ⟨0x67452301, 0xEFCDAB89, 0x98BADCFE, 0x10325476, 0xC3D2E1F0⟩

def State.add (s t : State) : State :=
  ⟨s.a + t.a, s.b + t.b, s.c + t.c, s.d + t.d, s.e + t.e⟩

def rotate (amount : UInt32) (word : UInt32) : UInt32 :=
  (word <<< amount) ||| (word >>> (32 - amount))

/-- The `count` lowest bytes of a number, the most significant first. -/
def bigEndian : Nat → Nat → List UInt8
  | 0, _ => []
  | count + 1, value => bigEndian count (value / 256) ++ [UInt8.ofNat value]

/-- A message followed by a one bit, zeros and its length in bits, up to a multiple of 64 bytes. -/
def pad (message : List UInt8) : List UInt8 :=
  message ++ 0x80 :: List.replicate ((119 - message.length % 64) % 64) 0 ++
    bigEndian 8 (8 * message.length)

/-- The big-endian words of a list of bytes; a rest of fewer than four bytes is dropped. -/
def words : List UInt8 → List UInt32
  | p :: q :: r :: s :: rest =>
    (p.toUInt32 <<< 24 ||| q.toUInt32 <<< 16 ||| r.toUInt32 <<< 8 ||| s.toUInt32) :: words rest
  | _ => []

/-- The word that follows the schedule so far, which is given with the newest word first. -/
def nextWord (recent : List UInt32) : UInt32 :=
  rotate 1 (recent.getD 2 0 ^^^ recent.getD 7 0 ^^^ recent.getD 13 0 ^^^ recent.getD 15 0)

def schedule (block : List UInt32) : List UInt32 :=
  (Nat.repeat (fun recent => nextWord recent :: recent) 64 block.reverse).reverse

def mix (round : Nat) (b c d : UInt32) : UInt32 :=
  match round / 20 with
  | 0 => (b &&& c) ||| (~~~b &&& d)
  | 2 => (b &&& c) ||| (b &&& d) ||| (c &&& d)
  | _ => b ^^^ c ^^^ d

def roundConstant (round : Nat) : UInt32 :=
  match round / 20 with
  | 0 => 0x5A827999
  | 1 => 0x6ED9EBA1
  | 2 => 0x8F1BBCDC
  | _ => 0xCA62C1D6

def step (s : State) (word : UInt32) (round : Nat) : State :=
  ⟨rotate 5 s.a + mix round s.b s.c s.d + s.e + roundConstant round + word, s.a, rotate 30 s.b,
    s.c, s.d⟩

def compress (s : State) (block : List UInt32) : State :=
  s.add ((schedule block).zipIdx.foldl (fun t (word, round) => step t word round) s)

def absorb (s : State) (message : List UInt32) : State :=
  if _h : message.length < 16 then s
  else absorb (compress s (message.take 16)) (message.drop 16)
termination_by message.length
decreasing_by simp only [List.length_drop]; omega

def digest (message : List UInt8) : List UInt8 :=
  let s := absorb State.start (words (pad message))
  [s.a, s.b, s.c, s.d, s.e].flatMap fun word => bigEndian 4 word.toNat

@[simp] theorem length_bigEndian (count value : Nat) : (bigEndian count value).length = count := by
  induction count generalizing value with
  | zero => rfl
  | succ count ih => simp [bigEndian, ih]

theorem length_pad_mod (message : List UInt8) : (pad message).length % 64 = 0 := by
  simp only [pad, List.length_append, List.length_cons, List.length_replicate, length_bigEndian]
  omega

@[simp] theorem length_digest (message : List UInt8) : (digest message).length = 20 := by
  simp [digest]

end Lifecycle.Identity.Sha1
