/-!
# Random bytes

Two sources of random bytes.  One hands out the values of a given function, which
makes a machine's future predictable.  The other is the Mersenne twister, a linear
generator on 624 words of 32 bits.  It is seeded by an integer of any size, whose
sign does not matter; the seed's 32-bit words, the least significant first, are
stirred into the state.

A random byte is taken from the top nine bits of an output word; values beyond a
byte are dropped and the next word is looked at.  The top bits of the outputs obey a
linear recurrence of degree 19937 without the root one, so they cannot all be set
for that many words on end, and the search for a byte ends within that bound.
-/

namespace Chip8

set_option autoImplicit false

/-- The state of a twister: 624 words and the place of the next one to be used. -/
structure Twister where
  words : Array UInt32
  next : Nat

namespace Twister

/-- The number of words in the state. -/
def size : Nat := 624

/-- Places of the state wrap round. -/
def wordAt (words : Array UInt32) (place : Nat) : UInt32 := words[place % size]?.getD 0

/-- The words of the simple generator that starts the state off. -/
def scatter (seed : UInt32) : Array UInt32 :=
  (List.range (size - 1)).foldl
    (fun (words : Array UInt32) i =>
      let last := wordAt words i
      words.push ((last ^^^ (last >>> 30)) * (1812433253 : UInt32) + UInt32.ofNat (i + 1)))
    (#[seed] : Array UInt32)

/-- A number's 32-bit words, the least significant first; zero has one. -/
def wordsOf (n : Nat) : List UInt32 :=
  if n < 4294967296 then [UInt32.ofNat n]
  else UInt32.ofNat (n % 4294967296) :: wordsOf (n / 4294967296)

/-- The place after `place`; past the end it is the second, and the last word is
copied to the first. -/
def onward (words : Array UInt32) (place : Nat) : Array UInt32 × Nat :=
  if place + 1 < size then (words, place + 1)
  else (words.setIfInBounds 0 (wordAt words (size - 1)), 1)

/-- Stirs a key into the state, the words of the key in turn. -/
def stir (key : Array UInt32) : Nat → Array UInt32 → Nat → Nat → Array UInt32 × Nat
  | 0, words, place, _ => (words, place)
  | rounds + 1, words, place, k =>
    let last := wordAt words (place - 1)
    let value := (wordAt words place ^^^ ((last ^^^ (last >>> 30)) * 1664525)) +
      key[k]?.getD 0 + UInt32.ofNat k
    let (words, place) := onward (words.setIfInBounds place value) place
    stir key rounds words place (if k + 1 < key.size then k + 1 else 0)

/-- Stirs the state once more without a key. -/
def settle : Nat → Array UInt32 → Nat → Array UInt32
  | 0, words, _ => words
  | rounds + 1, words, place =>
    let last := wordAt words (place - 1)
    let value := (wordAt words place ^^^ ((last ^^^ (last >>> 30)) * 1566083941)) -
      UInt32.ofNat place
    let (words, place) := onward (words.setIfInBounds place value) place
    settle rounds words place

/-- The twister of a seed. -/
def ofSeed (seed : Int) : Twister :=
  let key := (wordsOf seed.natAbs).toArray
  let (words, place) := stir key (max size key.size) (scatter 19650218) 1 0
  ⟨(settle (size - 1) words place).setIfInBounds 0 0x80000000, size⟩

/-- One word of the next state. -/
def twist (words : Array UInt32) (place : Nat) : UInt32 :=
  let joined := (wordAt words place &&& 0x80000000) ||| (wordAt words (place + 1) &&& 0x7fffffff)
  wordAt words (place + 397) ^^^ (joined >>> 1) ^^^ (if joined &&& 1 = 1 then 0x9908b0df else 0)

/-- The next state: each word is replaced in turn, so that later words see the new
values of earlier ones. -/
def renew (words : Array UInt32) : Array UInt32 :=
  (List.range size).foldl (fun words place => words.setIfInBounds place (twist words place)) words

/-- The bits of a state word mixed for output. -/
def temper (word : UInt32) : UInt32 :=
  let word := word ^^^ (word >>> 11)
  let word := word ^^^ ((word <<< 7) &&& 0x9d2c5680)
  let word := word ^^^ ((word <<< 15) &&& 0xefc60000)
  word ^^^ (word >>> 18)

/-- The next output word. -/
def draw (twister : Twister) : UInt32 × Twister :=
  if twister.next < size then
    (temper (wordAt twister.words twister.next), { twister with next := twister.next + 1 })
  else
    let words := renew twister.words
    (temper (wordAt words 0), ⟨words, 1⟩)

/-- The most words that are looked at for one byte. -/
def patience : Nat := 19937

/-- The next byte among at most so many output words. -/
def byteWithin : Nat → Twister → UInt8 × Twister
  | 0, twister => (0, twister)
  | words + 1, twister =>
    let (word, twister) := twister.draw
    let value := word >>> 23
    if value < 256 then (value.toUInt8, twister) else byteWithin words twister

/-- The next byte. -/
def byte (twister : Twister) : UInt8 × Twister := byteWithin patience twister

end Twister

/-- A source of random bytes. -/
inductive RandomSource where
  /-- The values of a function, from the given place on. -/
  | listed (byteAt : Nat → UInt8) (place : Nat)
  | twister (twister : Twister)

namespace RandomSource

/-- Draws a byte. -/
def draw : RandomSource → UInt8 × RandomSource
  | listed byteAt place => (byteAt place, listed byteAt (place + 1))
  | twister t =>
    let (byte, t) := t.byte
    (byte, twister t)

/-- A list of bytes over and over; of no bytes, zeros. -/
def cyclic (bytes : List UInt8) : RandomSource :=
  let table := bytes.toArray
  listed (fun place => table[place % table.size]?.getD 0) 0

/-- The twister of a seed. -/
def seeded (seed : Int) : RandomSource := twister (Twister.ofSeed seed)

/-- The source after a number of draws. -/
def after (source : RandomSource) : Nat → RandomSource
  | 0 => source
  | n + 1 => source.draw.2.after n

/-- The byte that a source delivers after `n` others. -/
def nth (source : RandomSource) (n : Nat) : UInt8 := (source.after n).draw.1

/-- Each draw takes a listed source one place on. -/
theorem after_listed (byteAt : Nat → UInt8) (place n : Nat) :
    (listed byteAt place).after n = listed byteAt (place + n) := by
  induction n generalizing place with
  | zero => rfl
  | succ n ih =>
      rw [after, draw, ih, Nat.add_assoc, Nat.add_comm 1]

/-- After `n` others a listed source delivers the value of its function `n` places on. -/
theorem nth_listed (byteAt : Nat → UInt8) (place n : Nat) :
    (listed byteAt place).nth n = byteAt (place + n) := by
  rw [nth, after_listed, draw]

end RandomSource

end Chip8
