import DiceNotation.Source

/-!
# The generator

Pseudorandom words from a state of 624 words of 32 bits. The state is seeded from a whole number, whose
sign does not count, and renewed as a whole each time it is used up; a word is tempered before it is
given out. A die is rolled by drawing as many bits as its number of faces has until they show a number
below it.
-/

namespace DiceNotation

/-- The state of the generator: its words, and how many of them are used up. -/
structure Twister where
  words : Array UInt32
  used : Nat

namespace Twister

/-- The number of words of a state. -/
def size : Nat := 624

/-- A word of a state. -/
def word (words : Array UInt32) (i : Nat) : UInt32 := words.getD i 0

/-- A word with its upper bits folded into its lower ones. -/
def folded (w : UInt32) : UInt32 := w ^^^ (w >>> 30)

/-- The state that a single word is spread out to. -/
def spread (seed : UInt32) : Array UInt32 :=
  (List.range (size - 1)).foldl
    (fun words i => words.push (1812433253 * folded (word words i) + (i + 1).toUInt32)) #[seed]

/-- The index after `i`, from one again after the last; then the first word is a copy of the last. -/
def advance (words : Array UInt32) (i : Nat) : Array UInt32 × Nat :=
  if i + 1 < size then (words, i + 1)
  else (words.setIfInBounds 0 (word words (size - 1)), 1)

/-- The state mixed with the words of a key. -/
def mixKey (key : Array UInt32) (words : Array UInt32) : Array UInt32 × Nat :=
  (List.range (max size key.size)).foldl
    (fun (words, i) step =>
      let j := step % key.size
      let mixed :=
        (word words i ^^^ (folded (word words (i - 1)) * 1664525)) + word key j + j.toUInt32
      advance (words.setIfInBounds i mixed) i)
    (words, 1)

/-- The state mixed once more with the positions of its words. -/
def mixPositions (words : Array UInt32) (start : Nat) : Array UInt32 :=
  ((List.range (size - 1)).foldl
    (fun (words, i) _ =>
      let mixed := (word words i ^^^ (folded (word words (i - 1)) * 1566083941)) - i.toUInt32
      advance (words.setIfInBounds i mixed) i)
    (words, start)).1

/-- The words of a number, the least significant first; zero has one word. -/
def keyWords (n : Nat) : List UInt32 :=
  if n < 0x100000000 then [n.toUInt32] else n.toUInt32 :: keyWords (n / 0x100000000)
termination_by n
decreasing_by omega

/-- The generator seeded with a number. -/
def ofSeed (seed : Int) : Twister :=
  let (words, i) := mixKey (keyWords seed.natAbs).toArray (spread 19650218)
  ⟨(mixPositions words i).setIfInBounds 0 0x80000000, size⟩

/-- The next state, none of its words used. -/
def renew (words : Array UInt32) : Array UInt32 :=
  (List.range size).foldl
    (fun words i =>
      let joined := (word words i &&& 0x80000000) ||| (word words ((i + 1) % size) &&& 0x7FFFFFFF)
      let twist : UInt32 := if joined &&& 1 = 0 then 0 else 0x9908B0DF
      words.setIfInBounds i (word words ((i + 397) % size) ^^^ (joined >>> 1) ^^^ twist))
    words

/-- A word as it is given out. -/
def temper (w : UInt32) : UInt32 :=
  let w := w ^^^ (w >>> 11)
  let w := w ^^^ ((w <<< 7) &&& 0x9D2C5680)
  let w := w ^^^ ((w <<< 15) &&& 0xEFC60000)
  w ^^^ (w >>> 18)

/-- The next word. -/
def next (g : Twister) : UInt32 × Twister :=
  if g.used < size then (temper (word g.words g.used), { g with used := g.used + 1 })
  else
    let words := renew g.words
    (temper (word words 0), ⟨words, 1⟩)

/-- A number of `count` bits: words from the least significant on, of the last one only the upper
bits that are needed. -/
def bits (count : Nat) (g : Twister) : Nat × Twister :=
  let (w, g) := g.next
  if count ≤ 32 then ((w >>> (32 - count).toUInt32).toNat, g)
  else
    let (rest, g) := g.bits (count - 32)
    (w.toNat + rest * 0x100000000, g)
termination_by count

/-- How often a number is drawn at most. Each draw is small enough with a chance of at least one half. Drawing
would have to go on for as long as it takes: this is where what is written here ends sooner. -/
def attempts : Nat := 4096

/-- A number below `bound`, drawn until one is small enough; zero if none is in `tries` draws. -/
def below (bound : Nat) : Nat → Twister → Nat × Twister
  | 0, g => (0, g)
  | tries + 1, g =>
    let (value, g) := g.bits (bound.log2 + 1)
    if value < bound then (value, g) else below bound tries g

/-- Dice rolled with the generator. -/
def source : Source Twister := fun faces g =>
  if faces < 1 then (.error (.emptyRange faces), g)
  else
    let (value, g) := below faces.toNat attempts g
    (.ok (value + 1 : Nat), g)

end Twister

end DiceNotation
