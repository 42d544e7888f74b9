import Mathlib.Data.Nat.Find

/-!
# Chains of exploding dice

What explosions come to, told die by die. Every die of a roll begins a chain, which is alive if the die
shows the face on which dice explode. Generation after generation all chains that are alive, from left
to right, take the next value of a stream, and a chain that takes one stays alive if the value is the
face again.

Nothing here looks at a pool of dice, or at a limit before a generation begins. What a limit makes of
the generations is said of the row of them as a whole: either they come to an end within the limit, or
one of them is the first that does not fit.
-/

namespace DiceNotation

/-- The dice that came of one die, and whether the last of them explodes. -/
structure Chain where
  values : List Int
  alive : Bool
deriving DecidableEq, Repr

namespace Chain

/-- The chain that a die begins. -/
def start (face value : Int) : Chain := ⟨[value], value == face⟩

/-- The chain with one more die. -/
def extend (face : Int) (c : Chain) (value : Int) : Chain := ⟨c.values ++ [value], value == face⟩

/-- One generation of chains, after `drawn` values of the stream. -/
def advance (face : Int) (stream : Nat → Int) (drawn : Nat) : List Chain → List Chain
  | [] => []
  | c :: rest =>
    if c.alive then c.extend face (stream drawn) :: advance face stream (drawn + 1) rest
    else c :: advance face stream drawn rest

theorem advance_cons_of_alive {c : Chain} (h : c.alive = true) (face : Int) (stream : Nat → Int)
    (drawn : Nat) (rest : List Chain) : advance face stream drawn (c :: rest) =
      c.extend face (stream drawn) :: advance face stream (drawn + 1) rest := by
  rw [advance, if_pos h]

theorem advance_cons_of_not_alive {c : Chain} (h : c.alive = false) (face : Int) (stream : Nat → Int)
    (drawn : Nat) (rest : List Chain) : advance face stream drawn (c :: rest) =
      c :: advance face stream drawn rest := by
  rw [advance, h, if_neg Bool.false_ne_true]

theorem advance_of_not_alive {face : Int} {stream : Nat → Int} {drawn : Nat} {chains : List Chain}
    (h : ∀ c ∈ chains, c.alive = false) : advance face stream drawn chains = chains := by
  induction chains with
  | nil => rfl
  | cons c rest ih =>
    rw [advance_cons_of_not_alive (h c List.mem_cons_self),
      ih fun d hd => h d (List.mem_cons_of_mem c hd)]

theorem length_advance (face : Int) (stream : Nat → Int) (drawn : Nat) (chains : List Chain) :
    ((advance face stream drawn chains).flatMap (·.values)).length =
      (chains.flatMap (·.values)).length + chains.countP (·.alive) := by
  induction chains generalizing drawn with
  | nil => rfl
  | cons c rest ih =>
    cases h : c.alive with
    | true =>
      have hextend : (c.extend face (stream drawn)).values.length = c.values.length + 1 := by
        rw [extend, List.length_append, List.length_singleton]
      rw [advance_cons_of_alive h, List.countP_cons, h, if_pos rfl, List.flatMap_cons,
        List.flatMap_cons, List.length_append, List.length_append, hextend, ih]
      omega
    | false =>
      rw [advance_cons_of_not_alive h, List.countP_cons, h, if_neg Bool.false_ne_true,
        List.flatMap_cons, List.flatMap_cons, List.length_append, List.length_append, ih]
      omega

end Chain

/-- Chains in a row, and the number of values they have taken. -/
structure Burst where
  chains : List Chain
  drawn : Nat
deriving DecidableEq, Repr

namespace Burst

/-- The dice of all chains, one chain after the other. -/
def dice (b : Burst) : List Int := b.chains.flatMap (·.values)

/-- The number of dice. -/
def size (b : Burst) : Nat := b.dice.length

/-- The number of chains that are alive. -/
def alive (b : Burst) : Nat := b.chains.countP (·.alive)

/-- The chains that the dice of a roll begin. -/
def start (face : Int) (rolls : List Int) : Burst := ⟨rolls.map (Chain.start face), 0⟩

/-- The next generation. -/
def next (face : Int) (stream : Nat → Int) (b : Burst) : Burst :=
  ⟨Chain.advance face stream b.drawn b.chains, b.drawn + b.alive⟩

/-- The chains after a number of generations. -/
def after (face : Int) (stream : Nat → Int) (rolls : List Int) : Nat → Burst
  | 0 => start face rolls
  | g + 1 => (after face stream rolls g).next face stream

/-- Generation `g` is an end that a limit allows: no chain is alive, and the dice are not more than the
limit unless no chain ever was alive. -/
def EndsWithin (face limit : Int) (stream : Nat → Int) (rolls : List Int) (g : Nat) : Prop :=
  (after face stream rolls g).alive = 0 ∧
    ((start face rolls).alive = 0 ∨ (after face stream rolls g).size ≤ limit)

/-- The generation after `g` is the first one that would have more dice than the limit. -/
structure Exceeds (face limit : Int) (stream : Nat → Int) (rolls : List Int) (g : Nat) : Prop where
  /-- There is no room for the dice of the next generation. -/
  more : limit < (after face stream rolls g).size + (after face stream rolls g).alive
  /-- There was room for those of the generations before. -/
  first : ∀ k < g, (after face stream rolls k).size + (after face stream rolls k).alive ≤ limit

variable {face limit : Int} {stream : Nat → Int} {rolls : List Int}

/-! ## One generation -/

/-- Every chain that is alive gets one die in a generation, and the others get none. -/
theorem size_next (face : Int) (stream : Nat → Int) (b : Burst) :
    (b.next face stream).size = b.size + b.alive :=
  Chain.length_advance face stream b.drawn b.chains

/-- Where no chain is alive a generation changes nothing. -/
theorem next_of_alive_eq_zero {b : Burst} (h : b.alive = 0) : b.next face stream = b := by
  have hdead : ∀ c ∈ b.chains, c.alive = false := by
    intro c hc
    have hnot : ¬c.alive = true := List.countP_eq_zero.mp h c hc
    exact Bool.eq_false_iff.mpr hnot
  rw [next, Chain.advance_of_not_alive hdead, h]
  rfl

/-! ## Generation after generation -/

theorem size_start (face : Int) (rolls : List Int) : (start face rolls).size = rolls.length := by
  simp [size, dice, start, Chain.start, List.flatMap_map]

/-- From a generation without a chain alive on, all generations are the same. -/
theorem after_eq_of_alive_eq_zero {g h : Nat} (hzero : (after face stream rolls g).alive = 0)
    (hle : g ≤ h) : after face stream rolls h = after face stream rolls g := by
  induction h, hle using Nat.le_induction with
  | base => rfl
  | succ h _ ih => rw [after, ih, next_of_alive_eq_zero hzero]

theorem size_after_mono {g h : Nat} (hle : g ≤ h) :
    (after face stream rolls g).size ≤ (after face stream rolls h).size := by
  induction h, hle using Nat.le_induction with
  | base => exact Nat.le_refl _
  | succ h _ ih =>
    rw [after, size_next]
    omega

/-- As long as chains are alive, every generation has more dice than the one before. -/
theorem le_size_after {g : Nat} (halive : ∀ k < g, (after face stream rolls k).alive ≠ 0) :
    g ≤ (after face stream rolls g).size := by
  induction g with
  | zero => exact Nat.zero_le _
  | succ g ih =>
    have hg := ih fun k hk => halive k (by omega)
    have hlast := halive g (by omega)
    rw [after, size_next]
    omega

/-! ## Under a limit -/

/-- An end that a limit allows is come to through generations that all fit it. -/
theorem EndsWithin.exists_first {g : Nat} (h : EndsWithin face limit stream rolls g) :
    ∃ f ≤ g, (after face stream rolls f).alive = 0 ∧
      ∀ k < f, (after face stream rolls k).alive ≠ 0 ∧
        (after face stream rolls k).size + (after face stream rolls k).alive ≤ limit := by
  obtain ⟨hend, hlimit⟩ := h
  have hsome : ∃ f, (after face stream rolls f).alive = 0 := ⟨g, hend⟩
  refine ⟨Nat.find hsome, Nat.find_min' hsome hend, Nat.find_spec hsome, ?_⟩
  intro k hk
  have halive : (after face stream rolls k).alive ≠ 0 := Nat.find_min hsome hk
  refine ⟨halive, ?_⟩
  rcases hlimit with hstart | hsize
  · -- without a chain alive at the start no generation comes before the first end
    have hfirst : Nat.find hsome ≤ 0 := Nat.find_min' hsome hstart
    omega
  · have hnext : (after face stream rolls (k + 1)).size =
        (after face stream rolls k).size + (after face stream rolls k).alive := size_next _ _ _
    have hg : Nat.find hsome ≤ g := Nat.find_min' hsome hend
    have hmono : (after face stream rolls (k + 1)).size ≤ (after face stream rolls g).size :=
      size_after_mono (by omega)
    omega

/-- Without an end that the limit allows some generation is the first that does not fit. Chains are
alive in it and in those before. -/
theorem exists_exceeds (h : ∀ g, ¬EndsWithin face limit stream rolls g) :
    ∃ g, Exceeds face limit stream rolls g ∧ ∀ k ≤ g, (after face stream rolls k).alive ≠ 0 := by
  -- a generation that fits is no end, so that as long as they fit the dice become more and more
  have halive : ∀ k, (after face stream rolls k).size + (after face stream rolls k).alive ≤ limit →
      (after face stream rolls k).alive ≠ 0 := by
    intro k hk hzero
    exact h k ⟨hzero, Or.inr (by omega)⟩
  have hsome : ∃ g, limit < (after face stream rolls g).size + (after face stream rolls g).alive := by
    by_contra hnone
    have hfits : ∀ k, (after face stream rolls k).size + (after face stream rolls k).alive ≤ limit :=
      fun k => Int.not_lt.mp fun hk => hnone ⟨k, hk⟩
    have hsize := le_size_after fun k (_ : k < limit.toNat + 1) => halive k (hfits k)
    have hlast := hfits (limit.toNat + 1)
    omega
  have hfirst : ∀ k < Nat.find hsome,
      (after face stream rolls k).size + (after face stream rolls k).alive ≤ limit :=
    fun k hk => Int.not_lt.mp (Nat.find_min hsome hk)
  have hover := Nat.find_spec hsome
  refine ⟨Nat.find hsome, ⟨hover, hfirst⟩, ?_⟩
  intro k hk
  rcases Nat.lt_or_eq_of_le hk with hlt | rfl
  · exact halive k (hfirst k hlt)
  · intro hzero
    cases hg : Nat.find hsome with
    | zero =>
      rw [hg] at hzero
      exact h 0 ⟨hzero, Or.inl hzero⟩
    | succ g =>
      -- the generation before fits with all its new dice, which are all the dice there are
      have hbefore := hfirst g (by omega)
      rw [hzero, hg, after, size_next] at hover
      omega

end Burst

end DiceNotation
