import DiceNotation.Proofs.Chunk.Recognition
import DiceNotation.Proofs.Compiler.History
import DiceNotation.Proofs.Program.Single

/-!
# Spellings

A pool that is meant has numbers, and a pool that is written has digits. A number can be spelled in many ways,
in the digits of any script and with leading zeros, but digits spell one number only. So a pool that is written
means one pool, and nothing but what is meant decides what it compiles to.

All that is written is read back as it was meant, and every text of a pool is one that is written: the number
of dice, the letter after it, the faces and a modifier that may begin with the same letter are told apart in
one way only.
-/

namespace DiceNotation

/-! ## Pools that are meant -/

/-- A kind of die. -/
inductive SpokenFaces where
  | number (faces : Nat)
  | fudge
  | percent
deriving DecidableEq, Repr

/-- A modifier, with an argument or without one. Only faces may have a sign. -/
@[ext] structure SpokenModifier where
  modifier : Modifier
  argument : Option (Sign × Nat)
  unsigned : modifier.picksFace = false → ∀ s n, argument = some (s, n) → s = .unsigned
deriving DecidableEq

/-- A pool, its number of dice said or not. -/
@[ext] structure SpokenPool where
  sign : Sign
  count : Option Nat
  faces : SpokenFaces
  modifier : Option SpokenModifier
deriving DecidableEq

/-- The number of faces. -/
def SpokenFaces.size : SpokenFaces → Nat
  | number faces => faces
  | fudge => 3
  | percent => 100

/-- By how much the values of the dice are moved. -/
def SpokenFaces.shift : SpokenFaces → Int
  | fudge => -2
  | _ => 0

/-- The argument on a pool with the given number of dice, from `lowest` to `highest`. -/
def SpokenModifier.value (m : SpokenModifier) (count lowest highest : Int) : Int :=
  match m.argument with
  | some (s, n) => if s = .minus then -n else n
  | none =>
    match m.modifier with
    | .reroll => lowest
    | .twice | .explode => highest
    | .keepHighest | .keepLowest | .dropHighest | .dropLowest => min 1 (count - 1)

namespace SpokenPool

/-- The number of dice: one where it is not said. -/
def dice (a : SpokenPool) : Nat := a.count.getD 1

/-- The pool under limits. -/
def pool (limits : Limits) (a : SpokenPool) : Pool where
  count := a.dice
  faces := a.faces.size
  offset := a.faces.shift
  negative := a.sign == .minus
  modifier := a.modifier.map (·.modifier.token)
  argument := a.modifier.elim 0 fun m => m.value a.dice (1 + a.faces.shift) (a.faces.size + a.faces.shift)
  maxDice := limits.maxDice

end SpokenPool

/-! ## Spelling them -/

/-- Digits that spell a number, of whatever script and with whatever leading zeros. -/
structure Spells (digits : List Char) (n : Nat) : Prop where
  nonempty : digits ≠ []
  areDigits : AreDigits digits
  value : Text.digitsValue digits = n

theorem spells_iff {digits : List Char} {n : Nat} : Spells digits n ↔
    digits.isEmpty = false ∧ digits.all Text.isDigit = true ∧ Text.digitsValue digits = n := by
  rw [List.isEmpty_eq_false_iff, List.all_eq_true]
  exact ⟨fun h => ⟨h.nonempty, h.areDigits, h.value⟩, fun ⟨hne, hdigits, hvalue⟩ => ⟨hne, hdigits, hvalue⟩⟩

instance (digits : List Char) (n : Nat) : Decidable (Spells digits n) := decidable_of_iff' _ spells_iff

/-- Digits that spell a number, or none where it is not said. -/
inductive SpellsMaybe : List Char → Option Nat → Prop where
  | absent : SpellsMaybe [] none
  | present {digits : List Char} {n : Nat} : Spells digits n → SpellsMaybe digits (some n)

/-- A kind of die that is written for one that is meant. -/
inductive Faces.Spells : Faces → SpokenFaces → Prop where
  | number {digits : List Char} {n : Nat} : DiceNotation.Spells digits n → Spells (.number digits) (.number n)
  | fudge : Spells .fudge .fudge
  | percent : Spells .percent .percent

/-- A modifier that is written for one that is meant. -/
inductive ModifierText.Spells : ModifierText → SpokenModifier → Prop where
  | bare {m : SpokenModifier} : m.argument = none → Spells ⟨m.modifier, .unsigned, []⟩ m
  | argument {m : SpokenModifier} {s : Sign} {digits : List Char} {n : Nat} : m.argument = some (s, n) →
      DiceNotation.Spells digits n → Spells ⟨m.modifier, s, digits⟩ m

/-- A pool that is written for one that is meant. -/
structure PoolText.Spells (t : PoolText) (a : SpokenPool) : Prop where
  sign : t.sign = a.sign
  count : SpellsMaybe t.count a.count
  faces : t.faces.Spells a.faces
  modifier : Option.Rel ModifierText.Spells t.modifier a.modifier

/-- A pool whose numbers have no more digits than can be read. -/
structure PoolText.Short (t : PoolText) : Prop where
  count : t.count.length ≤ Text.maxDigits
  faces : t.faces.digits.length ≤ Text.maxDigits
  argument : t.argumentDigits.length ≤ Text.maxDigits

/-! ## What is written means what was meant -/

variable {digits : List Char} {n : Nat}

theorem SpellsMaybe.areDigits {count : Option Nat} (h : SpellsMaybe digits count) : AreDigits digits := by
  cases h with
  | absent => exact List.forall_mem_nil _
  | present hspells => exact hspells.areDigits

theorem SpellsMaybe.value {count : Option Nat} (h : SpellsMaybe digits count) :
    (if digits = [] then 1 else Text.digitsValue digits) = count.getD 1 := by
  cases h with
  | absent => rfl
  | present hspells =>
    rw [if_neg hspells.nonempty]
    exact hspells.value

namespace Faces.Spells

variable {f : Faces} {g : SpokenFaces}

theorem wellFormed (h : f.Spells g) : f.WellFormed := by
  cases h with
  | number hspells => exact ⟨hspells.nonempty, hspells.areDigits⟩
  | fudge | percent => trivial

theorem size_eq (h : f.Spells g) : f.size = g.size := by
  cases h with
  | number hspells => exact hspells.value
  | fudge | percent => rfl

theorem shift_eq (h : f.Spells g) : f.shift = g.shift := by
  cases h <;> rfl

end Faces.Spells

namespace ModifierText.Spells

variable {w : ModifierText} {m : SpokenModifier}

theorem modifier_eq (h : w.Spells m) : w.modifier = m.modifier := by
  cases h <;> rfl

theorem wellFormed (h : w.Spells m) : w.WellFormed := by
  cases h with
  | bare _ => exact ⟨List.forall_mem_nil _, fun hsign => absurd rfl hsign⟩
  | @argument _ s digits n hargument hspells =>
    refine ⟨hspells.areDigits, fun hsign => ⟨?_, hspells.nonempty⟩⟩
    by_contra hpicks
    exact hsign (m.unsigned (Bool.eq_false_iff.mpr hpicks) s n hargument)

theorem value_eq (h : w.Spells m) (count lowest highest : Int) :
    w.value count lowest highest = m.value count lowest highest := by
  cases h with
  | bare hargument =>
    rw [SpokenModifier.value, hargument, ModifierText.value, if_pos rfl]
    cases m.modifier <;> rfl
  | argument hargument hspells =>
    rw [SpokenModifier.value, hargument, ModifierText.value, if_neg hspells.nonempty, hspells.value]

end ModifierText.Spells

namespace ModifierText

variable {w : Option ModifierText} {m : Option SpokenModifier}

theorem wellFormed_of_rel (h : Option.Rel Spells w m) : ∀ x, w = some x → x.WellFormed := by
  cases h with
  | none => nofun
  | some hspells =>
    rintro _ ⟨⟩
    exact hspells.wellFormed

theorem token_eq_of_rel (h : Option.Rel Spells w m) :
    w.map (·.modifier.token) = m.map (·.modifier.token) := by
  cases h with
  | none => rfl
  | some hspells => exact congrArg (some ·.token) hspells.modifier_eq

theorem value_eq_of_rel (h : Option.Rel Spells w m) (count lowest highest : Int) :
    (w.elim 0 fun x => x.value count lowest highest) = m.elim 0 fun x => x.value count lowest highest := by
  cases h with
  | none => rfl
  | some hspells => exact hspells.value_eq count lowest highest

end ModifierText

namespace PoolText

variable {t : PoolText} {a b : SpokenPool}

theorem Spells.wellFormed (h : t.Spells a) : t.WellFormed :=
  ⟨h.count.areDigits, h.faces.wellFormed, ModifierText.wellFormed_of_rel h.modifier⟩

theorem Spells.dice_eq (h : t.Spells a) : t.dice = a.dice := h.count.value

/-- **What is meant decides.** The pool does not depend on how its numbers are spelled. -/
theorem Spells.pool_eq (h : t.Spells a) (limits : Limits) : t.pool limits = a.pool limits := by
  rw [pool, compiled, SpokenPool.pool, argumentValue, h.dice_eq, h.faces.size_eq, h.faces.shift_eq, h.sign,
    ModifierText.token_eq_of_rel h.modifier, ModifierText.value_eq_of_rel h.modifier]

/-! ## Each pool that is written has one meaning -/

theorem exists_spells (h : t.WellFormed) : ∃ a, t.Spells a := by
  obtain ⟨s, count, f, m⟩ := t
  obtain ⟨hcount, hfaces, hmodifier⟩ := h
  have hcountSpells : ∃ n, SpellsMaybe count n := by
    by_cases hnil : count = []
    · exact ⟨none, hnil ▸ .absent⟩
    · exact ⟨_, .present ⟨hnil, hcount, rfl⟩⟩
  have hfacesSpell : ∃ g, f.Spells g := by
    cases f with
    | number digits => exact ⟨_, .number ⟨hfaces.1, hfaces.2, rfl⟩⟩
    | fudge => exact ⟨_, .fudge⟩
    | percent => exact ⟨_, .percent⟩
  have hmodifierSpells : ∃ spoken, Option.Rel ModifierText.Spells m spoken := by
    cases m with
    | none => exact ⟨none, .none⟩
    | some w =>
      obtain ⟨modifier, sign, digits⟩ := w
      obtain ⟨hdigits, hsign⟩ := hmodifier _ rfl
      by_cases hnil : digits = []
      · subst hnil
        -- without digits there is no sign either
        obtain rfl : sign = .unsigned := by
          by_contra hne
          exact (hsign hne).2 rfl
        exact ⟨_, .some (.bare (m := ⟨modifier, none, fun _ _ _ h => nomatch h⟩) rfl)⟩
      · have hunsigned : modifier.picksFace = false → ∀ s n,
            some (sign, Text.digitsValue digits) = some (s, n) → s = .unsigned := by
          rintro hpicks _ _ ⟨⟩
          by_contra hne
          exact absurd (hsign hne).1 (by simp [hpicks])
        exact ⟨_, .some (.argument (m := ⟨modifier, some (sign, Text.digitsValue digits), hunsigned⟩) rfl
          ⟨hnil, hdigits, rfl⟩)⟩
  obtain ⟨n, hn⟩ := hcountSpells
  obtain ⟨g, hg⟩ := hfacesSpell
  obtain ⟨spoken, hspoken⟩ := hmodifierSpells
  exact ⟨⟨s, n, g, spoken⟩, rfl, hn, hg, hspoken⟩

end PoolText

theorem SpellsMaybe.unique {count other : Option Nat} (h : SpellsMaybe digits count)
    (h' : SpellsMaybe digits other) : count = other := by
  cases h with
  | absent =>
    cases h' with
    | absent => rfl
    | present hspells => exact absurd rfl hspells.nonempty
  | present hspells =>
    cases h' with
    | absent => exact absurd rfl hspells.nonempty
    | present hother => rw [← hspells.value, hother.value]

theorem Faces.Spells.unique {f : Faces} {g k : SpokenFaces} (h : f.Spells g) (h' : f.Spells k) : g = k := by
  cases h with
  | number hspells =>
    cases h' with
    | number hother => rw [← hspells.value, hother.value]
  | fudge =>
    cases h'
    rfl
  | percent =>
    cases h'
    rfl

theorem ModifierText.Spells.argument_eq {w : ModifierText} {m : SpokenModifier} (h : w.Spells m) :
    m.argument = if w.digits = [] then none else some (w.sign, Text.digitsValue w.digits) := by
  cases h with
  | bare hargument => exact hargument
  | argument hargument hspells => rw [if_neg hspells.nonempty, hspells.value, hargument]

theorem ModifierText.Spells.unique {w : ModifierText} {m k : SpokenModifier} (h : w.Spells m)
    (h' : w.Spells k) : m = k :=
  SpokenModifier.ext (h.modifier_eq.symm.trans h'.modifier_eq) (h.argument_eq.trans h'.argument_eq.symm)

theorem ModifierText.unique_of_rel {w : Option ModifierText} {m k : Option SpokenModifier}
    (h : Option.Rel Spells w m) (h' : Option.Rel Spells w k) : m = k := by
  cases h with
  | none =>
    cases h'
    rfl
  | some hspells =>
    cases h' with
    | some hother => exact congrArg some (hspells.unique hother)

theorem PoolText.Spells.unique {t : PoolText} {a b : SpokenPool} (h : t.Spells a) (h' : t.Spells b) : a = b :=
  SpokenPool.ext (h.sign.symm.trans h'.sign) (h.count.unique h'.count) (h.faces.unique h'.faces)
    (ModifierText.unique_of_rel h.modifier h'.modifier)

/-! ## What is written is read and compiled as it was meant -/

section

variable {t : PoolText} {a : SpokenPool} {limits : Limits}

theorem PoolText.Spells.ofText?_text (h : t.Spells a) :
    Chunk.ofText? (Chunk.pool t).text = some (.pool t) :=
  Chunk.WellFormed.ofText?_text (c := .pool t) h.wellFormed

/-- A pool is read with its parts as they are written, and with the number of dice that is meant. -/
theorem PoolText.Spells.reading_eq (h : t.Spells a) (hshort : t.Short) :
    PoolReading.ofText (Chunk.pool t).text = .ok ⟨a.sign == .minus, a.dice, t.faces, t.modifier⟩ := by
  have hread := h.ofText?_text
  rw [PoolReading.ofText_of_pool ((Chunk.lowercase_of_ofText? hread).symm ▸ hread)]
  rcases t.size_cases with ⟨hlong, -⟩ | ⟨count, hsize⟩
  · exact absurd hshort.count (Nat.not_le.mpr hlong)
  · obtain ⟨-, rfl⟩ := PoolText.size_eq_ok hsize
    rw [hsize, ok_bind, h.sign, h.dice_eq]

/-- A pool compiles where its numbers can be read and are allowed, and to what is meant. -/
theorem PoolText.Spells.ofText_eq_ok_iff (h : t.Spells a) {term : Term} :
    Term.ofText limits (Chunk.pool t).text = .ok term ↔
      (t.Short ∧ a.dice ≤ limits.maxDice ∧ 1 ≤ a.faces.size ∧ a.faces.size ≤ limits.maxFaces) ∧
        term = .pool (a.pool limits) := by
  rw [Chunk.WellFormed.ofText_text_eq_ok_iff (c := .pool t) h.wellFormed, Chunk.term, Chunk.checks,
    h.pool_eq limits, PoolText.allPass_checks, h.dice_eq, h.faces.size_eq]
  refine and_congr_left fun _ => ?_
  constructor
  · rintro ⟨⟨hcount, hdice⟩, ⟨hfaces, hmost, hsome⟩, hargument⟩
    exact ⟨⟨hcount, hfaces, hargument⟩, hdice, Nat.one_le_iff_ne_zero.mpr hsome, hmost⟩
  · rintro ⟨⟨hcount, hfaces, hargument⟩, hdice, hsome, hmost⟩
    exact ⟨⟨hcount, hdice⟩, ⟨hfaces, hmost, Nat.one_le_iff_ne_zero.mp hsome⟩, hargument⟩

/-- A text of a pool, without a line end, is written in one way. -/
theorem existsUnique_spells {text : String} (hline : text.toList.getLast? ≠ some '\n')
    (hchunk : isChunk text = true) (hpool : isConstant text = false) :
    ∃! spelled : SpokenPool × PoolText,
      spelled.2.Spells spelled.1 ∧ (Chunk.pool spelled.2).text = text := by
  obtain ⟨c, hread⟩ := isChunk_iff.mp hchunk
  cases c with
  | constant s digits => rw [isConstant_iff.mpr ⟨s, digits, hread⟩] at hpool; cases hpool
  | pool t =>
    obtain ⟨hwellFormed, hwrite⟩ := Chunk.ofText?_eq_some_iff_write.mp hread
    rw [withoutLineEnd, if_neg hline] at hwrite
    obtain ⟨a, hspells⟩ := t.exists_spells hwellFormed
    refine ⟨(a, t), ⟨hspells, ?_⟩, ?_⟩
    · show String.ofList (Chunk.pool t).write = text
      rw [hwrite, String.ofList_toList]
    · rintro ⟨b, u⟩ ⟨hother, htext⟩
      have hread' : Chunk.ofText? text = some (.pool u) := htext ▸ hother.ofText?_text
      obtain rfl : t = u := by
        rw [hread] at hread'
        cases hread'
        rfl
      rw [hspells.unique hother]

end

/--
**Pools are read as they are meant, however they are spelled.**

Let a pool be written for one that is meant, its numbers in digits that can be read. The text is a chunk and no
constant. It is read as a pool with the sign and the number of dice that are meant, and with its other parts just
as they are written. A compiler whose limits admit it, whatever it was asked for before, gives the pool that is
meant; the limit on explosions is that of some time before, if the limits were changed.

Conversely, every text of a chunk that is no constant and has no line end after it is written for one pool, and
spelled in one way. It compiles under some limits exactly if its digits can be read and its dice have a face.
-/
theorem pools_are_spelled (owner : Nat) (limits : Limits) (requests : List Compiler.Request) :
    let start : Compiler := { owner := owner, limits := limits }
    (∀ (a : SpokenPool) (t : PoolText), t.Spells a → t.Short →
      isChunk (Chunk.pool t).text = true ∧ isConstant (Chunk.pool t).text = false ∧
      PoolReading.ofText (Chunk.pool t).text = .ok ⟨a.sign == .minus, a.dice, t.faces, t.modifier⟩ ∧
      (a.dice ≤ (start.after requests).limits.maxDice → 1 ≤ a.faces.size →
        a.faces.size ≤ (start.after requests).limits.maxFaces →
          ∃ made before, ((start.after requests).compileChunk (Chunk.pool t).text).1 = .ok made ∧
            before <+: requests ∧ made.value = .pool (a.pool (start.after before).limits))) ∧
    (∀ text : String, text.toList.getLast? ≠ some '\n' → isChunk text = true → isConstant text = false →
      ∃! spelled : SpokenPool × PoolText,
        spelled.2.Spells spelled.1 ∧ (Chunk.pool spelled.2).text = text) ∧
    ∀ (a : SpokenPool) (t : PoolText), t.Spells a →
      ((∃ limits term, Term.ofText limits (Chunk.pool t).text = .ok term) ↔ t.Short ∧ 1 ≤ a.faces.size) := by
  intro start
  refine ⟨fun a t h hshort => ⟨?_, ?_, h.reading_eq hshort, ?_⟩, fun _ => existsUnique_spells, fun a t h => ?_⟩
  · exact isChunk_iff.mpr ⟨_, h.ofText?_text⟩
  · rw [Bool.eq_false_iff, ne_eq, isConstant_iff, h.ofText?_text]
    rintro ⟨_, _, ⟨⟩⟩
  · intro hdice hsome hmost
    have hterm := h.ofText_eq_ok_iff.mpr ⟨⟨hshort, hdice, hsome, hmost⟩, rfl⟩
    obtain ⟨made, before, hmade, hbefore, hcompiled⟩ :=
      Compiler.exists_compileChunk_of_ofText rfl requests hterm
    exact ⟨made, before, hmade, hbefore, (h.ofText_eq_ok_iff.mp hcompiled).2⟩
  · constructor
    · rintro ⟨limits, term, hterm⟩
      obtain ⟨⟨hshort, -, hsome, -⟩, -⟩ := h.ofText_eq_ok_iff.mp hterm
      exact ⟨hshort, hsome⟩
    · rintro ⟨hshort, hsome⟩
      exact ⟨{ maxDice := a.dice, maxFaces := a.faces.size }, _,
        h.ofText_eq_ok_iff.mpr ⟨⟨hshort, Nat.le_refl _, hsome, Nat.le_refl _⟩, rfl⟩⟩

/-- Three dice of six faces that explode, in the digits of two scripts and with leading zeros: the text is read,
compiles to the pool that is meant, and is spelled in no other way. -/
theorem pools_are_spelled_mixed :
    isChunk "-٠3d0६!+२" = true ∧
      PoolReading.ofText "-٠3d0६!+२" =
        .ok ⟨true, 3, .number ['0', '६'], some ⟨.explode, .plus, ['२']⟩⟩ ∧
      (∃ made, (Compiler.compileChunk { owner := 0 } "-٠3d0६!+२").1 = .ok made ∧
        made.value = .pool { count := 3, faces := 6, negative := true, modifier := some "!", argument := 2 }) ∧
      (∃! spelled : SpokenPool × PoolText,
        spelled.2.Spells spelled.1 ∧ (Chunk.pool spelled.2).text = "-٠3d0६!+२") ∧
      ∃ limits term, Term.ofText limits "-٠3d0६!+२" = .ok term := by
  let exploding : SpokenModifier := ⟨.explode, some (.plus, 2), fun h => nomatch h⟩
  let a : SpokenPool := ⟨.minus, some 3, .number 6, some exploding⟩
  let t : PoolText := ⟨.minus, ['٠', '3'], .number ['0', '६'], some ⟨.explode, .plus, ['२']⟩⟩
  have hcount : Spells ['٠', '3'] 3 := by decide
  have hfaces : Spells ['0', '६'] 6 := by decide
  have hargument : Spells ['२'] 2 := by decide
  have hspells : t.Spells a :=
    ⟨rfl, .present hcount, .number hfaces, .some (.argument (m := exploding) rfl hargument)⟩
  have hshort : t.Short := ⟨by decide, by decide, by decide⟩
  have htext : (Chunk.pool t).text = "-٠3d0६!+२" := by decide +kernel
  obtain ⟨hread, hback, hlimits⟩ := pools_are_spelled 0 .standard []
  obtain ⟨hchunk, hpool, hreading, hcompiled⟩ := hread a t hspells hshort
  rw [htext] at hchunk hpool hreading hcompiled
  refine ⟨hchunk, hreading, ?_, hback _ (by decide +kernel) hchunk hpool, ?_⟩
  · obtain ⟨made, before, hmade, hbefore, hvalue⟩ := hcompiled (by decide) (by decide) (by decide)
    obtain rfl : before = [] := List.prefix_nil.mp hbefore
    exact ⟨made, hmade, hvalue⟩
  · rw [← htext]
    exact (hlimits a t hspells).mpr ⟨hshort, by decide⟩

end DiceNotation
