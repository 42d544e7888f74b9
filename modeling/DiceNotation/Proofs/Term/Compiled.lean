import DiceNotation.Program
import DiceNotation.Proofs.Result

/-!
# What chunks compile to

Compiling a pool is a row of checks: of the number of its dice, of its faces and of its argument, each
number being read first. How this can end is laid out here as one case for each check that fails and one
for the pool that comes out, with all that was checked until then.
-/

namespace DiceNotation

/-! ## Numbers -/

theorem readCount_cases (digits : List Char) :
    Text.maxDigits < digits.length ∧ readCount digits = .error (.overlong ⟨digits.length⟩) ∨
      digits.length ≤ Text.maxDigits ∧ readCount digits = .ok (Text.digitsValue digits) := by
  by_cases h : Text.maxDigits < digits.length
  · exact Or.inl ⟨h, by rw [readCount, Text.readNumeral, if_pos h]; rfl⟩
  · exact Or.inr ⟨Nat.le_of_not_lt h, by rw [readCount, Text.readNumeral, if_neg h]; rfl⟩

/-- The number of dice that a pool says: one where it is left out. -/
def PoolText.size (t : PoolText) : Except ChunkError Nat := if t.count.isEmpty then .ok 1 else readCount t.count

/-- The argument of a pool with the given number of dice, from `lowest` to `highest`. -/
def PoolText.argument (t : PoolText) (count lowest highest : Int) : Except ChunkError Int :=
  match t.modifier with
  | none => .ok 0
  | some m => m.resolve count lowest highest

/-! ## The checks of a pool -/

/-- What a pool has come to that passed the checks of its dice and of its faces. -/
structure PoolText.Admits (limits : Limits) (t : PoolText) (count faces : Nat) (offset : Int) : Prop where
  size : t.size = .ok count
  dice : count ≤ limits.maxDice
  resolved : t.faces.resolve = .ok (faces, offset)
  most : faces ≤ limits.maxFaces
  least : 1 ≤ faces

/-- The pool that comes out. -/
def PoolText.compiled (limits : Limits) (t : PoolText) (count faces : Nat) (offset argument : Int) : Pool where
  count := count
  faces := faces
  offset := offset
  negative := t.sign == .minus
  modifier := t.modifier.map (·.modifier.token)
  argument := argument
  maxDice := limits.maxDice

/-- How compiling a pool can end, in the order of the checks. -/
inductive PoolText.ComesTo (limits : Limits) (chunk : String) (t : PoolText) : Except ChunkError Pool → Prop where
  | overlongCount : Text.maxDigits < t.count.length →
      ComesTo limits chunk t (.error (.overlong ⟨t.count.length⟩))
  | tooManyDice {count : Nat} : t.size = .ok count → limits.maxDice < count →
      ComesTo limits chunk t (.error (.tooManyDice count limits.maxDice))
  | overlongFaces {count : Nat} {digits : List Char} : t.size = .ok count → count ≤ limits.maxDice →
      t.faces = .number digits → Text.maxDigits < digits.length →
      ComesTo limits chunk t (.error (.overlong ⟨digits.length⟩))
  | tooManyFaces {count faces : Nat} {offset : Int} : t.size = .ok count → count ≤ limits.maxDice →
      t.faces.resolve = .ok (faces, offset) → limits.maxFaces < faces →
      ComesTo limits chunk t (.error (.tooManyFaces faces limits.maxFaces))
  | noFaces {count : Nat} {offset : Int} : t.size = .ok count → count ≤ limits.maxDice →
      t.faces.resolve = .ok (0, offset) → ComesTo limits chunk t (.error (.noFaces chunk))
  | overlongArgument {count faces : Nat} {offset : Int} {m : ModifierText} :
      t.Admits limits count faces offset → t.modifier = some m → Text.maxDigits < m.digits.length →
      ComesTo limits chunk t (.error (.overlong ⟨m.digits.length⟩))
  | made {count faces : Nat} {offset argument : Int} : t.Admits limits count faces offset →
      t.argument count (1 + offset) (faces + offset) = .ok argument →
      ComesTo limits chunk t (.ok (t.compiled limits count faces offset argument))

theorem PoolReading.ofText_of_pool {chunk : String} {t : PoolText}
    (h : Chunk.ofText? (Text.lowercase chunk) = some (.pool t)) :
    PoolReading.ofText chunk = t.size >>= fun count => .ok ⟨t.sign == .minus, count, t.faces, t.modifier⟩ := by
  simp only [PoolReading.ofText, h, PoolText.size]
  split
  · rfl
  · rfl

theorem Pool.ofText_of_pool (limits : Limits) {chunk : String} {t : PoolText}
    (h : Chunk.ofText? (Text.lowercase chunk) = some (.pool t)) :
    Pool.ofText limits chunk = t.size >>= fun count =>
      if limits.maxDice < count then .error (.tooManyDice count limits.maxDice)
      else t.faces.resolve >>= fun (faces, offset) =>
        if limits.maxFaces < faces then .error (.tooManyFaces faces limits.maxFaces)
        else if faces < 1 then .error (.noFaces chunk)
        else t.argument count (1 + offset) (faces + offset) >>= fun argument =>
          .ok (t.compiled limits count faces offset argument) := by
  simp only [Pool.ofText, PoolReading.ofText_of_pool h]
  cases t.size with
  | error e => rfl
  | ok count =>
    simp only [ok_bind]
    split
    · rfl
    · cases t.faces.resolve with
      | error e => rfl
      | ok resolved =>
        simp only [ok_bind]
        split
        · rfl
        · split
          · rfl
          · unfold PoolText.argument PoolText.compiled
            cases t.modifier with
            | none => rfl
            | some m => rfl

theorem PoolText.size_cases (t : PoolText) :
    Text.maxDigits < t.count.length ∧ t.size = .error (.overlong ⟨t.count.length⟩) ∨
      ∃ count, t.size = .ok count := by
  rw [size]
  cases hcount : t.count with
  | nil => exact Or.inr ⟨1, rfl⟩
  | cons c rest =>
    rw [List.isEmpty_cons, if_neg Bool.false_ne_true]
    rcases readCount_cases (c :: rest) with h | ⟨-, h⟩
    · exact Or.inl h
    · exact Or.inr ⟨_, h⟩

theorem Faces.resolve_cases (f : Faces) :
    (∃ digits, f = .number digits ∧ Text.maxDigits < digits.length ∧
      f.resolve = .error (.overlong ⟨digits.length⟩)) ∨
    ∃ faces offset, f.resolve = .ok (faces, offset) ∧ (offset = 0 ∨ faces = 3 ∧ offset = -2) := by
  cases f with
  | fudge => exact Or.inr ⟨3, -2, rfl, Or.inr ⟨rfl, rfl⟩⟩
  | percent => exact Or.inr ⟨100, 0, rfl, Or.inl rfl⟩
  | number digits =>
    rcases readCount_cases digits with ⟨hlong, h⟩ | ⟨-, h⟩
    · exact Or.inl ⟨digits, rfl, hlong, by rw [resolve, h]; rfl⟩
    · exact Or.inr ⟨_, 0, by rw [resolve, h]; rfl, Or.inl rfl⟩

theorem ModifierText.resolve_cases (m : ModifierText) (count lowest highest : Int) :
    Text.maxDigits < m.digits.length ∧
        m.resolve count lowest highest = .error (.overlong ⟨m.digits.length⟩) ∨
      ∃ argument, m.resolve count lowest highest = .ok argument := by
  rw [resolve]
  cases hdigits : m.digits with
  | nil => exact Or.inr ⟨_, rfl⟩
  | cons c rest =>
    rw [List.isEmpty_cons, if_neg Bool.false_ne_true]
    rcases readCount_cases (c :: rest) with ⟨hlong, h⟩ | ⟨-, h⟩
    · exact Or.inl ⟨hlong, by rw [h]; rfl⟩
    · exact Or.inr ⟨_, by rw [h]; rfl⟩

theorem PoolText.argument_cases (t : PoolText) (count lowest highest : Int) :
    (∃ m, t.modifier = some m ∧ Text.maxDigits < m.digits.length ∧
      t.argument count lowest highest = .error (.overlong ⟨m.digits.length⟩)) ∨
    ∃ argument, t.argument count lowest highest = .ok argument := by
  rw [argument]
  cases t.modifier with
  | none => exact Or.inr ⟨0, rfl⟩
  | some m =>
    rcases m.resolve_cases count lowest highest with ⟨hlong, h⟩ | h
    · exact Or.inl ⟨m, rfl, hlong, h⟩
    · exact Or.inr h

/-- Compiling a pool ends in one of the ways laid out. -/
theorem Pool.ofText_comesTo (limits : Limits) {chunk : String} {t : PoolText}
    (h : Chunk.ofText? (Text.lowercase chunk) = some (.pool t)) :
    t.ComesTo limits chunk (Pool.ofText limits chunk) := by
  rw [Pool.ofText_of_pool limits h]
  rcases t.size_cases with ⟨hlong, hsize⟩ | ⟨count, hsize⟩
  · rw [hsize, error_bind]
    exact .overlongCount hlong
  rw [hsize, ok_bind]
  by_cases hdice : limits.maxDice < count
  · rw [if_pos hdice]
    exact .tooManyDice hsize hdice
  rw [if_neg hdice]
  have hdice := Nat.le_of_not_lt hdice
  rcases t.faces.resolve_cases with ⟨digits, hfaces, hlong, hresolve⟩ | ⟨faces, offset, hresolve, -⟩
  · rw [hresolve, error_bind]
    exact .overlongFaces hsize hdice hfaces hlong
  rw [hresolve, ok_bind]
  dsimp only
  by_cases hmost : limits.maxFaces < faces
  · rw [if_pos hmost]
    exact .tooManyFaces hsize hdice hresolve hmost
  rw [if_neg hmost]
  by_cases hnone : faces < 1
  · rw [if_pos hnone]
    obtain rfl : faces = 0 := by omega
    exact .noFaces hsize hdice hresolve
  rw [if_neg hnone]
  have hadmits : t.Admits limits count faces offset :=
    ⟨hsize, hdice, hresolve, Nat.le_of_not_lt hmost, Nat.le_of_not_lt hnone⟩
  rcases t.argument_cases count (1 + offset) (faces + offset) with
    ⟨m, hm, hlong, hargument⟩ | ⟨argument, hargument⟩
  · rw [hargument, error_bind]
    exact .overlongArgument hadmits hm hlong
  · rw [hargument, ok_bind]
    exact .made hadmits hargument

theorem PoolReading.ofText_of_not_pool {chunk : String}
    (h : ∀ t, Chunk.ofText? (Text.lowercase chunk) ≠ some (.pool t)) :
    PoolReading.ofText chunk = .error (.notAPool chunk) := by
  unfold PoolReading.ofText
  split
  · rename_i t ht
    exact absurd ht (h t)
  · rfl

theorem Pool.ofText_of_not_pool (limits : Limits) {chunk : String}
    (h : ∀ t, Chunk.ofText? (Text.lowercase chunk) ≠ some (.pool t)) :
    Pool.ofText limits chunk = .error (.notAPool chunk) := by
  rw [Pool.ofText, PoolReading.ofText_of_not_pool h]
  rfl

/-! ## Well-formed terms -/

/-- A pool as it may come out of compiling under limits. -/
structure Pool.WellFormed (limits : Limits) (p : Pool) : Prop where
  /-- There are no fewer dice than none. -/
  countNonneg : 0 ≤ p.count
  /-- There are not more dice than allowed. -/
  countLe : p.count ≤ limits.maxDice
  /-- A die has a face. -/
  facesPos : 1 ≤ p.faces
  /-- A die has not more faces than allowed. -/
  facesLe : p.faces ≤ limits.maxFaces
  /-- Only the dice of three faces may be moved. -/
  offset : p.offset = 0 ∨ p.faces = 3 ∧ p.offset = -2
  /-- The modifier exists. -/
  modifier : ∀ token, p.modifier = some token → token ∈ Modifier.all.map Modifier.token
  /-- Only a modifier has an argument. -/
  argument : p.modifier = none → p.argument = 0
  /-- Explosions may make the pool as large as a pool may be. -/
  maxDice : p.maxDice = limits.maxDice
  /-- The values of a die are between two ends. -/
  ordered : p.lowest ≤ p.highest

/-- A constant, or a well-formed pool. -/
def Term.WellFormed (limits : Limits) : Term → Prop
  | constant _ => True
  | pool p => p.WellFormed limits

theorem Pool.WellFormed.maxDice_nonneg {limits : Limits} {p : Pool} (h : p.WellFormed limits) : 0 ≤ p.maxDice :=
  h.maxDice ▸ Int.natCast_nonneg limits.maxDice

theorem Modifier.token_mem (m : Modifier) : m.token ∈ all.map token :=
  List.mem_map_of_mem (by cases m <;> decide)

theorem PoolText.wellFormed_compiled {limits : Limits} {t : PoolText} {count faces : Nat}
    {offset argument : Int} (h : t.Admits limits count faces offset)
    (ha : t.argument count (1 + offset) (faces + offset) = .ok argument) :
    (t.compiled limits count faces offset argument).WellFormed limits where
  countNonneg := Int.natCast_nonneg count
  countLe := Int.ofNat_le.mpr h.dice
  facesPos := Int.ofNat_le.mpr h.least
  facesLe := Int.ofNat_le.mpr h.most
  offset := by
    have hresolved := h.resolved
    rcases t.faces.resolve_cases with ⟨_, _, _, heq⟩ | ⟨_, _, heq, hoffset⟩
    · rw [heq] at hresolved
      cases hresolved
    · rw [heq] at hresolved
      cases hresolved
      rcases hoffset with hzero | ⟨rfl, hfudge⟩
      · exact Or.inl hzero
      · exact Or.inr ⟨rfl, hfudge⟩
  modifier := by
    intro token htoken
    obtain ⟨m, -, rfl⟩ := Option.map_eq_some_iff.mp htoken
    exact m.modifier.token_mem
  argument := by
    intro hnone
    rw [PoolText.argument, Option.map_eq_none_iff.mp hnone] at ha
    cases ha
    rfl
  maxDice := rfl
  ordered := Int.add_le_add_right (Int.ofNat_le.mpr h.least) offset

theorem Pool.wellFormed_of_ofText {limits : Limits} {chunk : String} {p : Pool}
    (h : Pool.ofText limits chunk = .ok p) : p.WellFormed limits := by
  by_cases hpool : ∃ t, Chunk.ofText? (Text.lowercase chunk) = some (.pool t)
  · obtain ⟨t, ht⟩ := hpool
    have hcomes := Pool.ofText_comesTo limits ht
    rw [h] at hcomes
    cases hcomes with
    | made hadmits hargument => exact PoolText.wellFormed_compiled hadmits hargument
  · rw [Pool.ofText_of_not_pool limits (not_exists.mp hpool)] at h
    cases h

/-- The number of a constant, if it is one. -/
theorem Term.ofText_of_constant (limits : Limits) {chunk : String} {s : Sign} {digits : List Char}
    (h : Chunk.ofText? chunk = some (.constant s digits)) :
    Term.ofText limits chunk = readCount digits >>= fun size =>
      .ok (.constant (if s == .minus then -size else size)) := by
  simp only [Term.ofText, h]
  rfl

theorem Term.ofText_of_not_constant (limits : Limits) {chunk : String}
    (h : ∀ s digits, Chunk.ofText? chunk ≠ some (.constant s digits)) :
    Term.ofText limits chunk = Pool.ofText limits chunk >>= fun p => .ok (.pool p) := by
  unfold Term.ofText
  split
  · rename_i s digits heq
    exact absurd heq (h s digits)
  · rfl

/-- **Compiled terms are well-formed**, whatever the text that they were compiled from. -/
theorem Term.wellFormed_of_ofText {limits : Limits} {chunk : String} {term : Term}
    (h : Term.ofText limits chunk = .ok term) : term.WellFormed limits := by
  cases term with
  | constant value => trivial
  | pool p =>
    by_cases hconstant : ∃ s digits, Chunk.ofText? chunk = some (.constant s digits)
    · obtain ⟨s, digits, heq⟩ := hconstant
      rw [Term.ofText_of_constant limits heq] at h
      obtain ⟨size, -, hmade⟩ := bind_eq_ok h
      cases hmade
    · rw [Term.ofText_of_not_constant limits (by simpa using hconstant)] at h
      obtain ⟨q, hq, hmade⟩ := bind_eq_ok h
      cases hmade
      exact Pool.wellFormed_of_ofText hq

end DiceNotation
