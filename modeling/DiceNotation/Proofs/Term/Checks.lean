import DiceNotation.Proofs.Chunk.Reading
import DiceNotation.Proofs.Term.Compiled

/-!
# Chunks as rows of checks

A chunk says numbers, and from these it is known what it compiles to, without any reading: `Chunk.term`.
Whether it does compile is decided by checks in a fixed order, the first one that fails being the one that
is heard of: `Chunk.checks`. A number that is used by a check has passed the check of its length before.
-/

namespace DiceNotation

/-! ## Checks in order -/

/-- A check: when it fails, and what is said then. -/
structure Check (ε : Type) where
  fails : Prop
  error : ε

/-- What is said of checks that are made in order, up to the first one that fails. -/
inductive FirstFailure {ε : Type} : List (Check ε) → ε → Prop where
  | here {check : Check ε} {rest : List (Check ε)} : check.fails → FirstFailure (check :: rest) check.error
  | later {check : Check ε} {rest : List (Check ε)} {e : ε} :
      ¬check.fails → FirstFailure rest e → FirstFailure (check :: rest) e

/-- No check fails. -/
def AllPass {ε : Type} (checks : List (Check ε)) : Prop := ∀ check ∈ checks, ¬check.fails

/-- What checks that are made in order come to: the first failure, or the result if none fails. -/
inductive Concludes {ε α : Type} (checks : List (Check ε)) (result : α) : Except ε α → Prop where
  | failed {e : ε} : FirstFailure checks e → Concludes checks result (.error e)
  | passed : AllPass checks → Concludes checks result (.ok result)

section

variable {ε : Type} {checks more : List (Check ε)} {e e' : ε}

theorem allPass_nil : AllPass ([] : List (Check ε)) := List.forall_mem_nil _

theorem allPass_cons {check : Check ε} : AllPass (check :: checks) ↔ ¬check.fails ∧ AllPass checks :=
  List.forall_mem_cons

theorem allPass_append : AllPass (checks ++ more) ↔ AllPass checks ∧ AllPass more :=
  List.forall_mem_append

theorem allPass_flatMap {α : Type} {items : List α} {f : α → List (Check ε)} :
    AllPass (items.flatMap f) ↔ ∀ a ∈ items, AllPass (f a) := by
  induction items with
  | nil => simp [allPass_nil]
  | cons a rest ih => rw [List.flatMap_cons, allPass_append, ih, List.forall_mem_cons]

theorem FirstFailure.not_allPass (h : FirstFailure checks e) : ¬AllPass checks := by
  induction h with
  | here hfails => exact fun hpass => (allPass_cons.mp hpass).1 hfails
  | later _ _ ih => exact fun hpass => ih (allPass_cons.mp hpass).2

/-- There is one first failure at most. -/
theorem FirstFailure.unique (h : FirstFailure checks e) (h' : FirstFailure checks e') : e = e' := by
  induction h with
  | here hfails =>
    cases h' with
    | here _ => rfl
    | later hpasses _ => exact absurd hfails hpasses
  | later hpasses _ ih =>
    cases h' with
    | here hfails => exact absurd hfails hpasses
    | later _ hrest => exact ih hrest

theorem FirstFailure.append (h : FirstFailure checks e) (more : List (Check ε)) :
    FirstFailure (checks ++ more) e := by
  induction h with
  | here hfails => exact .here hfails
  | later hpasses _ ih => exact .later hpasses ih

/-- Checks that pass leave the first failure to those after them. -/
theorem FirstFailure.after (hpass : AllPass checks) (h : FirstFailure more e) :
    FirstFailure (checks ++ more) e := by
  induction checks with
  | nil => exact h
  | cons check rest ih =>
    obtain ⟨hfirst, hrest⟩ := allPass_cons.mp hpass
    exact .later hfirst (ih hrest)

end

/-! ## What a chunk says -/

/-- The number of faces of a kind of die. -/
def Faces.size : Faces → Nat
  | fudge => 3
  | percent => 100
  | number digits => Text.digitsValue digits

/-- By how much the values of a kind of die are moved. -/
def Faces.shift : Faces → Int
  | fudge => -2
  | _ => 0

/-- The digits of a number of faces; the other kinds have none. -/
def Faces.digits : Faces → List Char
  | number digits => digits
  | _ => []

/-- The argument of a modifier on a pool with the given number of dice, from `lowest` to `highest`. -/
def ModifierText.value (m : ModifierText) (count lowest highest : Int) : Int :=
  if m.digits = [] then Modifier.defaultArgument m.modifier.token count lowest highest
  else if m.sign = .minus then -Text.digitsValue m.digits
  else Text.digitsValue m.digits

namespace PoolText

/-- The number of dice: one where it is left out. -/
def dice (t : PoolText) : Nat := if t.count = [] then 1 else Text.digitsValue t.count

/-- The digits of the argument of the modifier. -/
def argumentDigits (t : PoolText) : List Char := t.modifier.elim [] (·.digits)

/-- The argument of the modifier: as it is written, or else the one for the dice of the pool. -/
def argumentValue (t : PoolText) : Int :=
  t.modifier.elim 0 fun m => m.value t.dice (1 + t.faces.shift) (t.faces.size + t.faces.shift)

/-- The pool under limits. -/
def pool (limits : Limits) (t : PoolText) : Pool :=
  t.compiled limits t.dice t.faces.size t.faces.shift t.argumentValue

/-- The checks of a pool in order: of the number of its dice, of its faces and of its argument. -/
def checks (limits : Limits) (t : PoolText) : List (Check ChunkError) := [
  ⟨Text.maxDigits < t.count.length, .overlong ⟨t.count.length⟩⟩,
  ⟨limits.maxDice < t.dice, .tooManyDice t.dice limits.maxDice⟩,
  ⟨Text.maxDigits < t.faces.digits.length, .overlong ⟨t.faces.digits.length⟩⟩,
  ⟨limits.maxFaces < t.faces.size, .tooManyFaces t.faces.size limits.maxFaces⟩,
  ⟨t.faces.size = 0, .noFaces (String.ofList t.write)⟩,
  ⟨Text.maxDigits < t.argumentDigits.length, .overlong ⟨t.argumentDigits.length⟩⟩]

end PoolText

namespace Chunk

/-- The term of a chunk under limits. -/
def term (limits : Limits) : Chunk → Term
  | constant s digits => .constant (if s = .minus then -Text.digitsValue digits else Text.digitsValue digits)
  | pool t => .pool (t.pool limits)

/-- The checks of a chunk in order. -/
def checks (limits : Limits) : Chunk → List (Check ChunkError)
  | constant _ digits => [⟨Text.maxDigits < digits.length, .overlong ⟨digits.length⟩⟩]
  | pool t => t.checks limits

/-- The text that a well-formed chunk is written as. -/
def IsWrittenAs (c : Chunk) (text : String) : Prop := c.WellFormed ∧ c.write = text.toList

/-- A text is that of one chunk at most. -/
theorem IsWrittenAs.unique {c d : Chunk} {text : String} (hc : c.IsWrittenAs text)
    (hd : d.IsWrittenAs text) : c = d := by
  have hread := Chunk.read?_eq_some_iff.mpr hc
  rw [Chunk.read?_eq_some_iff.mpr hd] at hread
  exact (Option.some.inj hread).symm

theorem ofText?_eq_some_iff {text : String} (h : '\n' ∉ text.toList) {c : Chunk} :
    ofText? text = some c ↔ c.IsWrittenAs text := by
  rw [ofText?_eq_some_iff_write, withoutLineEnd_of_not_mem h]
  rfl

end Chunk

/-! ## Reading the numbers -/

theorem readCount_eq_ok {digits : List Char} {n : Nat} (h : readCount digits = .ok n) :
    digits.length ≤ Text.maxDigits ∧ n = Text.digitsValue digits := by
  rcases readCount_cases digits with ⟨-, hread⟩ | ⟨hshort, hread⟩
  · rw [hread] at h
    cases h
  · rw [hread] at h
    cases h
    exact ⟨hshort, rfl⟩

theorem PoolText.size_eq_ok {t : PoolText} {count : Nat} (h : t.size = .ok count) :
    t.count.length ≤ Text.maxDigits ∧ count = t.dice := by
  unfold size at h
  unfold dice
  cases hcount : t.count with
  | nil =>
    rw [hcount] at h
    cases h
    exact ⟨Nat.zero_le _, rfl⟩
  | cons c rest =>
    rw [hcount, List.isEmpty_cons, if_neg Bool.false_ne_true] at h
    rw [if_neg (List.cons_ne_nil c rest)]
    exact readCount_eq_ok h

theorem Faces.resolve_eq_ok {f : Faces} {faces : Nat} {offset : Int} (h : f.resolve = .ok (faces, offset)) :
    f.digits.length ≤ Text.maxDigits ∧ faces = f.size ∧ offset = f.shift := by
  cases f with
  | fudge | percent =>
    cases h
    exact ⟨Nat.zero_le _, rfl, rfl⟩
  | number digits =>
    obtain ⟨n, hread, hmade⟩ := bind_eq_ok h
    obtain ⟨hshort, rfl⟩ := readCount_eq_ok hread
    cases hmade
    exact ⟨hshort, rfl, rfl⟩

theorem ModifierText.resolve_eq_ok {m : ModifierText} {count lowest highest argument : Int}
    (h : m.resolve count lowest highest = .ok argument) :
    m.digits.length ≤ Text.maxDigits ∧ argument = m.value count lowest highest := by
  unfold resolve at h
  unfold value
  cases hdigits : m.digits with
  | nil =>
    rw [hdigits] at h
    cases h
    exact ⟨Nat.zero_le _, rfl⟩
  | cons c rest =>
    rw [hdigits, List.isEmpty_cons, if_neg Bool.false_ne_true] at h
    rw [if_neg (List.cons_ne_nil c rest)]
    obtain ⟨n, hread, hmade⟩ := bind_eq_ok h
    obtain ⟨hshort, rfl⟩ := readCount_eq_ok hread
    cases hmade
    refine ⟨hshort, ?_⟩
    cases m.sign <;> rfl

theorem PoolText.argument_eq_ok {t : PoolText} {argument : Int}
    (h : t.argument t.dice (1 + t.faces.shift) (t.faces.size + t.faces.shift) = .ok argument) :
    t.argumentDigits.length ≤ Text.maxDigits ∧ argument = t.argumentValue := by
  unfold PoolText.argument at h
  unfold argumentDigits argumentValue
  cases hm : t.modifier with
  | none =>
    rw [hm] at h
    cases h
    exact ⟨Nat.zero_le _, rfl⟩
  | some m =>
    rw [hm] at h
    exact ModifierText.resolve_eq_ok h

/-! ## Compiling is checking -/

namespace PoolText

variable {limits : Limits} {t : PoolText} {count faces : Nat} {offset : Int}

/-- What it takes for all checks of a pool to pass. -/
theorem allPass_checks : AllPass (t.checks limits) ↔
    (t.count.length ≤ Text.maxDigits ∧ t.dice ≤ limits.maxDice) ∧
      (t.faces.digits.length ≤ Text.maxDigits ∧ t.faces.size ≤ limits.maxFaces ∧ t.faces.size ≠ 0) ∧
        t.argumentDigits.length ≤ Text.maxDigits := by
  simp only [checks, allPass_cons, allPass_nil, Nat.not_lt, and_true, and_assoc, ne_eq]

/-- However compiling a pool ends, it is what its checks conclude. -/
theorem ComesTo.concludes {chunk : String} {outcome : Except ChunkError Pool}
    (h : t.ComesTo limits chunk outcome) (hchunk : String.ofList t.write = chunk) :
    Concludes (t.checks limits) (t.pool limits) outcome := by
  subst hchunk
  cases h with
  | overlongCount hlong => exact .failed (.here hlong)
  | tooManyDice hsize hmost =>
    obtain ⟨hcount, rfl⟩ := size_eq_ok hsize
    exact .failed (.later (Nat.not_lt.mpr hcount) (.here hmost))
  | @overlongFaces count digits hsize hdice hfaces hlong =>
    obtain ⟨hcount, rfl⟩ := size_eq_ok hsize
    obtain rfl : digits = t.faces.digits := by rw [hfaces]; rfl
    exact .failed (.later (Nat.not_lt.mpr hcount) (.later (Nat.not_lt.mpr hdice) (.here hlong)))
  | tooManyFaces hsize hdice hresolve hmost =>
    obtain ⟨hcount, rfl⟩ := size_eq_ok hsize
    obtain ⟨hfaces, rfl, -⟩ := Faces.resolve_eq_ok hresolve
    exact .failed (.later (Nat.not_lt.mpr hcount) (.later (Nat.not_lt.mpr hdice)
      (.later (Nat.not_lt.mpr hfaces) (.here hmost))))
  | noFaces hsize hdice hresolve =>
    obtain ⟨hcount, rfl⟩ := size_eq_ok hsize
    obtain ⟨hfaces, hzero, -⟩ := Faces.resolve_eq_ok hresolve
    have hmost : ¬limits.maxFaces < t.faces.size := by omega
    exact .failed (.later (Nat.not_lt.mpr hcount) (.later (Nat.not_lt.mpr hdice)
      (.later (Nat.not_lt.mpr hfaces) (.later hmost (.here hzero.symm)))))
  | @overlongArgument count faces offset m hadmits hm hlong =>
    obtain ⟨hcount, rfl⟩ := size_eq_ok hadmits.size
    obtain ⟨hfaces, rfl, -⟩ := Faces.resolve_eq_ok hadmits.resolved
    have hleast := hadmits.least
    have hdigits : m.digits = t.argumentDigits := by rw [argumentDigits, hm]; rfl
    rw [hdigits] at hlong ⊢
    exact .failed (.later (Nat.not_lt.mpr hcount) (.later (Nat.not_lt.mpr hadmits.dice)
      (.later (Nat.not_lt.mpr hfaces) (.later (Nat.not_lt.mpr hadmits.most)
        (.later (Nat.ne_of_gt hleast) (.here hlong))))))
  | made hadmits hargument =>
    obtain ⟨hcount, rfl⟩ := size_eq_ok hadmits.size
    obtain ⟨hfaces, rfl, rfl⟩ := Faces.resolve_eq_ok hadmits.resolved
    obtain ⟨hshort, rfl⟩ := argument_eq_ok hargument
    have hleast := hadmits.least
    exact .passed (allPass_checks.mpr
      ⟨⟨hcount, hadmits.dice⟩, ⟨hfaces, hadmits.most, Nat.ne_of_gt hleast⟩, hshort⟩)

end PoolText

/-- **Compiling a chunk is checking it.** A chunk in lowercase, without a line end, compiles to what its
checks conclude. -/
theorem Term.ofText_concludes (limits : Limits) {text : String} {c : Chunk} (hc : c.IsWrittenAs text)
    (hline : '\n' ∉ text.toList) (hlower : Text.lowercase text = text) :
    Concludes (c.checks limits) (c.term limits) (Term.ofText limits text) := by
  have hread := (Chunk.ofText?_eq_some_iff hline).mpr hc
  cases c with
  | constant s digits =>
    rw [Term.ofText_of_constant limits hread]
    rcases readCount_cases digits with ⟨hlong, hcount⟩ | ⟨hshort, hcount⟩
    · rw [hcount, error_bind]
      exact .failed (.here hlong)
    · rw [hcount, ok_bind]
      have hpass : AllPass ((Chunk.constant s digits).checks limits) :=
        allPass_cons.mpr ⟨Nat.not_lt.mpr hshort, allPass_nil⟩
      have hterm : (Chunk.constant s digits).term limits =
          .constant (if s == .minus then -Text.digitsValue digits else Text.digitsValue digits) := by
        cases s <;> rfl
      rw [← hterm]
      exact .passed hpass
  | pool t =>
    have hchunk : String.ofList t.write = text := by
      rw [← String.ofList_toList (s := text), ← hc.2]
      rfl
    have hconcludes := (Pool.ofText_comesTo limits (hlower.symm ▸ hread)).concludes hchunk
    rw [Term.ofText_of_not_constant limits (by simp [hread])]
    cases hpool : Pool.ofText limits text with
    | error e =>
      rw [hpool] at hconcludes
      rw [error_bind]
      cases hconcludes with
      | failed hfails => exact .failed hfails
    | ok p =>
      rw [hpool] at hconcludes
      rw [ok_bind]
      cases hconcludes with
      | passed hpass => exact .passed hpass

end DiceNotation
