import Mathlib.Computability.Language
import DiceNotation.Chunk

/-!
# The grammar of chunks as a regular language

The chunks once more, without trees: as a language of character lists, put together from words by
alternatives, sequences and repetition,

    [+-]? ( digits* d (digits+ | f | %) ( [dk][lh] digits* | [rt!] ([+-]? digits+)? )? | digits+ )

The language is that of the written trees. Each part of it is met by the written form of the part of a
tree that stands for it, from the sign to the whole chunk.
-/

namespace DiceNotation.Grammar

/-- A single word. -/
def word (w : String) : Language Char := {w.toList}

/-- A digit of any script. -/
def digit : Language Char := {text | ∃ c, Text.isDigit c = true ∧ text = [c]}

/-- Any number of digits. -/
def digits : Language Char := KStar.kstar digit

/-- At least one digit. -/
def someDigits : Language Char := digit * digits

/-- A sign or none. -/
def sign : Language Char := 1 + word "+" + word "-"

/-- The kinds of dice. -/
def faces : Language Char := someDigits + word "f" + word "%"

/-- The modifiers that pick a number of dice. -/
def numberModifier : Language Char := (word "kh" + word "kl" + word "dh" + word "dl") * digits

/-- The modifiers that pick a face. -/
def faceModifier : Language Char := (word "r" + word "t" + word "!") * (1 + sign * someDigits)

/-- The modifiers. -/
def modifier : Language Char := numberModifier + faceModifier

/-- A pool without its sign. -/
def unsignedPool : Language Char := digits * word "d" * faces * (1 + modifier)

/-- A constant. -/
def constant : Language Char := sign * someDigits

/-- A pool. -/
def pool : Language Char := sign * unsignedPool

/-- A chunk. -/
def chunk : Language Char := sign * (unsignedPool + someDigits)

theorem chunk_eq : chunk = pool + constant := mul_add sign unsignedPool someDigits

/-! ## Parts of chunks -/

@[simp] theorem mem_word {w : String} {text : List Char} : text ∈ word w ↔ text = w.toList := Iff.rfl

theorem mem_digits {text : List Char} : text ∈ digits ↔ AreDigits text := by
  unfold digits
  rw [Language.mem_kstar]
  constructor
  · intro hall c hc
    obtain ⟨pieces, rfl, hpieces⟩ := hall
    obtain ⟨piece, hpiece, hmem⟩ := List.mem_flatten.mp hc
    obtain ⟨d, hd, rfl⟩ := hpieces piece hpiece
    rw [List.mem_singleton] at hmem
    exact hmem ▸ hd
  · intro h
    refine ⟨text.map fun c => [c], by simp [← List.flatMap_def], ?_⟩
    intro piece hpiece
    obtain ⟨c, hc, rfl⟩ := List.mem_map.mp hpiece
    exact ⟨c, h c hc, rfl⟩

theorem mem_someDigits {text : List Char} : text ∈ someDigits ↔ text ≠ [] ∧ AreDigits text := by
  unfold someDigits
  rw [Language.mem_mul]
  constructor
  · intro hall
    obtain ⟨_, ⟨c, hc, rfl⟩, rest, hrest, rfl⟩ := hall
    refine ⟨by simp, ?_⟩
    intro d hd
    rcases List.mem_cons.mp hd with rfl | hd
    · exact hc
    · exact mem_digits.mp hrest d hd
  · intro hall
    obtain ⟨hne, h⟩ := hall
    cases text with
    | nil => exact absurd rfl hne
    | cons c rest =>
      refine ⟨[c], ⟨c, h c List.mem_cons_self, rfl⟩, rest, ?_, rfl⟩
      exact mem_digits.mpr fun d hd => h d (List.mem_cons_of_mem c hd)

theorem mem_sign {text : List Char} : text ∈ sign ↔ ∃ s : Sign, s.write = text := by
  unfold sign
  rw [Language.mem_add, Language.mem_add, Language.mem_one, mem_word, mem_word]
  constructor
  · intro h
    rcases h with (rfl | rfl) | rfl
    · exact ⟨.unsigned, rfl⟩
    · exact ⟨.plus, rfl⟩
    · exact ⟨.minus, rfl⟩
  · intro h
    obtain ⟨s, rfl⟩ := h
    cases s with
    | unsigned => exact Or.inl (Or.inl rfl)
    | plus => exact Or.inl (Or.inr rfl)
    | minus => exact Or.inr rfl

theorem mem_faces {text : List Char} : text ∈ faces ↔ ∃ f : Faces, f.WellFormed ∧ f.write = text := by
  unfold faces
  rw [Language.mem_add, Language.mem_add, mem_someDigits, mem_word, mem_word]
  constructor
  · intro hall
    rcases hall with (h | rfl) | rfl
    · exact ⟨.number text, h, rfl⟩
    · exact ⟨.fudge, trivial, rfl⟩
    · exact ⟨.percent, trivial, rfl⟩
  · intro hall
    obtain ⟨f, hf, rfl⟩ := hall
    cases f with
    | number text => exact Or.inl (Or.inl hf)
    | fudge => exact Or.inl (Or.inr rfl)
    | percent => exact Or.inr rfl

/-! ## Modifiers -/

theorem mem_numberModifier {text : List Char} : text ∈ numberModifier ↔
    ∃ m : ModifierText, m.WellFormed ∧ m.modifier.picksFace = false ∧ m.write = text := by
  unfold numberModifier
  simp only [Language.mem_mul, Language.mem_add, mem_word, mem_digits]
  constructor
  · intro h
    obtain ⟨token, htoken, number, hnumber, rfl⟩ := h
    have key : ∀ m : Modifier, m.picksFace = false → token = m.token.toList →
        ∃ m : ModifierText, m.WellFormed ∧ m.modifier.picksFace = false ∧ m.write = token ++ number :=
      fun m hm ht => ⟨⟨m, .unsigned, number⟩, ⟨hnumber, by simp⟩, hm, by
        rw [ht]; rfl⟩
    rcases htoken with ((ht | ht) | ht) | ht
    · exact key .keepHighest rfl ht
    · exact key .keepLowest rfl ht
    · exact key .dropHighest rfl ht
    · exact key .dropLowest rfl ht
  · intro h
    obtain ⟨⟨m, s, number⟩, ⟨hnumber, hsign⟩, hm, rfl⟩ := h
    -- a modifier that picks a number of dice has an unsigned argument
    have hs : s = .unsigned := by
      by_contra hne
      exact absurd (hsign hne).1 (by simp [hm])
    subst hs
    refine ⟨m.token.toList, ?_, number, hnumber, rfl⟩
    cases m with
    | keepHighest => exact Or.inl (Or.inl (Or.inl rfl))
    | keepLowest => exact Or.inl (Or.inl (Or.inr rfl))
    | dropHighest => exact Or.inl (Or.inr rfl)
    | dropLowest => exact Or.inr rfl
    | reroll | twice | explode => exact Bool.noConfusion hm

theorem mem_faceModifier {text : List Char} : text ∈ faceModifier ↔
    ∃ m : ModifierText, m.WellFormed ∧ m.modifier.picksFace = true ∧ m.write = text := by
  unfold faceModifier
  simp only [Language.mem_mul, Language.mem_add, Language.mem_one, mem_word, mem_sign, mem_someDigits]
  constructor
  · intro h
    obtain ⟨token, htoken, argument, hargument, rfl⟩ := h
    have key : ∀ m : Modifier, m.picksFace = true → token = m.token.toList →
        ∃ m : ModifierText, m.WellFormed ∧ m.modifier.picksFace = true ∧
          m.write = token ++ argument := by
      intro m hm ht
      rcases hargument with rfl | ⟨_, ⟨s, rfl⟩, number, ⟨hne, hnumber⟩, rfl⟩
      · exact ⟨⟨m, .unsigned, []⟩, ⟨by simp [AreDigits], by simp⟩, hm, by rw [ht]; rfl⟩
      · exact ⟨⟨m, s, number⟩, ⟨hnumber, fun _ => ⟨hm, hne⟩⟩, hm, by rw [ht]; rfl⟩
    rcases htoken with (ht | ht) | ht
    · exact key .reroll rfl ht
    · exact key .twice rfl ht
    · exact key .explode rfl ht
  · intro h
    obtain ⟨⟨m, s, number⟩, ⟨hnumber, hsign⟩, hm, rfl⟩ := h
    refine ⟨m.token.toList, ?_, s.write ++ number, ?_, rfl⟩
    · cases m with
      | reroll => exact Or.inl (Or.inl rfl)
      | twice => exact Or.inl (Or.inr rfl)
      | explode => exact Or.inr rfl
      | keepHighest | keepLowest | dropHighest | dropLowest => exact Bool.noConfusion hm
    · by_cases hs : s = .unsigned
      · by_cases hne : number = []
        · exact Or.inl (by rw [hs, hne]; rfl)
        · exact Or.inr ⟨s.write, ⟨s, rfl⟩, number, ⟨hne, hnumber⟩, rfl⟩
      · exact Or.inr ⟨s.write, ⟨s, rfl⟩, number, ⟨(hsign hs).2, hnumber⟩, rfl⟩

theorem mem_modifier {text : List Char} :
    text ∈ modifier ↔ ∃ m : ModifierText, m.WellFormed ∧ m.write = text := by
  unfold modifier
  rw [Language.mem_add, mem_numberModifier, mem_faceModifier]
  constructor
  · intro h
    rcases h with ⟨m, hm, _, hw⟩ | ⟨m, hm, _, hw⟩
    · exact ⟨m, hm, hw⟩
    · exact ⟨m, hm, hw⟩
  · intro h
    obtain ⟨m, hm, hw⟩ := h
    cases hp : m.modifier.picksFace with
    | false => exact Or.inl ⟨m, hm, hp, hw⟩
    | true => exact Or.inr ⟨m, hm, hp, hw⟩

/-! ## Chunks -/

theorem mem_unsignedPool {text : List Char} : text ∈ unsignedPool ↔
    ∃ p : PoolText, p.WellFormed ∧ p.sign = .unsigned ∧ p.write = text := by
  unfold unsignedPool
  simp only [Language.mem_mul, Language.mem_add, Language.mem_one, mem_word, mem_digits, mem_faces,
    mem_modifier]
  constructor
  · intro h
    obtain ⟨_, ⟨_, ⟨count, hcount, _, rfl, rfl⟩, _, ⟨f, hf, rfl⟩, rfl⟩, rest, hrest, rfl⟩ := h
    rcases hrest with rfl | ⟨m, hm, rfl⟩
    · exact ⟨⟨.unsigned, count, f, none⟩, ⟨hcount, hf, by simp⟩, rfl,
        by simp [PoolText.write, Sign.write]⟩
    · exact ⟨⟨.unsigned, count, f, some m⟩, ⟨hcount, hf, by simpa using hm⟩, rfl,
        by simp [PoolText.write, Sign.write]⟩
  · intro h
    obtain ⟨⟨s, count, f, m⟩, ⟨hcount, hf, hm⟩, hs, rfl⟩ := h
    refine ⟨count ++ ['d'] ++ f.write, ⟨count ++ ['d'], ⟨count, hcount, _, rfl, rfl⟩,
      f.write, ⟨f, hf, rfl⟩, rfl⟩, m.elim [] ModifierText.write, ?_, ?_⟩
    · cases m with
      | none => exact Or.inl rfl
      | some m => exact Or.inr ⟨m, hm m rfl, rfl⟩
    · have hs : s = .unsigned := hs
      simp [PoolText.write, Sign.write, hs]

theorem mem_constant {text : List Char} : text ∈ constant ↔
    ∃ s number, (Chunk.constant s number).WellFormed ∧ (Chunk.constant s number).write = text := by
  unfold constant
  simp only [Language.mem_mul, mem_sign, mem_someDigits]
  constructor
  · intro h
    obtain ⟨_, ⟨s, rfl⟩, number, hdigits, rfl⟩ := h
    exact ⟨s, number, hdigits, rfl⟩
  · intro h
    obtain ⟨s, number, hdigits, rfl⟩ := h
    exact ⟨s.write, ⟨s, rfl⟩, number, hdigits, rfl⟩

theorem mem_pool {text : List Char} : text ∈ pool ↔ ∃ p : PoolText, p.WellFormed ∧ p.write = text := by
  unfold pool
  simp only [Language.mem_mul, mem_sign, mem_unsignedPool]
  constructor
  · intro h
    obtain ⟨_, ⟨s, rfl⟩, body, ⟨p, hp, hunsigned, rfl⟩, rfl⟩ := h
    refine ⟨{ p with sign := s }, hp, ?_⟩
    simp [PoolText.write, hunsigned, Sign.write]
  · intro h
    obtain ⟨p, hp, rfl⟩ := h
    refine ⟨p.sign.write, ⟨p.sign, rfl⟩, { p with sign := .unsigned }.write, ?_, ?_⟩
    · exact ⟨{ p with sign := .unsigned }, hp, rfl, rfl⟩
    · simp [PoolText.write, Sign.write]

/-- A text is in the language of chunks if and only if it is a chunk tree that is written out. -/
theorem mem_chunk {text : List Char} : text ∈ chunk ↔ ∃ c : Chunk, c.WellFormed ∧ c.write = text := by
  rw [chunk_eq, Language.mem_add, mem_pool, mem_constant]
  constructor
  · intro h
    rcases h with ⟨p, hp, rfl⟩ | ⟨s, number, hconstant, rfl⟩
    · exact ⟨.pool p, hp, rfl⟩
    · exact ⟨.constant s number, hconstant, rfl⟩
  · intro h
    obtain ⟨c, hc, rfl⟩ := h
    cases c with
    | constant s number => exact Or.inr ⟨s, number, hc, rfl⟩
    | pool p => exact Or.inl ⟨p, hc, rfl⟩

end DiceNotation.Grammar
