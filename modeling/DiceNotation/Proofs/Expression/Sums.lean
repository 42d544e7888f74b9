import DiceNotation.Proofs.Chunk.Alphabet
import DiceNotation.Proofs.Expression.Cutting

/-!
# Expressions are sums of chunks

An expression whose chunks are all valid is a sum: chunks of the grammar one after the other, each one
after the first with a sign, and none but the last open to a sign after it. Cutting finds the summands,
and there is only one way to write an expression as a sum.

The cut looks only at signs and at the character before each of them; the grammar is not used for it.
The two agree because a chunk of the grammar has signs at its start and after `r`, `t` and `!` only.
-/

namespace DiceNotation.Expression

/-- An expression written as a sum of chunks. -/
structure IsSum (chunks : List String) (text : String) : Prop where
  /-- There is a chunk. -/
  nonempty : chunks ≠ []
  /-- The chunks make up the expression. -/
  joined : String.join chunks = text
  /-- Every chunk is one of the grammar. -/
  inGrammar : ∀ chunk ∈ chunks, chunk.toList ∈ Grammar.chunk
  /-- Every chunk but the first begins with a sign. -/
  signed : ∀ chunk ∈ chunks.tail, StartsWithSign chunk.toList
  /-- No chunk but the last would take a sign after it. -/
  closed : ∀ chunk ∈ chunks.dropLast, ¬EndsOpen chunk.toList

/-! ## Signs within chunks -/

/-- A text without signs. -/
def NoSigns (text : List Char) : Prop := ∀ c ∈ text, isSign c = false

theorem noSigns_iff {text : List Char} : NoSigns text ↔ text.all (!isSign ·) = true := by
  simp [NoSigns]

theorem NoSigns.append {first second : List Char} (h₁ : NoSigns first) (h₂ : NoSigns second) :
    NoSigns (first ++ second) := by
  intro c hc
  rcases List.mem_append.mp hc with hc | hc
  · exact h₁ c hc
  · exact h₂ c hc

theorem noSigns_of_areDigits {number : List Char} (h : AreDigits number) : NoSigns number := by
  intro c hc
  rw [Bool.eq_false_iff]
  intro hs
  rcases isSign_iff.mp hs with rfl | rfl
  · exact absurd (h _ hc) (by decide)
  · exact absurd (h _ hc) (by decide)

theorem NoSigns.isWhole_cons {text : List Char} (c : Char) (h : NoSigns text) : IsWhole (c :: text) := by
  induction text generalizing c with
  | nil => exact List.isChain_singleton c
  | cons d rest ih =>
    refine List.isChain_cons_cons.mpr ⟨?_, ih d fun e he => h e (List.mem_cons_of_mem d he)⟩
    simp [cutsBetween, h d List.mem_cons_self]

theorem NoSigns.isWhole {text : List Char} (h : NoSigns text) : IsWhole text := by
  cases text with
  | nil => exact List.isChain_nil
  | cons c rest => exact NoSigns.isWhole_cons c fun d hd => h d (List.mem_cons_of_mem c hd)

theorem NoSigns.not_startsWithSign {text : List Char} (h : NoSigns text) : ¬StartsWithSign text := by
  intro hs
  cases text with
  | nil => exact hs.ne_nil rfl
  | cons c rest =>
    have := startsWithSign_cons.mp hs
    simp [h c List.mem_cons_self] at this

/-- Whole texts can be put together where the second one has no sign, or the first one is open. -/
theorem IsWhole.append {first second : List Char} (h₁ : IsWhole first) (h₂ : IsWhole second)
    (h : EndsOpen first ∨ ¬StartsWithSign second) : IsWhole (first ++ second) := by
  refine List.isChain_append.mpr ⟨h₁, h₂, ?_⟩
  intro x hx y hy
  have hne₁ : first ≠ [] := List.ne_nil_of_mem (List.mem_of_getLast? hx)
  have hne₂ : second ≠ [] := List.ne_nil_of_mem (List.mem_of_mem_head? hy)
  rw [List.getLast?_eq_some_getLast hne₁, Option.mem_some_iff] at hx
  rw [List.head?_eq_some_head hne₂, Option.mem_some_iff] at hy
  rw [← hx, ← hy, Bool.eq_false_iff]
  intro hcut
  obtain ⟨hclosed, hsigned⟩ := (cutsBetween_getLast_head hne₁ hne₂).mp hcut
  rcases h with h | h
  · exact hclosed h
  · exact h hsigned

theorem isWhole_sign (s : Sign) : IsWhole s.write := by
  cases s with
  | unsigned => exact List.isChain_nil
  | plus => exact List.isChain_singleton '+'
  | minus => exact List.isChain_singleton '-'

theorem noSigns_token (m : Modifier) : NoSigns m.token.toList := by
  cases m <;> exact noSigns_iff.mpr rfl

theorem endsOpen_token {m : Modifier} (h : m.picksFace = true) : EndsOpen m.token.toList := by
  cases m with
  | reroll => exact Or.inl rfl
  | twice => exact Or.inr (Or.inl rfl)
  | explode => exact Or.inr (Or.inr rfl)
  | keepHighest | keepLowest | dropHighest | dropLowest => exact Bool.noConfusion h

/-- A sign within a modifier begins the argument of one that picks a face. -/
theorem isWhole_modifier {m : ModifierText} (h : m.WellFormed) : IsWhole m.write := by
  obtain ⟨modifier, s, number⟩ := m
  obtain ⟨hdigits, hsign⟩ := h
  have hnumber := noSigns_of_areDigits hdigits
  have hargument : IsWhole (s.write ++ number) :=
    (isWhole_sign s).append hnumber.isWhole (Or.inr hnumber.not_startsWithSign)
  -- only the place between the token and its argument can have a sign after it
  refine (noSigns_token modifier).isWhole.append hargument ?_
  by_cases hs : s = .unsigned
  · subst hs
    exact Or.inr hnumber.not_startsWithSign
  · exact Or.inl (endsOpen_token (hsign hs).1)

theorem not_startsWithSign_modifier (m : Option ModifierText) :
    ¬StartsWithSign (m.elim [] ModifierText.write) := by
  cases m with
  | none => simp [StartsWithSign]
  | some m =>
    show ¬StartsWithSign m.write
    unfold ModifierText.write
    cases m.modifier <;> simp [StartsWithSign, Modifier.token]

theorem noSigns_faces {f : Faces} (h : f.WellFormed) : NoSigns f.write := by
  cases f with
  | number number => exact noSigns_of_areDigits h.2
  | fudge => exact noSigns_iff.mpr rfl
  | percent => exact noSigns_iff.mpr rfl

/-- A chunk is not cut, whatever its tree. -/
theorem isWhole_chunk {c : Chunk} (h : c.WellFormed) : IsWhole c.write := by
  cases c with
  | constant s number =>
    have hnumber := noSigns_of_areDigits h.2
    exact (isWhole_sign s).append hnumber.isWhole (Or.inr hnumber.not_startsWithSign)
  | pool p =>
    obtain ⟨s, count, f, m⟩ := p
    obtain ⟨hcount, hfaces, hmodifier⟩ := h
    have hd : NoSigns ['d'] := noSigns_iff.mpr rfl
    have hdice : NoSigns (count ++ (['d'] ++ f.write)) :=
      (noSigns_of_areDigits hcount).append (hd.append (noSigns_faces hfaces))
    have hm : IsWhole (m.elim [] ModifierText.write) := by
      cases m with
      | none => exact List.isChain_nil
      | some m => exact isWhole_modifier (hmodifier m rfl)
    -- left of the modifier nothing has a sign, and the modifier does not begin with one
    have hbody := hdice.isWhole.append hm (Or.inr (not_startsWithSign_modifier m))
    have hsigned : ¬StartsWithSign (count ++ (['d'] ++ f.write) ++ m.elim [] ModifierText.write) := by
      unfold StartsWithSign
      rw [List.head?_append_of_ne_nil _ (by simp)]
      exact hdice.not_startsWithSign
    have hall := (isWhole_sign s).append hbody (Or.inr hsigned)
    simpa [Chunk.write, PoolText.write] using hall

theorem isWhole_of_mem_chunk {text : List Char} (h : text ∈ Grammar.chunk) : IsWhole text := by
  obtain ⟨c, hc, rfl⟩ := Grammar.mem_chunk.mp h
  exact isWhole_chunk hc

theorem ne_nil_of_mem_chunk {text : List Char} (h : text ∈ Grammar.chunk) : text ≠ [] := by
  obtain ⟨c, hc, rfl⟩ := Grammar.mem_chunk.mp h
  cases c with
  | constant s number =>
    intro hnil
    exact hc.1 (List.append_eq_nil_iff.mp hnil).2
  | pool p => simp [Chunk.write, PoolText.write]

/-! ## Sums and cuts -/

/-- The summands of an expression are the chunks into which it is cut. -/
theorem IsSum.cut_eq {chunks : List String} {text : String} (h : IsSum chunks text) :
    cut text = chunks := by
  have hnil : "" ∉ chunks := fun hmem => ne_nil_of_mem_chunk (h.inGrammar "" hmem) rfl
  -- a chunk is not empty, so that a sum is not empty either
  have hne : text ≠ "" := by
    intro heq
    subst heq
    obtain ⟨chunk, hchunk⟩ := List.exists_mem_of_ne_nil chunks h.nonempty
    have hjoined := congrArg String.toList h.joined
    rw [String.toList_join, String.toList_empty, List.flatMap_eq_nil_iff] at hjoined
    exact ne_nil_of_mem_chunk (h.inGrammar chunk hchunk) (hjoined chunk hchunk)
  refine (cut_eq_iff hne).mpr ⟨h.joined, hnil, fun chunk hchunk => ?_, h.closed, h.signed⟩
  exact isWhole_of_mem_chunk (h.inGrammar chunk hchunk)

/-- A chunk by itself is not cut. -/
theorem cut_text {c : Chunk} (h : c.WellFormed) : cut c.text = [c.text] := by
  refine IsSum.cut_eq ⟨List.cons_ne_nil _ _, ?_, ?_, List.forall_mem_nil _, List.forall_mem_nil _⟩
  · simp [String.join]
  · exact List.forall_mem_singleton.mpr h.text_mem_chunk

/-- An expression whose chunks are all of the grammar is their sum. -/
theorem isSum_cut {text : String} (h : ∀ chunk ∈ cut text, chunk.toList ∈ Grammar.chunk) :
    IsSum (cut text) text := by
  have hne : text ≠ "" := by
    intro heq
    subst heq
    exact ne_nil_of_mem_chunk (h "" (by decide)) rfl
  obtain ⟨hjoined, _, _, hclosed, hsigned⟩ := (cut_eq_iff hne).mp rfl
  refine ⟨?_, hjoined, h, hsigned, hclosed⟩
  intro hnil
  rw [hnil, String.join_nil] at hjoined
  exact hne hjoined.symm

/-- A chunk of an expression without line ends has none either. -/
theorem lineEnd_not_mem_of_mem_cut {text chunk : String} (h : '\n' ∉ text.toList)
    (hchunk : chunk ∈ cut text) : '\n' ∉ chunk.toList := by
  intro hmem
  rw [← join_cut text, String.toList_join, List.mem_flatMap] at h
  exact h ⟨chunk, hchunk, hmem⟩

/-- No chunk of a tidied expression is invalid if and only if all are chunks of the grammar. -/
theorem invalidChunks_cut_eq_nil_iff {text : String} (h : IsTidy text) :
    invalidChunks (cut text) = [] ↔ ∀ chunk ∈ cut text, chunk.toList ∈ Grammar.chunk := by
  unfold invalidChunks
  rw [List.filter_eq_nil_iff]
  refine forall₂_congr fun chunk hchunk => ?_
  rw [← isChunk_iff_mem_chunk (lineEnd_not_mem_of_mem_cut h.lineEnd_not_mem hchunk)]
  simp

/--
**The expressions are the sums of chunks.**

No chunk of a tidied expression is invalid exactly if the expression can be written as a sum of chunks;
and it can be written so in one way only, which is the way it is cut.
-/
theorem invalidChunks_cut_iff_isSum (given : String) :
    (invalidChunks (cut (tidy given)) = [] ↔ ∃ chunks, IsSum chunks (tidy given)) ∧
      ∀ chunks, IsSum chunks (tidy given) → cut (tidy given) = chunks := by
  rw [invalidChunks_cut_eq_nil_iff (isTidy_tidy given)]
  refine ⟨⟨fun h => ⟨cut (tidy given), isSum_cut h⟩, ?_⟩, fun chunks h => h.cut_eq⟩
  intro hall
  obtain ⟨chunks, h⟩ := hall
  rw [h.cut_eq]
  exact h.inGrammar

end DiceNotation.Expression
