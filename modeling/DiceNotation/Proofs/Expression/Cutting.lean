import Mathlib.Data.List.SplitBy
import DiceNotation.Expression

/-!
# Where expressions are cut

The chunks of an expression, put together, give it back; every chunk after the first begins with a sign,
no chunk before the last ends where a sign would belong to it, and no chunk could be cut any further. A
list of texts with these properties is the list of chunks of the expression that they make up: this
determines the cut.

It follows that two expressions that meet at such a place are cut apart from each other.
-/

namespace DiceNotation.Expression

/-- A text that begins with a sign. -/
def StartsWithSign (text : List Char) : Prop := text.head? = some '+' ∨ text.head? = some '-'

/-- A text that ends in a modifier without its argument, to which a sign after it would belong. -/
def EndsOpen (text : List Char) : Prop :=
  text.getLast? = some 'r' ∨ text.getLast? = some 't' ∨ text.getLast? = some '!'

/-- A text that is cut nowhere: each sign but one at the start belongs to a modifier. -/
def IsWhole (text : List Char) : Prop := text.IsChain fun before after => cutsBetween before after = false

/-! ## Cuts between neighbours -/

theorem isSign_iff {c : Char} : isSign c = true ↔ c = '+' ∨ c = '-' := by
  simp [isSign]

theorem takesSign_iff {c : Char} : takesSign c = true ↔ c = 'r' ∨ c = 't' ∨ c = '!' := by
  simp [takesSign, or_assoc]

theorem cutsBetween_iff {before after : Char} :
    cutsBetween before after = true ↔ takesSign before = false ∧ isSign after = true := by
  simp [cutsBetween, and_comm]

theorem startsWithSign_cons {c : Char} {rest : List Char} :
    StartsWithSign (c :: rest) ↔ isSign c = true := by
  simp [StartsWithSign, isSign_iff]

theorem endsOpen_iff {text : List Char} (h : text ≠ []) :
    EndsOpen text ↔ takesSign (text.getLast h) = true := by
  simp [EndsOpen, takesSign_iff, List.getLast?_eq_some_getLast h]

theorem StartsWithSign.ne_nil {text : List Char} (h : StartsWithSign text) : text ≠ [] := by
  intro heq
  subst heq
  rcases h with h | h <;> cases h

/-- Two texts are cut apart if and only if the first one is closed and the second one has a sign. -/
theorem cutsBetween_getLast_head {first second : List Char} (h₁ : first ≠ []) (h₂ : second ≠ []) :
    cutsBetween (first.getLast h₁) (second.head h₂) = true ↔ ¬EndsOpen first ∧ StartsWithSign second := by
  rw [cutsBetween_iff, endsOpen_iff h₁, Bool.not_eq_true]
  cases second with
  | nil => exact absurd rfl h₂
  | cons c rest => rw [startsWithSign_cons, List.head_cons]

theorem exists_cutsBetween_iff {first second : List Char} :
    (∃ h₁ h₂, (!cutsBetween (first.getLast h₁) (second.head h₂)) = false) ↔
      (first ≠ [] ∧ ¬EndsOpen first) ∧ StartsWithSign second := by
  simp only [Bool.not_eq_false']
  constructor
  · intro h
    obtain ⟨h₁, h₂, hcut⟩ := h
    obtain ⟨hclosed, hsign⟩ := (cutsBetween_getLast_head h₁ h₂).mp hcut
    exact ⟨⟨h₁, hclosed⟩, hsign⟩
  · intro h
    obtain ⟨⟨h₁, hclosed⟩, hsign⟩ := h
    exact ⟨h₁, hsign.ne_nil, (cutsBetween_getLast_head h₁ hsign.ne_nil).mpr ⟨hclosed, hsign⟩⟩

/-- Neighbours in a list are related by a condition on the first and one on the second if and only if all
but the last meet the one, and all but the first meet the other. -/
theorem isChain_and_iff {α : Type} {P Q : α → Prop} {items : List α} :
    (items.IsChain fun a b => P a ∧ Q b) ↔ (∀ a ∈ items.dropLast, P a) ∧ ∀ b ∈ items.tail, Q b := by
  induction items with
  | nil => simp
  | cons a rest ih =>
    cases rest with
    | nil => simp
    | cons b rest =>
      rw [List.isChain_cons_cons, ih]
      simp only [List.dropLast_cons_cons, List.tail_cons, List.mem_cons, forall_eq_or_imp]
      constructor
      · intro h
        obtain ⟨⟨ha, hb⟩, hP, hQ⟩ := h
        exact ⟨⟨ha, hP⟩, hb, hQ⟩
      · intro h
        obtain ⟨⟨ha, hP⟩, hb, hQ⟩ := h
        exact ⟨⟨ha, hb⟩, hP, hQ⟩

/-! ## The cut of a text -/

theorem cutChars_of_ne_nil {text : List Char} (h : text ≠ []) :
    cutChars text = text.splitBy fun before after => !cutsBetween before after := by
  unfold cutChars
  rw [if_neg (by simpa using h)]

/-- The pieces into which a text is cut are determined by how they meet. -/
theorem cutChars_eq_iff {text : List Char} (hne : text ≠ []) {pieces : List (List Char)} :
    cutChars text = pieces ↔
      text = pieces.flatten ∧ [] ∉ pieces ∧ (∀ piece ∈ pieces, IsWhole piece) ∧
        (∀ piece ∈ pieces.dropLast, ¬EndsOpen piece) ∧ ∀ piece ∈ pieces.tail, StartsWithSign piece := by
  rw [cutChars_of_ne_nil hne, List.splitBy_eq_iff]
  simp only [exists_cutsBetween_iff, isChain_and_iff, Bool.not_eq_true', IsWhole]
  constructor
  · intro h
    obtain ⟨hjoin, hnil, hwhole, hclosed, hsigned⟩ := h
    exact ⟨hjoin, hnil, hwhole, fun piece hp => (hclosed piece hp).2, hsigned⟩
  · intro h
    obtain ⟨hjoin, hnil, hwhole, hclosed, hsigned⟩ := h
    -- the library also asks that no piece but the last is empty, but none is at all
    refine ⟨hjoin, hnil, hwhole, fun piece hp => ⟨?_, hclosed piece hp⟩, hsigned⟩
    intro h
    subst h
    exact hnil (List.dropLast_subset pieces hp)

theorem cutChars_append {first second : List Char} (hne : first ≠ []) (hclosed : ¬EndsOpen first)
    (hsigned : StartsWithSign second) : cutChars (first ++ second) = cutChars first ++ cutChars second := by
  have hne₂ := hsigned.ne_nil
  rw [cutChars_of_ne_nil (List.append_ne_nil_of_left_ne_nil hne second), cutChars_of_ne_nil hne,
    cutChars_of_ne_nil hne₂]
  -- there is only one new place between two characters, and it is cut
  apply List.splitBy_append
  intro x hx y hy
  rw [List.getLast?_eq_some_getLast hne, Option.mem_some_iff] at hx
  rw [List.head?_eq_some_head hne₂, Option.mem_some_iff] at hy
  rw [← hx, ← hy, (cutsBetween_getLast_head hne hne₂).mpr ⟨hclosed, hsigned⟩]
  rfl

/-! ## The chunks of an expression -/

theorem toList_cut (text : String) : (cut text).map String.toList = cutChars text.toList := by
  rw [cut, List.map_map]
  have hid : (String.toList ∘ String.ofList) = id := funext fun _ => String.toList_ofList
  rw [hid, List.map_id]

/-- A list of texts is the cut of the expression that they make up if and only if no text is empty or
could be cut further, no text before the last one ends open, and each text after the first one begins
with a sign. -/
theorem cut_eq_iff {text : String} (hne : text ≠ "") {chunks : List String} :
    cut text = chunks ↔
      String.join chunks = text ∧ "" ∉ chunks ∧ (∀ chunk ∈ chunks, IsWhole chunk.toList) ∧
        (∀ chunk ∈ chunks.dropLast, ¬EndsOpen chunk.toList) ∧
        ∀ chunk ∈ chunks.tail, StartsWithSign chunk.toList := by
  have hne' : text.toList ≠ [] := by simpa using hne
  -- strings are compared as the lists of their characters, of which the pieces are known
  have hinj : Function.Injective (List.map String.toList) :=
    List.map_injective_iff.mpr fun _ _ => String.toList_inj.mp
  rw [← hinj.eq_iff, toList_cut, cutChars_eq_iff hne']
  have hjoin : text.toList = (chunks.map String.toList).flatten ↔ String.join chunks = text := by
    rw [← String.toList_inj, String.toList_join, List.flatMap_def, eq_comm]
  have hnil : [] ∉ chunks.map String.toList ↔ "" ∉ chunks := by simp
  rw [hjoin, hnil, ← List.map_dropLast, ← List.map_tail]
  simp only [List.forall_mem_map]

/-- The chunks of an expression, put together, give it back. -/
theorem join_cut (text : String) : String.join (cut text) = text := by
  by_cases hne : text = ""
  · subst hne
    decide
  · exact ((cut_eq_iff hne).mp rfl).1

/-- An expression is cut where a signed one is put behind a closed one. -/
theorem cut_append {first second : String} (hne : first ≠ "") (hclosed : ¬EndsOpen first.toList)
    (hsigned : StartsWithSign second.toList) : cut (first ++ second) = cut first ++ cut second := by
  have hne' : first.toList ≠ [] := by simpa using hne
  rw [cut, cut, cut, String.toList_append, cutChars_append hne' hclosed hsigned, List.map_append]

end DiceNotation.Expression
