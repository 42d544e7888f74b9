import DiceNotation.Expression
import DiceNotation.Proofs.Text.Lowercase

/-!
# Tidied expressions

An expression is tidied once and for all: its tidied form holds only characters that tidying leaves
alone. So the tidied expressions are those that tidying does not change, and tidied expressions put
together are tidied again.
-/

namespace DiceNotation.Expression

/-- An expression that tidying does not change. -/
def IsTidy (text : String) : Prop := tidy text = text

/-- A character that tidying leaves alone. -/
def IsSettled (c : Char) : Prop := Text.isBlank c = false ∧ Text.IsLower c

theorem isSettled_of_mem_tidyChars {text : List Char} {c : Char} (h : c ∈ tidyChars text) :
    IsSettled c := by
  refine ⟨?_, Text.isLower_of_mem_lowerFrom h⟩
  rw [Bool.eq_false_iff]
  intro hb
  obtain ⟨d, hd, hdb⟩ := Text.exists_isBlank_of_lowerFrom h hb
  have := (List.mem_filter.mp hd).2
  simp [hdb] at this

theorem tidyChars_of_isSettled {text : List Char} (h : ∀ c ∈ text, IsSettled c) :
    tidyChars text = text := by
  unfold tidyChars
  rw [List.filter_eq_self.mpr fun c hc => by simp [(h c hc).1]]
  exact Text.lowerFrom_of_isLower false fun c hc => (h c hc).2

/-- The tidied expressions are those that hold only characters that tidying leaves alone. -/
theorem isTidy_iff {text : String} : IsTidy text ↔ ∀ c ∈ text.toList, IsSettled c := by
  unfold IsTidy tidy
  constructor
  · intro h c hc
    rw [← h, String.toList_ofList] at hc
    exact isSettled_of_mem_tidyChars hc
  · intro h
    rw [tidyChars_of_isSettled h, String.ofList_toList]

theorem isTidy_tidy (text : String) : IsTidy (tidy text) := by
  rw [isTidy_iff]
  intro c hc
  rw [tidy, String.toList_ofList] at hc
  exact isSettled_of_mem_tidyChars hc

theorem IsTidy.append {first second : String} (h₁ : IsTidy first) (h₂ : IsTidy second) :
    IsTidy (first ++ second) := by
  rw [isTidy_iff] at h₁ h₂ ⊢
  intro c hc
  rw [String.toList_append, List.mem_append] at hc
  rcases hc with hc | hc
  · exact h₁ c hc
  · exact h₂ c hc

/-- A tidied expression has no line end. -/
theorem IsTidy.lineEnd_not_mem {text : String} (h : IsTidy text) : '\n' ∉ text.toList := by
  intro hmem
  exact absurd (isTidy_iff.mp h '\n' hmem).1 (by decide)

end DiceNotation.Expression
