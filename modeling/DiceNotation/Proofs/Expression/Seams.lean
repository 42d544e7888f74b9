import Mathlib.Data.Finset.Card
import Mathlib.Order.Interval.Finset.Nat
import DiceNotation.Proofs.Expression.Cutting

/-!
# The places of the cuts

Any text at all is cut into chunks, whether it is tidied and valid or not. The places where two chunks meet
are known from the text alone: they are those of its free signs. A sign is free if there is a character before
it and this character does not take the sign for itself.

So there is one chunk more than there are free signs, and in a chunk there are none left.
-/

namespace DiceNotation.Expression

/-- At this place of a text stands a sign that is not the first character and does not come straight after
`r`, `t` or `!`. -/
def IsFreeSign (text : List Char) (place : Nat) : Prop :=
  0 < place ∧ (text[place]? = some '+' ∨ text[place]? = some '-') ∧
    ¬(text[place - 1]? = some 'r' ∨ text[place - 1]? = some 't' ∨ text[place - 1]? = some '!')

instance (text : List Char) : DecidablePred (IsFreeSign text) := fun place =>
  inferInstanceAs (Decidable (0 < place ∧ (text[place]? = some '+' ∨ text[place]? = some '-') ∧
    ¬(text[place - 1]? = some 'r' ∨ text[place - 1]? = some 't' ∨ text[place - 1]? = some '!')))

/-- At this place one of the chunks ends and the next one begins. -/
def IsSeam (chunks : List String) (place : Nat) : Prop :=
  ∃ count, 0 < count ∧ count < chunks.length ∧ (String.join (chunks.take count)).length = place

/-! ## Free signs -/

/-- A free sign parts a text into a closed text and one that begins with the sign. -/
theorem isFreeSign_append_iff {before after : List Char} :
    IsFreeSign (before ++ after) before.length ↔ before ≠ [] ∧ ¬EndsOpen before ∧ StartsWithSign after := by
  have hafter : (before ++ after)[before.length]? = after.head? := by
    rw [List.getElem?_append_right (Nat.le_refl _), Nat.sub_self, List.head?_eq_getElem?]
  unfold IsFreeSign
  rw [hafter, List.length_pos_iff]
  refine and_congr_right fun hne => ?_
  have hbefore : (before ++ after)[before.length - 1]? = before.getLast? := by
    have hpos := List.length_pos_iff.mpr hne
    rw [List.getElem?_append_left (by omega), List.getLast?_eq_getElem?]
  rw [hbefore]
  exact And.comm

theorem IsFreeSign.lt_length {text : List Char} {place : Nat} (h : IsFreeSign text place) :
    place < text.length := by
  obtain ⟨-, hsign, -⟩ := h
  rcases hsign with h | h
  · exact (List.getElem?_eq_some_iff.mp h).1
  · exact (List.getElem?_eq_some_iff.mp h).1

/-! ## Chunks put together -/

/-- Chunks put together begin as the first one does. -/
theorem head?_join_cons {chunk : String} (hne : chunk ≠ "") (rest : List String) :
    (String.join (chunk :: rest)).toList.head? = chunk.toList.head? := by
  have hne' : chunk.toList ≠ [] := by simpa using hne
  rw [String.join_cons, String.toList_append, List.head?_append_of_ne_nil _ hne']

/-- Chunks put together end as the last one does. -/
theorem getLast?_join_concat {chunk : String} (hne : chunk ≠ "") (earlier : List String) :
    (String.join (earlier ++ [chunk])).toList.getLast? = chunk.toList.getLast? := by
  have hne' : chunk.toList ≠ [] := by simpa using hne
  rw [String.join_append, String.join_cons, String.join_nil, String.append_empty, String.toList_append,
    List.getLast?_append_of_ne_nil _ hne']

theorem join_ne_empty {chunks : List String} (hne : chunks ≠ []) (hempty : "" ∉ chunks) :
    String.join chunks ≠ "" := by
  cases chunks with
  | nil => exact absurd rfl hne
  | cons chunk rest =>
    rw [String.join_cons]
    intro h
    have hchunk : chunk = "" := (String.append_eq_empty_iff.mp h).1
    exact hempty (hchunk ▸ List.mem_cons_self)

/-- The more chunks, none of which is empty, the further they reach. -/
theorem length_join_take_lt {chunks : List String} (hempty : "" ∉ chunks) {few many : Nat} (hlt : few < many)
    (hmany : many ≤ chunks.length) :
    (String.join (chunks.take few)).length < (String.join (chunks.take many)).length := by
  have hsplit : chunks.take many = chunks.take few ++ (chunks.take many).drop few := by
    conv_lhs => rw [← List.take_append_drop few (chunks.take many), List.take_take, Nat.min_eq_left hlt.le]
  have hmore : (chunks.take many).drop few ≠ [] := by
    rw [← List.length_pos_iff, List.length_drop, List.length_take]
    omega
  have hsub : "" ∉ (chunks.take many).drop few := fun hmem =>
    hempty (List.mem_of_mem_take (List.mem_of_mem_drop hmem))
  have hpos := (String.length_eq_zero_iff.not).mpr (join_ne_empty hmore hsub)
  rw [hsplit, String.join_append, String.length_append]
  omega

/-- At a seam there are a chunk that ends and one that begins. -/
theorem IsSeam.exists_neighbours {chunks : List String} {place : Nat} (h : IsSeam chunks place) :
    ∃ earlier last next later, chunks = earlier ++ [last] ++ next :: later ∧
      (String.join (earlier ++ [last])).length = place := by
  obtain ⟨count, hpos, hcount, hplace⟩ := h
  have hfirst : chunks.take count ≠ [] := by
    rw [← List.length_pos_iff, List.length_take]
    omega
  have hsecond : chunks.drop count ≠ [] := by
    rw [← List.length_pos_iff, List.length_drop]
    omega
  obtain ⟨next, later, hnext⟩ := List.exists_cons_of_ne_nil hsecond
  have hlast := List.dropLast_append_getLast hfirst
  refine ⟨(chunks.take count).dropLast, (chunks.take count).getLast hfirst, next, later, ?_, ?_⟩
  · rw [hlast, ← hnext, List.take_append_drop]
  · rw [hlast, hplace]

/-! ## Cuts and free signs -/

theorem cut_ne_nil (text : String) : cut text ≠ [] := by
  by_cases hne : text = ""
  · subst hne
    decide
  · intro hnil
    have hjoin := join_cut text
    rw [hnil, String.join_nil] at hjoin
    exact hne hjoin.symm

/-- Only the empty text has an empty chunk. -/
theorem eq_empty_of_empty_mem_cut {text : String} (h : "" ∈ cut text) : text = "" := by
  by_contra hne
  exact ((cut_eq_iff hne).mp rfl).2.1 h

/-- A text is cut at a free sign. -/
theorem isSeam_of_isFreeSign {text : String} {place : Nat} (h : IsFreeSign text.toList place) :
    IsSeam (cut text) place := by
  -- the text before the sign and the one from the sign on are cut apart from each other
  have htext : String.ofList (text.toList.take place) ++ String.ofList (text.toList.drop place) = text := by
    rw [← String.toList_inj, String.toList_append, String.toList_ofList, String.toList_ofList,
      List.take_append_drop]
  have hlength : (text.toList.take place).length = place := by
    rw [List.length_take, Nat.min_eq_left h.lt_length.le]
  have hparts : IsFreeSign (text.toList.take place ++ text.toList.drop place)
      (text.toList.take place).length := by
    rw [List.take_append_drop, hlength]
    exact h
  obtain ⟨hne, hclosed, hsigned⟩ := isFreeSign_append_iff.mp hparts
  have hcut : cut (String.ofList (text.toList.take place) ++ String.ofList (text.toList.drop place)) =
      cut (String.ofList (text.toList.take place)) ++ cut (String.ofList (text.toList.drop place)) :=
    cut_append (by simpa using hne) (by simpa using hclosed) (by simpa using hsigned)
  rw [htext] at hcut
  refine ⟨(cut (String.ofList (text.toList.take place))).length, List.length_pos_iff.mpr (cut_ne_nil _), ?_, ?_⟩
  · rw [hcut, List.length_append]
    exact Nat.lt_add_of_pos_right (List.length_pos_iff.mpr (cut_ne_nil _))
  · rw [hcut, List.take_left, join_cut, String.length_ofList, hlength]

/-- Two chunks meet at a free sign. -/
theorem isFreeSign_of_isSeam {text : String} {place : Nat} (h : IsSeam (cut text) place) :
    IsFreeSign text.toList place := by
  obtain ⟨earlier, last, next, later, hcut, hplace⟩ := h.exists_neighbours
  have hne : text ≠ "" := by
    intro heq
    subst heq
    have hone : (cut "").length = 1 := by decide
    simp only [hcut, List.length_append, List.length_cons, List.length_nil] at hone
    omega
  obtain ⟨hjoin, hempty, -, hclosed, hsigned⟩ := (cut_eq_iff hne).mp hcut
  have hlast : last ∈ (earlier ++ [last] ++ next :: later).dropLast := by
    rw [List.dropLast_append_of_ne_nil (List.cons_ne_nil _ _)]
    exact List.mem_append_left _ List.mem_concat_self
  have hnext : next ∈ (earlier ++ [last] ++ next :: later).tail := by
    rw [List.tail_append_of_ne_nil (by simp)]
    exact List.mem_append_right _ List.mem_cons_self
  have hlast' : last ≠ "" := fun heq => hempty (heq ▸ List.dropLast_subset _ hlast)
  have hnext' : next ≠ "" := fun heq => hempty (heq ▸ List.mem_of_mem_tail hnext)
  have hearlier : "" ∉ earlier ++ [last] := fun hmem => hempty (List.mem_append_left _ hmem)
  have htext : text.toList =
      (String.join (earlier ++ [last])).toList ++ (String.join (next :: later)).toList := by
    rw [← String.toList_append, ← String.join_append, hjoin]
  rw [htext, ← hplace, ← String.length_toList, isFreeSign_append_iff]
  refine ⟨?_, ?_, ?_⟩
  · exact fun hnil => join_ne_empty (by simp) hearlier (String.toList_eq_nil_iff.mp hnil)
  · unfold EndsOpen
    rw [getLast?_join_concat hlast']
    exact hclosed last hlast
  · unfold StartsWithSign
    rw [head?_join_cons hnext']
    exact hsigned next hnext

theorem isSeam_cut_iff {text : String} {place : Nat} :
    IsSeam (cut text) place ↔ IsFreeSign text.toList place :=
  ⟨isFreeSign_of_isSeam, isSeam_of_isFreeSign⟩

/-- There is one chunk more than there are free signs. -/
theorem length_cut (text : String) :
    (cut text).length = ((Finset.range text.length).filter (IsFreeSign text.toList)).card + 1 := by
  by_cases hne : text = ""
  · subst hne
    decide
  obtain ⟨-, hempty, -⟩ := (cut_eq_iff hne).mp rfl
  let reach (count : Nat) : Nat := (String.join ((cut text).take count)).length
  -- the free signs are counted by the number of chunks before them
  have hseams : (Finset.range text.length).filter (IsFreeSign text.toList) =
      (Finset.Ico 1 (cut text).length).image reach := by
    ext place
    rw [Finset.mem_filter, Finset.mem_range, ← isSeam_cut_iff, Finset.mem_image]
    constructor
    · intro h
      obtain ⟨-, count, hpos, hcount, hplace⟩ := h
      exact ⟨count, Finset.mem_Ico.mpr ⟨hpos, hcount⟩, hplace⟩
    · intro h
      obtain ⟨count, hcount, hplace⟩ := h
      obtain ⟨hpos, hcount⟩ := Finset.mem_Ico.mp hcount
      have hseam : IsSeam (cut text) place := ⟨count, hpos, hcount, hplace⟩
      refine ⟨?_, hseam⟩
      rw [← String.length_toList]
      exact (isFreeSign_of_isSeam hseam).lt_length
  have hinjective : Set.InjOn reach (Finset.Ico 1 (cut text).length) := by
    intro few hfew many hmany heq
    have hfew := (Finset.mem_Ico.mp hfew).2
    have hmany := (Finset.mem_Ico.mp hmany).2
    rcases Nat.lt_trichotomy few many with hlt | rfl | hlt
    · exact absurd heq (length_join_take_lt hempty hlt hmany.le).ne
    · rfl
    · exact absurd heq (length_join_take_lt hempty hlt hfew.le).ne'
  have hpos := List.length_pos_iff.mpr (cut_ne_nil text)
  rw [hseams, Finset.card_image_of_injOn hinjective, Nat.card_Ico]
  omega

/-- A chunk is not cut again. -/
theorem cut_of_mem_cut {text chunk : String} (h : chunk ∈ cut text) : cut chunk = [chunk] := by
  by_cases hchunk : chunk = ""
  · subst hchunk
    decide
  have hne : text ≠ "" := by
    intro heq
    subst heq
    have hcut : cut "" = [""] := by decide
    rw [hcut] at h
    exact hchunk (List.mem_singleton.mp h)
  obtain ⟨-, -, hwhole, -, -⟩ := (cut_eq_iff hne).mp rfl
  refine (cut_eq_iff hchunk).mpr ⟨?_, ?_, ?_, List.forall_mem_nil _, List.forall_mem_nil _⟩
  · simp
  · simpa using Ne.symm hchunk
  · exact List.forall_mem_singleton.mpr (hwhole chunk h)

/--
**Texts are cut at their free signs.**

The chunks of a text, put together, give it back; there is at least one, and none is empty unless the text
is. Two chunks meet at the free signs and nowhere else, so that there is one chunk more than there are free
signs; and a chunk that is cut again is left as it is.
-/
theorem cut_at_free_signs (text : String) :
    String.join (cut text) = text ∧ cut text ≠ [] ∧ ("" ∈ cut text → text = "") ∧
      (∀ place, IsSeam (cut text) place ↔ IsFreeSign text.toList place) ∧
      (cut text).length = ((Finset.range text.length).filter (IsFreeSign text.toList)).card + 1 ∧
      ∀ chunk ∈ cut text, cut chunk = [chunk] :=
  ⟨join_cut text, cut_ne_nil text, eq_empty_of_empty_mem_cut, fun _ => isSeam_cut_iff, length_cut text,
    fun _ => cut_of_mem_cut⟩

/-- Of the signs in a row all but the first are free, and none after `r` is. -/
example : cut "+-3d6r-1--2" = ["+", "-3d6r-1", "-", "-2"] := by decide

end DiceNotation.Expression
