import DiceNotation.Proofs.Chunk.Alphabet
import DiceNotation.Proofs.Term.Compiled

/-!
# What is recognised

The texts that are chunks, those that are constants and those that are read as pools are the words of three
languages: that of chunks and the two that make it up. A line end after a word is passed over, and only one.
No word is both a constant and a pool, because a word is written by one tree only.
-/

namespace DiceNotation

/-! ## Words with a line end after them -/

/-- A text that is a word of a language, maybe with a line end after it. -/
def Grammar.HasForm (language : Language Char) (text : String) : Prop :=
  text.toList ∈ language ∨ ∃ body ∈ language, text.toList = body ++ ['\n']

theorem withoutLineEnd_concat (body : List Char) : withoutLineEnd (body ++ ['\n']) = body := by
  rw [withoutLineEnd, List.getLast?_concat, if_pos rfl, List.dropLast_concat]

/-- Where no word holds a line end, the one after a word is the one that is passed over. -/
theorem Grammar.hasForm_iff {language : Language Char} (h : ∀ body ∈ language, '\n' ∉ body) {text : String} :
    HasForm language text ↔ withoutLineEnd text.toList ∈ language := by
  constructor
  · rintro (hmem | ⟨body, hmem, heq⟩)
    · rwa [withoutLineEnd_of_not_mem (h _ hmem)]
    · rwa [heq, withoutLineEnd_concat]
  · intro hmem
    by_cases hlast : text.toList.getLast? = some '\n'
    · rw [withoutLineEnd, if_pos hlast] at hmem
      exact Or.inr ⟨_, hmem, (List.dropLast_append_getLast? _ hlast).symm⟩
    · rw [withoutLineEnd, if_neg hlast] at hmem
      exact Or.inl hmem

namespace Grammar

theorem lineEnd_not_mem {body : List Char} (h : body ∈ chunk) : '\n' ∉ body := by
  obtain ⟨c, hc, rfl⟩ := mem_chunk.mp h
  have hline := hc.isTidy_text.lineEnd_not_mem
  rwa [c.toList_text] at hline

theorem mem_chunk_of_mem_constant {body : List Char} (h : body ∈ constant) : body ∈ chunk := by
  rw [chunk_eq]
  exact Or.inr h

theorem mem_chunk_of_mem_pool {body : List Char} (h : body ∈ pool) : body ∈ chunk := by
  rw [chunk_eq]
  exact Or.inl h

end Grammar

/-! ## Trees -/

theorem isChunk_iff {text : String} : isChunk text = true ↔ ∃ c, Chunk.ofText? text = some c :=
  Option.isSome_iff_exists

theorem isConstant_iff {text : String} :
    isConstant text = true ↔ ∃ s digits, Chunk.ofText? text = some (.constant s digits) := by
  unfold isConstant
  constructor
  · intro h
    split at h
    · rename_i s digits hread
      exact ⟨s, digits, hread⟩
    · cases h
  · rintro ⟨s, digits, hread⟩
    rw [hread]

theorem hasForm_chunk_iff {text : String} :
    Grammar.HasForm Grammar.chunk text ↔ ∃ c, Chunk.ofText? text = some c := by
  rw [Grammar.hasForm_iff fun _ => Grammar.lineEnd_not_mem, Grammar.mem_chunk]
  exact exists_congr fun c => Chunk.ofText?_eq_some_iff_write.symm

theorem hasForm_constant_iff {text : String} :
    Grammar.HasForm Grammar.constant text ↔ ∃ s digits, Chunk.ofText? text = some (.constant s digits) := by
  rw [Grammar.hasForm_iff fun _ hbody => Grammar.lineEnd_not_mem (Grammar.mem_chunk_of_mem_constant hbody),
    Grammar.mem_constant]
  exact exists_congr fun s => exists_congr fun digits => Chunk.ofText?_eq_some_iff_write.symm

theorem hasForm_pool_iff {text : String} :
    Grammar.HasForm Grammar.pool text ↔ ∃ t, Chunk.ofText? text = some (.pool t) := by
  rw [Grammar.hasForm_iff fun _ hbody => Grammar.lineEnd_not_mem (Grammar.mem_chunk_of_mem_pool hbody),
    Grammar.mem_pool]
  exact exists_congr fun t => (Chunk.ofText?_eq_some_iff_write (c := .pool t)).symm

/-- A pool is refused as none if it is none; it may be refused for its number of dice as well. -/
theorem PoolReading.ofText_eq_notAPool_iff {chunk : String} :
    ofText chunk = .error (.notAPool chunk) ↔ ∀ t, Chunk.ofText? (Text.lowercase chunk) ≠ some (.pool t) := by
  constructor
  · intro h t ht
    rw [ofText_of_pool ht] at h
    rcases t.size_cases with ⟨-, hsize⟩ | ⟨count, hsize⟩
    · rw [hsize] at h
      cases h
    · rw [hsize] at h
      cases h
  · exact ofText_of_not_pool

/--
**What is recognised is what the grammar says.**

A text is a chunk exactly if it is, but for a line end after it, a word of the language of chunks, and it is a
constant exactly if it is one of the language of constants. It is refused as a pool, in so many words, exactly if
its lowercase form is no word of the language of pools; the lowercase form of a text in lowercase is the text.
So a chunk is a constant or a pool, and nothing is both.
-/
theorem recognised_iff_hasForm (text : String) :
    (isChunk text = true ↔ Grammar.HasForm Grammar.chunk text) ∧
    (isConstant text = true ↔ Grammar.HasForm Grammar.constant text) ∧
    (PoolReading.ofText text = .error (.notAPool text) ↔
      ¬Grammar.HasForm Grammar.pool (Text.lowercase text)) ∧
    (ChunkError.notAPool text).message = "Not a dice chunk: " ++ Text.quoted text ∧
    (isChunk text = true ↔
      Grammar.HasForm Grammar.constant text ∨ Grammar.HasForm Grammar.pool text) ∧
    ¬(Grammar.HasForm Grammar.constant text ∧ Grammar.HasForm Grammar.pool text) := by
  refine ⟨?_, ?_, ?_, ?_, ?_, ?_⟩
  · rw [isChunk_iff, hasForm_chunk_iff]
  · rw [isConstant_iff, hasForm_constant_iff]
  · rw [PoolReading.ofText_eq_notAPool_iff, hasForm_pool_iff, not_exists]
  · rfl
  · rw [isChunk_iff, hasForm_constant_iff, hasForm_pool_iff]
    constructor
    · rintro ⟨c, hread⟩
      cases c with
      | constant s digits => exact Or.inl ⟨s, digits, hread⟩
      | pool t => exact Or.inr ⟨t, hread⟩
    · rintro (⟨s, digits, hread⟩ | ⟨t, hread⟩)
      · exact ⟨_, hread⟩
      · exact ⟨_, hread⟩
  · rw [hasForm_constant_iff, hasForm_pool_iff]
    rintro ⟨⟨s, digits, hconstant⟩, t, hpool⟩
    rw [hconstant] at hpool
    cases hpool

/-- A sign after a token is not enough for an argument, and one line end is passed over but not two. -/
example : isChunk "4d6r" = true ∧ isChunk "4d6r+" = false ∧ isChunk "-d%kl2\n" = true ∧
    isConstant "-٣\n\n" = false := by
  decide +kernel

end DiceNotation
