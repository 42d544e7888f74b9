import DiceNotation.Proofs.Program.Refusals
import DiceNotation.Proofs.Term.Checks

/-!
# The verdict on an expression

What compiling an expression comes to, as one table. First the expression is checked as a whole: its
length, the number of its chunks, and that these are chunks of the grammar. Then all its chunks are
checked, one after the other. What is said is the first failure; if there is none, the expression
compiles to the terms of its chunks.

The table knows nothing of reading, of compilers or of what they keep. The chunks are given as trees, of
which a text has one at most, and the numbers in them by their values.
-/

namespace DiceNotation

namespace Expression

open scoped Classical in
/-- The chunks that are outside the grammar, in order. -/
noncomputable def outsideGrammar (chunks : List String) : List String :=
  chunks.filter fun chunk => chunk.toList ∉ Grammar.chunk

/-- The checks of an expression as a whole, in order. -/
noncomputable def checks (limits : Limits) (given : Value) : List (Check CompileError) :=
  let tidied := tidy given.plain
  let chunks := cut tidied
  [⟨limits.maxLength < tidied.length, .tooLong tidied.length limits.maxLength⟩,
    ⟨limits.maxChunks < chunks.length, .tooManyChunks chunks.length limits.maxChunks⟩,
    ⟨∃ chunk ∈ chunks, chunk.toList ∉ Grammar.chunk,
      .invalidChunks given.literal (outsideGrammar chunks)⟩]

end Expression

/-- The verdict on an expression under limits. -/
inductive Verdict (limits : Limits) (given : Value) : Except CompileError Program → Prop where
  /-- The expression fails as a whole. -/
  | refused {e : CompileError} : FirstFailure (Expression.checks limits given) e →
      Verdict limits given (.error e)
  /-- The expression as a whole is well, but a chunk fails. -/
  | failed {trees : List Chunk} {e : ChunkError} : AllPass (Expression.checks limits given) →
      List.Forall₂ Chunk.IsWrittenAs trees (Expression.cut (Expression.tidy given.plain)) →
      FirstFailure (trees.flatMap (Chunk.checks limits)) e → Verdict limits given (.error (.chunk e))
  /-- All is well. -/
  | compiled {trees : List Chunk} : AllPass (Expression.checks limits given) →
      List.Forall₂ Chunk.IsWrittenAs trees (Expression.cut (Expression.tidy given.plain)) →
      AllPass (trees.flatMap (Chunk.checks limits)) →
      Verdict limits given (.ok ⟨Expression.tidy given.plain, Expression.cut (Expression.tidy given.plain),
        trees.map (Chunk.term limits)⟩)

/-! ## There is one verdict -/

/-- Texts are those of one row of trees at most. -/
theorem Chunk.forall₂_isWrittenAs_unique {trees others : List Chunk} {texts : List String}
    (h : List.Forall₂ Chunk.IsWrittenAs trees texts) (h' : List.Forall₂ Chunk.IsWrittenAs others texts) :
    trees = others := by
  induction h generalizing others with
  | nil => cases h'; rfl
  | cons htree _ ih =>
    cases h' with
    | cons hother hrest => rw [htree.unique hother, ih hrest]

theorem Verdict.unique {limits : Limits} {given : Value} {outcome other : Except CompileError Program}
    (h : Verdict limits given outcome) (h' : Verdict limits given other) : outcome = other := by
  cases h with
  | refused hfails =>
    cases h' with
    | refused hfails' => rw [hfails.unique hfails']
    | failed hpass _ _ => exact absurd hpass hfails.not_allPass
    | compiled hpass _ _ => exact absurd hpass hfails.not_allPass
  | failed hpass htrees hfails =>
    cases h' with
    | refused hfails' => exact absurd hpass hfails'.not_allPass
    | failed _ htrees' hfails' =>
      obtain rfl := Chunk.forall₂_isWrittenAs_unique htrees htrees'
      rw [hfails.unique hfails']
    | compiled _ htrees' hpass' =>
      obtain rfl := Chunk.forall₂_isWrittenAs_unique htrees htrees'
      exact absurd hpass' hfails.not_allPass
  | compiled hpass htrees hpass' =>
    cases h' with
    | refused hfails' => exact absurd hpass hfails'.not_allPass
    | failed _ htrees' hfails' =>
      obtain rfl := Chunk.forall₂_isWrittenAs_unique htrees htrees'
      exact absurd hpass' hfails'.not_allPass
    | compiled _ htrees' _ => rw [Chunk.forall₂_isWrittenAs_unique htrees htrees']

/-! ## Compiling gives the verdict -/

/-- Among chunks without line ends the invalid ones are those outside the grammar. -/
theorem Expression.invalidChunks_eq_outsideGrammar {chunks : List String}
    (h : ∀ chunk ∈ chunks, '\n' ∉ chunk.toList) : invalidChunks chunks = outsideGrammar chunks := by
  classical
  refine List.filter_congr fun chunk hchunk => ?_
  have hvalid := isChunk_iff_mem_chunk (h chunk hchunk)
  by_cases hmem : chunk.toList ∈ Grammar.chunk
  · rw [hvalid.mpr hmem]
    simp [hmem]
  · rw [Bool.eq_false_iff.mpr fun hchunk => hmem (hvalid.mp hchunk)]
    simp [hmem]

/-- Chunks of the grammar have trees. -/
theorem Chunk.exists_forall₂_isWrittenAs {texts : List String}
    (h : ∀ text ∈ texts, text.toList ∈ Grammar.chunk) :
    ∃ trees, List.Forall₂ Chunk.IsWrittenAs trees texts := by
  induction texts with
  | nil => exact ⟨[], .nil⟩
  | cons text rest ih =>
    obtain ⟨tree, htree⟩ := Grammar.mem_chunk.mp (h text List.mem_cons_self)
    obtain ⟨trees, htrees⟩ := ih fun other hother => h other (List.mem_cons_of_mem text hother)
    exact ⟨tree :: trees, .cons htree htrees⟩

/-- Chunks of tidied texts compile to what all their checks conclude. -/
theorem termsOf_concludes (limits : Limits) {trees : List Chunk} {texts : List String}
    (h : List.Forall₂ Chunk.IsWrittenAs trees texts) (htidy : ∀ text ∈ texts, Expression.IsTidy text) :
    ∃ outcome, Concludes (trees.flatMap (Chunk.checks limits)) (trees.map (Chunk.term limits)) outcome ∧
      termsOf limits texts = outcome.mapError CompileError.chunk := by
  induction h with
  | nil => exact ⟨.ok [], .passed allPass_nil, rfl⟩
  | @cons tree text trees texts htree _ ih =>
    obtain ⟨outcome, hconcludes, hrest⟩ := ih fun other hother => htidy other (List.mem_cons_of_mem text hother)
    have htext := htidy text List.mem_cons_self
    have hterm := Term.ofText_concludes limits htree htext.lineEnd_not_mem htext.lowercase_eq
    rw [List.flatMap_cons, List.map_cons]
    cases hfirst : Term.ofText limits text with
    | error e =>
      rw [hfirst] at hterm
      cases hterm with
      | failed hfails => exact ⟨.error e, .failed (hfails.append _), termsOf_cons_error hfirst texts⟩
    | ok term =>
      rw [hfirst] at hterm
      rw [termsOf_cons_ok hfirst, hrest]
      cases hterm with
      | passed hpass =>
        cases hconcludes with
        | failed hfails => exact ⟨_, .failed (hfails.after hpass), rfl⟩
        | passed hpassrest => exact ⟨_, .passed (allPass_append.mpr ⟨hpass, hpassrest⟩), rfl⟩

/-- The checks of an expression as a whole let its chunks through if they are of the grammar. -/
theorem allowedChunks_concludes (limits : Limits) (given : Value) :
    Concludes (Expression.checks limits given) (Expression.cut (Expression.tidy given.plain))
      (allowedChunks limits given (Expression.tidy given.plain)) := by
  have htidy := Expression.isTidy_tidy given.plain
  have houtside := Expression.invalidChunks_eq_outsideGrammar fun chunk hchunk =>
    Expression.lineEnd_not_mem_of_mem_cut htidy.lineEnd_not_mem hchunk
  have hvalid := Expression.invalidChunks_cut_eq_nil_iff htidy
  unfold allowedChunks Expression.checks
  dsimp only
  by_cases hlength : limits.maxLength < (Expression.tidy given.plain).length
  · rw [if_pos hlength]
    exact .failed (.here hlength)
  rw [if_neg hlength]
  by_cases hcount : limits.maxChunks < (Expression.cut (Expression.tidy given.plain)).length
  · rw [if_pos hcount]
    exact .failed (.later hlength (.here hcount))
  rw [if_neg hcount]
  by_cases hnil : invalidChunks (Expression.cut (Expression.tidy given.plain)) = []
  · rw [if_pos (List.isEmpty_iff.mpr hnil)]
    have hall : ¬∃ chunk ∈ Expression.cut (Expression.tidy given.plain), chunk.toList ∉ Grammar.chunk := by
      simpa using hvalid.mp hnil
    exact .passed (allPass_cons.mpr ⟨hlength, allPass_cons.mpr ⟨hcount, allPass_cons.mpr ⟨hall, allPass_nil⟩⟩⟩)
  · rw [if_neg (mt List.isEmpty_iff.mp hnil), houtside]
    have hsome : ∃ chunk ∈ Expression.cut (Expression.tidy given.plain), chunk.toList ∉ Grammar.chunk := by
      simpa using mt hvalid.mpr hnil
    exact .failed (.later hlength (.later hcount (.here hsome)))

/-- An expression compiles to its verdict. -/
theorem Program.verdict_ofExpression (limits : Limits) (given : Value) :
    Verdict limits given (ofExpression limits given) := by
  have hallowed := allowedChunks_concludes limits given
  cases ha : allowedChunks limits given (Expression.tidy given.plain) with
  | error e =>
    rw [ha] at hallowed
    rw [ofExpression_of_refused ha]
    cases hallowed with
    | failed hfails => exact .refused hfails
  | ok chunks =>
    rw [ha] at hallowed
    rw [ofExpression_of_allowed ha]
    cases hallowed with
    | passed hpass =>
      obtain ⟨-, -, -, hvalid⟩ := allowedChunks_eq_ok_iff.mp ha
      have htidy := Expression.isTidy_tidy given.plain
      obtain ⟨trees, htrees⟩ := Chunk.exists_forall₂_isWrittenAs
        ((Expression.invalidChunks_cut_eq_nil_iff htidy).mp hvalid)
      obtain ⟨outcome, hconcludes, hterms⟩ := termsOf_concludes limits htrees fun _ => htidy.of_mem_cut
      rw [hterms]
      cases hconcludes with
      | failed hfails => exact .failed hpass htrees hfails
      | passed hpasschunks => exact .compiled hpass htrees hpasschunks

theorem Program.ofExpression_eq_iff_verdict {limits : Limits} {given : Value}
    {outcome : Except CompileError Program} :
    ofExpression limits given = outcome ↔ Verdict limits given outcome := by
  constructor
  · rintro rfl
    exact verdict_ofExpression limits given
  · exact (verdict_ofExpression limits given).unique

/--
**Compiling gives the verdict.**

A compiler that keeps nothing makes of an expression what the table says, and nothing else: the failure of
the first check that fails, be it one of the expression as a whole or one of a chunk, and otherwise the
program with the terms of the chunks.
-/
theorem Compiler.compile_clear_eq_iff_verdict (c : Compiler) (given : Value)
    (outcome : Except CompileError Program) :
    (c.clear.compile given).1.map (·.value.program) = outcome ↔ Verdict c.limits given outcome := by
  have hfaithful : c.clear.Faithful := faithful_of_empty rfl rfl
  rw [(hfaithful.compile given).1]
  exact Program.ofExpression_eq_iff_verdict

end DiceNotation
