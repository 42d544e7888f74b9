import DiceNotation.Proofs.Compiler.Requests
import DiceNotation.Proofs.Program

/-!
# What compilers keep is what they would make

Under fixed limits everything that a compiler keeps is what compiling would give once more: the term of
a chunk is what the chunk compiles to, and an evaluator holds a program that fits the limits and has the
text under which it is kept. So it does not show in an outcome whether it was found or made.

Failures are part of this. A chunk that was compiled before a later one failed stays kept, and what is
kept of it is right; and nothing is ever kept of what failed.
-/

namespace DiceNotation.Compiler

/-- All that the compiler keeps is what compiling gives under its limits. -/
structure Faithful (c : Compiler) : Prop where
  /-- The kept terms are those of their chunks. -/
  chunks : ∀ chunk made, c.chunks.find? chunk = some made → Term.ofText c.limits chunk = .ok made.value
  /-- The kept evaluators have the text under which they are kept, and fit the limits. -/
  expressions : ∀ text made, c.expressions.find? text = some made →
    made.value.expression = text ∧ made.value.program.Fits c.limits

/-- A compiler that keeps nothing is faithful. -/
theorem faithful_of_empty {c : Compiler} (hc : c.chunks = []) (he : c.expressions = []) : c.Faithful := by
  refine ⟨?_, ?_⟩
  · intro chunk made h
    rw [hc, Shelf.find?_nil] at h
    cases h
  · intro text made h
    rw [he, Shelf.find?_nil] at h
    cases h

/-! ## Chunks -/

variable {c : Compiler}

theorem Faithful.keepTerm (h : c.Faithful) {chunk : String} {term : Term}
    (hterm : Term.ofText c.limits chunk = .ok term) : (c.keepTerm chunk term).Faithful := by
  refine ⟨?_, h.expressions⟩
  intro other made hfind
  -- under the chunk stands the new term, and under every other one what stood there
  rcases Shelf.find?_add_eq_some hfind with ⟨rfl, rfl⟩ | ⟨_, hold⟩
  · exact hterm
  · exact h.chunks other made hold

theorem Faithful.compileChunk (h : c.Faithful) (chunk : String) : (c.compileChunk chunk).2.Faithful := by
  rcases c.compileChunk_cases chunk with ⟨_, _, heq⟩ | ⟨_, _, _, heq⟩ | ⟨_, _, hterm, heq⟩
  · rw [heq]; exact h
  · rw [heq]; exact h
  · rw [heq]; exact h.keepTerm hterm

theorem Faithful.compileChunks (h : c.Faithful) (chunks : List String) :
    (c.compileChunks chunks).2.Faithful :=
  compileChunks_induction (fun _ chunk h => h.compileChunk chunk) h chunks

/-- A faithful compiler gives for a chunk what the chunk compiles to. -/
theorem Faithful.compileChunk_outcome (h : c.Faithful) (chunk : String) :
    (c.compileChunk chunk).1.map (·.value) = (Term.ofText c.limits chunk).mapError CompileError.chunk := by
  rcases c.compileChunk_cases chunk with ⟨made, hf, heq⟩ | ⟨_, _, hterm, heq⟩ | ⟨_, _, hterm, heq⟩
  · rw [heq, h.chunks chunk made hf]; rfl
  · rw [heq, hterm]; rfl
  · rw [heq, hterm]; rfl

theorem Faithful.compileChunks_outcome (h : c.Faithful) (chunks : List String) :
    (c.compileChunks chunks).1.map (List.map (·.value)) = termsOf c.limits chunks := by
  induction chunks generalizing c with
  | nil => rfl
  | cons chunk rest ih =>
    have hhead := h.compileChunk_outcome chunk
    have htail := ih (h.compileChunk chunk)
    -- the rest is compiled by the compiler that the first chunk leaves, failed or not
    rw [compileChunk_limits] at htail
    rcases hc : c.compileChunk chunk with ⟨outcome, c'⟩
    rw [hc] at hhead htail
    cases ht : Term.ofText c.limits chunk with
    | error e =>
      rw [ht] at hhead
      cases outcome with
      | ok made => cases hhead
      | error e' =>
        cases hhead
        rw [compileChunks_cons_of_failed hc, termsOf_cons_error ht]
        rfl
    | ok term =>
      rw [ht] at hhead
      cases outcome with
      | error e => cases hhead
      | ok made =>
        cases hhead
        rw [compileChunks_cons_of_ok hc, termsOf_cons_ok ht, ← htail]
        cases (c'.compileChunks rest).1 <;> rfl

/-! ## Expressions -/

theorem Faithful.keepEvaluator (h : c.Faithful) {e : Evaluator} (hfits : e.program.Fits c.limits) :
    (c.keepEvaluator e).Faithful := by
  refine ⟨h.chunks, ?_⟩
  intro text made hfind
  rcases Shelf.find?_add_eq_some hfind with ⟨rfl, rfl⟩ | ⟨_, hold⟩
  · exact ⟨rfl, hfits⟩
  · exact h.expressions text made hold

/-- A faithful compiler gives for an expression what the expression compiles to. The other conjuncts
say that it stays faithful and keeps its limits. -/
theorem Faithful.compile (h : c.Faithful) (given : Value) :
    (c.compile given).1.map (·.value.program) = Program.ofExpression c.limits given ∧
      (c.compile given).2.1.Faithful ∧ (c.compile given).2.1.limits = c.limits := by
  cases hf : c.expressions.find? (Expression.tidy given.plain) with
  | some made =>
    -- what is found was made from the same tidied text, so that all checks would pass again
    obtain ⟨htext, hfits⟩ := h.expressions _ made hf
    rw [compile_of_found hf, Program.ofExpression_eq_ok_iff.mpr ⟨htext, hfits⟩]
    exact ⟨rfl, h, rfl⟩
  | none =>
    cases ha : allowedChunks c.limits given (Expression.tidy given.plain) with
    | error e =>
      rw [compile_of_refused hf ha, Program.ofExpression_of_refused ha]
      exact ⟨rfl, h, rfl⟩
    | ok chunks =>
      have houtcome := h.compileChunks_outcome chunks
      have hfaithful := h.compileChunks chunks
      have hlimits := c.compileChunks_limits chunks
      rw [Program.ofExpression_of_allowed ha, ← houtcome]
      rcases hc : c.compileChunks chunks with ⟨outcome, c'⟩
      rw [hc] at houtcome hfaithful hlimits
      cases outcome with
      | error e =>
        rw [compile_of_failed hf ha hc]
        exact ⟨rfl, hfaithful, hlimits⟩
      | ok terms =>
        rw [compile_of_made hf ha hc]
        refine ⟨rfl, hfaithful.keepEvaluator ?_, hlimits⟩
        -- the new evaluator is what the expression compiles to, so it fits the limits
        have hprogram : Program.ofExpression c.limits given =
            .ok ⟨Expression.tidy given.plain, chunks, terms.map (·.value)⟩ := by
          rw [Program.ofExpression_of_allowed ha, ← houtcome]
          rfl
        rw [hlimits]
        exact (Program.ofExpression_eq_ok_iff.mp hprogram).2

/-! ## Requests -/

theorem handle_limits (c : Compiler) (h : c.Faithful) {request : Request} (hk : request.KeepsLimits) :
    (c.handle request).2.limits = c.limits := by
  cases request with
  | compile given => exact (h.compile given).2.2
  | compileChunk chunk => exact c.compileChunk_limits chunk
  | clear => rfl
  | setLimits limits => exact hk.elim

theorem Faithful.handle (h : c.Faithful) {request : Request} (hk : request.KeepsLimits) :
    (c.handle request).2.Faithful := by
  cases request with
  | compile given => exact (h.compile given).2.1
  | compileChunk chunk => exact h.compileChunk chunk
  | clear => exact faithful_of_empty rfl rfl
  | setLimits limits => exact hk.elim

/-- Every compiler that comes about under fixed limits is faithful to them. -/
theorem faithful_reachable {limits : Limits} (h : Reachable limits c) :
    c.Faithful ∧ c.limits = limits := by
  induction h with
  | init owner => exact ⟨faithful_of_empty rfl rfl, rfl⟩
  | tail hr hk ih => exact ⟨ih.1.handle hk, (handle_limits _ ih.1 hk).trans ih.2⟩

/-! ## Outcomes under fixed limits -/

theorem Reachable.compile {limits : Limits} (h : Reachable limits c) (given : Value) :
    Reachable limits (c.compile given).2.1 := by
  show Reachable limits (c.handle (.compile given)).2
  exact h.tail trivial

theorem Reachable.compile_outcome {limits : Limits} (h : Reachable limits c) (given : Value) :
    (c.compile given).1.map (·.value.program) = Program.ofExpression limits given := by
  obtain ⟨hfaithful, rfl⟩ := faithful_reachable h
  exact (hfaithful.compile given).1

theorem Reachable.ofExpression_of_compile {limits : Limits} (h : Reachable limits c) {given : Value}
    {made : Stamped Evaluator} (hmade : (c.compile given).1 = .ok made) :
    Program.ofExpression limits given = .ok made.value.program := by
  rw [← h.compile_outcome, hmade]
  rfl

theorem Reachable.exists_compile_of_ofExpression {limits : Limits} (h : Reachable limits c) {given : Value}
    {p : Program} (hp : Program.ofExpression limits given = .ok p) :
    ∃ made, (c.compile given).1 = .ok made ∧ made.value.program = p :=
  exists_of_map_eq_ok ((h.compile_outcome given).trans hp)

theorem Reachable.compile_error_iff {limits : Limits} (h : Reachable limits c) {given : Value}
    {e : CompileError} : (c.compile given).1 = .error e ↔ Program.ofExpression limits given = .error e := by
  rw [← h.compile_outcome, map_eq_error_iff]

theorem Reachable.compileChunk_outcome {limits : Limits} (h : Reachable limits c) (chunk : String) :
    (c.compileChunk chunk).1.map (·.value) = (Term.ofText limits chunk).mapError CompileError.chunk := by
  obtain ⟨hfaithful, rfl⟩ := faithful_reachable h
  exact hfaithful.compileChunk_outcome chunk

theorem Reachable.compileChunk_eq_error {limits : Limits} (h : Reachable limits c) {chunk : String}
    {e : ChunkError} (he : Term.ofText limits chunk = .error e) :
    (c.compileChunk chunk).1 = .error (.chunk e) := by
  rw [← map_eq_error_iff, h.compileChunk_outcome, he]
  rfl

theorem Reachable.exists_compileChunk_eq_ok {limits : Limits} (h : Reachable limits c) {chunk : String}
    {term : Term} (hterm : Term.ofText limits chunk = .ok term) :
    ∃ made, (c.compileChunk chunk).1 = .ok made ∧ made.value = term := by
  refine exists_of_map_eq_ok ?_
  rw [h.compileChunk_outcome, hterm]
  rfl

end DiceNotation.Compiler
