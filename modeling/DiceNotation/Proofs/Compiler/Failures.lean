import DiceNotation.Proofs.Compiler.Reordering

/-!
# What failures leave behind

A request that fails is not undone. An expression that is refused as a whole leaves nothing, and neither
does a chunk that is asked for by itself; but an expression that fails at one of its chunks leaves the terms
of those ahead of it. What is kept already is never touched, whatever the limits under which it was made, and
it counts as well: a chunk that is kept does not fail.

Where an expression fails is read off the compiler before the request. The chunks that are kept on the way
do not change it, because a chunk that is kept would have compiled.
-/

namespace DiceNotation.Compiler

variable {c d : Compiler}

/-- The compiler has a term for a chunk: it keeps one, or it makes one under its limits. -/
def Obtains (c : Compiler) (chunk : String) : Prop :=
  c.chunks.Keeps chunk ∨ ∃ term, Term.ofText c.limits chunk = .ok term

/-- The compiler has become `d` when it stopped at a chunk, after those ahead of it. -/
structure StopsAt (c : Compiler) (ahead : List String) (failing : String) (reason : ChunkError)
    (d : Compiler) : Prop where
  /-- None of the chunks ahead fails. -/
  obtains : ∀ chunk ∈ ahead, c.Obtains chunk
  /-- The chunk is not kept. -/
  missing : c.chunks.find? failing = none
  /-- It does not compile. -/
  fails : Term.ofText c.limits failing = .error reason
  /-- All that was kept is kept, and what is new is what its chunk compiles to. -/
  grows : c.Grows d
  /-- The chunks ahead are kept now, and no others beside those that were. -/
  keeps : ∀ chunk, d.chunks.Keeps chunk ↔ c.chunks.Keeps chunk ∨ chunk ∈ ahead

/-! ## Chunks -/

theorem Grows.obtains_iff (h : c.Grows d) {chunk : String} : d.Obtains chunk ↔ c.Obtains chunk := by
  unfold Obtains
  rw [h.limits, Shelf.keeps_iff, Shelf.keeps_iff]
  constructor
  · rintro (⟨made, hmade⟩ | hterm)
    · rcases h.added chunk made hmade with hold | ⟨-, hterm⟩
      · exact Or.inl ⟨made, hold⟩
      · exact Or.inr ⟨made.value, hterm⟩
    · exact Or.inr hterm
  · rintro (⟨made, hmade⟩ | hterm)
    · exact Or.inl ⟨made, h.within chunk made hmade⟩
    · exact Or.inr hterm

theorem obtains_of_compileChunk {chunk : String} {made : Stamped Term}
    (h : (c.compileChunk chunk).1 = .ok made) : c.Obtains chunk := by
  rcases c.compileChunk_cases chunk with ⟨found, hfound, _⟩ | ⟨_, _, _, heq⟩ | ⟨term, _, hterm, _⟩
  · exact Or.inl (Shelf.keeps_iff.mpr ⟨found, hfound⟩)
  · rw [heq] at h
    cases h
  · exact Or.inr ⟨term, hterm⟩

/-- **A step.** A chunk that does not fail is one more of those ahead. -/
theorem StopsAt.cons {c' : Compiler} {chunk : String} {made : Stamped Term}
    (hchunk : c.compileChunk chunk = (.ok made, c')) {ahead : List String} {failing : String}
    {reason : ChunkError} (h : c'.StopsAt ahead failing reason d) :
    c.StopsAt (chunk :: ahead) failing reason d := by
  have hobtains : c.Obtains chunk := obtains_of_compileChunk (by rw [hchunk])
  have hgrows := c.grows_compileChunk chunk
  rw [hchunk] at hgrows
  refine ⟨?_, hgrows.find?_eq_none h.missing, ?_, hgrows.trans h.grows, fun key => ?_⟩
  · refine List.forall_mem_cons.mpr ⟨hobtains, fun other hother => ?_⟩
    exact hgrows.obtains_iff.mp (h.obtains other hother)
  · rw [← hgrows.limits]
    exact h.fails
  · rw [h.keeps, keeps_of_compileChunk hchunk, List.mem_cons, or_assoc]

/-- **A run.** Chunks that fail together fail at the first one that does. -/
theorem exists_stopsAt {chunks : List String} {e : CompileError}
    (h : c.compileChunks chunks = (.error e, d)) :
    ∃ ahead failing behind reason, chunks = ahead ++ failing :: behind ∧ e = .chunk reason ∧
      c.StopsAt ahead failing reason d := by
  induction chunks generalizing c with
  | nil => cases h
  | cons chunk rest ih =>
    rcases hchunk : c.compileChunk chunk with ⟨outcome, c'⟩
    cases outcome with
    | ok made =>
      rw [compileChunks_cons_of_ok hchunk] at h
      rcases hrest : c'.compileChunks rest with ⟨outcome, c''⟩
      rw [hrest] at h
      cases outcome with
      | ok terms => cases h
      | error e' =>
        cases h
        obtain ⟨ahead, failing, behind, reason, rfl, rfl, hstops⟩ := ih hrest
        exact ⟨chunk :: ahead, failing, behind, reason, rfl, rfl, hstops.cons hchunk⟩
    | error e' =>
      rw [compileChunks_cons_of_failed hchunk] at h
      cases h
      rcases c.compileChunk_cases chunk with ⟨_, _, heq⟩ | ⟨reason, hfree, hterm, heq⟩ | ⟨_, _, _, heq⟩
      · rw [heq] at hchunk
        cases hchunk
      · rw [heq] at hchunk
        cases hchunk
        exact ⟨[], chunk, rest, reason, rfl, rfl, List.forall_mem_nil _, hfree, hterm, Grows.refl _, by simp⟩
      · rw [heq] at hchunk
        cases hchunk

theorem compileChunk_left_of_failure {chunk : String} {e : CompileError}
    (h : (c.compileChunk chunk).1 = .error e) : (c.compileChunk chunk).2 = c := by
  rcases c.compileChunk_cases chunk with ⟨_, _, heq⟩ | ⟨_, _, _, heq⟩ | ⟨_, _, _, heq⟩
  · rw [heq]
  · rw [heq]
  · rw [heq] at h
    cases h

/-! ## Expressions -/

/-- The checks of an expression as a whole do not fail by a chunk. -/
theorem allowedChunks_ne_chunk {limits : Limits} {given : Value} {tidied : String} {e : CompileError}
    (h : allowedChunks limits given tidied = .error e) (reason : ChunkError) : e ≠ .chunk reason := by
  rintro rfl
  unfold allowedChunks at h
  dsimp only at h
  split at h
  · cases h
  · split at h
    · cases h
    · split at h <;> cases h

/--
**What failures leave behind.**

A request that fails leaves the limits and the evaluators of a compiler alone, whatever it has been asked
before. If an expression fails as a whole, nothing is changed at all, and nothing is if a chunk fails that was
asked for by itself. If an expression fails at a chunk, this is the first one that is not kept and does not
compile: what was kept stays, as the very same objects, and of the chunks ahead those are new that were not
kept, with the terms to which they compile.
-/
theorem left_of_failure (c : Compiler) :
    (∀ given e, (c.compile given).1 = .error e →
      (c.compile given).2.1.expressions = c.expressions ∧ (c.compile given).2.1.limits = c.limits ∧
        match e with
        | .chunk reason => ∃ ahead failing behind,
          Expression.cut (Expression.tidy given.plain) = ahead ++ failing :: behind ∧
            c.StopsAt ahead failing reason (c.compile given).2.1
        | _ => (c.compile given).2.1 = c) ∧
    ∀ chunk e, (c.compileChunk chunk).1 = .error e → (c.compileChunk chunk).2 = c := by
  refine ⟨fun given e h => ?_, fun chunk e h => compileChunk_left_of_failure h⟩
  cases hfind : c.expressions.find? (Expression.tidy given.plain) with
  | some made =>
    rw [compile_of_found hfind] at h
    cases h
  | none =>
    cases hallowed : allowedChunks c.limits given (Expression.tidy given.plain) with
    | error e' =>
      rw [compile_of_refused hfind hallowed] at h ⊢
      cases h
      refine ⟨rfl, rfl, ?_⟩
      cases e with
      | chunk reason => exact absurd rfl (allowedChunks_ne_chunk hallowed reason)
      | tooLong | tooManyChunks | invalidChunks => rfl
    | ok chunks =>
      rcases hchunks : c.compileChunks chunks with ⟨outcome, d⟩
      cases outcome with
      | ok terms =>
        rw [compile_of_made hfind hallowed hchunks] at h
        cases h
      | error e' =>
        rw [compile_of_failed hfind hallowed hchunks] at h ⊢
        cases h
        obtain ⟨ahead, failing, behind, reason, hsplit, rfl, hstops⟩ := exists_stopsAt hchunks
        obtain ⟨-, hcut, -, -⟩ := allowedChunks_eq_ok_iff.mp hallowed
        exact ⟨hstops.grows.expressions, hstops.grows.limits, ahead, failing, behind,
          hcut.symm.trans hsplit, hstops⟩

/-- A pool that would be too large by now is kept since it was not, so that the expression fails at its third
chunk only, and leaves the second. -/
theorem left_of_failure_midway :
    let c := after { owner := 0, limits := { maxDice := 200 } } [.compileChunk "150d6", .setLimits .standard]
    let given := Value.text "150D6 + 2d6 + 1d0 + 3d6"
    (c.compile given).1 = .error (.chunk (.noFaces "+1d0")) ∧
      (c.compile given).2.1.expressions = c.expressions ∧
      (c.compile given).2.1.chunks.keys = ["+2d6", "150d6"] ∧
      ∃ ahead failing behind, Expression.cut (Expression.tidy given.plain) = ahead ++ failing :: behind ∧
        c.StopsAt ahead failing (.noFaces "+1d0") (c.compile given).2.1 := by
  intro c given
  have hfailed : (c.compile given).1 = .error (.chunk (.noFaces "+1d0")) := by decide +kernel
  have hkeys : (c.compile given).2.1.chunks.keys = ["+2d6", "150d6"] := by decide +kernel
  obtain ⟨hexpressions, -, hstops⟩ := (left_of_failure c).1 given _ hfailed
  exact ⟨hfailed, hexpressions, hkeys, hstops⟩

end DiceNotation.Compiler
