import DiceNotation.Compiler

/-!
# What compilers are asked to do

The ways in which a compiler can be used, as requests, and the compilers that come about when requests
are made one after the other under fixed limits. Whether a request succeeds does not matter: failures
leave their traces too.

Compiling is laid out here case by case, one equation for each way in which it can end. Everything else
about compilers is proved from these equations.
-/

namespace DiceNotation

namespace Shelf

variable {α : Type}

@[simp] theorem find?_nil (key : String) : find? ([] : Shelf α) key = none := rfl

theorem find?_add_self (shelf : Shelf α) (key : String) (value : α) :
    (shelf.add key value).find? key = some value := by
  simp [add, find?]

theorem find?_add_of_ne {key other : String} (h : other ≠ key) (shelf : Shelf α) (value : α) :
    (shelf.add key value).find? other = shelf.find? other := by
  have hne : (other == key) = false := by simpa using h
  simp [add, find?, List.lookup_cons, hne]

/-- What is found after an entry was added is the new value or was found before. -/
theorem find?_add_eq_some {shelf : Shelf α} {key other : String} {value found : α}
    (h : (shelf.add key value).find? other = some found) :
    (other = key ∧ found = value) ∨ (other ≠ key ∧ shelf.find? other = some found) := by
  by_cases hk : other = key
  · subst hk
    rw [find?_add_self] at h
    exact Or.inl ⟨rfl, (Option.some.inj h).symm⟩
  · rw [find?_add_of_ne hk] at h
    exact Or.inr ⟨hk, h⟩

end Shelf

namespace Compiler

variable {c c' : Compiler}

/-! ## Chunks -/

theorem compileChunk_of_found {chunk : String} {made : Stamped Term}
    (h : c.chunks.find? chunk = some made) : c.compileChunk chunk = (.ok made, c) := by
  simp only [compileChunk, h]

theorem compileChunk_of_failed {chunk : String} {e : ChunkError} (h : c.chunks.find? chunk = none)
    (hterm : Term.ofText c.limits chunk = .error e) : c.compileChunk chunk = (.error (.chunk e), c) := by
  simp only [compileChunk, h, hterm]

/-- The compiler after it has made a term for a chunk. -/
def keepTerm (c : Compiler) (chunk : String) (term : Term) : Compiler :=
  { c with chunks := c.chunks.add chunk ⟨⟨c.owner, c.made⟩, term⟩, made := c.made + 1 }

theorem compileChunk_of_made {chunk : String} {term : Term} (h : c.chunks.find? chunk = none)
    (hterm : Term.ofText c.limits chunk = .ok term) :
    c.compileChunk chunk = (.ok ⟨⟨c.owner, c.made⟩, term⟩, c.keepTerm chunk term) := by
  simp only [compileChunk, h, hterm]
  rfl

/-- Compiling a chunk finds its term, fails and changes nothing, or makes its term and keeps it. -/
theorem compileChunk_cases (c : Compiler) (chunk : String) :
    (∃ made, c.chunks.find? chunk = some made ∧ c.compileChunk chunk = (.ok made, c)) ∨
    (∃ e, c.chunks.find? chunk = none ∧ Term.ofText c.limits chunk = .error e ∧
      c.compileChunk chunk = (.error (.chunk e), c)) ∨
    (∃ term, c.chunks.find? chunk = none ∧ Term.ofText c.limits chunk = .ok term ∧
      c.compileChunk chunk = (.ok ⟨⟨c.owner, c.made⟩, term⟩, c.keepTerm chunk term)) := by
  cases hf : c.chunks.find? chunk with
  | some made => exact Or.inl ⟨made, rfl, compileChunk_of_found hf⟩
  | none =>
    cases ht : Term.ofText c.limits chunk with
    | error e => exact Or.inr (Or.inl ⟨e, rfl, rfl, compileChunk_of_failed hf ht⟩)
    | ok term => exact Or.inr (Or.inr ⟨term, rfl, rfl, compileChunk_of_made hf ht⟩)

theorem compileChunks_cons_of_failed {chunk : String} {e : CompileError}
    (h : c.compileChunk chunk = (.error e, c')) (rest : List String) :
    c.compileChunks (chunk :: rest) = (.error e, c') := by
  simp only [compileChunks, h]

theorem compileChunks_cons_of_ok {chunk : String} {made : Stamped Term}
    (h : c.compileChunk chunk = (.ok made, c')) (rest : List String) :
    c.compileChunks (chunk :: rest) =
      ((c'.compileChunks rest).1.map (made :: ·), (c'.compileChunks rest).2) := by
  simp only [compileChunks, h]
  rcases c'.compileChunks rest with ⟨outcome, c''⟩
  cases outcome <;> rfl

/-- What each compiling of a chunk preserves is preserved by compiling several. -/
theorem compileChunks_induction {P : Compiler → Prop}
    (step : ∀ c chunk, P c → P (c.compileChunk chunk).2) (h : P c) (chunks : List String) :
    P (c.compileChunks chunks).2 := by
  induction chunks generalizing c with
  | nil => exact h
  | cons chunk rest ih =>
    have hstep := step c chunk h
    rcases hc : c.compileChunk chunk with ⟨outcome, c'⟩
    rw [hc] at hstep
    cases outcome with
    | error e => rw [compileChunks_cons_of_failed hc]; exact hstep
    | ok made => rw [compileChunks_cons_of_ok hc]; exact ih hstep

theorem compileChunk_limits (c : Compiler) (chunk : String) :
    (c.compileChunk chunk).2.limits = c.limits := by
  rcases c.compileChunk_cases chunk with ⟨_, _, h⟩ | ⟨_, _, _, h⟩ | ⟨_, _, _, h⟩
  · rw [h]
  · rw [h]
  · rw [h]
    rfl

theorem compileChunks_limits (c : Compiler) (chunks : List String) :
    (c.compileChunks chunks).2.limits = c.limits :=
  compileChunks_induction (P := fun d => d.limits = c.limits)
    (fun d chunk h => (d.compileChunk_limits chunk).trans h) rfl chunks

/-! ## Expressions -/

theorem compile_of_found {given : Value} {made : Stamped Evaluator}
    (h : c.expressions.find? (Expression.tidy given.plain) = some made) :
    c.compile given = (.ok made, c, []) := by
  simp only [compile, h]

theorem compile_of_refused {given : Value} {e : CompileError}
    (h : c.expressions.find? (Expression.tidy given.plain) = none)
    (ha : allowedChunks c.limits given (Expression.tidy given.plain) = .error e) :
    c.compile given = (.error e, c, e.notes) := by
  simp only [compile, h, ha]

theorem compile_of_failed {given : Value} {chunks : List String} {e : CompileError}
    (h : c.expressions.find? (Expression.tidy given.plain) = none)
    (ha : allowedChunks c.limits given (Expression.tidy given.plain) = .ok chunks)
    (hc : c.compileChunks chunks = (.error e, c')) : c.compile given = (.error e, c', e.notes) := by
  simp only [compile, h, ha, build, hc]

/-- The compiler after it has made an evaluator. -/
def keepEvaluator (c : Compiler) (e : Evaluator) : Compiler :=
  { c with expressions := c.expressions.add e.expression ⟨⟨c.owner, c.made⟩, e⟩, made := c.made + 1 }

theorem compile_of_made {given : Value} {chunks : List String} {terms : List (Stamped Term)}
    (h : c.expressions.find? (Expression.tidy given.plain) = none)
    (ha : allowedChunks c.limits given (Expression.tidy given.plain) = .ok chunks)
    (hc : c.compileChunks chunks = (.ok terms, c')) :
    c.compile given =
      (.ok ⟨⟨c'.owner, c'.made⟩, ⟨Expression.tidy given.plain, chunks, terms⟩⟩,
        c'.keepEvaluator ⟨Expression.tidy given.plain, chunks, terms⟩,
        [.compiled (Expression.tidy given.plain) chunks.length]) := by
  simp only [compile, h, ha, build, hc]
  rfl

/-! ## Requests -/

/-- What a compiler is asked to do. -/
inductive Request where
  | compile (given : Value)
  | compileChunk (chunk : String)
  | clear
  | setLimits (limits : Limits)

/-- A request that does not change the limits. -/
def Request.KeepsLimits : Request → Prop
  | setLimits _ => False
  | _ => True

/-- The answer to a request. -/
inductive Answer where
  | evaluator (outcome : Except CompileError (Stamped Evaluator))
  | term (outcome : Except CompileError (Stamped Term))
  | nothing

/-- Answers a request. -/
def handle (c : Compiler) : Request → Answer × Compiler
  | .compile given => (.evaluator (c.compile given).1, (c.compile given).2.1)
  | .compileChunk chunk => (.term (c.compileChunk chunk).1, (c.compileChunk chunk).2)
  | .clear => (.nothing, c.clear)
  | .setLimits limits => (.nothing, c.setLimits limits)

/-- The compilers that come about under the given limits. -/
inductive Reachable (limits : Limits) : Compiler → Prop where
  | init (owner : Nat) : Reachable limits { owner := owner, limits := limits }
  | tail {c : Compiler} {request : Request} :
      Reachable limits c → request.KeepsLimits → Reachable limits (c.handle request).2

end Compiler

end DiceNotation
