import DiceNotation.Proofs.Compiler.Requests
import DiceNotation.Proofs.Expression.Tidying
import DiceNotation.Proofs.Program

/-!
# What compilers keep hangs together

The evaluators that a compiler keeps hold the very terms that it keeps for their chunks: what stands under
a chunk is never replaced, only forgotten, and then everything is. This does not depend on the limits, so
it stays true where they change and terms that were made under different ones are kept side by side.

Compiling only ever adds chunks to those that are kept, also where it fails half way; `Grows` says what
may be added.
-/

namespace DiceNotation

namespace Shelf

variable {α : Type}

/-- All that is kept on a shelf is kept under the same keys on another one. -/
def Within (shelf larger : Shelf α) : Prop :=
  ∀ key found, shelf.find? key = some found → larger.find? key = some found

theorem within_add {shelf : Shelf α} {key : String} (h : shelf.find? key = none) (value : α) :
    shelf.Within (shelf.add key value) := by
  intro other found hother
  have hne : other ≠ key := by
    rintro rfl
    rw [h] at hother
    cases hother
  rwa [find?_add_of_ne hne]

theorem not_mem_keys_of_find?_eq_none {shelf : Shelf α} {key : String} (h : shelf.find? key = none) :
    key ∉ shelf.keys := by
  intro hmem
  obtain ⟨entry, hentry, rfl⟩ := List.mem_map.mp hmem
  exact absurd rfl (bne_iff_ne.mp (List.lookup_eq_none_iff.mp h entry hentry))

/-- A shelf with the objects of one owner, who has made `made` objects so far. -/
structure Orderly (shelf : Shelf (Stamped α)) (owner made : Nat) : Prop where
  /-- There is one object under a key. -/
  keys : shelf.keys.Nodup
  /-- The objects were made by the owner. -/
  stamps : ∀ key found, shelf.find? key = some found →
    found.stamp.owner = owner ∧ found.stamp.serial < made
  /-- The objects under two keys are two objects. -/
  distinct : ∀ key other found also, shelf.find? key = some found → shelf.find? other = some also →
    found.stamp = also.stamp → key = other

namespace Orderly

variable {shelf : Shelf (Stamped α)} {owner made : Nat}

theorem nil (owner made : Nat) : Orderly ([] : Shelf (Stamped α)) owner made :=
  ⟨List.nodup_nil, nofun, nofun⟩

theorem mono (h : shelf.Orderly owner made) {more : Nat} (hle : made ≤ more) : shelf.Orderly owner more where
  keys := h.keys
  stamps := by
    intro key found hfound
    obtain ⟨howner, hserial⟩ := h.stamps key found hfound
    exact ⟨howner, Nat.lt_of_lt_of_le hserial hle⟩
  distinct := h.distinct

/-- The next object is kept under a key that is free. -/
theorem add (h : shelf.Orderly owner made) {key : String} (hfree : shelf.find? key = none) (value : α) :
    (shelf.add key ⟨⟨owner, made⟩, value⟩).Orderly owner (made + 1) where
  keys := List.nodup_cons.mpr ⟨not_mem_keys_of_find?_eq_none hfree, h.keys⟩
  stamps := by
    intro other found hfound
    rcases find?_add_eq_some hfound with ⟨-, rfl⟩ | ⟨-, hold⟩
    · exact ⟨rfl, Nat.lt_succ_self made⟩
    · obtain ⟨howner, hserial⟩ := h.stamps other found hold
      exact ⟨howner, Nat.lt_succ_of_lt hserial⟩
  distinct := by
    intro first second found also hfound halso hstamp
    rcases find?_add_eq_some hfound with ⟨rfl, rfl⟩ | ⟨-, hold⟩
    · rcases find?_add_eq_some halso with ⟨rfl, -⟩ | ⟨-, hold⟩
      · rfl
      · -- no object that was there has the number of the new one
        have hserial := (h.stamps second also hold).2
        rw [← hstamp] at hserial
        exact absurd hserial (Nat.lt_irrefl made)
    · rcases find?_add_eq_some halso with ⟨rfl, rfl⟩ | ⟨-, hold'⟩
      · have hserial := (h.stamps first found hold).2
        rw [hstamp] at hserial
        exact absurd hserial (Nat.lt_irrefl made)
      · exact h.distinct first second found also hold hold' hstamp

end Orderly

end Shelf

namespace Compiler

variable {c d : Compiler}

/-! ## Growing -/

/-- What compiling does to a compiler, apart from the evaluator that it may keep: chunks are added that
were not kept before, each with the term that it compiles to. -/
structure Grows (c d : Compiler) : Prop where
  owner : d.owner = c.owner
  limits : d.limits = c.limits
  expressions : d.expressions = c.expressions
  within : c.chunks.Within d.chunks
  added : ∀ chunk made, d.chunks.find? chunk = some made → c.chunks.find? chunk = some made ∨
    c.chunks.find? chunk = none ∧ Term.ofText c.limits chunk = .ok made.value

theorem Grows.refl (c : Compiler) : c.Grows c :=
  ⟨rfl, rfl, rfl, fun _ _ h => h, fun _ _ h => Or.inl h⟩

/-- A chunk that is new to the larger compiler is new to the smaller one. -/
theorem Grows.find?_eq_none (h : c.Grows d) {chunk : String} (hfree : d.chunks.find? chunk = none) :
    c.chunks.find? chunk = none := by
  rw [Option.eq_none_iff_forall_ne_some]
  intro found hfound
  rw [h.within chunk found hfound] at hfree
  cases hfree

theorem Grows.trans {e : Compiler} (h : c.Grows d) (h' : d.Grows e) : c.Grows e where
  owner := h'.owner.trans h.owner
  limits := h'.limits.trans h.limits
  expressions := h'.expressions.trans h.expressions
  within := fun key found hfound => h'.within key found (h.within key found hfound)
  added := by
    intro chunk made hmade
    rcases h'.added chunk made hmade with hold | ⟨hfree, hterm⟩
    · exact h.added chunk made hold
    · exact Or.inr ⟨h.find?_eq_none hfree, h.limits ▸ hterm⟩

theorem grows_compileChunk (c : Compiler) (chunk : String) : c.Grows (c.compileChunk chunk).2 := by
  rcases c.compileChunk_cases chunk with ⟨_, _, heq⟩ | ⟨_, _, _, heq⟩ | ⟨term, hfree, hterm, heq⟩
  · rw [heq]; exact Grows.refl c
  · rw [heq]; exact Grows.refl c
  · rw [heq]
    refine ⟨rfl, rfl, rfl, Shelf.within_add hfree _, ?_⟩
    intro other made hother
    rcases Shelf.find?_add_eq_some hother with ⟨rfl, rfl⟩ | ⟨-, hold⟩
    · exact Or.inr ⟨hfree, hterm⟩
    · exact Or.inl hold

theorem grows_compileChunks (c : Compiler) (chunks : List String) : c.Grows (c.compileChunks chunks).2 :=
  compileChunks_induction (fun d chunk h => h.trans (d.grows_compileChunk chunk)) (Grows.refl c) chunks

/-! ## Kept terms -/

/-- The term that is given for a chunk is the one that is kept. -/
theorem find?_of_compileChunk {chunk : String} {made : Stamped Term}
    (h : c.compileChunk chunk = (.ok made, d)) : d.chunks.find? chunk = some made := by
  rcases c.compileChunk_cases chunk with ⟨_, hfound, heq⟩ | ⟨_, _, _, heq⟩ | ⟨_, _, _, heq⟩
  · rw [heq] at h
    cases h
    exact hfound
  · rw [heq] at h
    cases h
  · rw [heq] at h
    cases h
    exact Shelf.find?_add_self _ _ _

/-- The terms that are given for chunks are the ones that are kept. -/
theorem forall₂_of_compileChunks {chunks : List String} {terms : List (Stamped Term)}
    (h : (c.compileChunks chunks).1 = .ok terms) :
    List.Forall₂ (fun chunk term => (c.compileChunks chunks).2.chunks.find? chunk = some term) chunks
      terms := by
  induction chunks generalizing c terms with
  | nil => cases h; exact .nil
  | cons chunk rest ih =>
    rcases hc : c.compileChunk chunk with ⟨outcome, c'⟩
    cases outcome with
    | error e =>
      rw [compileChunks_cons_of_failed hc] at h
      cases h
    | ok made =>
      rw [compileChunks_cons_of_ok hc] at h ⊢
      cases hrest : (c'.compileChunks rest).1 with
      | error e => rw [hrest] at h; cases h
      | ok others =>
        rw [hrest] at h
        cases h
        -- what is kept of the first chunk stays while the rest is compiled
        exact .cons ((c'.grows_compileChunks rest).within _ _ (find?_of_compileChunk hc)) (ih hrest)

/-! ## Coherence -/

/-- An evaluator as it may be kept under a text. -/
structure Shares (c : Compiler) (text : String) (e : Evaluator) : Prop where
  /-- Tidying does not change the text. -/
  tidy : Expression.IsTidy text
  /-- It is that of the evaluator. -/
  expression : e.expression = text
  /-- The chunks are those of the text. -/
  chunks : e.chunks = Expression.cut text
  /-- All chunks are valid. -/
  valid : ∀ chunk ∈ e.chunks, isChunk chunk = true
  /-- The terms are the very ones that are kept for the chunks. -/
  terms : List.Forall₂ (fun chunk term => c.chunks.find? chunk = some term) e.chunks e.terms

theorem Shares.mono {text : String} {e : Evaluator} (h : c.Shares text e)
    (hwithin : c.chunks.Within d.chunks) : d.Shares text e where
  tidy := h.tidy
  expression := h.expression
  chunks := h.chunks
  valid := h.valid
  terms := h.terms.imp fun chunk term => hwithin chunk term

/-- The evaluator of a tidied text with the terms of its chunks may be kept. -/
theorem shares_of_compileChunks {text : String} {terms : List (Stamped Term)}
    (htidy : Expression.IsTidy text) (hvalid : invalidChunks (Expression.cut text) = [])
    (hterms : (c.compileChunks (Expression.cut text)).1 = .ok terms) :
    (c.compileChunks (Expression.cut text)).2.Shares text ⟨text, Expression.cut text, terms⟩ where
  tidy := htidy
  expression := rfl
  chunks := rfl
  valid := fun _ hchunk => isChunk_of_invalidChunks_eq_nil hvalid hchunk
  terms := forall₂_of_compileChunks hterms

/-- All that the compiler keeps hangs together. -/
structure Coherent (c : Compiler) : Prop where
  /-- The evaluators share the terms. -/
  shares : ∀ text made, c.expressions.find? text = some made → c.Shares text made.value
  /-- The evaluators are told apart by their stamps. -/
  evaluators : c.expressions.Orderly c.owner c.made
  /-- The terms are told apart by their stamps. -/
  terms : c.chunks.Orderly c.owner c.made

theorem coherent_of_empty (hc : c.chunks = []) (he : c.expressions = []) : c.Coherent := by
  refine ⟨?_, ?_, ?_⟩
  · rw [he]
    nofun
  · rw [he]
    exact Shelf.Orderly.nil c.owner c.made
  · rw [hc]
    exact Shelf.Orderly.nil c.owner c.made

theorem Coherent.compileChunk (h : c.Coherent) (chunk : String) : (c.compileChunk chunk).2.Coherent := by
  rcases c.compileChunk_cases chunk with ⟨_, _, heq⟩ | ⟨_, _, _, heq⟩ | ⟨term, hfree, _, heq⟩
  · rw [heq]; exact h
  · rw [heq]; exact h
  · rw [heq]
    refine ⟨?_, h.evaluators.mono (Nat.le_succ _), h.terms.add hfree term⟩
    exact fun text made hfound => (h.shares text made hfound).mono (Shelf.within_add hfree _)

theorem Coherent.compileChunks (h : c.Coherent) (chunks : List String) :
    (c.compileChunks chunks).2.Coherent :=
  compileChunks_induction (fun _ chunk h => h.compileChunk chunk) h chunks

theorem Coherent.keepEvaluator (h : c.Coherent) {e : Evaluator}
    (hfree : c.expressions.find? e.expression = none) (hshares : c.Shares e.expression e) :
    (c.keepEvaluator e).Coherent := by
  refine ⟨?_, h.evaluators.add hfree e, h.terms.mono (Nat.le_succ _)⟩
  intro text made hfound
  have hold : c.Shares text made.value := by
    rcases Shelf.find?_add_eq_some hfound with ⟨rfl, rfl⟩ | ⟨-, hold⟩
    · exact hshares
    · exact h.shares text made hold
  exact hold.mono fun _ _ h => h

/-! ## Requests -/

/-- Compiling an expression leaves the compiler as it was, or leaves what compiling the chunks leaves, with
or without an evaluator of their terms. -/
theorem compile_left_cases (c : Compiler) (given : Value) :
    (c.compile given).2.1 = c ∨
    ∃ chunks, c.expressions.find? (Expression.tidy given.plain) = none ∧
      allowedChunks c.limits given (Expression.tidy given.plain) = .ok chunks ∧
      ((c.compile given).2.1 = (c.compileChunks chunks).2 ∨
        ∃ terms, (c.compileChunks chunks).1 = .ok terms ∧ (c.compile given).2.1 =
          (c.compileChunks chunks).2.keepEvaluator ⟨Expression.tidy given.plain, chunks, terms⟩) := by
  cases hfind : c.expressions.find? (Expression.tidy given.plain) with
  | some made => exact Or.inl (by rw [compile_of_found hfind])
  | none =>
    cases hallowed : allowedChunks c.limits given (Expression.tidy given.plain) with
    | error e => exact Or.inl (by rw [compile_of_refused hfind hallowed])
    | ok chunks =>
      refine Or.inr ⟨chunks, rfl, rfl, ?_⟩
      rcases hchunks : c.compileChunks chunks with ⟨outcome, c'⟩
      cases outcome with
      | error e => exact Or.inl (by rw [compile_of_failed hfind hallowed hchunks])
      | ok terms => exact Or.inr ⟨terms, rfl, by rw [compile_of_made hfind hallowed hchunks]⟩

/-- The evaluator that is given for an expression is the one that is kept. -/
theorem find?_of_compile {given : Value} {made : Stamped Evaluator} (h : (c.compile given).1 = .ok made) :
    (c.compile given).2.1.expressions.find? (Expression.tidy given.plain) = some made := by
  cases hfind : c.expressions.find? (Expression.tidy given.plain) with
  | some found =>
    rw [compile_of_found hfind] at h ⊢
    cases h
    exact hfind
  | none =>
    cases hallowed : allowedChunks c.limits given (Expression.tidy given.plain) with
    | error e =>
      rw [compile_of_refused hfind hallowed] at h
      cases h
    | ok chunks =>
      rcases hchunks : c.compileChunks chunks with ⟨outcome, c'⟩
      cases outcome with
      | error e =>
        rw [compile_of_failed hfind hallowed hchunks] at h
        cases h
      | ok terms =>
        rw [compile_of_made hfind hallowed hchunks] at h ⊢
        cases h
        exact Shelf.find?_add_self _ _ _

theorem Coherent.compile (h : c.Coherent) (given : Value) : (c.compile given).2.1.Coherent := by
  rcases c.compile_left_cases given with heq | ⟨chunks, hfree, hallowed, heq | ⟨terms, hterms, heq⟩⟩
  · rw [heq]; exact h
  · rw [heq]; exact h.compileChunks chunks
  · rw [heq]
    obtain ⟨-, hcut, -, hvalid⟩ := allowedChunks_eq_ok_iff.mp hallowed
    rw [hcut] at hvalid hterms ⊢
    rw [← (c.grows_compileChunks _).expressions] at hfree
    exact (h.compileChunks _).keepEvaluator hfree
      (shares_of_compileChunks (Expression.isTidy_tidy given.plain) hvalid hterms)

/-- The evaluator that is given shares its terms with what is kept then. -/
theorem Coherent.shares_of_compile (h : c.Coherent) {given : Value} {made : Stamped Evaluator}
    (hmade : (c.compile given).1 = .ok made) :
    (c.compile given).2.1.Shares (Expression.tidy given.plain) made.value :=
  (h.compile given).shares _ made (find?_of_compile hmade)

/-- Coherence is kept by all requests, be they answered or not. -/
theorem Coherent.handle (h : c.Coherent) (request : Request) : (c.handle request).2.Coherent := by
  cases request with
  | compile given => exact h.compile given
  | compileChunk chunk => exact h.compileChunk chunk
  | clear => exact coherent_of_empty rfl rfl
  | setLimits limits => exact ⟨fun text made hfound => (h.shares text made hfound).mono fun _ _ h => h,
      h.evaluators, h.terms⟩

/-- A term that is kept after a request was kept before, or it is what its chunk compiles to under the
limits of the request, and the chunk is new. -/
theorem find?_handle {request : Request} {chunk : String} {made : Stamped Term}
    (h : (c.handle request).2.chunks.find? chunk = some made) :
    c.chunks.find? chunk = some made ∨
      c.chunks.find? chunk = none ∧ Term.ofText c.limits chunk = .ok made.value := by
  cases request with
  | compile given =>
    change (c.compile given).2.1.chunks.find? chunk = some made at h
    rcases c.compile_left_cases given with heq | ⟨chunks, -, -, heq | ⟨terms, -, heq⟩⟩
    · rw [heq] at h
      exact Or.inl h
    · rw [heq] at h
      exact (c.grows_compileChunks chunks).added chunk made h
    · rw [heq] at h
      exact (c.grows_compileChunks chunks).added chunk made h
  | compileChunk other => exact (c.grows_compileChunk other).added chunk made h
  | clear => cases h
  | setLimits limits => exact Or.inl h

end Compiler

end DiceNotation
