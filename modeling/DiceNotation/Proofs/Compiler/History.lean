import Mathlib.Data.List.Induction
import DiceNotation.Proofs.Compiler.Coherent

/-!
# What compilers keep over time

Any requests may be made of a compiler, in any order, changes of its limits among them. What it keeps
after them hangs together, and everything that it keeps of chunks can be traced back: there was one
request that made the term, under the limits of that time, and since then the term was kept. So what the
compiler gives, made or found, is what compiling comes to under the limits of some time.
-/

namespace DiceNotation.Compiler

/-- The compiler after requests, be they answered or not. -/
def after (c : Compiler) (requests : List Request) : Compiler :=
  requests.foldl (fun c request => (c.handle request).2) c

@[simp] theorem after_nil (c : Compiler) : c.after [] = c := rfl

theorem after_concat (c : Compiler) (requests : List Request) (request : Request) :
    c.after (requests ++ [request]) = ((c.after requests).handle request).2 := by
  simp [after]

theorem Coherent.after {c : Compiler} (h : c.Coherent) (requests : List Request) :
    (c.after requests).Coherent := by
  induction requests generalizing c with
  | nil => exact h
  | cons request rest ih => exact ih (h.handle request)

/-! ## Where terms come from -/

/-- A term that was made for a chunk in the course of requests, and has been kept since. `before` are the
requests up to the one that made it, and `later` those after it. -/
structure MadeAt (c : Compiler) (before : List Request) (request : Request) (later : List Request)
    (chunk : String) (made : Stamped Term) : Prop where
  /-- The chunk was not kept before. -/
  fresh : (c.after before).chunks.find? chunk = none
  /-- The term is what the chunk compiles to under the limits of that time. -/
  compiled : Term.ofText (c.after before).limits chunk = .ok made.value
  /-- The very term was kept from then on. -/
  kept : ∀ between, between <+: later →
    (c.after (before ++ request :: between)).chunks.find? chunk = some made

theorem MadeAt.concat {c : Compiler} {before later : List Request} {request next : Request} {chunk : String}
    {made : Stamped Term} (h : c.MadeAt before request later chunk made)
    (hkept : (c.after (before ++ request :: (later ++ [next]))).chunks.find? chunk = some made) :
    c.MadeAt before request (later ++ [next]) chunk made where
  fresh := h.fresh
  compiled := h.compiled
  kept := by
    intro between hbetween
    rcases List.prefix_concat_iff.mp hbetween with rfl | hearlier
    · exact hkept
    · exact h.kept between hearlier

/-- A term that is kept after requests was made at one of them, if nothing was kept before. -/
theorem exists_madeAt {c : Compiler} (hempty : c.chunks = []) {requests : List Request} {chunk : String}
    {made : Stamped Term} (h : (c.after requests).chunks.find? chunk = some made) :
    ∃ before request later, requests = before ++ request :: later ∧
      c.MadeAt before request later chunk made := by
  induction requests using List.reverseRecOn with
  | nil =>
    rw [after_nil, hempty] at h
    cases h
  | append_singleton requests next ih =>
    have hnow := h
    rw [after_concat] at h
    rcases find?_handle h with hold | ⟨hfree, hterm⟩
    · -- the term was there already, and the last request has left it there
      obtain ⟨before, request, later, rfl, hmade⟩ := ih hold
      rw [List.append_assoc, List.cons_append] at hnow
      exact ⟨before, request, later ++ [next], by simp, hmade.concat hnow⟩
    · refine ⟨requests, next, [], rfl, hfree, hterm, ?_⟩
      intro between hbetween
      rw [List.prefix_nil.mp hbetween]
      exact hnow

/-- Every term that the compiler keeps after the requests was made at one of them. -/
def TracedThrough (c : Compiler) (requests : List Request) : Prop :=
  ∀ chunk made, (c.after requests).chunks.find? chunk = some made →
    ∃ before request later, requests = before ++ request :: later ∧
      c.MadeAt before request later chunk made

/--
**What is kept hangs together over every history.**

After any requests of a new compiler each evaluator is kept under its own text, which tidying does not
change, with the valid chunks of the text and the very terms that are kept for them. Each term that is
kept for a chunk was made at a request before which the chunk was not kept, it is what the chunk compiles
to under the limits of that time, and it was kept ever since.
-/
theorem coherent_and_traced (owner : Nat) (limits : Limits) (requests : List Request) :
    (after { owner := owner, limits := limits } requests).Coherent ∧
      TracedThrough { owner := owner, limits := limits } requests :=
  ⟨(coherent_of_empty rfl rfl).after requests, fun _ _ h => exists_madeAt rfl h⟩

/-- A pool that was allowed once is part of an evaluator that is made when it would not be any more. -/
example :
    (after { owner := 0, limits := { maxDice := 200 } }
        [.compileChunk "150d6", .setLimits .standard, .compile (.text "150D6 + 1")]).expressions.find?
      "150d6+1" = some ⟨⟨0, 2⟩, "150d6+1", ["150d6", "+1"],
        [⟨⟨0, 0⟩, .pool { count := 150, faces := 6, maxDice := 200 }⟩, ⟨⟨0, 1⟩, .constant 1⟩]⟩ := by
  decide +kernel

/-! ## What is given -/

/-- A chunk that compiles under the limits of a compiler is compiled by it or found, as it compiled under the
limits of some time. -/
theorem exists_compileChunk_of_ofText {c : Compiler} (hempty : c.chunks = []) (requests : List Request)
    {chunk : String} {term : Term} (h : Term.ofText (c.after requests).limits chunk = .ok term) :
    ∃ made before, ((c.after requests).compileChunk chunk).1 = .ok made ∧ before <+: requests ∧
      Term.ofText (c.after before).limits chunk = .ok made.value := by
  rcases (c.after requests).compileChunk_cases chunk with
    ⟨made, hfound, heq⟩ | ⟨e, -, hfails, -⟩ | ⟨new, -, hnew, heq⟩
  · obtain ⟨before, request, later, hsplit, hmade⟩ := exists_madeAt hempty hfound
    exact ⟨made, before, by rw [heq], ⟨request :: later, hsplit.symm⟩, hmade.compiled⟩
  · rw [h] at hfails
    cases hfails
  · exact ⟨_, requests, by rw [heq], List.prefix_rfl, hnew⟩

/-- Every term of an evaluator is what the chunk in its place compiles to under the limits of some time. -/
theorem forall₂_ofText_of_compile {c : Compiler} (hchunks : c.chunks = []) (hexpressions : c.expressions = [])
    {requests : List Request} {given : Value} {e : Stamped Evaluator}
    (h : ((c.after requests).compile given).1 = .ok e) :
    List.Forall₂ (fun chunk term => ∃ before, before <+: requests ∧
      Term.ofText (c.after before).limits chunk = .ok term.value) e.value.chunks e.value.terms := by
  have hshares := (((coherent_of_empty hchunks hexpressions).after requests).shares_of_compile h).terms
  refine hshares.imp fun chunk term hkept => ?_
  -- the terms of the evaluator are kept after the request, so one of the requests made them
  have hnow : (c.after (requests ++ [.compile given])).chunks.find? chunk = some term := by
    rw [after_concat]
    exact hkept
  obtain ⟨before, request, later, hsplit, hmade⟩ := exists_madeAt hchunks hnow
  refine ⟨before, ?_, hmade.compiled⟩
  rcases List.prefix_concat_iff.mp ⟨request :: later, hsplit.symm⟩ with rfl | hbefore
  · exact absurd (congrArg List.length hsplit) (by simp)
  · exact hbefore

end DiceNotation.Compiler
