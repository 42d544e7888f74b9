import DiceNotation.Proofs.Compiler.History
import DiceNotation.Proofs.Compiler.Transparency

/-!
# The order of requests

A compiler may be asked to compile the same expressions and chunks in any order. Which requests fail, and
what the others give, does not depend on the order, though a request that fails leaves the terms of the
chunks ahead of its failure behind, and a request that comes later finds them.

The outcomes are those of a compiler that keeps nothing, so that only what is kept in the end has to be
followed. A request adds certain keys to those that were kept before, and which ones can be read off the
request and the limits alone; hence the keys that several requests add are those that any of them adds. What
is kept under a key is what it compiles to.
-/

namespace DiceNotation

namespace Shelf

variable {α : Type}

/-- Something is kept under a key. -/
def Keeps (shelf : Shelf α) (key : String) : Prop := (shelf.find? key).isSome

theorem keeps_iff {shelf : Shelf α} {key : String} :
    shelf.Keeps key ↔ ∃ found, shelf.find? key = some found :=
  Option.isSome_iff_exists

theorem keeps_add {shelf : Shelf α} {key other : String} {value : α} :
    (shelf.add key value).Keeps other ↔ shelf.Keeps other ∨ other = key := by
  unfold Keeps
  by_cases h : other = key
  · subst h
    simp [find?_add_self]
  · simp [find?_add_of_ne h, h]

theorem map_find?_eq {β : Type} {shelf other : Shelf α} {key : String} (f : α → β)
    (hkeeps : shelf.Keeps key ↔ other.Keeps key)
    (hsame : ∀ found also, shelf.find? key = some found → other.find? key = some also → f found = f also) :
    (shelf.find? key).map f = (other.find? key).map f := by
  unfold Keeps at hkeeps
  cases hfound : shelf.find? key with
  | none =>
    rw [hfound] at hkeeps
    have hnone : other.find? key = none := by
      rw [← Option.not_isSome_iff_eq_none, ← hkeeps]
      exact Bool.false_ne_true
    rw [hnone]
  | some found =>
    rw [hfound] at hkeeps
    obtain ⟨also, halso⟩ := Option.isSome_iff_exists.mp (hkeeps.mp rfl)
    rw [halso]
    exact congrArg some (hsame found also hfound halso)

end Shelf

/-- A program that fits the limits is determined by its text. -/
theorem Program.Fits.unique {limits : Limits} {p q : Program} (h : p.Fits limits) (h' : q.Fits limits)
    (htext : p.expression = q.expression) : p = q := by
  have hchunks : p.chunks = q.chunks := by rw [h.chunks, h'.chunks, htext]
  have hterms := termsOf_eq_ok_iff.mpr h.terms
  rw [hchunks, termsOf_eq_ok_iff.mpr h'.terms] at hterms
  cases p
  cases q
  cases htext
  cases hchunks
  cases hterms
  rfl

namespace Compiler

variable {c d : Compiler} {limits : Limits}

/-! ## What a request leaves -/

/-- The chunks ahead of the first one that does not compile. -/
def compilable (limits : Limits) (chunks : List String) : List String :=
  chunks.takeWhile fun chunk => (Term.ofText limits chunk).isOk

theorem compilable_cons_of_error {chunk : String} {e : ChunkError} (h : Term.ofText limits chunk = .error e)
    (rest : List String) : compilable limits (chunk :: rest) = [] := by
  simp [compilable, h, Except.isOk, Except.toBool]

theorem compilable_cons_of_ok {chunk : String} {term : Term} (h : Term.ofText limits chunk = .ok term)
    (rest : List String) : compilable limits (chunk :: rest) = chunk :: compilable limits rest := by
  simp [compilable, h, Except.isOk, Except.toBool]

/-- A request to compile something. -/
def Request.Compiles : Request → Prop
  | compile _ | compileChunk _ => True
  | clear | setLimits _ => False

theorem Request.Compiles.keepsLimits {request : Request} (h : request.Compiles) : request.KeepsLimits := by
  cases request with
  | compile given => trivial
  | compileChunk chunk => trivial
  | clear => trivial
  | setLimits limits => exact h.elim

/-- The chunks whose terms are kept after a request, whether it succeeds or fails. -/
def Request.chunksLeft (limits : Limits) : Request → List String
  | compile given =>
    match allowedChunks limits given (Expression.tidy given.plain) with
    | .ok chunks => compilable limits chunks
    | .error _ => []
  | compileChunk chunk => compilable limits [chunk]
  | clear | setLimits _ => []

/-- The text whose evaluator is kept after a request. -/
def Request.textsLeft (limits : Limits) : Request → List String
  | compile given =>
    match Program.ofExpression limits given with
    | .ok p => [p.expression]
    | .error _ => []
  | compileChunk _ | clear | setLimits _ => []

/-! ## Chunks -/

/-- A chunk for which a term is given is kept from then on, beside those that were kept. -/
theorem keeps_of_compileChunk {chunk : String} {made : Stamped Term}
    (h : c.compileChunk chunk = (.ok made, d)) (key : String) :
    d.chunks.Keeps key ↔ c.chunks.Keeps key ∨ key = chunk := by
  rcases c.compileChunk_cases chunk with ⟨_, hfound, heq⟩ | ⟨_, _, _, heq⟩ | ⟨_, _, _, heq⟩
  · rw [heq] at h
    cases h
    refine ⟨Or.inl, ?_⟩
    rintro (hkeeps | rfl)
    · exact hkeeps
    · exact Shelf.keeps_iff.mpr ⟨made, hfound⟩
  · rw [heq] at h
    cases h
  · rw [heq] at h
    cases h
    exact Shelf.keeps_add

/-- A faithful compiler finds or makes the terms of chunks that compile, and keeps nothing of others. -/
theorem Faithful.compileChunk_cases (h : c.Faithful) (chunk : String) :
    (∃ e, Term.ofText c.limits chunk = .error e ∧ c.compileChunk chunk = (.error (.chunk e), c)) ∨
    ∃ term made, Term.ofText c.limits chunk = .ok term ∧ (c.compileChunk chunk).1 = .ok made ∧
      ∀ key, (c.compileChunk chunk).2.chunks.Keeps key ↔ c.chunks.Keeps key ∨ key = chunk := by
  rcases Compiler.compileChunk_cases c chunk with
    ⟨made, hfound, heq⟩ | ⟨e, _, hterm, heq⟩ | ⟨term, _, hterm, heq⟩
  · exact Or.inr ⟨_, made, h.chunks chunk made hfound, by rw [heq], keeps_of_compileChunk (by rw [heq])⟩
  · exact Or.inl ⟨e, hterm, heq⟩
  · exact Or.inr ⟨term, _, hterm, by rw [heq], keeps_of_compileChunk (by rw [heq])⟩

theorem Faithful.keeps_compileChunks (h : c.Faithful) (chunks : List String) (key : String) :
    (c.compileChunks chunks).2.chunks.Keeps key ↔
      c.chunks.Keeps key ∨ key ∈ compilable c.limits chunks := by
  induction chunks generalizing c with
  | nil =>
    show c.chunks.Keeps key ↔ _
    simp [compilable]
  | cons chunk rest ih =>
    rcases h.compileChunk_cases chunk with ⟨e, hterm, heq⟩ | ⟨term, made, hterm, hmade, hkeeps⟩
    · rw [compileChunks_cons_of_failed heq, compilable_cons_of_error hterm]
      simp
    · have hrest := ih (h.compileChunk chunk)
      rw [compileChunk_limits] at hrest
      rw [compileChunks_cons_of_ok (Prod.ext hmade rfl), compilable_cons_of_ok hterm, List.mem_cons, hrest,
        hkeeps, or_assoc]

theorem Faithful.keeps_compileChunk (h : c.Faithful) (chunk key : String) :
    (c.compileChunk chunk).2.chunks.Keeps key ↔ c.chunks.Keeps key ∨ key ∈ compilable c.limits [chunk] := by
  rcases h.compileChunk_cases chunk with ⟨e, hterm, heq⟩ | ⟨term, made, hterm, -, hkeeps⟩
  · rw [heq, compilable_cons_of_error hterm]
    simp
  · rw [hkeeps, compilable_cons_of_ok hterm]
    simp [compilable]

/-! ## Expressions -/

/-- The terms of all chunks of a kept evaluator are kept. -/
theorem Shares.keeps {text : String} {e : Evaluator} (h : c.Shares text e) {chunk : String}
    (hchunk : chunk ∈ e.chunks) : c.chunks.Keeps chunk := by
  have hall := h.terms.imp fun chunk term hfound =>
    And.intro (Shelf.keeps_iff.mpr ⟨term, hfound⟩) hfound
  exact (List.forall₂_and_left _ _).mp hall |>.1 chunk hchunk

theorem keeps_chunks_compile (hfaithful : c.Faithful) (hcoherent : c.Coherent) (given : Value) (key : String) :
    (c.compile given).2.1.chunks.Keeps key ↔
      c.chunks.Keeps key ∨ key ∈ (Request.compile given).chunksLeft c.limits := by
  unfold Request.chunksLeft
  dsimp only
  cases hfind : c.expressions.find? (Expression.tidy given.plain) with
  | some made =>
    -- the chunks were compiled with the evaluator that is found, and have been kept with it
    obtain ⟨hexpression, hfits⟩ := hfaithful.expressions _ made hfind
    have hallowed : allowedChunks c.limits given (Expression.tidy given.plain) = .ok made.value.chunks := by
      rw [← hexpression]
      exact allowedChunks_eq_ok_iff.mpr ⟨hfits.length, hfits.chunks, hfits.count, hfits.valid⟩
    rw [compile_of_found hfind, hallowed]
    refine ⟨Or.inl, ?_⟩
    rintro (hkeeps | hmem)
    · exact hkeeps
    · exact (hcoherent.shares _ made hfind).keeps (List.takeWhile_subset _ hmem)
  | none =>
    cases hallowed : allowedChunks c.limits given (Expression.tidy given.plain) with
    | error e =>
      rw [compile_of_refused hfind hallowed]
      simp
    | ok chunks =>
      have hkeeps := hfaithful.keeps_compileChunks chunks key
      rcases hchunks : c.compileChunks chunks with ⟨outcome, d⟩
      rw [hchunks] at hkeeps
      cases outcome with
      | error e =>
        rw [compile_of_failed hfind hallowed hchunks]
        exact hkeeps
      | ok terms =>
        rw [compile_of_made hfind hallowed hchunks]
        exact hkeeps

theorem keeps_expressions_compile (hfaithful : c.Faithful) (given : Value) (key : String) :
    (c.compile given).2.1.expressions.Keeps key ↔
      c.expressions.Keeps key ∨ key ∈ (Request.compile given).textsLeft c.limits := by
  have houtcome := (hfaithful.compile given).1
  unfold Request.textsLeft
  dsimp only
  rw [← houtcome]
  cases hfind : c.expressions.find? (Expression.tidy given.plain) with
  | some made =>
    have hkept := Shelf.keeps_iff.mpr ⟨made, hfind⟩
    rw [compile_of_found hfind]
    refine ⟨Or.inl, ?_⟩
    rintro (hkeeps | hmem)
    · exact hkeeps
    · have htext : made.value.program.expression = _ := (hfaithful.expressions _ made hfind).1
      rw [List.mem_singleton.mp hmem, htext]
      exact hkept
  | none =>
    cases hallowed : allowedChunks c.limits given (Expression.tidy given.plain) with
    | error e =>
      rw [compile_of_refused hfind hallowed]
      simp [Except.map]
    | ok chunks =>
      have hsame := (c.grows_compileChunks chunks).expressions
      rcases hchunks : c.compileChunks chunks with ⟨outcome, d⟩
      rw [hchunks] at hsame
      cases outcome with
      | error e =>
        rw [compile_of_failed hfind hallowed hchunks, hsame]
        simp [Except.map]
      | ok terms =>
        rw [compile_of_made hfind hallowed hchunks]
        show (Shelf.add d.expressions _ _).Keeps key ↔ _
        rw [Shelf.keeps_add, hsame]
        simp [Except.map, Evaluator.program]

/-! ## Requests -/

theorem keeps_handle (hfaithful : c.Faithful) (hcoherent : c.Coherent) {request : Request}
    (hcompiles : request.Compiles) (key : String) :
    ((c.handle request).2.chunks.Keeps key ↔
        c.chunks.Keeps key ∨ key ∈ request.chunksLeft c.limits) ∧
      ((c.handle request).2.expressions.Keeps key ↔
        c.expressions.Keeps key ∨ key ∈ request.textsLeft c.limits) := by
  cases request with
  | compile given =>
    exact ⟨keeps_chunks_compile hfaithful hcoherent given key, keeps_expressions_compile hfaithful given key⟩
  | compileChunk chunk =>
    refine ⟨hfaithful.keeps_compileChunk chunk key, ?_⟩
    show (c.compileChunk chunk).2.expressions.Keeps key ↔ _
    rw [(c.grows_compileChunk chunk).expressions]
    simp [Request.textsLeft]
  | clear => exact hcompiles.elim
  | setLimits limits => exact hcompiles.elim

/-! ## One request after the other -/

/-- What is seen of the answers to requests. -/
def replies (c : Compiler) : List Request → List Reply
  | [] => []
  | request :: rest => (c.handle request).1.reply :: (c.handle request).2.replies rest

namespace Reachable

theorem coherent (h : Reachable limits c) : c.Coherent := by
  induction h with
  | init owner => exact coherent_of_empty rfl rfl
  | tail _ _ ih => exact ih.handle _

theorem after (h : Reachable limits c) {requests : List Request}
    (hcompiles : ∀ request ∈ requests, request.Compiles) : Reachable limits (c.after requests) := by
  induction requests generalizing c with
  | nil => exact h
  | cons request rest ih =>
    obtain ⟨hrequest, hrest⟩ := List.forall_mem_cons.mp hcompiles
    exact ih (h.tail hrequest.keepsLimits) hrest

/-- Each request gets the reply that it gets where nothing is kept. -/
theorem replies_eq (h : Reachable limits c) {requests : List Request}
    (hcompiles : ∀ request ∈ requests, request.Compiles) :
    c.replies requests = requests.map (·.bareReply limits) := by
  induction requests generalizing c with
  | nil => rfl
  | cons request rest ih =>
    obtain ⟨hrequest, hrest⟩ := List.forall_mem_cons.mp hcompiles
    obtain ⟨hfaithful, rfl⟩ := faithful_reachable h
    rw [replies, hfaithful.reply_handle, ih (h.tail hrequest.keepsLimits) hrest, List.map_cons]

/-- Requests add to what is kept the chunks and texts that any of them leaves. -/
theorem keeps_after (h : Reachable limits c) {requests : List Request}
    (hcompiles : ∀ request ∈ requests, request.Compiles) (key : String) :
    ((c.after requests).chunks.Keeps key ↔
        c.chunks.Keeps key ∨ ∃ request ∈ requests, key ∈ request.chunksLeft limits) ∧
      ((c.after requests).expressions.Keeps key ↔
        c.expressions.Keeps key ∨ ∃ request ∈ requests, key ∈ request.textsLeft limits) := by
  induction requests generalizing c with
  | nil => simp
  | cons request rest ih =>
    obtain ⟨hrequest, hrest⟩ := List.forall_mem_cons.mp hcompiles
    obtain ⟨hchunks, hexpressions⟩ := ih (h.tail hrequest.keepsLimits) hrest
    obtain ⟨hfaithful, rfl⟩ := faithful_reachable h
    obtain ⟨hchunk, hexpression⟩ := keeps_handle hfaithful h.coherent hrequest key
    rw [hchunk] at hchunks
    rw [hexpression] at hexpressions
    simp only [List.mem_cons, exists_eq_or_imp, ← or_assoc]
    exact ⟨hchunks, hexpressions⟩

end Reachable

/-! ## What is kept in the end -/

theorem map_term_eq (h : Reachable limits c) (h' : Reachable limits d) {chunk : String}
    (hkeeps : c.chunks.Keeps chunk ↔ d.chunks.Keeps chunk) :
    (c.chunks.find? chunk).map (·.value) = (d.chunks.find? chunk).map (·.value) := by
  obtain ⟨hfaithful, rfl⟩ := faithful_reachable h
  obtain ⟨hfaithful', hlimits⟩ := faithful_reachable h'
  refine Shelf.map_find?_eq (·.value) hkeeps fun made made' hmade hmade' => ?_
  have hterm := hfaithful'.chunks chunk made' hmade'
  rw [hlimits, hfaithful.chunks chunk made hmade] at hterm
  exact Except.ok.inj hterm

theorem map_program_eq (h : Reachable limits c) (h' : Reachable limits d) {text : String}
    (hkeeps : c.expressions.Keeps text ↔ d.expressions.Keeps text) :
    (c.expressions.find? text).map (·.value.program) = (d.expressions.find? text).map (·.value.program) := by
  obtain ⟨hfaithful, rfl⟩ := faithful_reachable h
  obtain ⟨hfaithful', hlimits⟩ := faithful_reachable h'
  refine Shelf.map_find?_eq (·.value.program) hkeeps fun made made' hmade hmade' => ?_
  obtain ⟨htext, hfits⟩ := hfaithful.expressions text made hmade
  obtain ⟨htext', hfits'⟩ := hfaithful'.expressions text made' hmade'
  rw [hlimits] at hfits'
  exact hfits.unique hfits' (htext.trans htext'.symm)

/--
**The order of requests does not show.**

Let a compiler that came about under some limits be asked to compile expressions and chunks, in one order
and in another. Each request gets the same reply wherever it stands: an equal program or term, or the same
error. In the end the same programs are kept under the same texts, and the same terms under the same chunks.
-/
theorem replies_and_kept_of_perm (h : Reachable limits c) {requests reordered : List Request}
    (hcompiles : ∀ request ∈ requests, request.Compiles) (hperm : reordered.Perm requests) :
    (∀ i j : Nat, requests[i]? = reordered[j]? → (c.replies requests)[i]? = (c.replies reordered)[j]?) ∧
      (∀ text, ((c.after requests).expressions.find? text).map (·.value.program) =
        ((c.after reordered).expressions.find? text).map (·.value.program)) ∧
      ∀ chunk, ((c.after requests).chunks.find? chunk).map (·.value) =
        ((c.after reordered).chunks.find? chunk).map (·.value) := by
  have hcompiles' : ∀ request ∈ reordered, request.Compiles := fun request hmem =>
    hcompiles request (hperm.mem_iff.mp hmem)
  refine ⟨?_, ?_, ?_⟩
  · intro i j hij
    rw [h.replies_eq hcompiles, h.replies_eq hcompiles', List.getElem?_map, List.getElem?_map, hij]
  · intro text
    refine map_program_eq (h.after hcompiles) (h.after hcompiles') ?_
    -- the same requests leave the same texts
    rw [(h.keeps_after hcompiles text).2, (h.keeps_after hcompiles' text).2]
    simp only [hperm.mem_iff]
  · intro chunk
    refine map_term_eq (h.after hcompiles) (h.after hcompiles') ?_
    rw [(h.keeps_after hcompiles chunk).1, (h.keeps_after hcompiles' chunk).1]
    simp only [hperm.mem_iff]

/-- Requests of which two fail: one after a chunk that another one compiles as well, one as a whole. -/
def mixedRequests : List Request := [
  .compile (.text "1 + 2D6"), .compile (.text "1+9d6"), .compileChunk "x", .compileChunk "+2d6"]

theorem replies_and_kept_of_perm_reverse :
    let c : Compiler := (handle { owner := 0, limits := { maxDice := 3 } } (.compile (.text "2d6"))).2
    Reachable { maxDice := 3 } c ∧ (∀ request ∈ mixedRequests, request.Compiles) ∧
      mixedRequests.reverse.Perm mixedRequests ∧
      (c.replies mixedRequests)[1]? = (c.replies mixedRequests.reverse)[2]? ∧
      (∀ text, ((c.after mixedRequests).expressions.find? text).map (·.value.program) =
        ((c.after mixedRequests.reverse).expressions.find? text).map (·.value.program)) ∧
      ∀ chunk, ((c.after mixedRequests).chunks.find? chunk).map (·.value) =
        ((c.after mixedRequests.reverse).chunks.find? chunk).map (·.value) := by
  intro c
  have hreachable : Reachable { maxDice := 3 } c := (Reachable.init 0).tail trivial
  have hcompiles : ∀ request ∈ mixedRequests, request.Compiles := by
    simp [mixedRequests, Request.Compiles]
  have hperm := mixedRequests.reverse_perm
  obtain ⟨hreplies, hkept⟩ := replies_and_kept_of_perm hreachable hcompiles hperm
  exact ⟨hreachable, hcompiles, hperm, hreplies 1 2 rfl, hkept⟩

end Compiler

end DiceNotation
