import Mathlib.Data.List.Forall2
import DiceNotation.Program
import DiceNotation.Proofs.Result

/-!
# What expressions compile to

A program that an expression compiles to fits the limits: its text and the number of its chunks are
within them, its chunks are those of its text and all valid, and each term is what its chunk compiles to.
Conversely, an expression compiles to any program that fits the limits and has its tidied text. How the
expression was given is only seen in what is said of a failure.
-/

namespace DiceNotation

/-! ## Terms -/

/-- The terms that chunks compile to, up to the first chunk that fails. -/
def termsOf (limits : Limits) (chunks : List String) : Except CompileError (List Term) :=
  chunks.mapM fun chunk => (Term.ofText limits chunk).mapError CompileError.chunk

@[simp] theorem termsOf_nil (limits : Limits) : termsOf limits [] = .ok [] := rfl

theorem termsOf_cons_error {limits : Limits} {chunk : String} {e : ChunkError}
    (h : Term.ofText limits chunk = .error e) (rest : List String) :
    termsOf limits (chunk :: rest) = .error (.chunk e) := by
  rw [termsOf, List.mapM_cons, h]
  rfl

theorem termsOf_cons_ok {limits : Limits} {chunk : String} {term : Term}
    (h : Term.ofText limits chunk = .ok term) (rest : List String) :
    termsOf limits (chunk :: rest) = (termsOf limits rest).map (term :: ·) := by
  rw [termsOf, List.mapM_cons, h]
  rfl

/-- Chunks compile to terms if and only if each one compiles to the term in its place. -/
theorem termsOf_eq_ok_iff {limits : Limits} {chunks : List String} {terms : List Term} :
    termsOf limits chunks = .ok terms ↔
      List.Forall₂ (fun chunk term => Term.ofText limits chunk = .ok term) chunks terms := by
  induction chunks generalizing terms with
  | nil => cases terms <;> simp
  | cons chunk rest ih =>
    cases hc : Term.ofText limits chunk with
    | error e =>
      -- the first chunk fails, so that neither side can hold
      rw [termsOf_cons_error hc]
      constructor
      · intro h; cases h
      · intro h
        cases h with
        | cons h _ => rw [hc] at h; cases h
    | ok term =>
      rw [termsOf_cons_ok hc]
      constructor
      · intro h
        cases hr : termsOf limits rest with
        | error e => rw [hr] at h; cases h
        | ok others =>
          rw [hr] at h
          cases h
          exact .cons hc (ih.mp hr)
      · intro h
        cases h with
        | cons h hrest =>
          rw [hc] at h
          cases h
          rw [ih.mpr hrest]
          rfl

theorem allowedChunks_eq_ok_iff {limits : Limits} {given : Value} {tidied : String} {chunks : List String} :
    allowedChunks limits given tidied = .ok chunks ↔
      tidied.length ≤ limits.maxLength ∧ chunks = Expression.cut tidied ∧
        chunks.length ≤ limits.maxChunks ∧ invalidChunks chunks = [] := by
  unfold allowedChunks
  dsimp only
  constructor
  · intro h
    split at h
    · cases h
    · split at h
      · cases h
      · split at h
        · rename_i hlength hcount hvalid
          cases h
          exact ⟨Nat.le_of_not_lt hlength, rfl, Nat.le_of_not_lt hcount, by simpa using hvalid⟩
        · cases h
  · intro hall
    obtain ⟨hlength, rfl, hcount, hvalid⟩ := hall
    rw [if_neg (Nat.not_lt.mpr hlength), if_neg (Nat.not_lt.mpr hcount), if_pos (by simp [hvalid])]

theorem isChunk_of_invalidChunks_eq_nil {texts : List String} (h : invalidChunks texts = []) {text : String}
    (hmem : text ∈ texts) : isChunk text = true := by
  have hvalid := List.filter_eq_nil_iff.mp h text hmem
  simpa using hvalid

namespace Program

/-- A program that may be compiled under limits. -/
structure Fits (limits : Limits) (p : Program) : Prop where
  /-- The text is not too long. -/
  length : p.expression.length ≤ limits.maxLength
  /-- The chunks are those of the text. -/
  chunks : p.chunks = Expression.cut p.expression
  /-- There are not too many chunks. -/
  count : p.chunks.length ≤ limits.maxChunks
  /-- All chunks are valid. -/
  valid : invalidChunks p.chunks = []
  /-- Each chunk compiles to the term in its place. -/
  terms : List.Forall₂ (fun chunk term => Term.ofText limits chunk = .ok term) p.chunks p.terms

theorem ofExpression_of_refused {limits : Limits} {given : Value} {e : CompileError}
    (h : allowedChunks limits given (Expression.tidy given.plain) = .error e) :
    ofExpression limits given = .error e := by
  simp only [ofExpression, h]
  rfl

theorem ofExpression_of_allowed {limits : Limits} {given : Value} {chunks : List String}
    (h : allowedChunks limits given (Expression.tidy given.plain) = .ok chunks) :
    ofExpression limits given =
      (termsOf limits chunks).map fun terms => ⟨Expression.tidy given.plain, chunks, terms⟩ := by
  simp only [ofExpression, h]
  rfl

/-- An expression compiles to the programs of its tidied text that fit the limits. -/
theorem ofExpression_eq_ok_iff {limits : Limits} {given : Value} {p : Program} :
    ofExpression limits given = .ok p ↔ p.expression = Expression.tidy given.plain ∧ p.Fits limits := by
  cases ha : allowedChunks limits given (Expression.tidy given.plain) with
  | error e =>
    rw [ofExpression_of_refused ha]
    constructor
    · intro h; cases h
    · intro hall
      obtain ⟨htext, hfits⟩ := hall
      -- the text and the chunks of a program that fits would not have been refused
      have hok : allowedChunks limits given p.expression = .ok p.chunks :=
        allowedChunks_eq_ok_iff.mpr ⟨hfits.length, hfits.chunks, hfits.count, hfits.valid⟩
      rw [htext, ha] at hok
      cases hok
  | ok chunks =>
    obtain ⟨hlength, hchunks, hcount, hvalid⟩ := allowedChunks_eq_ok_iff.mp ha
    rw [ofExpression_of_allowed ha]
    constructor
    · intro h
      cases hterms : termsOf limits chunks with
      | error e => rw [hterms] at h; cases h
      | ok terms =>
        rw [hterms] at h
        cases h
        exact ⟨rfl, hlength, hchunks, hcount, hvalid, termsOf_eq_ok_iff.mp hterms⟩
    · intro hall
      obtain ⟨htext, hfits⟩ := hall
      have hsame : p.chunks = chunks := by rw [hfits.chunks, htext, hchunks]
      have hterms := termsOf_eq_ok_iff.mpr hfits.terms
      rw [hsame] at hterms
      rw [hterms, ← htext, ← hsame]
      rfl

end Program

end DiceNotation
