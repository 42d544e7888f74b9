import DiceNotation.Proofs.Compiler.Faithful
import DiceNotation.Proofs.Expression.Sums
import DiceNotation.Proofs.Term.Compiled

/-!
# How compiling fails

An expression is refused for its length, for its chunks, or for the dice that it asks for. Chunks that
are no pools are never asked for as such, because the text that is checked is the text that is read. What
is left is a number that is too long to be read. Only an expression that is longer yet can hold one; so
limits that allow no such expression leave the refusals alone, and others do not.
-/

namespace DiceNotation

/-! ## The numbers of a chunk -/

/-- The numbers of a kind of die, in digits. -/
def Faces.numbers : Faces → List (List Char)
  | number digits => [digits]
  | _ => []

/-- The numbers of a pool, in digits. -/
def PoolText.numbers (t : PoolText) : List (List Char) :=
  t.count :: (t.faces.numbers ++ t.modifier.elim [] fun m => [m.digits])

/-- The numbers of a chunk, in digits. -/
def Chunk.numbers : Chunk → List (List Char)
  | constant _ digits => [digits]
  | pool t => t.numbers

theorem Faces.length_le_of_mem_numbers {f : Faces} {digits : List Char} (h : digits ∈ f.numbers) :
    digits.length ≤ f.write.length := by
  cases f with
  | number all => rw [List.mem_singleton.mp h]; rfl
  | fudge | percent => cases h

theorem PoolText.length_le_of_mem_numbers {t : PoolText} {digits : List Char} (h : digits ∈ t.numbers) :
    digits.length ≤ t.write.length := by
  rw [PoolText.write, List.length_append, List.length_append, List.length_cons, List.length_append]
  rcases List.mem_cons.mp h with rfl | h
  · omega
  · rcases List.mem_append.mp h with h | h
    · have hfaces := Faces.length_le_of_mem_numbers h
      omega
    · cases hm : t.modifier with
      | none => rw [hm] at h; cases h
      | some m =>
        rw [hm] at h
        rw [List.mem_singleton.mp h, Option.elim_some, ModifierText.write, ModifierText.argument,
          List.length_append, List.length_append]
        omega

/-- A number of a chunk is not longer than the chunk. -/
theorem Chunk.length_le_of_mem_numbers {c : Chunk} {digits : List Char} (h : digits ∈ c.numbers) :
    digits.length ≤ c.write.length := by
  cases c with
  | pool t => exact PoolText.length_le_of_mem_numbers h
  | constant s all =>
    rw [List.mem_singleton.mp h, Chunk.write, List.length_append]
    omega

/-! ## Failures of chunks -/

/-- A failure that is a refusal or comes from one of the given numbers, for its length. -/
def CompileError.IsFrom (numbers : List (List Char)) (e : CompileError) : Prop :=
  e.isRefusal = true ∨ ∃ digits ∈ numbers, Text.maxDigits < digits.length ∧
    e = .chunk (.overlong ⟨digits.length⟩)

theorem PoolText.ComesTo.isFrom {limits : Limits} {chunk : String} {t : PoolText} {e : ChunkError}
    (h : t.ComesTo limits chunk (.error e)) : (CompileError.chunk e).IsFrom t.numbers := by
  cases h with
  | overlongCount hlong => exact Or.inr ⟨t.count, List.mem_cons_self, hlong, rfl⟩
  | tooManyDice | tooManyFaces | noFaces => exact Or.inl rfl
  | overlongFaces _ _ hfaces hlong =>
    refine Or.inr ⟨_, List.mem_cons_of_mem _ (List.mem_append_left _ ?_), hlong, rfl⟩
    rw [hfaces]
    exact List.mem_singleton_self _
  | overlongArgument _ hm hlong =>
    refine Or.inr ⟨_, List.mem_cons_of_mem _ (List.mem_append_right _ ?_), hlong, rfl⟩
    rw [hm]
    exact List.mem_singleton_self _

/-- A chunk in lowercase that fails is refused, or it has a number that is too long. -/
theorem Term.isFrom_of_ofText_error {limits : Limits} {chunk : String} {c : Chunk} {e : ChunkError}
    (hc : Chunk.ofText? chunk = some c) (hlower : Text.lowercase chunk = chunk)
    (h : Term.ofText limits chunk = .error e) : (CompileError.chunk e).IsFrom c.numbers := by
  cases c with
  | constant s digits =>
    rw [Term.ofText_of_constant limits hc] at h
    rcases readCount_cases digits with ⟨hlong, hread⟩ | ⟨-, hread⟩
    · rw [hread] at h
      cases h
      exact Or.inr ⟨digits, List.mem_singleton_self _, hlong, rfl⟩
    · rw [hread] at h
      cases h
  | pool t =>
    have hcomes := Pool.ofText_comesTo limits (hlower.symm ▸ hc)
    rw [Term.ofText_of_not_constant limits (by simp [hc])] at h
    rcases bind_eq_error h with hpool | ⟨p, -, hmade⟩
    · rw [hpool] at hcomes
      exact hcomes.isFrom
    · cases hmade

/-- Chunks fail by one of them. -/
theorem termsOf_eq_error {limits : Limits} {chunks : List String} {e : CompileError}
    (h : termsOf limits chunks = .error e) :
    ∃ chunk ∈ chunks, ∃ reason, Term.ofText limits chunk = .error reason ∧ e = .chunk reason := by
  induction chunks with
  | nil => cases h
  | cons chunk rest ih =>
    cases hterm : Term.ofText limits chunk with
    | error reason =>
      rw [termsOf_cons_error hterm] at h
      cases h
      exact ⟨chunk, List.mem_cons_self, reason, hterm, rfl⟩
    | ok term =>
      rw [termsOf_cons_ok hterm] at h
      cases hrest : termsOf limits rest with
      | ok terms => rw [hrest] at h; cases h
      | error e' =>
        rw [hrest] at h
        cases h
        obtain ⟨other, hmem, hother⟩ := ih hrest
        exact ⟨other, List.mem_cons_of_mem chunk hmem, hother⟩

/-! ## Failures of expressions -/

namespace Expression

theorem sublist_of_mem_cut {text chunk : String} (h : chunk ∈ cut text) :
    chunk.toList.Sublist text.toList := by
  have hjoin : ((cut text).map String.toList).flatten = text.toList := by
    rw [← List.flatMap_def, ← String.toList_join, join_cut]
  rw [← hjoin]
  exact List.sublist_flatten_of_mem (List.mem_map_of_mem h)

/-- The chunks of a tidied expression are tidied. -/
theorem IsTidy.of_mem_cut {text chunk : String} (h : IsTidy text) (hchunk : chunk ∈ cut text) :
    IsTidy chunk :=
  isTidy_iff.mpr fun c hc => isTidy_iff.mp h c ((sublist_of_mem_cut hchunk).subset hc)

/-- A tidied text is in lowercase. -/
theorem IsTidy.lowercase_eq {text : String} (h : IsTidy text) : Text.lowercase text = text := by
  rw [Text.lowercase, Text.lowerFrom_of_isLower false fun c hc => (isTidy_iff.mp h c hc).2,
    String.ofList_toList]

/-- A tidied text that is a chunk is the chunk as it is written. -/
theorem IsTidy.write_eq {text : String} (h : IsTidy text) {c : Chunk} (hc : Chunk.ofText? text = some c) :
    c.write = text.toList := by
  rw [(Chunk.ofText?_eq_some_iff_write.mp hc).2, withoutLineEnd_of_not_mem h.lineEnd_not_mem]

end Expression

theorem isRefusal_of_allowedChunks_error {limits : Limits} {given : Value} {tidied : String} {e : CompileError}
    (h : allowedChunks limits given tidied = .error e) : e.isRefusal = true := by
  unfold allowedChunks at h
  dsimp only at h
  split at h
  · cases h; rfl
  · split at h
    · cases h; rfl
    · split at h
      · cases h
      · cases h; rfl

/-- An expression that fails is refused, or it is longer than a number may be and within its limit. -/
theorem Program.ofExpression_error {limits : Limits} {given : Value} {e : CompileError}
    (h : ofExpression limits given = .error e) :
    e.isRefusal = true ∨ ∃ numeral : Text.OverlongNumeral, e = .chunk (.overlong numeral) ∧
      Text.maxDigits < numeral.digits ∧ numeral.digits ≤ limits.maxLength := by
  cases ha : allowedChunks limits given (Expression.tidy given.plain) with
  | error refused =>
    rw [ofExpression_of_refused ha] at h
    cases h
    exact Or.inl (isRefusal_of_allowedChunks_error ha)
  | ok chunks =>
    obtain ⟨hlength, hcut, -, hvalid⟩ := allowedChunks_eq_ok_iff.mp ha
    rw [ofExpression_of_allowed ha] at h
    cases hterms : termsOf limits chunks with
    | ok terms => rw [hterms] at h; cases h
    | error e' =>
      rw [hterms] at h
      cases h
      obtain ⟨chunk, hmem, reason, hreason, rfl⟩ := termsOf_eq_error hterms
      obtain ⟨c, hc⟩ := Option.isSome_iff_exists.mp (isChunk_of_invalidChunks_eq_nil hvalid hmem)
      rw [hcut] at hmem
      have htidy := (Expression.isTidy_tidy given.plain).of_mem_cut hmem
      rcases Term.isFrom_of_ofText_error hc htidy.lowercase_eq hreason with hrefusal | hfrom
      · exact Or.inl hrefusal
      · obtain ⟨digits, hdigits, hlong, hoverlong⟩ := hfrom
        -- the number is part of the chunk, and the chunk of the expression
        refine Or.inr ⟨_, hoverlong, hlong, ?_⟩
        calc digits.length ≤ c.write.length := Chunk.length_le_of_mem_numbers hdigits
          _ = chunk.toList.length := by rw [htidy.write_eq hc]
          _ ≤ (Expression.tidy given.plain).toList.length :=
            (Expression.sublist_of_mem_cut hmem).length_le
          _ = (Expression.tidy given.plain).length := String.length_toList
          _ ≤ limits.maxLength := hlength

/-! ## Numbers too long to be read -/

/-- A number that is too long is not refused for its length where the expression may be as long. -/
theorem Program.ofExpression_of_overlong {limits : Limits} {digits : List Char} (hdigits : AreDigits digits)
    (hlong : Text.maxDigits < digits.length) (hlength : digits.length ≤ limits.maxLength)
    (hchunks : 1 ≤ limits.maxChunks) :
    ofExpression limits (.text (String.ofList digits)) = .error (.chunk (.overlong ⟨digits.length⟩)) := by
  have hne : digits ≠ [] := List.ne_nil_of_length_pos (Nat.zero_lt_of_lt hlong)
  have hc : (Chunk.constant .unsigned digits).WellFormed := ⟨hne, hdigits⟩
  have hchunk : Chunk.ofText? (String.ofList digits) = some (.constant .unsigned digits) := hc.ofText?_text
  have htidy : Expression.tidy (Value.text (String.ofList digits)).plain = String.ofList digits := hc.isTidy_text
  have hallowed : allowedChunks limits (.text (String.ofList digits))
      (Expression.tidy (Value.text (String.ofList digits)).plain) = .ok [String.ofList digits] := by
    rw [htidy]
    refine allowedChunks_eq_ok_iff.mpr ⟨?_, (Expression.cut_text hc).symm, hchunks, ?_⟩
    · rwa [String.length_ofList]
    · simp [invalidChunks, isChunk, hchunk]
  have hterm : Term.ofText limits (String.ofList digits) = .error (.overlong ⟨digits.length⟩) := by
    rcases readCount_cases digits with ⟨-, hread⟩ | ⟨hshort, -⟩
    · rw [Term.ofText_of_constant limits hchunk, hread]
      rfl
    · exact absurd hlong (Nat.not_lt.mpr hshort)
  rw [ofExpression_of_allowed hallowed, termsOf_cons_error hterm]
  rfl

theorem areDigits_zeros (n : Nat) : AreDigits (List.replicate n '0') := by
  intro c hc
  rw [List.eq_of_mem_replicate hc]
  decide

/-! ## Failures of compilers -/

namespace Compiler

variable {limits : Limits} {c : Compiler}

/-- Zeros enough are a number that is not read. -/
theorem Reachable.compile_zeros (hc : Reachable limits c) {n : Nat} (hlong : Text.maxDigits < n)
    (hlength : n ≤ limits.maxLength) (hchunks : 1 ≤ limits.maxChunks) :
    (c.compile (.text (String.ofList (List.replicate n '0')))).1 = .error (.chunk (.overlong ⟨n⟩)) := by
  have hn : (List.replicate n '0').length = n := List.length_replicate
  rw [hc.compile_error_iff, Program.ofExpression_of_overlong (areDigits_zeros n) (by rwa [hn])
    (by rwa [hn]) hchunks, hn]

/-- **Only refusals** are to be expected of a compiler if and only if its limits allow no expression that
is longer than a number may be. -/
theorem Reachable.forall_isRefusal_iff (hc : Reachable limits c) (hchunks : 1 ≤ limits.maxChunks) :
    (∀ text e, (c.compile (.text text)).1 = .error e → e.isRefusal = true) ↔
      limits.maxLength ≤ Text.maxDigits := by
  constructor
  · intro hall
    by_contra hlong
    have hfails := hc.compile_zeros (Nat.lt_of_not_le hlong) (Nat.le_refl _) hchunks
    cases hall _ _ hfails
  · intro hshort text e h
    rcases Program.ofExpression_error (hc.compile_error_iff.mp h) with hrefusal | hoverlong
    · exact hrefusal
    · obtain ⟨numeral, -, hlong, hlength⟩ := hoverlong
      omega

/--
**Compiling fails by refusals and by numbers too long to be read.**

A compiler under fixed limits that gives no evaluator refuses the expression, for its length, its chunks
or its dice; or it stops at a number that has more digits than can be read, and not more than the
expression may have. That a chunk is no pool is never the reason.
-/
theorem isRefusal_or_overlong (hc : Reachable limits c) {given : Value} {e : CompileError}
    (h : (c.compile given).1 = .error e) :
    e.isRefusal = true ∨ ∃ numeral : Text.OverlongNumeral, e = .chunk (.overlong numeral) ∧
      Text.maxDigits < numeral.digits ∧ numeral.digits ≤ limits.maxLength :=
  Program.ofExpression_error (hc.compile_error_iff.mp h)

/-- The dice of the second chunk are too many. -/
theorem isRefusal_or_overlong_dice :
    (({ owner := 0 } : Compiler).compile (.text "3d6 + 101D6")).1 = .error (.chunk (.tooManyDice 101 100)) ∧
      ((CompileError.chunk (.tooManyDice 101 100)).isRefusal = true ∨
        ∃ numeral : Text.OverlongNumeral,
          CompileError.chunk (.tooManyDice 101 100) = .chunk (.overlong numeral) ∧
            Text.maxDigits < numeral.digits ∧ numeral.digits ≤ Limits.standard.maxLength) := by
  have h : (({ owner := 0 } : Compiler).compile (.text "3d6 + 101D6")).1 =
      .error (.chunk (.tooManyDice 101 100)) := by
    decide +kernel
  exact ⟨h, isRefusal_or_overlong (Reachable.init 0) h⟩

/-- Not all failures are refusals: a long row of zeros within the limits is a number that is not read. -/
theorem not_forall_isRefusal :
    ¬ ∀ limits : Limits, (∀ field, 1 ≤ limits.get field) → ∀ text e,
      (({ owner := 0, limits := limits } : Compiler).compile (.text text)).1 = .error e →
        e.isRefusal = true := by
  intro hall
  have hfields : ∀ field, 1 ≤ ({ maxLength := 5000 } : Limits).get field := by
    intro field
    cases field <;> decide
  have hc : Reachable { maxLength := 5000 } { owner := 0, limits := { maxLength := 5000 } } := .init 0
  have hlong : Text.maxDigits < 4301 := by decide
  cases hall _ hfields _ _ (hc.compile_zeros hlong (by decide) (by decide))

end Compiler

end DiceNotation
