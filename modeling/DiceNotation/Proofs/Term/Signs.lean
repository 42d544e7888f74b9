import DiceNotation.Proofs.Chunk.Signs
import DiceNotation.Proofs.Compiler.Faithful
import DiceNotation.Proofs.Roll
import DiceNotation.Proofs.Term.Compiled

/-!
# Signs only negate

A chunk compiles with a sign in front exactly if it does without, and fails for the same reason. With a plus
nothing is different; with a minus the same dice are rolled, the modifier with its argument makes of them what
it makes of them without, and what comes out is negated in the end.
-/

namespace DiceNotation

/-! ## Negated terms -/

/-- The part with all its numbers negated. -/
def Part.negated : Part → Part
  | scalar value => scalar (-value)
  | dice values => dice (values.map (-·))

/-- The term that gives the negated part. -/
def Term.negated : Term → Term
  | constant value => constant (-value)
  | pool p => pool { p with negative := !p.negative }

theorem map_neg_map_neg (values : List Int) : (values.map (-·)).map (-·) = values := by
  rw [List.map_map]
  exact (List.map_congr_left fun value _ => Int.neg_neg value).trans (List.map_id' values)

/-- A negated term rolls as the term does, and negates what comes out. -/
theorem Term.roll_negated (t : Term) : t.negated.roll = t.roll.bind fun part => .done part.negated := by
  cases t with
  | constant value => rfl
  | pool p =>
    -- the dice before the sign do not depend on it
    have hunsigned : ({ p with negative := !p.negative } : Pool).rollUnsigned = p.rollUnsigned := rfl
    simp only [negated, roll, Roll.bind_eq, Roll.pure_eq_done, Pool.roll_eq, hunsigned, Roll.bind_assoc,
      Roll.done_bind, Part.negated]
    cases p.negative with
    | false => rfl
    | true => simp only [Bool.not_true, Bool.false_eq_true, if_false, if_true, map_neg_map_neg]

theorem Term.run_negated {σ : Type} (source : Source σ) (t : Term) (state : σ) :
    t.negated.roll.run source state = (t.roll.run source state).map Part.negated := by
  rw [t.roll_negated, Roll.run_bind_done]

/-! ## Signed chunks -/

/-- What a sign makes of a term. -/
def Sign.apply : Sign → Term → Term
  | minus, t => t.negated
  | _, t => t

/-- The same error, said of a chunk. -/
def ChunkError.about (chunk : String) : ChunkError → ChunkError
  | notAPool _ => notAPool chunk
  | noFaces _ => noFaces chunk
  | e => e

variable {text : String}

/-- The same chunk is read where letters of either case are. -/
theorem Chunk.ofText?_lowercase {c : Chunk} (h : ofText? text = some c) :
    ofText? (Text.lowercase text) = some c := by
  rw [lowercase_of_ofText? h, h]

/-- The pool of a signed chunk is that of the chunk with the sign applied to it. -/
theorem PoolText.compiled_withSign {limits : Limits} {t : PoolText} (hs : t.sign = .unsigned) (s : Sign)
    (count faces : Nat) (offset argument : Int) :
    Term.pool ({ t with sign := s }.compiled limits count faces offset argument) =
      s.apply (.pool (t.compiled limits count faces offset argument)) := by
  cases s with
  | unsigned | plus => simp [Sign.apply, compiled, hs]
  | minus => simp [Sign.apply, Term.negated, compiled, hs]

theorem Term.ofText_before_of_pool (limits : Limits) {t : PoolText} (h : Chunk.ofText? text = some (.pool t))
    (hs : t.sign = .unsigned) (s : Sign) :
    Term.ofText limits (s.before text) =
      ((Term.ofText limits text).map s.apply).mapError (ChunkError.about (s.before text)) := by
  have hsigned : Chunk.ofText? (s.before text) = some (.pool { t with sign := s }) := Chunk.ofText?_before h hs s
  have hpool : ∀ s digits, Chunk.ofText? text ≠ some (.constant s digits) := by simp [h]
  have hsignedpool : ∀ s' digits, Chunk.ofText? (s.before text) ≠ some (.constant s' digits) := by simp [hsigned]
  rw [Term.ofText_of_not_constant limits hpool, Pool.ofText_of_pool limits (Chunk.ofText?_lowercase h),
    Term.ofText_of_not_constant limits hsignedpool,
    Pool.ofText_of_pool limits (Chunk.ofText?_lowercase hsigned)]
  -- what the checks look at is the same with the sign
  have hsize : ({ t with sign := s } : PoolText).size = t.size := rfl
  have hargument : ({ t with sign := s } : PoolText).argument = t.argument := rfl
  rw [hsize, hargument]
  rcases t.size_cases with ⟨-, hsize⟩ | ⟨count, hsize⟩
  · rw [hsize]
    rfl
  rw [hsize, ok_bind, ok_bind]
  split
  · rfl
  rcases t.faces.resolve_cases with ⟨_, -, -, hresolve⟩ | ⟨faces, offset, hresolve, -⟩
  · rw [hresolve]
    rfl
  rw [hresolve, ok_bind, ok_bind]
  dsimp only
  split
  · rfl
  split
  · rfl
  rcases t.argument_cases count (1 + offset) (faces + offset) with
    ⟨_, -, -, hargument⟩ | ⟨argument, hargument⟩
  · rw [hargument]
    rfl
  · rw [hargument, ok_bind, ok_bind, ok_bind, ok_bind, PoolText.compiled_withSign hs]
    rfl

/-- **Compiling a signed chunk.** It is what the chunk without the sign compiles to, or fails for. -/
theorem Term.ofText_before (limits : Limits) {c : Chunk} (h : Chunk.ofText? text = some c)
    (hs : c.sign = .unsigned) (s : Sign) :
    Term.ofText limits (s.before text) =
      ((Term.ofText limits text).map s.apply).mapError (ChunkError.about (s.before text)) := by
  cases c with
  | pool t => exact Term.ofText_before_of_pool limits h hs s
  | constant s' digits =>
    have hsigned := Chunk.ofText?_before h hs s
    obtain rfl : s' = .unsigned := hs
    rw [Term.ofText_of_constant limits h, Term.ofText_of_constant limits hsigned]
    rcases readCount_cases digits with ⟨-, hread⟩ | ⟨-, hread⟩
    · rw [hread]
      rfl
    · rw [hread]
      cases s with
      | unsigned | plus | minus => rfl

namespace Compiler

/--
**Signs only negate.**

Take a chunk that begins with no sign, and the same with a plus and with a minus in front, compiled under the
same limits by any compilers. Either all three fail, and what is said of the first is said of the other two; or
none does. Then a plus makes no difference, and with a minus every source is asked for the same dice and left in
the same state, and what comes out is negated, number by number, or fails as it does without.
-/
theorem signs_only_negate {limits : Limits} {c d e : Compiler} (hc : Reachable limits c)
    (hd : Reachable limits d) (he : Reachable limits e) {text : String} (hchunk : isChunk text = true)
    (hsign : ¬Expression.StartsWithSign text.toList) :
    (∃ error, (c.compileChunk text).1 = .error (.chunk error) ∧
      (d.compileChunk ("+" ++ text)).1 = .error (.chunk (error.about ("+" ++ text))) ∧
      (e.compileChunk ("-" ++ text)).1 = .error (.chunk (error.about ("-" ++ text)))) ∨
    ∃ bare plus minus : Stamped Term, (c.compileChunk text).1 = .ok bare ∧
      (d.compileChunk ("+" ++ text)).1 = .ok plus ∧ (e.compileChunk ("-" ++ text)).1 = .ok minus ∧
      plus.value = bare.value ∧ minus.value = bare.value.negated ∧
      ∀ (σ : Type) (source : Source σ) (state : σ),
        minus.value.roll.run source state = (bare.value.roll.run source state).map Part.negated := by
  obtain ⟨tree, htree⟩ := Option.isSome_iff_exists.mp hchunk
  have hunsigned := Chunk.sign_of_not_startsWithSign htree hsign
  have hplus := Term.ofText_before limits htree hunsigned .plus
  have hminus := Term.ofText_before limits htree hunsigned .minus
  rw [Sign.plus_before] at hplus
  rw [Sign.minus_before] at hminus
  cases hterm : Term.ofText limits text with
  | error error =>
    rw [hterm] at hplus hminus
    exact Or.inl ⟨error, hc.compileChunk_eq_error hterm, hd.compileChunk_eq_error hplus,
      he.compileChunk_eq_error hminus⟩
  | ok term =>
    rw [hterm] at hplus hminus
    obtain ⟨bare, hbare, rfl⟩ := hc.exists_compileChunk_eq_ok hterm
    obtain ⟨plus, hplus, hsame⟩ := hd.exists_compileChunk_eq_ok hplus
    obtain ⟨minus, hminus, hnegated⟩ := he.exists_compileChunk_eq_ok hminus
    refine Or.inr ⟨bare, plus, minus, hbare, hplus, hminus, hsame, hnegated, fun σ source state => ?_⟩
    rw [hnegated]
    exact bare.value.run_negated source state

/-- Three fudge dice, in digits of another script, of which those that show minus one are rolled again: they
still are when the pool has a minus itself. -/
theorem signs_only_negate_fudge :
    let c : Compiler := { owner := 0 }
    let text := "٣dfr-1"
    isChunk text = true ∧ ¬Expression.StartsWithSign text.toList ∧
      ∃ bare plus minus : Stamped Term, (c.compileChunk text).1 = .ok bare ∧
        (c.compileChunk ("+" ++ text)).1 = .ok plus ∧ (c.compileChunk ("-" ++ text)).1 = .ok minus ∧
        bare.value = .pool { count := 3, faces := 3, offset := -2, modifier := some "r", argument := -1 } ∧
        plus.value = bare.value ∧ minus.value = bare.value.negated ∧
        ∀ (σ : Type) (source : Source σ) (state : σ),
          minus.value.roll.run source state = (bare.value.roll.run source state).map Part.negated := by
  intro c text
  have hc : Reachable .standard c := Reachable.init 0
  have hchunk : isChunk text = true := by decide +kernel
  have hsign : ¬Expression.StartsWithSign text.toList := by
    unfold Expression.StartsWithSign
    decide
  have hterm : Term.ofText .standard text =
      .ok (.pool { count := 3, faces := 3, offset := -2, modifier := some "r", argument := -1 }) := by
    decide +kernel
  obtain ⟨made, hmade, hvalue⟩ := hc.exists_compileChunk_eq_ok hterm
  rcases signs_only_negate hc hc hc hchunk hsign with
    ⟨_, hfailed, -⟩ | ⟨bare, plus, minus, hbare, hplus, hminus, hsame, hnegated, hrun⟩
  · rw [hmade] at hfailed
    cases hfailed
  · rw [hmade] at hbare
    cases hbare
    exact ⟨hchunk, hsign, made, plus, minus, hmade, hplus, hminus, hvalue, hsame, hnegated, hrun⟩

end Compiler

end DiceNotation
