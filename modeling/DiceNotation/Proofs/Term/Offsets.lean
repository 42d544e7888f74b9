import DiceNotation.Proofs.Modifier.Moving
import DiceNotation.Proofs.Term.Signs

/-!
# Offsets only move the dice

A pool whose dice are moved by an offset is the pool whose dice are not, with every die that comes out moved in
the end; a face that its modifier picks has to be moved back. So fudge dice are dice with three faces, moved by
minus two, and where a modifier is without an argument this is true of the arguments that it stands for.
-/

namespace DiceNotation

namespace Pool

/-- Whether the pool has a modifier that picks dice by the face they show. -/
def picksFace (p : Pool) : Bool := (p.modifier.bind Modifier.ofToken?).any Modifier.picksFace

/-- The pool whose dice are not moved. An argument that is a face is moved back. -/
def unmoved (p : Pool) : Pool :=
  { p with offset := 0, argument := if p.picksFace then p.argument - p.offset else p.argument }

/-- What the offset adds to the dice that come out: a minus turns it around. -/
def shift (p : Pool) : Int := if p.negative then -p.offset else p.offset

theorem die_eq_moved (p : Pool) : p.die = p.unmoved.die.moved p.offset (· + p.offset) :=
  Roll.die_eq_moved p.faces p.offset

theorem modify_moved (p : Pool) (rolls : List Int) :
    modify p.modifier p.argument p.maxDice p.die (rolls.map (· + p.offset)) =
      (modify p.modifier p.unmoved.argument p.maxDice p.unmoved.die rolls).moved p.offset
        (List.map (· + p.offset)) := by
  have hargument : p.unmoved.argument = if p.picksFace then p.argument - p.offset else p.argument := rfl
  rw [hargument, picksFace]
  unfold modify
  cases p.modifier with
  | none => rfl
  | some token =>
    rw [Option.bind_some]
    dsimp only
    cases Modifier.ofToken? token with
    | none => rfl
    | some m =>
      rw [die_eq_moved]
      exact m.apply_moved p.argument p.maxDice p.unmoved.die rolls

theorem rollUnsigned_eq_moved (p : Pool) :
    p.rollUnsigned = p.unmoved.rollUnsigned.moved p.offset (List.map (· + p.offset)) := by
  have hbase : p.die.times p.count.toNat =
      (p.unmoved.die.times p.count.toNat).moved p.offset (List.map (· + p.offset)) := by
    rw [die_eq_moved]
    exact Roll.times_translate p.unmoved.die p.count.toNat
  show (p.die.times p.count.toNat).bind _ = _
  rw [hbase]
  exact Roll.translate_bind _ fun rolls => p.modify_moved rolls

/-- **A pool of moved dice** rolls as the pool of dice that are not moved, and moves what comes out. -/
theorem roll_eq_moved (p : Pool) : p.roll = p.unmoved.roll.moved p.offset (List.map (· + p.shift)) := by
  rw [roll_eq, roll_eq, rollUnsigned_eq_moved]
  refine Roll.translate_bind _ fun rolls => congrArg Roll.done ?_
  show (if p.negative then (rolls.map (· + p.offset)).map (-·) else rolls.map (· + p.offset)) =
    (if p.negative then rolls.map (-·) else rolls).map (· + p.shift)
  unfold shift
  cases p.negative with
  | false => rfl
  | true =>
    simp only [if_true, List.map_map]
    exact List.map_congr_left fun value _ => Int.neg_add

theorem run_roll_eq_moved (p : Pool) {σ : Type} (source : Source σ) (state : σ) :
    p.roll.run source state =
      (p.unmoved.roll.run source state).translate (List.map (· + p.shift)) (RollError.moved p.offset) := by
  rw [roll_eq_moved]
  exact Roll.run_translate (fun _ => rfl) source _ state

end Pool

/-! ## Arguments that are left out -/

/-- A pool with a modifier, if there is any, that is without an argument. -/
def PoolText.bare (s : Sign) (count : List Char) (f : Faces) (m : Option Modifier) : PoolText :=
  ⟨s, count, f, m.map fun m => ⟨m, .unsigned, []⟩⟩

/-- The argument that it stands for. -/
def bareArgument (m : Option Modifier) (count lowest highest : Int) : Int :=
  m.elim 0 fun m => Modifier.defaultArgument m.token count lowest highest

variable {s : Sign} {count : List Char} {m : Option Modifier} {limits : Limits}

/-- How a pool of dice with three faces compiles, whatever they are moved by. -/
theorem Pool.ofText_of_bare {text : String} {f : Faces} {offset : Int}
    (h : Chunk.ofText? (Text.lowercase text) = some (.pool (.bare s count f m))) (hf : f.resolve = .ok (3, offset)) :
    Pool.ofText limits text = (PoolText.bare s count f m).size >>= fun n =>
      if limits.maxDice < n then .error (.tooManyDice n limits.maxDice)
      else if limits.maxFaces < 3 then .error (.tooManyFaces 3 limits.maxFaces)
      else .ok ((PoolText.bare s count f m).compiled limits n 3 offset
        (bareArgument m n (1 + offset) (3 + offset))) := by
  have hresolve : (PoolText.bare s count f m).faces.resolve = .ok (3, offset) := hf
  have hargument : ∀ n : Nat, (PoolText.bare s count f m).argument n (1 + offset) (3 + offset) =
      .ok (bareArgument m n (1 + offset) (3 + offset)) := by
    intro n
    cases m <;> rfl
  rw [Pool.ofText_of_pool limits h, hresolve]
  congr 1
  funext n
  simp only [ok_bind]
  split
  · rfl
  · split
    · rfl
    · exact congrArg (· >>= _) (hargument n)

/-- The pool of fudge dice that comes out. -/
def PoolText.compiledFudge (limits : Limits) (s : Sign) (count : List Char) (m : Option Modifier) (n : Nat) : Pool :=
  (bare s count .fudge m).compiled limits n 3 (-2) (bareArgument m n (1 + -2) (3 + -2))

/-- Its dice not moved, it is the pool of dice with three faces. -/
theorem PoolText.unmoved_compiledFudge (limits : Limits) (s : Sign) (count : List Char) (m : Option Modifier)
    (n : Nat) : (compiledFudge limits s count m n).unmoved =
      (bare s count (.number ['3']) m).compiled limits n 3 0 (bareArgument m n (1 + 0) (3 + 0)) := by
  cases m with
  | none => rfl
  | some m => cases m <;> rfl

/-- **Fudge dice compile** where dice with three faces do, and fail for the same reasons. -/
theorem Pool.ofText_fudge_cases (limits : Limits) {fudge three : String}
    (hfudge : Chunk.ofText? (Text.lowercase fudge) = some (.pool (.bare s count .fudge m)))
    (hthree : Chunk.ofText? (Text.lowercase three) = some (.pool (.bare s count (.number ['3']) m))) :
    (∃ e, Pool.ofText limits fudge = .error e ∧ Pool.ofText limits three = .error e) ∨
      ∃ n, Pool.ofText limits fudge = .ok (PoolText.compiledFudge limits s count m n) ∧
        Pool.ofText limits three = .ok (PoolText.compiledFudge limits s count m n).unmoved := by
  have hsize : (PoolText.bare s count (.number ['3']) m).size = (PoolText.bare s count .fudge m).size := rfl
  rw [Pool.ofText_of_bare hfudge rfl, Pool.ofText_of_bare hthree rfl, hsize]
  cases (PoolText.bare s count .fudge m).size with
  | error e => exact Or.inl ⟨e, rfl, rfl⟩
  | ok n =>
    rw [ok_bind, ok_bind]
    split
    · exact Or.inl ⟨_, rfl, rfl⟩
    · split
      · exact Or.inl ⟨_, rfl, rfl⟩
      · exact Or.inr ⟨n, rfl, congrArg Except.ok (PoolText.unmoved_compiledFudge limits s count m n).symm⟩

/-- What is a pool in lower case is no constant. -/
theorem Term.ofText_of_lowercase (limits : Limits) {text : String} {t : PoolText}
    (h : Chunk.ofText? (Text.lowercase text) = some (.pool t)) :
    Term.ofText limits text = Pool.ofText limits text >>= fun p => .ok (.pool p) := by
  refine Term.ofText_of_not_constant limits fun s digits hconstant => ?_
  rw [Chunk.ofText?_lowercase hconstant] at h
  cases h

namespace Compiler

/--
**Offsets only move the dice.**

On every source, any pool asks for the same dice as the pool without its offset, whose argument is moved back
if its modifier picks dice by face. It leaves the source in the same state, and it fails with the same message or
comes to the same dice, each of them moved.

A chunk with fudge dice, a sign or none, any count, and a modifier without an argument or none, compiles under
the same limits as the chunk with three-faced dice in their place, and fails for the same reason. If it does not
fail, its argument is the other one moved by minus two where it is a face, and the same where it is a number of
dice; so its dice are the others, moved by minus two.
-/
theorem offset_only_moves :
    (∀ (p : Pool) (σ : Type) (source : Source σ) (state : σ),
      p.roll.run source state =
        (p.unmoved.roll.run source state).translate (List.map (· + p.shift)) (RollError.moved p.offset)) ∧
    (∀ (offset : Int) (e : RollError), (e.moved offset).message = e.message) ∧
    ∀ (limits : Limits) (c d : Compiler), Reachable limits c → Reachable limits d →
      ∀ (s : Sign) (count : List Char) (m : Option Modifier) (fudge three : String),
        Chunk.ofText? (Text.lowercase fudge) = some (.pool (.bare s count .fudge m)) →
        Chunk.ofText? (Text.lowercase three) = some (.pool (.bare s count (.number ['3']) m)) →
        (∃ error, (c.compileChunk fudge).1 = .error (.chunk error) ∧
          (d.compileChunk three).1 = .error (.chunk error)) ∨
        ∃ (made other : Stamped Term) (p q : Pool), (c.compileChunk fudge).1 = .ok made ∧
          (d.compileChunk three).1 = .ok other ∧ made.value = .pool p ∧ other.value = .pool q ∧
          p.modifier = m.map Modifier.token ∧ p.faces = 3 ∧ p.offset = -2 ∧ q = p.unmoved ∧
          p.argument = (if p.picksFace then q.argument + -2 else q.argument) ∧
          ∀ (σ : Type) (source : Source σ) (state : σ),
            p.roll.run source state = (q.roll.run source state).translate
              (List.map (· + if p.negative then 2 else -2)) (RollError.moved (-2)) := by
  refine ⟨fun p σ source state => p.run_roll_eq_moved source state, RollError.message_moved, ?_⟩
  intro limits c d hc hd s count m fudge three hfudge hthree
  have htermf := Term.ofText_of_lowercase limits hfudge
  have hterm3 := Term.ofText_of_lowercase limits hthree
  rcases Pool.ofText_fudge_cases limits hfudge hthree with ⟨error, hf, h3⟩ | ⟨n, hf, h3⟩
  · rw [hf, error_bind] at htermf
    rw [h3, error_bind] at hterm3
    exact Or.inl ⟨error, hc.compileChunk_eq_error htermf, hd.compileChunk_eq_error hterm3⟩
  · rw [hf, ok_bind] at htermf
    rw [h3, ok_bind] at hterm3
    obtain ⟨made, hmade, hvalue⟩ := hc.exists_compileChunk_eq_ok htermf
    obtain ⟨other, hother, hvalue'⟩ := hd.exists_compileChunk_eq_ok hterm3
    let p := PoolText.compiledFudge limits s count m n
    have hmodifier : p.modifier = m.map Modifier.token := by
      cases m <;> rfl
    have hargument : p.argument = if p.picksFace then p.unmoved.argument + -2 else p.unmoved.argument := by
      show p.argument = if p.picksFace then (if p.picksFace then p.argument - -2 else p.argument) + -2
        else if p.picksFace then p.argument - -2 else p.argument
      split
      · omega
      · rfl
    exact Or.inr ⟨made, other, p, p.unmoved, hmade, hother, hvalue, hvalue', hmodifier, rfl, rfl, rfl, hargument,
      fun σ source state => p.run_roll_eq_moved source state⟩

/-- Four fudge dice that count against a total explode on one, where dice with three faces explode on three. -/
theorem offset_only_moves_explosion :
    let c : Compiler := { owner := 0 }
    Reachable .standard c ∧
      Chunk.ofText? (Text.lowercase "-4DF!") = some (.pool (.bare .minus ['4'] .fudge (some .explode))) ∧
      Chunk.ofText? (Text.lowercase "-4d3!") = some (.pool (.bare .minus ['4'] (.number ['3']) (some .explode))) ∧
      ∃ (made other : Stamped Term) (p q : Pool), (c.compileChunk "-4DF!").1 = .ok made ∧
        (c.compileChunk "-4d3!").1 = .ok other ∧ made.value = .pool p ∧ other.value = .pool q ∧
        p.argument = 1 ∧ q.argument = 3 ∧
        ∀ (σ : Type) (source : Source σ) (state : σ),
          p.roll.run source state =
            (q.roll.run source state).translate (List.map (· + 2)) (RollError.moved (-2)) := by
  intro c
  have hc : Reachable .standard c := .init 0
  have hfudge : Chunk.ofText? (Text.lowercase "-4DF!") = some (.pool (.bare .minus ['4'] .fudge (some .explode))) := by
    decide +kernel
  have hthree : Chunk.ofText? (Text.lowercase "-4d3!") =
      some (.pool (.bare .minus ['4'] (.number ['3']) (some .explode))) := by
    decide +kernel
  have hterm : Term.ofText .standard "-4DF!" = .ok
      (.pool { count := 4, faces := 3, offset := -2, negative := true, modifier := some "!", argument := 1 }) := by
    decide +kernel
  obtain ⟨found, hfound, hvalue⟩ := hc.exists_compileChunk_eq_ok hterm
  rcases offset_only_moves.2.2 .standard c c hc hc .minus ['4'] (some .explode) "-4DF!" "-4d3!" hfudge hthree with
    ⟨_, hfailed, -⟩ | ⟨made, other, p, q, hmade, hother, hp, hq, -, -, -, rfl, -, hrun⟩
  · rw [hfound] at hfailed
    cases hfailed
  · obtain rfl : found = made := Except.ok.inj (hfound.symm.trans hmade)
    obtain rfl := Term.pool.inj (hvalue.symm.trans hp)
    exact ⟨hc, hfudge, hthree, found, other, _, _, hmade, hother, hp, hq, rfl, rfl, hrun⟩

end Compiler

end DiceNotation
