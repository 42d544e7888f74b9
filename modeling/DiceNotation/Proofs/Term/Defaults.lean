import DiceNotation.Proofs.Modifier.Picking
import DiceNotation.Proofs.Program.Single
import DiceNotation.Proofs.Roll.InTurn
import DiceNotation.Proofs.Term.Rolling

/-!
# Keeps and drops without an argument

Keeps and drops without an argument pick one die, unless there is one die only: then they pick none, so that
a keep leaves nothing, and a drop all. Each of them always has the total of the same modifier with the number
written out, and of the opposite one with the number of the other dice, on every source.
-/

namespace DiceNotation

namespace PoolText

/-- The pool with a modifier that picks a number of dice, the number in digits. Without digits the modifier is
without an argument. -/
def picking (t : PoolText) (m : Modifier) (digits : List Char) : PoolText :=
  { t with modifier := some ⟨m, .unsigned, digits⟩ }

/-- Rolled by themselves, under limits that they fit, two pools have the same total whatever the dice show. -/
def SameTotal (limits : Limits) (t u : PoolText) : Prop :=
  ∀ c d, Compiler.Reachable limits c → Compiler.Reachable limits d →
    (Chunk.pool t).FitsAlone limits → (Chunk.pool u).FitsAlone limits →
    ∃ e f, (c.compile (.text (Chunk.pool t).text)).1 = .ok e ∧
      (d.compile (.text (Chunk.pool u).text)).1 = .ok f ∧
      ∀ (σ : Type) (source : Source σ) (state : σ),
        (e.value.roll.run source state).map total = (f.value.roll.run source state).map total

/-- Keeps and drops on a pool pick `n` dice when they are without an argument. -/
structure PicksByDefault (limits : Limits) (t : PoolText) (n : Nat) : Prop where
  /-- They have the total that they have with the argument `n`. -/
  explicit : ∀ m digits, m.picksFace = false → digits ≠ [] → Text.digitsValue digits = n →
    SameTotal limits (t.picking m []) (t.picking m digits)
  /-- They have the total of the opposite modifier with the number of the other dice. -/
  opposite : ∀ m digits, m.picksFace = false → digits ≠ [] → Text.digitsValue digits = t.dice - n →
    SameTotal limits (t.picking m []) (t.picking m.opposite digits)
  /-- Keeps leave `n` dice. -/
  keeps : ∀ m c, m = .keepHighest ∨ m = .keepLowest → Compiler.Reachable limits c →
    (Chunk.pool (t.picking m [])).FitsAlone limits →
    ∃ e, (c.compile (.text (Chunk.pool (t.picking m [])).text)).1 = .ok e ∧
      ∀ (σ : Type) (source : Source σ) (state : σ) (parts : List Part),
        (e.value.roll.run source state).outcome = .ok parts →
        ∃ values, parts = [.dice values] ∧ values.length = n

/-! ## Arguments -/

theorem defaultArgument_of_picks {m : Modifier} (h : m.picksFace = false) (count lowest highest : Int) :
    Modifier.defaultArgument m.token count lowest highest = min 1 (count - 1) := by
  cases m with
  | reroll | twice | explode => cases h
  | keepHighest | keepLowest | dropHighest | dropLowest => rfl

theorem argumentValue_picking_nil (t : PoolText) {m : Modifier} (h : m.picksFace = false) :
    (t.picking m []).argumentValue.toNat = min 1 (t.dice - 1) := by
  have hargument : (t.picking m []).argumentValue = min 1 ((t.dice : Int) - 1) :=
    defaultArgument_of_picks h _ _ _
  rw [hargument]
  omega

theorem argumentValue_picking (t : PoolText) (m : Modifier) {digits : List Char} (h : digits ≠ []) :
    (t.picking m digits).argumentValue.toNat = Text.digitsValue digits := by
  have hargument : (t.picking m digits).argumentValue = (Text.digitsValue digits : Int) := if_neg h
  rw [hargument, Int.toNat_natCast]

/-! ## Rolls -/

/-- The dice with the sign of the pool. -/
def signed (t : PoolText) (values : List Int) : List Int :=
  if t.sign = .minus then values.map (-·) else values

/-- The dice of the pool before the modifier. -/
def rollBase (t : PoolText) : Roll (List Int) := (Roll.die t.faces.size t.faces.shift).times t.dice

theorem rollBase_gives (t : PoolText) : t.rollBase.Gives (fun _ _ => True) (List.replicate t.dice t.faces.size)
    fun base => base.length = t.dice ∧ ∀ value ∈ base, True :=
  Roll.times_gives (Roll.die_gives (fun _ _ => True) _ _) t.dice

/-- The dice are rolled, and those are left that the modifier picks. -/
def rollPicked (t : PoolText) (m : Modifier) (n : Nat) : Roll Part :=
  t.rollBase.bind fun base => .done (.dice (t.signed (m.picked n base)))

theorem roll_picking (limits : Limits) (t : PoolText) {m : Modifier} (h : m.picksFace = false)
    (digits : List Char) : ((Chunk.pool (t.picking m digits)).term limits).roll =
      t.rollPicked m (t.picking m digits).argumentValue.toNat := by
  let p := (t.picking m digits).pool limits
  have hbase : p.die.times p.count.toNat = t.rollBase := rfl
  have hsign : ∀ values, (if p.negative then values.map (-·) else values) = t.signed values := by
    intro values
    show (if t.sign == .minus then values.map (-·) else values) = t.signed values
    simp [signed]
  have hunsigned : p.rollUnsigned = t.rollBase.bind fun base =>
      .done (m.picked (t.picking m digits).argumentValue.toNat base) := by
    show (p.die.times p.count.toNat).bind _ = _
    rw [hbase]
    congr 1
    funext base
    exact Modifier.modify_token h _ _ _ base
  show p.roll.bind (fun values => .done (Part.dice values)) = _
  rw [Pool.roll_eq, hunsigned]
  simp only [Roll.bind_assoc, Roll.done_bind, hsign]
  rfl

/-- A total does not depend on the order of the dice. -/
theorem total_eq_of_perm {values others : List Int} (h : values.Perm others) :
    total [.dice values] = total [.dice others] := by
  have hadd : LeftCommutative fun a b : Int => a + b := ⟨Int.add_left_comm⟩
  simp only [total, flatten, Part.values, List.flatMap_singleton]
  exact h.foldr_eq 0

/-- The total of the picked dice is that of those that the opposite modifier picks. -/
theorem rollPicked_opposite (t : PoolText) {m : Modifier} (h : m.picksFace = false) (n : Nat) :
    (t.rollPicked m n).bind (fun part => .done (total [part])) =
      (t.rollPicked m.opposite (t.dice - n)).bind fun part => .done (total [part]) := by
  simp only [rollPicked, Roll.bind_assoc, Roll.done_bind]
  refine t.rollBase_gives.bind_congr fun _ base hbase => ?_
  obtain ⟨-, _, heq, hlength, -⟩ := hbase
  cases heq
  have hperm : (m.opposite.picked (t.dice - n) base).Perm (m.picked n base) := by
    rw [← hlength, Modifier.picked_opposite h]
    exact List.reverse_perm _
  have hsigned : (t.signed (m.opposite.picked (t.dice - n) base)).Perm (t.signed (m.picked n base)) := by
    unfold signed
    split
    · exact hperm.map _
    · exact hperm
  rw [total_eq_of_perm hsigned]

theorem length_signed (t : PoolText) (values : List Int) : (t.signed values).length = values.length := by
  unfold signed
  split
  · exact List.length_map _
  · rfl

/-- A keep leaves so many dice as it says, whatever they show. -/
theorem rollPicked_gives_of_keep (t : PoolText) {m : Modifier} (hm : m = .keepHighest ∨ m = .keepLowest) {n : Nat}
    (hn : n ≤ t.dice) : (t.rollPicked m n).Gives (fun _ _ => True) (List.replicate t.dice t.faces.size)
      fun part => ∃ values, part = .dice values ∧ values.length = n := by
  refine t.rollBase_gives.map fun base hbase => ⟨_, rfl, ?_⟩
  rw [length_signed]
  exact Modifier.length_picked_of_keep hm (hbase.1.symm ▸ hn)

/-! ## Totals -/

theorem SameTotal.of_roll {limits : Limits} {t u : PoolText}
    (h : ((Chunk.pool t).term limits).roll.bind (fun part => .done (total [part])) =
      ((Chunk.pool u).term limits).roll.bind fun part => .done (total [part])) : SameTotal limits t u := by
  intro c d hc hd ht hu
  obtain ⟨e, he, hrolle⟩ := hc.exists_compile_text ht
  obtain ⟨f, hf, hrollf⟩ := hd.exists_compile_text hu
  refine ⟨e, f, he, hf, fun σ source state => ?_⟩
  rw [← Roll.run_bind_done, ← Roll.run_bind_done, hrolle, hrollf]
  simp only [Roll.bind_assoc, Roll.done_bind]
  rw [h]

/--
**Keeps and drops pick one die without an argument, or none of one.**

Let a pool have `n` dice of any kind. A keep or a drop on it without an argument has on every source the same
total as with the argument `min 1 (n - 1)`, and as its opposite with the rest of `n`. A keep leaves as many
dice as this says.
-/
theorem picksByDefault (limits : Limits) (t : PoolText) : t.PicksByDefault limits (min 1 (t.dice - 1)) where
  explicit := by
    intro m digits hm hne hvalue
    refine SameTotal.of_roll ?_
    rw [roll_picking limits t hm, roll_picking limits t hm, argumentValue_picking_nil t hm,
      argumentValue_picking t m hne, hvalue]
  opposite := by
    intro m digits hm hne hvalue
    have hopposite : m.opposite.picksFace = false := m.picksFace_opposite.trans hm
    refine SameTotal.of_roll ?_
    rw [roll_picking limits t hm, roll_picking limits t hopposite, argumentValue_picking_nil t hm,
      argumentValue_picking t m.opposite hne, hvalue]
    exact t.rollPicked_opposite hm _
  keeps := by
    intro m c hm hc hfits
    have hpicks : m.picksFace = false := by
      rcases hm with rfl | rfl
      · rfl
      · rfl
    obtain ⟨e, he, hroll⟩ := hc.exists_compile_text hfits
    refine ⟨e, he, fun σ source state parts hparts => ?_⟩
    rw [hroll, roll_picking limits t hpicks, argumentValue_picking_nil t hpicks] at hparts
    obtain ⟨part, hpart, rfl⟩ := Roll.run_map_eq_ok hparts
    have hkeeps := t.rollPicked_gives_of_keep hm (by omega : min 1 (t.dice - 1) ≤ t.dice)
    obtain ⟨-, _, heq, values, hvalues, hlength⟩ := hkeeps.run_ok (fun _ _ _ _ _ => trivial) hpart
    cases heq
    exact ⟨values, by rw [hvalues], hlength⟩

/-- To keep the highest one of four dice is to drop the lowest three. -/
theorem picksByDefault_four :
    let c : Compiler := { owner := 0 }
    let t : PoolText := ⟨.unsigned, ['4'], .number ['6'], none⟩
    (Chunk.pool (t.picking .keepHighest [])).text = "4d6kh" ∧
      (Chunk.pool (t.picking .dropLowest ['3'])).text = "4d6dl3" ∧
      ∃ e f, (c.compile (.text "4d6kh")).1 = .ok e ∧ (c.compile (.text "4d6dl3")).1 = .ok f ∧
        ∀ (σ : Type) (source : Source σ) (state : σ),
          (e.value.roll.run source state).map total = (f.value.roll.run source state).map total := by
  intro c t
  have hc : Compiler.Reachable .standard c := .init 0
  have hkeep : (Chunk.pool (t.picking .keepHighest [])).FitsAlone .standard :=
    Chunk.fitsAlone_pool (by decide +kernel) (by decide) (by decide) (by decide)
  have hdrop : (Chunk.pool (t.picking .dropLowest ['3'])).FitsAlone .standard :=
    Chunk.fitsAlone_pool (by decide +kernel) (by decide) (by decide) (by decide)
  have hsame := (picksByDefault .standard t).opposite .keepHighest ['3'] rfl (by decide) (by decide)
  exact ⟨rfl, rfl, hsame c c hc hc hkeep hdrop⟩

/-- They do not always pick one die: of a single die that shows three, the keep without an argument leaves
nothing, and the one with the argument one the die. -/
theorem not_picksByDefault_one :
    ¬ ∀ (limits : Limits) (t : PoolText), 1 ≤ t.dice → t.PicksByDefault limits 1 := by
  intro hall
  let t : PoolText := ⟨.unsigned, ['1'], .number ['6'], none⟩
  let c : Compiler := { owner := 0 }
  have hc : Compiler.Reachable .standard c := .init 0
  have hbare : (Chunk.pool (t.picking .keepHighest [])).FitsAlone .standard :=
    Chunk.fitsAlone_pool (by decide +kernel) (by decide) (by decide) (by decide)
  have hone : (Chunk.pool (t.picking .keepHighest ['1'])).FitsAlone .standard :=
    Chunk.fitsAlone_pool (by decide +kernel) (by decide) (by decide) (by decide)
  have hsame := (hall .standard t (by decide)).explicit .keepHighest ['1'] rfl (by decide) (by decide)
  obtain ⟨e, f, he, hf, hrun⟩ := hsame c c hc hc hbare hone
  obtain ⟨e', he', hrolle⟩ := hc.exists_compile_text hbare
  obtain ⟨f', hf', hrollf⟩ := hc.exists_compile_text hone
  obtain rfl : e = e' := Except.ok.inj (he.symm.trans he')
  obtain rfl : f = f' := Except.ok.inj (hf.symm.trans hf')
  have htotals := congrArg Report.outcome (hrun Unit (fun _ state => (.ok 3, state)) ())
  rw [hrolle, hrollf] at htotals
  exact absurd htotals (by decide +kernel)

end PoolText

end DiceNotation
