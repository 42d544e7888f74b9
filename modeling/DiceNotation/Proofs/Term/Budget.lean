import DiceNotation.Proofs.Term.Compiled
import DiceNotation.Proofs.Term.Rolling

/-!
# How many dice a chunk may roll

A compiled pool has no more dice than allowed. Keeps, drops and doublings roll none beside them, and
explosions are stopped before they would roll more than allowed. Rerolls are not held to the limit: where
all dice of the pool show the face that is rolled again, the pool is rolled twice over.
-/

namespace DiceNotation

namespace Pool

variable {limits : Limits} {p : Pool}

/-- The most dice that a compiled pool may roll. -/
def mostCalls (p : Pool) (limits : Limits) : Nat :=
  if p.modifier = some Modifier.reroll.token then 2 * limits.maxDice else limits.maxDice

theorem mostExtra_of_none (h : p.modifier = none) : p.mostExtra = 0 := by
  rw [mostExtra, h]
  rfl

theorem mostExtra_of_token {m : Modifier} (h : p.modifier = some m.token) :
    p.mostExtra = m.mostExtra p.maxDice p.count.toNat := by
  rw [mostExtra, h, Option.bind_some, Modifier.ofToken?_token]
  rfl

theorem mostCalls_of_none (h : p.modifier = none) : p.mostCalls limits = limits.maxDice := by
  rw [mostCalls, h, if_neg (by simp)]

theorem mostCalls_of_token {m : Modifier} (h : p.modifier = some m.token) :
    p.mostCalls limits = if m = .reroll then 2 * limits.maxDice else limits.maxDice := by
  rw [mostCalls, h]
  cases m <;> rfl

/-- The dice of a pool and those rolled beside them are not more than it may roll. -/
theorem WellFormed.count_add_mostExtra_le (h : p.WellFormed limits) :
    p.count.toNat + p.mostExtra ≤ p.mostCalls limits := by
  have hcount : p.count.toNat ≤ limits.maxDice := Int.toNat_le.mpr h.countLe
  cases hmodifier : p.modifier with
  | none => rwa [mostExtra_of_none hmodifier, mostCalls_of_none hmodifier]
  | some token =>
    obtain ⟨m, -, rfl⟩ := List.mem_map.mp (h.modifier token hmodifier)
    rw [mostExtra_of_token hmodifier, mostCalls_of_token hmodifier, h.maxDice]
    cases m with
    | reroll =>
      show p.count.toNat + p.count.toNat ≤ 2 * limits.maxDice
      omega
    | explode =>
      show p.count.toNat + ((limits.maxDice : Int) - p.count.toNat).toNat ≤ limits.maxDice
      omega
    | twice | keepHighest | keepLowest | dropHighest | dropLowest => exact hcount

end Pool

/--
**The roll budget.**

Whatever a source shows, and whether the roll goes well or not, a compiled pool asks for at most as many
dice as allowed, or for twice as many if it rerolls. Where it is stopped by the limit it is a pool that
explodes; the dice that have been rolled are within the limit, and with those that wait they are not.
-/
theorem Term.calls_le_mostCalls {limits : Limits} {chunk : String} {p : Pool}
    (h : Term.ofText limits chunk = .ok (.pool p)) {σ : Type} (source : Source σ) (state : σ) :
    ((Term.pool p).roll.run source state).calls.length ≤ p.mostCalls limits ∧
    ∀ face size waiting limit,
      ((Term.pool p).roll.run source state).outcome = .error (.limitExceeded face size waiting limit) →
        p.modifier = some Modifier.explode.token ∧ limit = limits.maxDice ∧
          ((Term.pool p).roll.run source state).calls.length = size ∧ limits.maxDice < size + waiting := by
  have hwellFormed : p.WellFormed limits := Term.wellFormed_of_ofText h
  obtain ⟨more, outcome, hend, hrun⟩ := Term.run_pool_ends hwellFormed.modifier source state
  obtain ⟨extra, hextra, hcalls, hend⟩ := hend
  have hlength := congrArg List.length hcalls
  rw [List.length_append, List.length_replicate] at hlength
  constructor
  · have hmost := hwellFormed.count_add_mostExtra_le
    omega
  · intro face size waiting limit hstopped
    rcases hrun with ⟨rfl, heq⟩ | ⟨failure, hfailed, -⟩
    · rw [hstopped] at heq
      subst heq
      obtain ⟨hmodifier, stillWaiting, he, hover⟩ := hend
      rw [hwellFormed.maxDice] at he hover
      cases he
      rw [List.length_nil, Nat.add_zero] at hlength
      exact ⟨hmodifier, rfl, hlength, by omega⟩
    · rw [hstopped] at hfailed
      cases hfailed

/-- Three dice that all show their highest face explode where two more are allowed. -/
theorem Term.calls_le_mostCalls_explosion : ∃ (p : Pool) (source : Source Unit),
    Term.ofText { maxDice := 5 } "3d6!" = .ok (.pool p) ∧
      ((Term.pool p).roll.run source ()).outcome = .error (.limitExceeded 6 3 3 5) ∧
      ((Term.pool p).roll.run source ()).calls.length ≤ p.mostCalls { maxDice := 5 } ∧
      ((Term.pool p).roll.run source ()).calls.length = 3 ∧ 5 < 3 + 3 := by
  let p : Pool := { count := 3, faces := 6, modifier := some "!", argument := 6, maxDice := 5 }
  let source : Source Unit := fun _ state => (.ok 6, state)
  have hterm : Term.ofText { maxDice := 5 } "3d6!" = .ok (.pool p) := by decide +kernel
  have houtcome : ((Term.pool p).roll.run source ()).outcome = .error (.limitExceeded 6 3 3 5) := by
    decide +kernel
  obtain ⟨hcalls, hstopped⟩ := Term.calls_le_mostCalls hterm source ()
  obtain ⟨-, -, hsize, hover⟩ := hstopped 6 3 3 5 houtcome
  exact ⟨p, source, hterm, houtcome, hcalls, hsize, hover⟩

/-! ## Pools rolled twice over -/

/-- If all dice show the face that is rolled again, all dice are rolled again. -/
theorem rerollOnce_gives_of_all {shows : Int → Int → Prop} {again : Roll Int} {faces face : Int} {n : Nat}
    (h : again.Gives shows [faces] (· = face)) :
    ((again.times n).bind (rerollOnce face again)).Gives shows (List.replicate (n + n) faces) fun values =>
      values = List.replicate n face := by
  rw [← List.replicate_append_replicate]
  refine (Roll.times_gives h n).bind fun rolls hrolls => ?_
  obtain ⟨rfl, hall⟩ := hrolls
  have hrerolled := rerollOnce_gives h face hall
  rw [List.count_eq_length.mpr fun value hvalue => (hall value hvalue).symm] at hrerolled
  refine hrerolled.imp fun calls outcome hend => ?_
  obtain ⟨hcalls, values, houtcome, hlength, hvalues⟩ := hend
  exact ⟨hcalls, values, houtcome, List.eq_replicate_iff.mpr ⟨hlength, hvalues⟩⟩

/-- The dice of a pool that is rolled twice over. -/
def Pool.allMatching (p : Pool) : List Int :=
  List.replicate p.count.toNat (if p.negative then -p.argument else p.argument)

theorem Term.roll_gives_of_reroll {p : Pool} (h : p.modifier = some Modifier.reroll.token) :
    (Term.pool p).roll.Gives (fun faces value => faces = p.faces → value = p.argument - p.offset)
      (List.replicate (p.count.toNat + p.count.toNat) p.faces) fun part => part = .dice p.allMatching := by
  have hdie : p.die.Gives (fun faces value => faces = p.faces → value = p.argument - p.offset) [p.faces]
      (· = p.argument) := by
    refine (Roll.die_gives _ p.faces p.offset).imp fun calls outcome hend => ?_
    obtain ⟨hcalls, value, houtcome, hvalue⟩ := hend
    have hshown := hvalue rfl
    exact ⟨hcalls, value, houtcome, by omega⟩
  have hunsigned : p.rollUnsigned = (p.die.times p.count.toNat).bind (rerollOnce p.argument p.die) := by
    rw [Pool.rollUnsigned, h]
    rfl
  have hroll : p.roll.Gives (fun faces value => faces = p.faces → value = p.argument - p.offset)
      (List.replicate (p.count.toNat + p.count.toNat) p.faces) (· = p.allMatching) := by
    rw [Pool.roll, hunsigned]
    refine (rerollOnce_gives_of_all hdie).map fun values hvalues => ?_
    rw [hvalues, Pool.allMatching]
    cases p.negative with
    | false => rfl
    | true => exact List.map_replicate
  exact hroll.map fun values hvalues => congrArg Part.dice hvalues

/-- **Rerolls are not held to the limit.** On a source that always shows the face that is rolled again a
pool asks for twice as many dice as it has, and all goes well. -/
theorem Term.run_of_reroll {p : Pool} (h : p.modifier = some Modifier.reroll.token) {σ : Type}
    {source : Source σ}
    (hsource : ∀ state, ∃ left, source p.faces state = (.ok (p.argument - p.offset), left)) (state : σ) :
    ((Term.pool p).roll.run source state).calls = List.replicate (p.count.toNat + p.count.toNat) p.faces ∧
      ((Term.pool p).roll.run source state).outcome = .ok (.dice p.allMatching) := by
  obtain ⟨more, outcome, hend, hrun⟩ := (Term.roll_gives_of_reroll h).run source (by
      rintro _ left value after hanswer rfl
      obtain ⟨_, hargument⟩ := hsource left
      rw [hargument] at hanswer
      cases hanswer
      rfl)
    (fun _ => ⟨_, fun _ => rfl⟩) state
  obtain ⟨hcalls, _, rfl, rfl⟩ := hend
  rcases hrun with ⟨rfl, houtcome⟩ | ⟨failure, -, faces, hfaces, left, hfailed⟩
  · rw [List.append_nil] at hcalls
    exact ⟨hcalls, houtcome⟩
  · -- the source answers for every die of the pool
    have hmem := List.mem_append_left more hfaces
    rw [hcalls] at hmem
    obtain ⟨_, hanswer⟩ := hsource left
    rw [List.eq_of_mem_replicate hmem, hanswer] at hfailed
    cases hfailed

/-- A source whose dice show one of their faces. -/
def Source.ShowsFaces {σ : Type} (source : Source σ) : Prop :=
  ∀ faces state value left, source faces state = (.ok value, left) → 1 ≤ value ∧ value ≤ faces

/-- The source whose dice always show their first face. -/
def Source.firstFace : Source Unit := fun faces state =>
  if 1 ≤ faces then (.ok 1, state) else (.error (.emptyRange faces), state)

theorem Source.firstFace_showsFaces : firstFace.ShowsFaces := by
  intro faces state value left h
  unfold firstFace at h
  split at h
  · cases h
    omega
  · cases h

/-- The limit on the dice of a chunk is no bound on the dice that it rolls: of two dice that show ones and
are rolled again there come four, where two are allowed. -/
theorem Term.not_calls_le_maxDice :
    ¬ ∀ (limits : Limits) (chunk : String) (p : Pool), Term.ofText limits chunk = .ok (.pool p) →
      ∀ (σ : Type) (source : Source σ), source.ShowsFaces → ∀ state,
        ((Term.pool p).roll.run source state).calls.length ≤ limits.maxDice := by
  intro hall
  have hterm : Term.ofText { maxDice := 2 } "2d6r" =
      .ok (.pool { count := 2, faces := 6, modifier := some "r", argument := 1, maxDice := 2 }) := by
    decide +kernel
  have hcalls := hall _ _ _ hterm Unit Source.firstFace Source.firstFace_showsFaces ()
  rw [(Term.run_of_reroll rfl (fun state => ⟨state, rfl⟩) ()).1] at hcalls
  exact absurd hcalls (by decide)

end DiceNotation
