import DiceNotation.Proofs.Explosion.Settling
import DiceNotation.Proofs.Modifier.Picking
import DiceNotation.Proofs.Roll.Endings
import DiceNotation.Term

/-!
# What pools ask for

A pool asks only for dice with its own faces: first for as many as it has, then for those that its
modifier rolls beside them. Rerolls add at most as many dice as there were, explosions at most as many as
the limit leaves room for, and the other modifiers add none. Only explosions stop a roll, and they do so
where the dice that have been rolled and those that explode are more than the limit.

For every function that rolls dice there is one statement, of all the ways in which it can end. `good` is
any property that a single die of the pool always has; all dice that come out have it too.
-/

namespace DiceNotation

variable {shows : Int → Int → Prop} {again : Roll Int} {faces : Int} {good : Int → Prop}

namespace Roll

theorem die_gives (shows : Int → Int → Prop) (faces offset : Int) :
    (die faces offset).Gives shows [faces] fun value => shows faces (value - offset) := by
  intro value hvalue
  refine ⟨rfl, value + offset, rfl, ?_⟩
  show shows faces (value + offset - offset)
  rwa [Int.add_sub_cancel]

theorem times_gives {r : Roll Int} (h : r.Gives shows [faces] good) (n : Nat) :
    (r.times n).Gives shows (List.replicate n faces) fun values =>
      values.length = n ∧ ∀ value ∈ values, good value := by
  have hall : ∀ a ∈ List.range n, r.Gives shows [faces] good := fun _ _ => h
  have hcalls : (List.range n).flatMap (fun _ => [faces]) = List.replicate n faces := by
    rw [← List.map_eq_flatMap, List.map_const', List.length_range]
  rw [times, ← hcalls]
  refine Ends.imp (mapEach_gives_of_forall hall) ?_
  intro calls outcome hend
  rwa [List.length_range] at hend

end Roll

/-! ## Rerolls -/

theorem flatMap_ite_singleton (rolls : List Int) (face faces : Int) :
    rolls.flatMap (fun value => if value = face then [faces] else []) =
      List.replicate (rolls.count face) faces := by
  induction rolls with
  | nil => rfl
  | cons value rest ih =>
    rw [List.flatMap_cons, ih, List.count_cons]
    by_cases h : value = face
    · simp [h, List.replicate_succ]
    · simp [h]

theorem rerollOnce_gives (h : again.Gives shows [faces] good) (face : Int) {rolls : List Int}
    (hrolls : ∀ value ∈ rolls, good value) :
    (rerollOnce face again rolls).Gives shows (List.replicate (rolls.count face) faces) fun values =>
      values.length = rolls.length ∧ ∀ value ∈ values, good value := by
  rw [rerollOnce, ← flatMap_ite_singleton]
  apply Roll.mapEach_gives_of_forall
  intro value hvalue
  by_cases hface : value = face
  · rw [if_pos hface, if_pos hface]
    exact h
  · rw [if_neg hface, if_neg hface]
    exact Roll.Gives.done (hrolls value hvalue)

/-! ## Explosions -/

namespace Explosion

theorem pending_cons_of_explodes {face : Int} {d : PoolDie} (h : d.explodes face = true)
    (pool : List PoolDie) : pending face (d :: pool) = pending face pool + 1 :=
  List.countP_cons_of_pos h

theorem pending_cons_of_not_explodes {face : Int} {d : PoolDie} (h : d.explodes face = false)
    (pool : List PoolDie) : pending face (d :: pool) = pending face pool :=
  List.countP_cons_of_neg (Bool.eq_false_iff.mp h)

/-- A generation rolls a die for each one that explodes, and adds it to the pool. The dice that were there
stay in their order. -/
theorem generation_gives (h : again.Gives shows [faces] good) (face : Int) {pool : List PoolDie}
    (hpool : ∀ d ∈ pool, good d.value) :
    (generation face again pool).Gives shows (List.replicate (pending face pool) faces) fun next =>
      next.length = pool.length + pending face pool ∧
        (pool.map (·.value)).Sublist (next.map (·.value)) ∧ ∀ d ∈ next, good d.value := by
  induction pool with
  | nil => exact Roll.Gives.done ⟨rfl, .slnil, List.forall_mem_nil _⟩
  | cons d pool ih =>
    have hd := hpool d List.mem_cons_self
    have hrest := ih fun e he => hpool e (List.mem_cons_of_mem d he)
    rw [generation_cons]
    cases hexplodes : d.explodes face with
    | false =>
      rw [successors_of_not_explodes hexplodes, pending_cons_of_not_explodes hexplodes, Roll.done_bind]
      refine hrest.map fun next hnext => ?_
      obtain ⟨hlength, hsublist, hgood⟩ := hnext
      refine ⟨?_, hsublist.cons_cons d.value, List.forall_mem_cons.mpr ⟨hd, hgood⟩⟩
      rw [List.singleton_append, List.length_cons, List.length_cons, hlength]
      omega
    | true =>
      rw [successors_of_explodes hexplodes, pending_cons_of_explodes hexplodes, Roll.bind_assoc,
        List.replicate_succ, ← List.singleton_append]
      refine h.bind fun value hvalue => ?_
      rw [Roll.done_bind]
      refine hrest.map fun next hnext => ?_
      obtain ⟨hlength, hsublist, hgood⟩ := hnext
      refine ⟨?_, (hsublist.cons value).cons_cons d.value,
        List.forall_mem_cons.mpr ⟨hd, List.forall_mem_cons.mpr ⟨hvalue, hgood⟩⟩⟩
      show next.length + 1 + 1 = pool.length + 1 + (pending face pool + 1)
      omega

/-- **Explosions keep to their room.** No more dice are rolled than there is room for, and explosions are
stopped where they would need more. -/
theorem settle_ends (h : again.Gives shows [faces] good) (face limit : Int) (room : Nat)
    {pool : List PoolDie} (hpool : ∀ d ∈ pool, good d.value) :
    (settle face limit again room pool).Ends shows fun calls outcome =>
      ∃ extra ≤ room, calls = List.replicate extra faces ∧
        match outcome with
        | .ok values => values.length = pool.length + extra ∧ ∀ value ∈ values, good value
        | .error e => ∃ waiting,
          e = excess face (pool.length + extra) waiting limit ∧ room < extra + waiting := by
  induction room using Nat.strongRecOn generalizing pool with
  | ind room ih =>
    by_cases hzero : pending face pool = 0
    · rw [settle_of_pending_eq_zero hzero]
      exact ⟨0, Nat.zero_le room, rfl, List.length_map _, List.forall_mem_map.mpr hpool⟩
    · by_cases hroom : pending face pool ≤ room
      · rw [settle_of_fits hzero hroom]
        refine (generation_gives h face hpool).bind_ends fun next hnext => ?_
        obtain ⟨hlength, -, hgood⟩ := hnext
        refine (ih (room - pending face pool) (by omega) hgood).imp fun calls outcome hend => ?_
        obtain ⟨extra, hextra, rfl, hend⟩ := hend
        have htotal : next.length + extra = pool.length + (pending face pool + extra) := by
          rw [hlength, Nat.add_assoc]
        rw [htotal] at hend
        refine ⟨pending face pool + extra, by omega, List.replicate_append_replicate, ?_⟩
        cases outcome with
        | ok values => exact hend
        | error e =>
          obtain ⟨waiting, he, hover⟩ := hend
          exact ⟨waiting, he, by omega⟩
      · rw [settle_of_exceeds hzero hroom]
        exact ⟨0, Nat.zero_le room, rfl, pending face pool, rfl, by omega⟩

end Explosion

/-! ## Modifiers -/

theorem mem_of_mem_countTwice {value face : Int} {rolls : List Int} (h : value ∈ countTwice face rolls) :
    value ∈ rolls := by
  obtain ⟨roll, hroll, hvalue⟩ := List.mem_flatMap.mp h
  have heq : value = roll := by
    split at hvalue <;> simpa using hvalue
  rwa [heq]

namespace Modifier

/-- The most dice that a modifier rolls beside those of a pool of the given size. -/
def mostExtra (m : Modifier) (limit : Int) (size : Nat) : Nat :=
  match m with
  | reroll => size
  | explode => (limit - size).toNat
  | _ => 0

/-- How a modifier may end on a pool of the given size: after some dice more, with good ones, or, if it
is an explosion, before dice that would be too many. -/
def EndsAs (m : Modifier) (faces argument limit : Int) (size : Nat) (good : Int → Prop)
    (calls : List Int) (outcome : Except RollError (List Int)) : Prop :=
  ∃ extra ≤ m.mostExtra limit size, calls = List.replicate extra faces ∧
    match outcome with
    | .ok values => ∀ value ∈ values, good value
    | .error e => m = explode ∧ ∃ waiting,
      e = Explosion.excess argument (size + extra) waiting limit ∧ limit < size + extra + waiting

theorem EndsAs.done {m : Modifier} {argument limit : Int} {size : Nat} {values : List Int}
    (h : ∀ value ∈ values, good value) : m.EndsAs faces argument limit size good [] (.ok values) :=
  ⟨0, Nat.zero_le _, rfl, h⟩

theorem apply_ends (m : Modifier) (h : again.Gives shows [faces] good) (argument limit : Int)
    {rolls : List Int} (hrolls : ∀ value ∈ rolls, good value) :
    (m.apply argument limit again rolls).Ends shows
      (m.EndsAs faces argument limit rolls.length good) := by
  cases m with
  | reroll =>
    refine Roll.Ends.imp (rerollOnce_gives h argument hrolls) fun calls outcome hend => ?_
    obtain ⟨rfl, values, rfl, -, hgood⟩ := hend
    exact ⟨rolls.count argument, List.count_le_length, rfl, hgood⟩
  | explode =>
    have hpool : ∀ d ∈ rolls.map fun value => PoolDie.mk value true, good d.value :=
      List.forall_mem_map.mpr hrolls
    refine (Explosion.settle_ends h argument limit (limit - rolls.length).toNat hpool).imp
      fun calls outcome hend => ?_
    obtain ⟨extra, hextra, rfl, hend⟩ := hend
    refine ⟨extra, hextra, rfl, ?_⟩
    cases outcome with
    | ok values => exact hend.2
    | error e =>
      obtain ⟨waiting, he, hover⟩ := hend
      rw [List.length_map] at he
      exact ⟨rfl, waiting, he, by omega⟩
  | twice => exact EndsAs.done fun value hvalue => hrolls value (mem_of_mem_countTwice hvalue)
  | keepHighest | keepLowest | dropHighest | dropLowest =>
    rw [apply_eq_picked rfl]
    exact EndsAs.done fun value hvalue => hrolls value ((picked_subperm _ _ rolls).subset hvalue)

end Modifier

/-! ## Pools -/

namespace Pool

/-- The most dice that a pool rolls beside those that it has. -/
def mostExtra (p : Pool) : Nat :=
  ((p.modifier.bind Modifier.ofToken?).map (·.mostExtra p.maxDice p.count.toNat)).getD 0

/-- How rolling a pool may end: after its dice and some more, with something fine that is made of them,
or, if they explode, before dice that would be too many. -/
def EndsAs {α : Type} (p : Pool) (fine : α → Prop) (calls : List Int) (outcome : Except RollError α) :
    Prop :=
  ∃ extra ≤ p.mostExtra, calls = List.replicate (p.count.toNat + extra) p.faces ∧
    match outcome with
    | .ok a => fine a
    | .error e => p.modifier = some Modifier.explode.token ∧ ∃ waiting,
      e = Explosion.excess p.argument (p.count.toNat + extra) waiting p.maxDice ∧
        p.maxDice < p.count.toNat + extra + waiting

theorem EndsAs.map {α β : Type} {p : Pool} {r : Roll α} {f : α → β} {fine : α → Prop} {good : β → Prop}
    (h : r.Ends shows (p.EndsAs fine)) (hf : ∀ a, fine a → good (f a)) :
    (r.bind fun a => .done (f a)).Ends shows (p.EndsAs good) := by
  refine h.bind (fun _ _ hend => hend) fun calls a hend => ?_
  obtain ⟨extra, hextra, hcalls, hfine⟩ := hend
  exact ⟨extra, hextra, by rw [List.append_nil, hcalls], hf a hfine⟩

/-- Whether a value is one that a die of the pool may show. -/
def IsDie (shows : Int → Int → Prop) (p : Pool) (value : Int) : Prop := shows p.faces (value - p.offset)

theorem rollUnsigned_ends (shows : Int → Int → Prop) {p : Pool}
    (h : ∀ token, p.modifier = some token → token ∈ Modifier.all.map Modifier.token) :
    p.rollUnsigned.Ends shows (p.EndsAs fun values => ∀ value ∈ values, p.IsDie shows value) := by
  have hdie : p.die.Gives shows [p.faces] (p.IsDie shows) := Roll.die_gives shows p.faces p.offset
  refine (Roll.times_gives hdie p.count.toNat).bind_ends fun base hbase => ?_
  obtain ⟨hlength, hgood⟩ := hbase
  unfold modify
  cases hmodifier : p.modifier with
  | none => exact ⟨0, Nat.zero_le _, List.append_nil _, hgood⟩
  | some token =>
    obtain ⟨m, -, rfl⟩ := List.mem_map.mp (h token hmodifier)
    have hmost : p.mostExtra = m.mostExtra p.maxDice p.count.toNat := by
      rw [mostExtra, hmodifier, Option.bind_some, Modifier.ofToken?_token]
      rfl
    dsimp only
    rw [Modifier.ofToken?_token]
    refine (m.apply_ends hdie p.argument p.maxDice hgood).imp fun calls outcome hend => ?_
    obtain ⟨extra, hextra, rfl, hend⟩ := hend
    rw [hlength] at hextra hend
    refine ⟨extra, by rwa [hmost], List.replicate_append_replicate, ?_⟩
    cases outcome with
    | ok values => exact hend
    | error e =>
      obtain ⟨rfl, hwaiting⟩ := hend
      exact ⟨hmodifier, hwaiting⟩

/-- The dice of a pool that has a minus are those of the pool without it, negated. -/
theorem roll_ends (shows : Int → Int → Prop) {p : Pool}
    (h : ∀ token, p.modifier = some token → token ∈ Modifier.all.map Modifier.token) :
    p.roll.Ends shows (p.EndsAs fun values =>
      ∀ value ∈ values, p.IsDie shows (if p.negative then -value else value)) := by
  refine EndsAs.map (rollUnsigned_ends shows h) fun values hvalues => ?_
  cases p.negative with
  | false => exact hvalues
  | true =>
    refine List.forall_mem_map.mpr fun value hvalue => ?_
    show p.IsDie shows (- -value)
    rw [Int.neg_neg]
    exact hvalues value hvalue

end Pool

theorem Term.roll_pool_ends (shows : Int → Int → Prop) {p : Pool}
    (h : ∀ token, p.modifier = some token → token ∈ Modifier.all.map Modifier.token) :
    (Term.pool p).roll.Ends shows (p.EndsAs fun part =>
      ∀ value ∈ part.values, p.IsDie shows (if p.negative then -value else value)) :=
  Pool.EndsAs.map (Pool.roll_ends shows h) fun _ hvalues => hvalues

/-- On any source, a pool is rolled in one of the ways in which it may end, or it is cut off on the way at
a die of its own that the source does not answer. -/
theorem Term.run_pool_ends {p : Pool}
    (h : ∀ token, p.modifier = some token → token ∈ Modifier.all.map Modifier.token) {σ : Type}
    (source : Source σ) (state : σ) :
    ∃ more outcome, p.EndsAs (fun _ => True) (((Term.pool p).roll.run source state).calls ++ more) outcome ∧
      (more = [] ∧ ((Term.pool p).roll.run source state).outcome = outcome ∨
        ∃ failure, ((Term.pool p).roll.run source state).outcome = .error (.source failure) ∧
          ∃ left, (source p.faces left).1 = .error failure) := by
  obtain ⟨more, outcome, hend, hrun⟩ := (Term.roll_pool_ends (fun _ _ => True) h).run source
    (fun _ _ _ _ _ => trivial) (fun _ => ⟨0, trivial⟩) state
  obtain ⟨extra, hextra, hcalls, hfine⟩ := hend
  refine ⟨more, outcome, ⟨extra, hextra, hcalls, ?_⟩, ?_⟩
  · cases outcome with
    | ok part => trivial
    | error e => exact hfine
  · rcases hrun with hend | ⟨failure, houtcome, faces, hfaces, left, hfailed⟩
    · exact Or.inl hend
    · have hmem := List.mem_append_left more hfaces
      rw [hcalls] at hmem
      rw [List.eq_of_mem_replicate hmem] at hfailed
      exact Or.inr ⟨failure, houtcome, left, hfailed⟩

end DiceNotation
