import DiceNotation.Proofs.Explosion.Accounts
import DiceNotation.Proofs.Term.Ranges
import DiceNotation.Source.Script

/-!
# Which dice are asked for

The faces of the dice that an evaluator asks for are told exactly. A constant asks for none. A pool asks for its
own dice, and then for those that its modifier rolls beside them: which, and how many, hangs on the values that
these dice and those before them have shown. The terms ask one after the other, and where an explosion is
stopped no more dice are asked for.
-/

namespace DiceNotation

variable {σ : Type} {source : Source σ}

/-! ## Modifiers -/

/-- What a modifier rolls beside the dice of a pool, and its outcome. A reroll rolls a die for each one that shows
the face, an explosion as many as it adds, and the others roll none. -/
def Modifier.Adds (m : Modifier) (argument limit : Int) (base added : List Int)
    (outcome : Except RollError (List Int)) : Prop :=
  match m with
  | reroll => added.length = base.count argument ∧ ∃ values, outcome = .ok values
  | explode => Explosion.Accounts argument limit base.length (base.count argument) added outcome
  | _ => added = [] ∧ ∃ values, outcome = .ok values

theorem Modifier.apply_falls (m : Modifier) (faces offset argument limit : Int) (base : List Int) :
    (m.apply argument limit (Roll.die faces offset) base).Falls faces offset (m.Adds argument limit base) := by
  cases m with
  | reroll =>
    refine Roll.Falls.imp (rerollOnce_falls faces offset argument base) fun dice outcome h => ?_
    obtain ⟨values, houtcome, hdice⟩ := h
    exact ⟨hdice, values, houtcome⟩
  | explode => exact explode_falls faces offset argument limit base
  | twice | keepHighest | keepLowest | dropHighest | dropLowest => exact ⟨rfl, _, rfl⟩

/-- Only explosions are stopped, and then by the limit. -/
theorem Modifier.Adds.error {m : Modifier} {argument limit : Int} {base added : List Int} {e : RollError}
    (h : m.Adds argument limit base added (.error e)) :
    m = explode ∧ ∃ waiting, e = Explosion.excess argument (base.length + added.length) waiting limit ∧
      limit < base.length + added.length + waiting := by
  cases m with
  | explode =>
    cases h with
    | exceeded _ hlimit => exact ⟨rfl, _, rfl, hlimit⟩
  | reroll | twice | keepHighest | keepLowest | dropHighest | dropLowest =>
    obtain ⟨-, _, hok⟩ := h
    cases hok

/-! ## Pools -/

namespace Pool

variable {p : Pool} {base added : List Int} {outcome : Except RollError (List Int)} {state mid left : σ}

/-- What the modifier of a pool rolls beside its dice; none is rolled without a modifier. -/
def Adds (p : Pool) (base added : List Int) (outcome : Except RollError (List Int)) : Prop :=
  match p.modifier.bind Modifier.ofToken? with
  | some m => m.Adds p.argument p.maxDice base added outcome
  | none => added = [] ∧ ∃ values, outcome = .ok values

/-- How a pool is rolled, before the sign is applied: the dice `base`, those `added` beside them, and the outcome.
The source is left in the state `mid` by the former, and then in `left`. -/
structure Rolled (source : Source σ) (p : Pool) (state mid left : σ) (base added : List Int)
    (outcome : Except RollError (List Int)) : Prop where
  /-- The first dice are as many as the pool has. -/
  count : (base.length : Int) = p.count
  /-- They are thrown first. -/
  throwsBase : source.Throws p.faces p.offset state base mid
  /-- The other ones are thrown after them. -/
  throwsAdded : source.Throws p.faces p.offset mid added left
  /-- They are those that the modifier rolls. -/
  adds : p.Adds base added outcome
  /-- The outcome is what the modifier makes of the first dice with the other ones. -/
  modified : (modify p.modifier p.argument p.maxDice p.die base).run source mid =
    ⟨outcome, List.replicate added.length p.faces, left⟩

theorem modify_falls (h : ∀ token, p.modifier = some token → token ∈ Modifier.all.map Modifier.token)
    (base : List Int) :
    (modify p.modifier p.argument p.maxDice p.die base).Falls p.faces p.offset (p.Adds base) := by
  unfold modify Adds
  cases hmodifier : p.modifier with
  | none => exact ⟨rfl, base, rfl⟩
  | some token =>
    obtain ⟨m, -, rfl⟩ := List.mem_map.mp (h token hmodifier)
    dsimp only
    rw [Option.bind_some, Modifier.ofToken?_token]
    exact m.apply_falls p.faces p.offset p.argument p.maxDice base

theorem Adds.error {e : RollError} (h : p.Adds base added (.error e)) :
    p.modifier.bind Modifier.ofToken? = some .explode ∧
      ∃ waiting, e = Explosion.excess p.argument (base.length + added.length) waiting p.maxDice ∧
        p.maxDice < base.length + added.length + waiting := by
  unfold Adds at h
  cases hmodifier : p.modifier.bind Modifier.ofToken? with
  | none =>
    rw [hmodifier] at h
    obtain ⟨-, _, hok⟩ := h
    cases hok
  | some m =>
    rw [hmodifier] at h
    obtain ⟨rfl, hlimit⟩ := Modifier.Adds.error h
    exact ⟨rfl, hlimit⟩

/-- A pool asks for its dice and for those that are added. -/
theorem rolled_or_failed (hcount : 0 ≤ p.count)
    (hmodifier : ∀ token, p.modifier = some token → token ∈ Modifier.all.map Modifier.token)
    (source : Source σ) (state : σ) :
    (∃ mid left base added outcome, p.Rolled source state mid left base added outcome ∧
      p.rollUnsigned.run source state =
        ⟨outcome, List.replicate (base.length + added.length) p.faces, left⟩) ∨
    ∃ failure calls left, p.rollUnsigned.run source state = ⟨.error (.source failure), calls, left⟩ := by
  rcases (Roll.times_falls p.faces p.offset p.count.toNat).run source state with
    ⟨base, _, mid, hbase, hthrows, rfl, hlength⟩ | ⟨failure, calls, left, hfailed⟩
  · have hrun : p.rollUnsigned.run source state =
        ((modify p.modifier p.argument p.maxDice p.die base).run source mid).after _ :=
      Roll.run_bind_of_ok hbase _
    rcases (modify_falls hmodifier base).run source mid with
      ⟨added, outcome, left, hmodified, hadded, hadds⟩ | ⟨failure, calls, left, hfailed⟩
    · refine Or.inl ⟨mid, left, base, added, outcome, ⟨by omega, hthrows, hadded, hadds, hmodified⟩, ?_⟩
      rw [hrun, hmodified, Report.after_mk, List.replicate_append_replicate]
    · rw [hrun, hfailed]
      exact Or.inr ⟨failure, _, left, rfl⟩
  · exact Or.inr ⟨failure, calls, left, Roll.run_bind_of_error hfailed _⟩

end Pool

/-! ## Terms -/

namespace Term

/-- A term is rolled and all goes well: the faces that it asks for, its part, and the state of the source that it
leaves. A constant asks for none, a pool for its dice and those that are added. -/
inductive Traced (source : Source σ) : Term → σ → List Int → Part → σ → Prop where
  | constant {value : Int} {state : σ} : Traced source (.constant value) state [] (.scalar value) state
  | pool {p : Pool} {state mid left : σ} {base added values : List Int} :
      p.Rolled source state mid left base added (.ok values) →
      Traced source (.pool p) state (List.replicate (base.length + added.length) p.faces)
        (.dice (if p.negative then values.map (-·) else values)) left

/-- A pool that explodes is stopped by the limit: the faces that it has asked for, for its dice and for those that
it had added so far, and the error. -/
inductive Stopped (source : Source σ) : Term → σ → List Int → RollError → σ → Prop where
  | pool {p : Pool} {state mid left : σ} {base added : List Int} {waiting : Nat} :
      p.modifier.bind Modifier.ofToken? = some .explode →
      p.Rolled source state mid left base added
        (.error (.limitExceeded p.argument (base.length + added.length) waiting p.maxDice)) →
      p.maxDice < base.length + added.length + waiting →
      Stopped source (.pool p) state (List.replicate (base.length + added.length) p.faces)
        (.limitExceeded p.argument (base.length + added.length) waiting p.maxDice) left

/-- Terms are rolled in turn and all goes well: what each of them asks for, one after the other. -/
inductive TracedInTurn (source : Source σ) : List Term → σ → List Int → List Part → σ → Prop where
  | nil {state : σ} : TracedInTurn source [] state [] [] state
  | cons {t : Term} {terms : List Term} {state mid left : σ} {calls more : List Int} {part : Part}
      {parts : List Part} : t.Traced source state calls part mid →
      TracedInTurn source terms mid more parts left →
      TracedInTurn source (t :: terms) state (calls ++ more) (part :: parts) left

theorem run_pool (p : Pool) (source : Source σ) (state : σ) :
    (Term.pool p).roll.run source state =
      (p.rollUnsigned.run source state).map fun values =>
        .dice (if p.negative then values.map (-·) else values) := by
  rw [← Roll.run_bind_done, Term.roll, Pool.roll_eq, Roll.bind_eq, Roll.bind_assoc]
  rfl

/-- **A step.** A term is traced, unless it is stopped or the source fails. -/
theorem traced_or_stopped {t : Term} {limits : Limits} (h : t.WellFormed limits) (source : Source σ) (state : σ) :
    (∃ part calls left, t.roll.run source state = ⟨.ok part, calls, left⟩ ∧
      t.Traced source state calls part left) ∨
    ∃ e calls left, t.roll.run source state = ⟨.error e, calls, left⟩ ∧
      ((∃ failure, e = .source failure) ∨ t.Stopped source state calls e left) := by
  cases t with
  | constant value => exact Or.inl ⟨_, _, _, rfl, .constant⟩
  | pool p =>
    rw [run_pool]
    rcases p.rolled_or_failed h.countNonneg h.modifier source state with
      ⟨mid, left, base, added, outcome, hrolled, hrun⟩ | ⟨failure, calls, left, hrun⟩
    · rw [hrun]
      cases outcome with
      | ok values => exact Or.inl ⟨_, _, left, rfl, .pool hrolled⟩
      | error e =>
        obtain ⟨hexplodes, waiting, rfl, hlimit⟩ := hrolled.adds.error
        -- a compiled pool has a limit that its error can name
        rw [Explosion.excess_of_nonneg h.maxDice_nonneg] at hrolled ⊢
        exact Or.inr ⟨_, _, left, rfl, Or.inr (.pool hexplodes hrolled hlimit)⟩
    · rw [hrun]
      exact Or.inr ⟨_, calls, left, rfl, Or.inl ⟨failure, rfl⟩⟩

/-- The terms before one that is stopped are traced, and what that one has asked for are the last calls. -/
def StoppedInTurn (source : Source σ) (terms : List Term) (state : σ) (calls : List Int) (e : RollError)
    (left : σ) : Prop :=
  ∃ earlier t later before parts mid more, terms = earlier ++ t :: later ∧
    TracedInTurn source earlier state before parts mid ∧ t.Stopped source mid more e left ∧
    calls = before ++ more

theorem StoppedInTurn.cons {t : Term} {terms : List Term} {state mid left : σ} {calls more : List Int}
    {part : Part} {e : RollError} (hfirst : t.Traced source state calls part mid)
    (h : StoppedInTurn source terms mid more e left) :
    StoppedInTurn source (t :: terms) state (calls ++ more) e left := by
  obtain ⟨earlier, last, later, before, parts, reached, lastCalls, rfl, htraced, hstopped, rfl⟩ := h
  exact ⟨t :: earlier, last, later, calls ++ before, part :: parts, reached, lastCalls, rfl,
    .cons hfirst htraced, hstopped, (List.append_assoc _ _ _).symm⟩

/-- **A run.** Terms are traced in turn, unless one of them is stopped or the source fails. -/
theorem tracedInTurn_or_stopped {terms : List Term} (h : ∀ t ∈ terms, ∃ limits, t.WellFormed limits)
    (source : Source σ) (state : σ) :
    (∃ parts calls left, (rollTerms terms).run source state = ⟨.ok parts, calls, left⟩ ∧
      TracedInTurn source terms state calls parts left) ∨
    ∃ e calls left, (rollTerms terms).run source state = ⟨.error e, calls, left⟩ ∧
      ((∃ failure, e = .source failure) ∨ StoppedInTurn source terms state calls e left) := by
  induction terms generalizing state with
  | nil => exact Or.inl ⟨_, _, _, rfl, .nil⟩
  | cons t rest ih =>
    have hcons : rollTerms (t :: rest) =
        t.roll.bind fun part => (rollTerms rest).bind fun parts => .done (part :: parts) :=
      Roll.mapEach_cons Term.roll t rest
    obtain ⟨limits, hwellFormed⟩ := h t List.mem_cons_self
    rw [hcons]
    rcases traced_or_stopped hwellFormed source state with
      ⟨part, calls, mid, hrun, htraced⟩ | ⟨e, calls, left, hrun, hwhy⟩
    · rw [Roll.run_bind_of_ok hrun, Roll.run_bind_done]
      rcases ih (fun other hother => h other (List.mem_cons_of_mem t hother)) mid with
        ⟨parts, more, left, hrest, hturn⟩ | ⟨e, more, left, hrest, hwhy⟩
      · rw [hrest]
        exact Or.inl ⟨_, _, left, rfl, .cons htraced hturn⟩
      · rw [hrest]
        exact Or.inr ⟨e, _, left, rfl, hwhy.imp_right fun hstopped => hstopped.cons htraced⟩
    · rw [Roll.run_bind_of_error hrun]
      refine Or.inr ⟨e, calls, left, rfl, hwhy.imp_right fun hstopped => ?_⟩
      exact ⟨[], t, rest, [], [], state, calls, rfl, .nil, hstopped, rfl⟩

end Term

namespace Compiler

/--
**The dice that are asked for.**

Let a compiler have been asked for anything, and then give an evaluator. On any source, a roll that goes well asks
for nothing but what its terms ask for, one after the other: a constant for no die, and a pool for its own dice and
for those that are added to them, one for each die that shows the face of a reroll, and as many as an explosion
adds. A roll that is stopped although the source has not failed has met an explosion that exceeds the limit.
Then it has asked for all that the terms before it ask for, for the dice of that term and those added until then,
and for nothing else.
-/
theorem traced_of_compile {owner : Nat} {limits : Limits} {requests : List Request} {given : Value}
    {e : Stamped Evaluator}
    (h : ((after { owner := owner, limits := limits } requests).compile given).1 = .ok e)
    (source : Source σ) (state : σ) :
    let report := e.value.roll.run source state
    (∀ parts, report.outcome = .ok parts →
      Term.TracedInTurn source e.value.program.terms state report.calls parts report.state) ∧
    ∀ error, report.outcome = .error error → (∃ failure, error = .source failure) ∨
      Term.StoppedInTurn source e.value.program.terms state report.calls error report.state := by
  intro report
  have hterms : ∀ t ∈ e.value.program.terms, ∃ limits, t.WellFormed limits := by
    intro t ht
    obtain ⟨_, -, hwellFormed⟩ := exists_wellFormed_of_compile rfl rfl h t ht
    exact ⟨_, hwellFormed⟩
  rcases Term.tracedInTurn_or_stopped hterms source state with
    ⟨parts, calls, left, hrun, htraced⟩ | ⟨error, calls, left, hrun, hwhy⟩
  · have hreport : report = ⟨.ok parts, calls, left⟩ := hrun
    rw [hreport]
    refine ⟨?_, nofun⟩
    rintro _ ⟨⟩
    exact htraced
  · have hreport : report = ⟨.error error, calls, left⟩ := hrun
    rw [hreport]
    refine ⟨nofun, ?_⟩
    rintro _ ⟨⟩
    exact hwhy

/-- A reroll rolls a die more, and so does an explosion, after which there is no room. Where the last of its dice
explodes again the roll is stopped, and the die after them is not asked for. -/
theorem traced_of_compile_full :
    let fitting : Scripted := { script := .sequence [1, 4, 3, 6, 2, 5, 8] }
    let exceeding : Scripted := { script := .sequence [1, 4, 3, 6, 2, 6, 8] }
    ∃ e : Stamped Evaluator,
      ((after { owner := 0, limits := { maxDice := 3 } } []).compile (.text "2d4r1 + 1 - 2d6!6 + d8")).1 = .ok e ∧
        (let report := e.value.roll.run Scripted.source fitting
         report.outcome = .ok [.dice [3, 4], .scalar 1, .dice [-6, -5, -2], .dice [8]] ∧
          report.calls = [4, 4, 4, 6, 6, 6, 8] ∧
          Term.TracedInTurn Scripted.source e.value.program.terms fitting report.calls
            [.dice [3, 4], .scalar 1, .dice [-6, -5, -2], .dice [8]] report.state) ∧
        (let report := e.value.roll.run Scripted.source exceeding
         report.outcome = .error (.limitExceeded 6 3 1 3) ∧ report.calls = [4, 4, 4, 6, 6, 6] ∧
          Term.StoppedInTurn Scripted.source e.value.program.terms exceeding report.calls
            (.limitExceeded 6 3 1 3) report.state) := by
  intro fitting exceeding
  let e : Stamped Evaluator := ⟨⟨0, 4⟩, "2d4r1+1-2d6!6+d8", ["2d4r1", "+1", "-2d6!6", "+d8"],
    [⟨⟨0, 0⟩, .pool { count := 2, faces := 4, modifier := some "r", argument := 1, maxDice := 3 }⟩,
      ⟨⟨0, 1⟩, .constant 1⟩,
      ⟨⟨0, 2⟩, .pool { count := 2, faces := 6, negative := true, modifier := some "!", argument := 6, maxDice := 3 }⟩,
      ⟨⟨0, 3⟩, .pool { count := 1, faces := 8, maxDice := 3 }⟩]⟩
  have he : ((after { owner := 0, limits := { maxDice := 3 } } []).compile
      (.text "2d4r1 + 1 - 2d6!6 + d8")).1 = .ok e := by
    decide +kernel
  have hok : (e.value.roll.run Scripted.source fitting).outcome =
      .ok [.dice [3, 4], .scalar 1, .dice [-6, -5, -2], .dice [8]] := by
    decide +kernel
  have herror : (e.value.roll.run Scripted.source exceeding).outcome = .error (.limitExceeded 6 3 1 3) := by
    decide +kernel
  have htraced := (traced_of_compile he Scripted.source fitting).1 _ hok
  have hstopped := (traced_of_compile he Scripted.source exceeding).2 _ herror
  exact ⟨e, he, ⟨hok, by decide +kernel, htraced⟩, herror, by decide +kernel, hstopped.resolve_left nofun⟩

end Compiler

end DiceNotation
