import Mathlib.Data.List.Forall2
import DiceNotation.Proofs.Roll

/-!
# How rolls can end

A roll is followed here along all answers at once. `shows` says which values a die with given faces may
show; what is claimed of the roll is a condition on the faces that it has asked for, in order, and on its
outcome. The rules go by the way in which rolls are put together: one step after another, and one roll
for each of several items.

What holds along all answers holds of a run on any source that gives such answers. A source that gives
none ends the run early, at a die that belongs to a longer row of calls.
-/

namespace DiceNotation.Roll

variable {α β σ : Type} {shows : Int → Int → Prop}

/-- However the dice fall, the roll ends so that `post` holds of the faces that it has asked for and of
its outcome. -/
def Ends (shows : Int → Int → Prop) : Roll α → (List Int → Except RollError α → Prop) → Prop
  | done a, post => post [] (.ok a)
  | stop e, post => post [] (.error e)
  | ask faces next, post => ∀ value, shows faces value →
      (next value).Ends shows fun calls outcome => post (faces :: calls) outcome

/-- However the dice fall, the roll asks for dice with exactly these faces and comes to a good result. -/
def Gives (shows : Int → Int → Prop) (r : Roll α) (calls : List Int) (good : α → Prop) : Prop :=
  r.Ends shows fun asked outcome => asked = calls ∧ ∃ a, outcome = .ok a ∧ good a

/-! ## Putting rolls together -/

theorem Ends.bind {r : Roll α} {f : α → Roll β} {mid : List Int → Except RollError α → Prop}
    {post : List Int → Except RollError β → Prop} (h : r.Ends shows mid)
    (hstop : ∀ calls e, mid calls (.error e) → post calls (.error e))
    (hnext : ∀ calls a, mid calls (.ok a) →
      (f a).Ends shows fun more outcome => post (calls ++ more) outcome) :
    (r.bind f).Ends shows post := by
  induction r generalizing mid post with
  | done a => exact hnext [] a h
  | stop e => exact hstop [] e h
  | ask faces next ih =>
    intro value hvalue
    exact ih value (h value hvalue) (fun calls e => hstop (faces :: calls) e)
      fun calls a => hnext (faces :: calls) a

theorem Ends.imp {r : Roll α} {post weaker : List Int → Except RollError α → Prop}
    (h : r.Ends shows post) (himp : ∀ calls outcome, post calls outcome → weaker calls outcome) :
    r.Ends shows weaker := by
  induction r generalizing post weaker with
  | done a => exact himp [] _ h
  | stop e => exact himp [] _ h
  | ask faces next ih =>
    intro value hvalue
    exact ih value (h value hvalue) fun calls outcome => himp (faces :: calls) outcome

/-- What comes after a roll is seen at the results only to which the roll may come. -/
theorem Ends.bind_congr {r : Roll α} {f g : α → Roll β} {post : List Int → Except RollError α → Prop}
    (h : r.Ends (fun _ _ => True) post) (hfg : ∀ calls a, post calls (.ok a) → f a = g a) :
    r.bind f = r.bind g := by
  induction r generalizing post with
  | done a => exact hfg [] a h
  | stop e => rfl
  | ask faces next ih =>
    rw [ask_bind, ask_bind]
    congr 1
    funext value
    exact ih value (h value trivial) fun calls => hfg (faces :: calls)

theorem Gives.done {a : α} {good : α → Prop} (h : good a) : (done a).Gives shows [] good :=
  ⟨rfl, a, rfl, h⟩

/-- A first step that always goes well is followed by the second one. -/
theorem Gives.bind_ends {r : Roll α} {f : α → Roll β} {calls : List Int} {good : α → Prop}
    {post : List Int → Except RollError β → Prop} (h : r.Gives shows calls good)
    (hnext : ∀ a, good a → (f a).Ends shows fun more outcome => post (calls ++ more) outcome) :
    (r.bind f).Ends shows post := by
  refine Ends.bind h ?_ ?_
  · intro asked e hmid
    obtain ⟨_, _, heq, _⟩ := hmid
    cases heq
  · intro asked a hmid
    obtain ⟨rfl, _, heq, hgood⟩ := hmid
    cases heq
    exact hnext a hgood

theorem Gives.bind {r : Roll α} {f : α → Roll β} {calls more : List Int} {good : α → Prop}
    {fine : β → Prop} (h : r.Gives shows calls good)
    (hnext : ∀ a, good a → (f a).Gives shows more fine) :
    (r.bind f).Gives shows (calls ++ more) fine :=
  h.bind_ends fun a hgood => (hnext a hgood).imp fun _ _ hend => ⟨by rw [hend.1], hend.2⟩

theorem Gives.map {r : Roll α} {f : α → β} {calls : List Int} {good : α → Prop} {fine : β → Prop}
    (h : r.Gives shows calls good) (hf : ∀ a, good a → fine (f a)) :
    (r.bind fun a => .done (f a)).Gives shows calls fine := by
  rw [← List.append_nil calls]
  exact h.bind fun a hgood => Gives.done (hf a hgood)

/-- Rolls for several items ask for what each of them asks for, in order. -/
theorem mapEach_gives {f : α → Roll β} {cost : α → List Int} {good : α → β → Prop} {items : List α}
    (h : ∀ a ∈ items, (f a).Gives shows (cost a) (good a)) :
    (mapEach f items).Gives shows (items.flatMap cost) fun results => List.Forall₂ good items results := by
  induction items with
  | nil => exact Gives.done .nil
  | cons a rest ih =>
    have htail := ih fun b hb => h b (List.mem_cons_of_mem a hb)
    rw [mapEach_cons, List.flatMap_cons]
    refine (h a List.mem_cons_self).bind fun b hb => ?_
    exact htail.map fun bs hbs => .cons hb hbs

theorem forall_mem_of_forall₂ {good : β → Prop} {items : List α} {results : List β}
    (h : List.Forall₂ (fun _ b => good b) items results) : ∀ b ∈ results, good b := by
  induction h with
  | nil => exact List.forall_mem_nil good
  | cons hgood _ ih => exact List.forall_mem_cons.mpr ⟨hgood, ih⟩

/-- Rolls of one kind give as many results as there are items, all of them good. -/
theorem mapEach_gives_of_forall {f : α → Roll β} {cost : α → List Int} {good : β → Prop} {items : List α}
    (h : ∀ a ∈ items, (f a).Gives shows (cost a) good) :
    (mapEach f items).Gives shows (items.flatMap cost) fun results =>
      results.length = items.length ∧ ∀ b ∈ results, good b := by
  refine Ends.imp (mapEach_gives h) ?_
  intro asked outcome hend
  obtain ⟨hasked, results, houtcome, hall⟩ := hend
  exact ⟨hasked, results, houtcome, hall.length_eq.symm, forall_mem_of_forall₂ hall⟩

/-! ## Runs -/

/-- If all dice show something, a roll has an end. -/
theorem Ends.exists_ending {r : Roll α} {post : List Int → Except RollError α → Prop}
    (h : r.Ends shows post) (hsome : ∀ faces, ∃ value, shows faces value) :
    ∃ calls outcome, post calls outcome := by
  induction r generalizing post with
  | done a => exact ⟨[], _, h⟩
  | stop e => exact ⟨[], _, h⟩
  | ask faces next ih =>
    obtain ⟨value, hvalue⟩ := hsome faces
    obtain ⟨calls, outcome, hpost⟩ := ih value (h value hvalue)
    exact ⟨faces :: calls, outcome, hpost⟩

/-- **Runs end as rolls do.** On a source that answers as dice may show, a run either is one of the ways
in which the roll ends, or it is the beginning of one, cut off at a die that the source does not answer. -/
theorem Ends.run {r : Roll α} {post : List Int → Except RollError α → Prop} (h : r.Ends shows post)
    (source : Source σ)
    (hsource : ∀ faces state value left, source faces state = (.ok value, left) → shows faces value)
    (hsome : ∀ faces, ∃ value, shows faces value) (state : σ) :
    ∃ more outcome, post ((r.run source state).calls ++ more) outcome ∧
      (more = [] ∧ (r.run source state).outcome = outcome ∨
        ∃ failure, (r.run source state).outcome = .error (.source failure) ∧
          ∃ faces ∈ (r.run source state).calls, ∃ left, (source faces left).1 = .error failure) := by
  induction r generalizing post state with
  | done a => exact ⟨[], _, h, Or.inl ⟨rfl, rfl⟩⟩
  | stop e => exact ⟨[], _, h, Or.inl ⟨rfl, rfl⟩⟩
  | ask faces next ih =>
    rw [run_ask]
    rcases hanswer : source faces state with ⟨answer, left⟩
    cases answer with
    | ok value =>
      obtain ⟨more, outcome, hpost, hend⟩ := ih value (h value (hsource _ _ _ _ hanswer)) left
      refine ⟨more, outcome, hpost, ?_⟩
      rcases hend with hend | ⟨failure, houtcome, asked, hasked, hfailed⟩
      · exact Or.inl hend
      · exact Or.inr ⟨failure, houtcome, asked, List.mem_cons_of_mem faces hasked, hfailed⟩
    | error failure =>
      -- with some other answer the roll would have come to one of its ends
      obtain ⟨value, hvalue⟩ := hsome faces
      obtain ⟨more, outcome, hpost⟩ := (h value hvalue).exists_ending hsome
      refine ⟨more, outcome, hpost, Or.inr ⟨failure, rfl, faces, List.mem_singleton_self faces, state, ?_⟩⟩
      rw [hanswer]

end DiceNotation.Roll
