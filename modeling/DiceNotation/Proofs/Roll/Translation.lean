import DiceNotation.Proofs.Roll

/-!
# Rolls translated

A roll is translated by changing its result in the end, and the error if it stops; the dice for which it asks
stay the same. Translations go through rolls in steps and through rolls for several items, if each step answers
a translated value with the translation of what it makes of the value. So they can be carried from a single die
up to a whole pool.
-/

namespace DiceNotation

variable {σ α β γ δ : Type}

/-- The report of a roll with another result, or another error. -/
def Report.translate (g : α → β) (restate : RollError → RollError) (report : Report σ α) : Report σ β :=
  ⟨(report.outcome.map g).mapError restate, report.calls, report.state⟩

namespace Roll

/-- The roll with another result, or another error where it stops. -/
def translate (g : α → β) (restate : RollError → RollError) : Roll α → Roll β
  | done a => done (g a)
  | stop e => stop (restate e)
  | ask faces next => ask faces fun value => (next value).translate g restate

variable {g : α → β} {restate : RollError → RollError}

@[simp] theorem translate_done (a : α) : (done a).translate g restate = done (g a) := rfl

@[simp] theorem translate_stop (e : RollError) : (stop e : Roll α).translate g restate = stop (restate e) := rfl

theorem translate_bind {h : γ → δ} {f : γ → Roll α} {f' : δ → Roll β} (r : Roll γ)
    (hf : ∀ c, f' (h c) = (f c).translate g restate) :
    (r.translate h restate).bind f' = (r.bind f).translate g restate := by
  induction r with
  | done c => exact hf c
  | stop e => rfl
  | ask faces next ih =>
    show ask faces _ = ask faces _
    congr 1
    funext value
    exact ih value

theorem mapEach_map (f : δ → Roll α) (k : γ → δ) (items : List γ) :
    mapEach f (items.map k) = mapEach (fun c => f (k c)) items := by
  induction items with
  | nil => rfl
  | cons c rest ih => rw [List.map_cons, mapEach_cons, mapEach_cons, ih]

theorem mapEach_translate (f : γ → Roll α) (items : List γ) :
    mapEach (fun c => (f c).translate g restate) items = (mapEach f items).translate (List.map g) restate := by
  induction items with
  | nil => rfl
  | cons c rest ih =>
    rw [mapEach_cons, mapEach_cons, ih]
    exact translate_bind _ fun a => translate_bind _ fun as => rfl

theorem times_translate (r : Roll α) (n : Nat) :
    (r.translate g restate).times n = (r.times n).translate (List.map g) restate :=
  mapEach_translate (fun _ => r) (List.range n)

/-- **A run of a translated roll** has the calls of the roll, and its result or error translated. Errors of the
source stay what they are. -/
theorem run_translate (hsource : ∀ failure, restate (.source failure) = .source failure) (source : Source σ)
    (r : Roll α) (state : σ) :
    (r.translate g restate).run source state = (r.run source state).translate g restate := by
  induction r generalizing state with
  | done a => rfl
  | stop e => rfl
  | ask faces next ih =>
    rw [translate, run_ask, run_ask]
    rcases source faces state with ⟨answer, left⟩
    cases answer with
    | error failure =>
      show (⟨.error (.source failure), [faces], left⟩ : Report σ β) = ⟨.error (restate (.source failure)), [faces], left⟩
      rw [hsource]
    | ok value =>
      dsimp only
      rw [ih value left]
      rfl

end Roll

end DiceNotation
