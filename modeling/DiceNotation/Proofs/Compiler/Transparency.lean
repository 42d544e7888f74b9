import DiceNotation.Proofs.Compiler.Faithful
import DiceNotation.Source

/-!
# What is kept does not show

A desk is a compiler in use: requests are made to it, and the evaluators that it hands out are rolled,
each time on any source that draws from a common state. Beside it stands a desk without a compiler, at
which everything is compiled anew. Whatever is asked at both, in any order and with any failures on the
way, the replies are the same, as long as the limits stay what they are.

The proof is a simulation. A step keeps the compiler faithful and the evaluators handed out equal to the
programs compiled anew, and it gives equal replies; a run is a sequence of steps.
-/

namespace DiceNotation

variable {σ : Type}

/-- What is asked at a desk. The evaluators are counted in the order in which they were handed out. -/
inductive Errand (σ : Type) where
  | ask (request : Compiler.Request)
  | roll (evaluator : Nat) (source : Source σ)

/-- An errand that does not change the limits. -/
def Errand.KeepsLimits : Errand σ → Prop
  | ask request => request.KeepsLimits
  | roll _ _ => True

/-- What is seen of the result of an errand: everything but which objects were made. -/
inductive Reply where
  | program (outcome : Except CompileError Program)
  | term (outcome : Except CompileError Term)
  | rolled (outcome : Except RollError (List Part)) (calls : List Int)
  | nothing
  | unknown

/-- The program that a reply gives, if it gives one. -/
def Reply.programs : Reply → List Program
  | program (.ok p) => [p]
  | _ => []

/-! ## With a compiler -/

/-- What is seen of the answer of a compiler. -/
def Compiler.Answer.reply : Compiler.Answer → Reply
  | evaluator outcome => .program (outcome.map (·.value.program))
  | term outcome => .term (outcome.map (·.value))
  | nothing => .nothing

/-- The evaluator that an answer hands out, if it hands out one. -/
def Compiler.Answer.evaluators : Compiler.Answer → List Evaluator
  | evaluator (.ok made) => [made.value]
  | _ => []

/-- A compiler in use, with the evaluators it has handed out and the state of the sources. -/
structure Desk (σ : Type) where
  compiler : Compiler
  evaluators : List Evaluator := []
  state : σ

namespace Desk

/-- Does an errand. -/
def perform (d : Desk σ) : Errand σ → Reply × Desk σ
  | .ask request =>
    ((d.compiler.handle request).1.reply,
      { d with
        compiler := (d.compiler.handle request).2
        evaluators := d.evaluators ++ (d.compiler.handle request).1.evaluators })
  | .roll n source =>
    match d.evaluators[n]? with
    | none => (.unknown, d)
    | some e =>
      let report := e.roll.run source d.state
      (.rolled report.outcome report.calls, { d with state := report.state })

/-- Does errands in order. -/
def run (d : Desk σ) : List (Errand σ) → List Reply × Desk σ
  | [] => ([], d)
  | errand :: rest =>
    ((d.perform errand).1 :: ((d.perform errand).2.run rest).1, ((d.perform errand).2.run rest).2)

end Desk

/-! ## Without a compiler -/

/-- Limits in use, with the programs that were compiled and the state of the sources. -/
structure BareDesk (σ : Type) where
  limits : Limits
  programs : List Program := []
  state : σ

/-- What a request gives where nothing is kept. -/
def Compiler.Request.bareReply (limits : Limits) : Compiler.Request → Reply
  | compile given => .program (Program.ofExpression limits given)
  | compileChunk chunk => .term ((Term.ofText limits chunk).mapError CompileError.chunk)
  | clear | setLimits _ => .nothing

/-- The limits after a request. -/
def Compiler.Request.limitsAfter (limits : Limits) : Compiler.Request → Limits
  | setLimits limits => limits
  | _ => limits

namespace BareDesk

/-- Does an errand. -/
def perform (d : BareDesk σ) : Errand σ → Reply × BareDesk σ
  | .ask request =>
    (request.bareReply d.limits,
      { d with
        limits := request.limitsAfter d.limits
        programs := d.programs ++ (request.bareReply d.limits).programs })
  | .roll n source =>
    match d.programs[n]? with
    | none => (.unknown, d)
    | some p =>
      let report := (rollTerms p.terms).run source d.state
      (.rolled report.outcome report.calls, { d with state := report.state })

/-- Does errands in order. -/
def run (d : BareDesk σ) : List (Errand σ) → List Reply × BareDesk σ
  | [] => ([], d)
  | errand :: rest =>
    ((d.perform errand).1 :: ((d.perform errand).2.run rest).1, ((d.perform errand).2.run rest).2)

end BareDesk

/-! ## The simulation -/

/-- A desk with a compiler that stands like one without. -/
structure Desk.Matches (d : Desk σ) (b : BareDesk σ) : Prop where
  /-- What the compiler keeps is what it would make. -/
  faithful : d.compiler.Faithful
  /-- The limits are the same. -/
  limits : d.compiler.limits = b.limits
  /-- The evaluators handed out are the programs compiled. -/
  programs : d.evaluators.map (·.program) = b.programs
  /-- The sources are in the same state. -/
  state : d.state = b.state

theorem Compiler.Answer.programs_reply (a : Compiler.Answer) :
    a.reply.programs = a.evaluators.map (·.program) := by
  cases a with
  | evaluator outcome => cases outcome <;> rfl
  | term outcome => cases outcome <;> rfl
  | nothing => rfl

/-- A faithful compiler answers as if it kept nothing. -/
theorem Compiler.Faithful.reply_handle {c : Compiler} (h : c.Faithful) {request : Compiler.Request} :
    (c.handle request).1.reply = request.bareReply c.limits := by
  cases request with
  | compile given => exact congrArg Reply.program (h.compile given).1
  | compileChunk chunk => exact congrArg Reply.term (h.compileChunk_outcome chunk)
  | clear => rfl
  | setLimits limits => rfl

theorem Compiler.Request.limitsAfter_eq {request : Compiler.Request} (h : request.KeepsLimits)
    (limits : Limits) : request.limitsAfter limits = limits := by
  cases request with
  | setLimits limits => exact h.elim
  | compile given => rfl
  | compileChunk chunk => rfl
  | clear => rfl

/-- **A step.** Desks that match give the same reply to an errand, and match after it. -/
theorem Desk.Matches.perform {d : Desk σ} {b : BareDesk σ} (h : d.Matches b) {errand : Errand σ}
    (hk : errand.KeepsLimits) :
    (d.perform errand).1 = (b.perform errand).1 ∧ (d.perform errand).2.Matches (b.perform errand).2 := by
  cases errand with
  | ask request =>
    have hreply : (d.compiler.handle request).1.reply = request.bareReply b.limits := by
      rw [h.faithful.reply_handle, h.limits]
    refine ⟨hreply, h.faithful.handle hk, ?_, ?_, h.state⟩
    · show (d.compiler.handle request).2.limits = request.limitsAfter b.limits
      rw [Compiler.handle_limits _ h.faithful hk, h.limits, Compiler.Request.limitsAfter_eq hk]
    · show (d.evaluators ++ _).map (·.program) = b.programs ++ (request.bareReply b.limits).programs
      rw [List.map_append, h.programs, ← hreply, Compiler.Answer.programs_reply]
  | roll n source =>
    -- the same evaluators were handed out, so both desks know the number or neither does
    have hentry : b.programs[n]? = d.evaluators[n]?.map (·.program) := by
      rw [← h.programs, List.getElem?_map]
    simp only [Desk.perform, BareDesk.perform, hentry]
    cases d.evaluators[n]? with
    | none => exact ⟨rfl, h⟩
    | some e =>
      -- an evaluator rolls the terms of its program
      have hroll : e.roll.run source d.state = (rollTerms e.program.terms).run source b.state := by
        rw [h.state]
        rfl
      dsimp only [Option.map_some]
      rw [hroll]
      exact ⟨rfl, h.faithful, h.limits, h.programs, rfl⟩

/-- **A run.** Desks that match give the same replies to any errands that keep the limits. -/
theorem Desk.Matches.run {d : Desk σ} {b : BareDesk σ} (h : d.Matches b) {errands : List (Errand σ)}
    (hk : ∀ errand ∈ errands, errand.KeepsLimits) : (d.run errands).1 = (b.run errands).1 := by
  induction errands generalizing d b with
  | nil => rfl
  | cons errand rest ih =>
    obtain ⟨hreply, hnext⟩ := h.perform (hk errand List.mem_cons_self)
    have hrest := ih hnext fun e he => hk e (List.mem_cons_of_mem errand he)
    rw [Desk.run, BareDesk.run, hreply, hrest]

/--
**What a compiler keeps does not show.**

A new compiler and no compiler at all give the same replies to any run of requests and rolls that does
not change the limits: equal programs, terms and parts, and equal errors, in the same places.
-/
theorem run_eq_bareRun (owner : Nat) (limits : Limits) (state : σ) (errands : List (Errand σ))
    (hk : ∀ errand ∈ errands, errand.KeepsLimits) :
    (Desk.run ⟨{ owner := owner, limits := limits }, [], state⟩ errands).1 =
      (BareDesk.run ⟨limits, [], state⟩ errands).1 := by
  have h : Desk.Matches ⟨{ owner := owner, limits := limits }, [], state⟩ ⟨limits, [], state⟩ :=
    ⟨Compiler.faithful_of_empty rfl rfl, rfl, rfl, rfl⟩
  exact h.run hk

/-- A run in which an expression comes back in another spelling after a chunk and an expression have
failed, and the evaluator that is found then is rolled. -/
def respelledErrands : List (Errand Nat) := [
  .ask (.compile (.text "2D6 + 1")), .ask (.compileChunk "x"), .ask (.compile (.text "+1+101d6")),
  .ask (.compile (.text "2d6+1")), .roll 1 fun faces n => (.ok (n % faces + 1), n + 1), .ask .clear]

theorem run_eq_bareRun_respelled :
    (∀ errand ∈ respelledErrands, errand.KeepsLimits) ∧
      (Desk.run ⟨{ owner := 0, limits := .standard }, [], 0⟩ respelledErrands).1 =
        (BareDesk.run ⟨.standard, [], 0⟩ respelledErrands).1 := by
  have hk : ∀ errand ∈ respelledErrands, errand.KeepsLimits := by
    simp [respelledErrands, Errand.KeepsLimits, Compiler.Request.KeepsLimits]
  exact ⟨hk, run_eq_bareRun 0 .standard 0 respelledErrands hk⟩

end DiceNotation
