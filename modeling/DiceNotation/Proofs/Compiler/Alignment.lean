import DiceNotation.Proofs.Chunk.Recognition
import DiceNotation.Proofs.CommandLine.Shown
import DiceNotation.Proofs.CommandLine.Terminal
import DiceNotation.Proofs.Expression.Sums
import DiceNotation.Proofs.Term.Checks
import DiceNotation.Proofs.Term.Ranges
import DiceNotation.Settings.Lenient

/-!
# Chunks, terms and parts in line

An evaluator has its expression in pieces, and a term for each piece; a roll has a part for each term. The rows
in which they stand are kept by everything that is done to them one by one: by cutting, by compiling, be the
term made or found, and by rolling. So what stands in one place belongs together, and whether it is a number or
dice can be seen from the text of the chunk already.

This is why the table of chunks, which is put together from the chunks and from the kinds of the terms, has a row for
every chunk, and why a console shows a line for each.
-/

namespace DiceNotation

/-! ## What belongs together -/

/-- The text of a whole number, with a sign or without one. -/
def WritesInteger (text : String) (value : Int) : Prop :=
  ∃ s digits, (Chunk.constant s digits).IsWrittenAs text ∧
    value = (if s = .minus then -Text.digitsValue digits else Text.digitsValue digits : Int)

/-- A term that belongs to a chunk: a constant of the value that is written if the chunk is a constant, and a
pool if it is none. -/
def Term.IsOf (chunk : String) : Term → Prop
  | constant value => isConstant chunk = true ∧ WritesInteger chunk value
  | pool _ => isConstant chunk = false

/-- A part that belongs to a term: the value of a constant, and dice of a pool. -/
def Part.IsOf : Term → Part → Prop
  | .constant value, part => part = .scalar value
  | .pool _, part => ∃ values, part = .dice values

theorem Term.isOf_of_ofText {limits : Limits} {chunk : String} {term : Term} (hline : '\n' ∉ chunk.toList)
    (h : Term.ofText limits chunk = .ok term) : term.IsOf chunk := by
  by_cases hconstant : ∃ s digits, Chunk.ofText? chunk = some (.constant s digits)
  · obtain ⟨s, digits, hread⟩ := hconstant
    rw [Term.ofText_of_constant limits hread] at h
    obtain ⟨size, hsize, hmade⟩ := bind_eq_ok h
    obtain ⟨-, rfl⟩ := readCount_eq_ok hsize
    cases hmade
    refine ⟨isConstant_iff.mpr ⟨s, digits, hread⟩, s, digits, (Chunk.ofText?_eq_some_iff hline).mp hread, ?_⟩
    cases s <;> rfl
  · rw [Term.ofText_of_not_constant limits (by simpa using hconstant)] at h
    obtain ⟨p, -, hmade⟩ := bind_eq_ok h
    cases hmade
    show isConstant chunk = false
    rwa [Bool.eq_false_iff, ne_eq, isConstant_iff]

theorem Part.isOf_of_run {σ : Type} {source : Source σ} {state : σ} {term : Term} {part : Part}
    (h : (term.roll.run source state).outcome = .ok part) : part.IsOf term := by
  cases term with
  | constant value =>
    cases h
    rfl
  | pool p =>
    obtain ⟨values, -, rfl⟩ := Roll.run_map_eq_ok h
    exact ⟨values, rfl⟩

/-! ## The table of chunks -/

namespace CommandLine

/-- The kind of a chunk as `check` names it. -/
def chunkKind (chunk : String) : String := if isConstant chunk then "constant" else "dice"

theorem kindName_of_isOf {chunk : String} {term : Term} (h : term.IsOf chunk) : kindName term = chunkKind chunk := by
  unfold chunkKind
  cases term with
  | constant value => rw [if_pos h.1, kindName]
  | pool p => rw [if_neg (Bool.eq_false_iff.mp h), kindName]

theorem isPlain_chunkKind (chunk : String) : IsPlain (chunkKind chunk).toList := by
  unfold chunkKind
  split
  · exact .of_all (by decide)
  · exact .of_all (by decide)

/-- The row for a chunk: its number, its text and its kind. -/
def tableRow (i : Nat) (chunk : String) : List String := [toString (i + 1), chunk, chunkKind chunk]

/-- The table of chunks that has a row for each of them, in order. -/
def chunkTableOf (expression : String) (chunks : List String) : Table where
  title := expression
  columns := [{ header := "#", right := true }, { header := "Chunk" }, { header := "Kind" }]
  rows := chunks.mapIdx tableRow

theorem chunkTable_eq {e : Evaluator} (h : (e.terms.map fun t => kindName t.value) = e.chunks.map chunkKind) :
    chunkTable e = chunkTableOf e.expression e.chunks := by
  have hrows : ((e.chunks.zip (e.chunks.map chunkKind)).mapIdx fun i row => [toString (i + 1), row.1, row.2]) =
      e.chunks.mapIdx tableRow := by
    apply List.ext_getElem
    · simp
    · intro i hi hi'
      simp [tableRow]
  rw [chunkTable, h, hrows]
  rfl

theorem isPlain_chunkTableOf {expression : String} {chunks : List String}
    (hexpression : expression.toList.all isOrdinary = true)
    (hchunks : ∀ chunk ∈ chunks, chunk.toList.all isOrdinary = true) : (chunkTableOf expression chunks).IsPlain where
  title := .of_all hexpression
  headers := by
    intro column hcolumn
    simp only [chunkTableOf, List.mem_cons, List.not_mem_nil, or_false] at hcolumn
    rcases hcolumn with rfl | rfl | rfl
    · exact .of_all (by decide : "#".toList.all isOrdinary = true)
    · exact .of_all (by decide : "Chunk".toList.all isOrdinary = true)
    · exact .of_all (by decide : "Kind".toList.all isOrdinary = true)
  cells := by
    intro row hrow cell hcell
    obtain ⟨i, hi, rfl⟩ := List.mem_mapIdx.mp hrow
    simp only [tableRow, List.mem_cons, List.not_mem_nil, or_false] at hcell
    rcases hcell with rfl | rfl | rfl
    · exact isPlain_of_isNumeric (all_isNumeric_toString ((i + 1 : Nat) : Int))
    · exact .of_all (hchunks _ (List.getElem_mem hi))
    · exact isPlain_chunkKind _
  width := by
    intro row hrow
    obtain ⟨i, hi, rfl⟩ := List.mem_mapIdx.mp hrow
    rfl

end CommandLine

namespace Compiler

open CommandLine

theorem kinds_of_forall₂ {chunks : List String} {terms : List (Stamped Term)}
    (h : List.Forall₂ (fun chunk term => term.value.IsOf chunk) chunks terms) :
    terms.map (fun term => kindName term.value) = chunks.map chunkKind := by
  induction h with
  | nil => rfl
  | cons hterm _ ih => rw [List.map_cons, List.map_cons, kindName_of_isOf hterm, ih]

/--
**Chunks, terms and parts are in line.**

Let a compiler have been asked for anything, changes of its limits included, and then give an evaluator. The
chunks of the evaluator, put together, are its expression. It has a term for each chunk, in order: a constant of
the value that the chunk writes if the chunk is a constant, and a pool if it is none. Every roll of it that goes
well, on any source, has a part for each term, in order: the value of a constant, and dice of a pool. And where a
command checks an expression and has the evaluator for it, what it prints, if it fits the console, has a line for
each chunk, in order, with its number, its text and its kind.
-/
theorem aligned_of_compile {owner : Nat} {limits : Limits} {requests : List Request} {given : Value}
    {e : Stamped Evaluator}
    (h : ((after { owner := owner, limits := limits } requests).compile given).1 = .ok e) :
    String.join e.value.chunks = e.value.expression ∧
      e.value.terms.length = e.value.chunks.length ∧
      List.Forall₂ (fun chunk term => term.value.IsOf chunk) e.value.chunks e.value.terms ∧
      (∀ (σ : Type) (source : Source σ) (state : σ) (parts : List Part),
        (e.value.roll.run source state).outcome = .ok parts →
          parts.length = e.value.terms.length ∧
          List.Forall₂ (fun term part => part.IsOf term.value) e.value.terms parts) ∧
      chunkTable e.value = chunkTableOf e.value.expression e.value.chunks ∧
      ∀ [Validator] [Console] [LawfulConsole] (desk : CommandLine.Desk) (config : Option Document)
        (project : Document) (command : CheckCommand),
        (compileFor desk false config project command.expression).1 = .ok e.value →
        Console.FitsTable (chunkTable e.value) →
        ShowsTable (chunkTableOf e.value.expression e.value.chunks)
          (run desk config project (.check command)).1.output := by
  have hshares := ((coherent_of_empty rfl rfl).after requests).shares_of_compile h
  have hterms : List.Forall₂ (fun chunk term => term.value.IsOf chunk) e.value.chunks e.value.terms := by
    have hcompiled := forall₂_ofText_of_compile rfl rfl h
    have hline : ∀ chunk ∈ e.value.chunks, '\n' ∉ chunk.toList := by
      rw [hshares.chunks]
      exact fun chunk => Expression.lineEnd_not_mem_of_mem_cut hshares.tidy.lineEnd_not_mem
    refine ((List.forall₂_and_left _ _).mpr ⟨hline, hcompiled⟩).imp ?_
    rintro chunk term ⟨hchunk, before, -, hterm⟩
    exact Term.isOf_of_ofText hchunk hterm
  have hparts : ∀ (σ : Type) (source : Source σ) (state : σ) (parts : List Part),
      (e.value.roll.run source state).outcome = .ok parts →
        List.Forall₂ (fun term part => part.IsOf term.value) e.value.terms parts := by
    intro σ source state parts hok
    have hturn : Roll.InTurn source Term.roll (fun term _ part => part.IsOf term)
        (e.value.terms.map (·.value)) state parts := by
      refine Roll.inTurn_of_run_mapEach ?_ hok
      intro term _ state part hpart
      exact Part.isOf_of_run hpart
    exact List.forall₂_map_left_iff.mp (hturn.forall₂ fun _ _ _ hpart => hpart)
  have htable := chunkTable_eq (kinds_of_forall₂ hterms)
  refine ⟨?_, hterms.length_eq.symm, hterms, ?_, htable, ?_⟩
  · rw [hshares.chunks, hshares.expression, Expression.join_cut]
  · intro σ source state parts hok
    exact ⟨(hparts σ source state parts hok).length_eq.symm, hparts σ source state parts hok⟩
  · intro _ _ _ desk config project command hcompiled hfits
    have hchunks : ∀ chunk ∈ e.value.chunks, chunk.toList.all isOrdinary = true := by
      have hvalid := hshares.valid
      rw [hshares.chunks] at hvalid ⊢
      exact all_isOrdinary_of_mem_cut hshares.tidy hvalid
    have hexpression : e.value.expression.toList.all isOrdinary = true := by
      rw [hshares.expression, ← Expression.join_cut (Expression.tidy given.plain), ← hshares.chunks]
      exact all_join hchunks
    rw [htable] at hfits
    have hshown := LawfulConsole.printTable_fits (isPlain_chunkTableOf hexpression hchunks) hfits
    unfold run runCheck
    rcases hresult : compileFor desk false config project command.expression with ⟨outcome, next, notes⟩
    rw [hresult] at hcompiled
    obtain rfl : outcome = .ok e.value := hcompiled
    simp only [hresult]
    rw [htable]
    exact hshown

/-- Two chunks are found, of another expression and of other limits, and two are made. A command that checks the
expression lists all of them. -/
theorem aligned_of_compile_found :
    letI : Validator := .lenient fun _ => []
    letI : Console := .terminal
    let c : Compiler := after { owner := 0 } [.compile (.text "2d6+3"), .setLimits { maxDice := 1 }, .compileChunk "x"]
    let desk : CommandLine.Desk := { standard := c, project := some .standard }
    let project : Document := ⟨"config.toml", .missing⟩
    let command : CheckCommand := { expression := "2D6 + 3 - D% - ٠٤" }
    ∃ e : Stamped Evaluator, ∃ parts : List Part, (c.compile (.text command.expression)).1 = .ok e ∧
      (e.value.roll.run Source.firstFace ()).outcome = .ok parts ∧
      parts = [.dice [1, 1], .scalar 3, .dice [-1], .scalar (-4)] ∧
      String.join e.value.chunks = "2d6+3-d%-٠٤" ∧
      parts.length = e.value.terms.length ∧ e.value.terms.length = e.value.chunks.length ∧ LawfulConsole ∧
      (compileFor desk false none project command.expression).1 = .ok e.value ∧
      ShowsTable { title := "2d6+3-d%-٠٤"
                   columns := [{ header := "#", right := true }, { header := "Chunk" }, { header := "Kind" }]
                   rows := [["1", "2d6", "dice"], ["2", "+3", "constant"], ["3", "-d%", "dice"],
                     ["4", "-٠٤", "constant"]] }
        (run desk none project (.check command)).1.output := by
  intro c desk project command
  let _ : Validator := .lenient fun _ => []
  let _ : Console := .terminal
  have hlawful : LawfulConsole := lawfulConsole_terminal
  let e : Stamped Evaluator := ⟨⟨0, 5⟩, "2d6+3-d%-٠٤", ["2d6", "+3", "-d%", "-٠٤"],
    [⟨⟨0, 0⟩, .pool { count := 2, faces := 6 }⟩, ⟨⟨0, 1⟩, .constant 3⟩,
      ⟨⟨0, 3⟩, .pool { count := 1, faces := 100, negative := true, maxDice := 1 }⟩, ⟨⟨0, 4⟩, .constant (-4)⟩]⟩
  let parts : List Part := [.dice [1, 1], .scalar 3, .dice [-1], .scalar (-4)]
  have he : (c.compile (.text command.expression)).1 = .ok e := by
    decide +kernel
  have hparts : (e.value.roll.run Source.firstFace ()).outcome = .ok parts := by
    decide +kernel
  have hcompiled : (compileFor desk false none project command.expression).1 = .ok e.value := by
    have hchosen : chooseCompiler desk none project = (.ok (c, .standard), desk, []) := rfl
    unfold compileFor
    rw [hchosen]
    dsimp only
    rcases hresult : c.compile (.text command.expression) with ⟨outcome, next, notes⟩
    rw [hresult] at he
    obtain rfl : outcome = .ok e := he
    rfl
  obtain ⟨hjoin, hterms, -, hrolled, -, hlisted⟩ := aligned_of_compile he
  have htable : chunkTableOf e.value.expression e.value.chunks =
      { title := "2d6+3-d%-٠٤"
        columns := [{ header := "#", right := true }, { header := "Chunk" }, { header := "Kind" }]
        rows := [["1", "2d6", "dice"], ["2", "+3", "constant"], ["3", "-d%", "dice"], ["4", "-٠٤", "constant"]] } := by
    decide +kernel
  have hshown := hlisted desk none project command hcompiled trivial
  rw [htable] at hshown
  with_reducible exact ⟨e, parts, he, hparts, rfl, hjoin, (hrolled Unit Source.firstFace () parts hparts).1,
    hterms, hlawful, hcompiled, hshown⟩

end Compiler

end DiceNotation
