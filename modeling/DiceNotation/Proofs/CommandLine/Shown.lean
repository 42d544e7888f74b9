import DiceNotation.Proofs.Breakdown
import DiceNotation.Proofs.Chunk.Alphabet
import DiceNotation.Proofs.CommandLine.Console
import DiceNotation.Proofs.Expression.Sums
import DiceNotation.Proofs.Program

/-!
# What commands show

All that is shown of an expression that compiles is plain: its text and its chunks, which are written in the alphabet
of chunks, the numbers to which it is rolled, and the error of an explosion. The brackets and colons of a line
that shows a roll stand before blanks and numbers. So a console shows all of it as it is.
-/

namespace DiceNotation

open CommandLine

/-! ## Expressions -/

theorem isOrdinary_of_inAlphabet {c : Char} (h : inAlphabet c = true) : isOrdinary c = true := by
  have hletters : chunkLetters.all isOrdinary = true := by decide
  have hmarks : (Text.offDigits 0 31 && Text.offDigits 0x3A 0x3A && Text.offDigits 0x5B 0x5C) = true := by decide
  simp only [Bool.and_eq_true] at hmarks
  rcases Bool.or_eq_true_iff.mp h with h | h
  · have hcontrol := Text.not_mem_of_offDigits h hmarks.1.1
    have hcolon := Text.not_mem_of_offDigits h hmarks.1.2
    have hbrackets := Text.not_mem_of_offDigits h hmarks.2
    refine isOrdinary_iff.mpr ⟨?_, ?_, ?_, ?_⟩
    · show 32 ≤ c.toNat
      omega
    · rintro rfl
      revert hbrackets
      decide
    · rintro rfl
      revert hbrackets
      decide
    · rintro rfl
      revert hcolon
      decide
  · exact List.all_eq_true.mp hletters c (List.contains_iff_mem.mp h)

theorem all_isOrdinary_of_isChunk {text : String} (hline : '\n' ∉ text.toList) (h : isChunk text = true) :
    text.toList.all isOrdinary = true := by
  obtain ⟨c, hc⟩ := Option.isSome_iff_exists.mp h
  obtain ⟨hwellFormed, hwrite⟩ := Chunk.ofText?_eq_some_iff_write.mp hc
  rw [withoutLineEnd_of_not_mem hline] at hwrite
  rw [← hwrite]
  exact List.all_eq_true.mpr fun x hx =>
    isOrdinary_of_inAlphabet (List.all_eq_true.mp hwellFormed.all_inAlphabet x hx)

/-- The chunks of a tidied text are plain if they are chunks. -/
theorem all_isOrdinary_of_mem_cut {text : String} (htidy : Expression.IsTidy text)
    (hvalid : ∀ chunk ∈ Expression.cut text, isChunk chunk = true) :
    ∀ chunk ∈ Expression.cut text, chunk.toList.all isOrdinary = true := fun chunk hchunk =>
  all_isOrdinary_of_isChunk (Expression.lineEnd_not_mem_of_mem_cut htidy.lineEnd_not_mem hchunk) (hvalid chunk hchunk)

/-- An expression that compiles is plain. -/
theorem Program.all_isOrdinary_expression {limits : Limits} {given : Value} {p : Program}
    (h : Program.ofExpression limits given = .ok p) : p.expression.toList.all isOrdinary = true := by
  obtain ⟨hexpression, hfits⟩ := Program.ofExpression_eq_ok_iff.mp h
  have htidy : Expression.IsTidy p.expression := hexpression ▸ Expression.isTidy_tidy given.plain
  have hvalid : ∀ chunk ∈ Expression.cut p.expression, isChunk chunk = true := fun chunk hchunk =>
    isChunk_of_invalidChunks_eq_nil hfits.valid (hfits.chunks ▸ hchunk)
  rw [← Expression.join_cut p.expression]
  exact all_join (all_isOrdinary_of_mem_cut htidy hvalid)

/-! ## Numbers -/

/-- Whether a character is one of those that the numbers of a line are written in, and what separates them. -/
def isNumeric (c : Char) : Bool := c.isDigit || ['+', '-', ',', ' ', '=', ']'].contains c

theorem beginsStyle_of_isDigit {c : Char} (h : c.isDigit = true) : beginsStyle c = false := by
  cases hstyle : beginsStyle c with
  | false => rfl
  | true =>
    simp only [beginsStyle, Bool.or_eq_true, Bool.and_eq_true, decide_eq_true_eq, beq_iff_eq] at hstyle
    rcases hstyle with ((⟨hletter, -⟩ | rfl) | rfl) | rfl
    · have hletter : 97 ≤ c.toNat := hletter
      have hdigit : c.toNat ≤ 57 := by
        simp only [Char.isDigit, Bool.and_eq_true, decide_eq_true_eq] at h
        exact h.2
      omega
    · cases h
    · cases h
    · cases h

theorem isOrdinary_of_isNumeric {c : Char} (h : isNumeric c = true) :
    isOrdinary c = true ∧ beginsStyle c = false := by
  have hmarks : (['+', '-', ',', ' ', '=', ']'].all fun d => isOrdinary d && !beginsStyle d) = true := by decide
  rcases Bool.or_eq_true_iff.mp h with h | h
  · refine ⟨isOrdinary_of_inAlphabet (Bool.or_eq_true_iff.mpr (Or.inl (Text.isDigit_of_isDigit h))), ?_⟩
    exact beginsStyle_of_isDigit h
  · have hboth := List.all_eq_true.mp hmarks c (List.contains_iff_mem.mp h)
    simpa using hboth

theorem isPlain_of_isNumeric {text : List Char} (h : text.all isNumeric = true) : IsPlain text :=
  .of_all (List.all_eq_true.mpr fun c hc => (isOrdinary_of_isNumeric (List.all_eq_true.mp h c hc)).1)

theorem all_isNumeric_toString (n : Int) : (toString n).toList.all isNumeric = true := by
  rw [Breakdown.toList_toString, List.all_append, Bool.and_eq_true]
  constructor
  · unfold Breakdown.signOf
    split <;> decide
  · refine List.all_eq_true.mpr fun c hc => ?_
    rw [isNumeric, Nat.isDigit_of_mem_toDigits (by decide) (by decide) hc, Bool.true_or]

/-- A part of a breakdown is plain: its bracket stands before a number or another bracket. -/
theorem isPlain_partText (first : Bool) (part : Part) : IsPlain (part.text first).toList := by
  cases part with
  | scalar value =>
    refine isPlain_of_isNumeric ?_
    unfold Part.text
    dsimp only
    split
    · rw [String.toList_append, List.all_append, all_isNumeric_toString]
      rfl
    · exact all_isNumeric_toString value
  | dice values =>
    have hvalues : ((", ".intercalate (values.map toString)).toList ++ [']']).all isNumeric = true := by
      rw [List.all_append, all_intercalate (by decide) (List.forall_mem_map.mpr fun n _ => all_isNumeric_toString n)]
      rfl
    have hgroup : IsPlain ("[" ++ ", ".intercalate (values.map toString) ++ "]").toList := by
      rw [String.toList_append, String.toList_append, List.append_assoc]
      show IsPlain ('[' :: ((", ".intercalate (values.map toString)).toList ++ [']']))
      refine .cons_bracket (List.append_ne_nil_of_right_ne_nil _ (List.cons_ne_nil _ _)) (fun c hc => ?_)
        (isPlain_of_isNumeric hvalues)
      exact (isOrdinary_of_isNumeric (List.all_eq_true.mp hvalues c hc)).2
    cases first with
    | true => exact hgroup
    | false =>
      show IsPlain ("+" ++ ("[" ++ ", ".intercalate (values.map toString) ++ "]")).toList
      rw [String.toList_append]
      exact .append (.of_all (by decide)) hgroup

theorem isPlain_breakdown (parts : List Part) : IsPlain (breakdown parts).toList := by
  refine .intercalate (.of_all (by decide)) fun text htext => ?_
  cases parts with
  | nil => cases htext
  | cons part parts =>
    rcases List.mem_cons.mp htext with rfl | htext
    · exact isPlain_partText true part
    · obtain ⟨other, -, rfl⟩ := List.mem_map.mp htext
      exact isPlain_partText false other

namespace CommandLine

/-! ## Lines -/

theorem isPlain_rollLine {expression : String} (h : expression.toList.all isOrdinary = true) (withBreakdown : Bool)
    (parts : List Part) : IsPlain (rollLine expression withBreakdown parts).toList := by
  have hparts : IsPlain (if withBreakdown then breakdown parts ++ " = " else "").toList := by
    split
    · rw [String.toList_append]
      exact (isPlain_breakdown parts).append (.of_all (by decide))
    · exact .nil
  rw [rollLine_eq]
  simp only [String.toList_append]
  have htotal : IsPlain (toString (total parts)).toList := isPlain_of_isNumeric (all_isNumeric_toString _)
  exact ((((IsPlain.of_all (by decide)).append (.of_all h)).append (.colon .nil)).append hparts).append htotal

/-- The message of an explosion that was stopped is plain. -/
theorem isPlain_message_limitExceeded (face : Int) (size pending : Nat) (limit : Int) :
    IsPlain (RollError.limitExceeded face size pending limit).message.toList := by
  have hdice : (toString (size + pending)).toList.all isNumeric = true :=
    all_isNumeric_toString ((size + pending : Nat) : Int)
  have hmessage : (RollError.limitExceeded face size pending limit).message =
      "Explosion exceeded roll limit: " ++ toString (size + pending) ++ " > " ++ toString limit := rfl
  have hstart : IsPlain "Explosion exceeded roll limit: ".toList :=
    IsPlain.append (.of_all (by decide : "Explosion exceeded roll limit".toList.all isOrdinary = true)) (.colon .nil)
  rw [hmessage]
  simp only [String.toList_append]
  exact ((hstart.append (isPlain_of_isNumeric hdice)).append (.of_all (by decide))).append
    (isPlain_of_isNumeric (all_isNumeric_toString limit))

variable [Console] [LawfulConsole]

/-- A roll of an expression that compiles is shown by its line. -/
theorem shows_roll {expression : String} (h : expression.toList.all isOrdinary = true) (withBreakdown : Bool)
    (parts : List Part) :
    Shows (Console.print (markup (rollSpans expression withBreakdown (total parts) parts)))
      ("  Roll " ++ expression ++ ": " ++ (if withBreakdown then breakdown parts ++ " = " else "") ++
        toString (total parts)) := by
  rw [← rollLine_eq]
  exact shows_print (isPlain_rollLine h withBreakdown parts)

/-- A plain message of an error is shown after the word that says so. -/
theorem shows_errorLines {message : String} (h : IsPlain message.toList) :
    Shows (errorLines message) ("Error: " ++ message) := by
  have htext : plainText (errorSpans message) = "Error: " ++ message := by
    refine String.toList_inj.mp ?_
    simp [plainText, errorSpans]
  rw [errorLines, LawfulConsole.escape_plain h, ← htext]
  refine shows_print ?_
  rw [htext, String.toList_append]
  exact IsPlain.append (IsPlain.append (.of_all (by decide : "Error".toList.all isOrdinary = true)) (.colon .nil)) h

end CommandLine

end DiceNotation
