import Mathlib.Data.List.Chain
import DiceNotation.CommandLine.Terminal
import DiceNotation.Proofs.CommandLine.Console

/-!
# The terminal is a console

On a terminal a marked-up text is gone through once: words that stand for styles are left out, and what is between
them is shown as it is, but for backslashes and the names of emoji. In a plain text there are neither. So what is
left of it when its marks are out is the text.

A row of a table is made of its texts, each filled up with blanks on one side and set apart from the next by the
frame.
-/

namespace DiceNotation.CommandLine

/-! ## Texts without names and escapes -/

/-- What may stand after a character in a part of a plain text. -/
def mayFollow (c d : Char) : Prop := (c = ':' → d = ' ') ∧ (c = '[' → beginsStyle d = false)

/-- A text of which any part may be a part of a plain one. -/
structure IsQuiet (text : List Char) : Prop where
  visible : ∀ c ∈ text, ' ' ≤ c ∧ c ≠ '\\'
  follow : text.IsChain mayFollow

theorem IsPlain.isQuiet {text : List Char} (h : IsPlain text) : IsQuiet text := by
  induction h with
  | nil => exact ⟨List.forall_mem_nil _, .nil⟩
  | ordinary hc _ ih =>
    obtain ⟨hvisible, hslash, hbracket, hcolon⟩ := isOrdinary_iff.mp hc
    refine ⟨List.forall_mem_cons.mpr ⟨⟨hvisible, hslash⟩, ih.visible⟩, List.isChain_cons.mpr ⟨?_, ih.follow⟩⟩
    exact fun d _ => ⟨fun h => absurd h hcolon, fun h => absurd h hbracket⟩
  | colon _ ih =>
    refine ⟨?_, ?_⟩
    · exact List.forall_mem_cons.mpr ⟨by decide, List.forall_mem_cons.mpr ⟨by decide, ih.visible⟩⟩
    · refine .cons_cons ⟨fun _ => rfl, nofun⟩ (List.isChain_cons.mpr ⟨fun d _ => ⟨nofun, nofun⟩, ih.follow⟩)
  | bracket hc _ ih =>
    exact ⟨List.forall_mem_cons.mpr ⟨by decide, ih.visible⟩, .cons_cons ⟨nofun, fun _ => hc⟩ ih.follow⟩

namespace IsQuiet

variable {text more : List Char}

theorem left (h : IsQuiet (text ++ more)) : IsQuiet text :=
  ⟨fun c hc => h.visible c (List.mem_append_left more hc), h.follow.left_of_append⟩

theorem right (h : IsQuiet (text ++ more)) : IsQuiet more :=
  ⟨fun c hc => h.visible c (List.mem_append_right text hc), h.follow.right_of_append⟩

theorem tail {c : Char} (h : IsQuiet (c :: text)) : IsQuiet text :=
  ⟨fun d hd => h.visible d (List.mem_cons_of_mem c hd), h.follow.tail⟩

theorem dropBracketEscapes_eq (h : IsQuiet text) : dropBracketEscapes text = text := by
  induction text with
  | nil => rfl
  | cons c rest ih =>
    have hslash := (h.visible c List.mem_cons_self).2
    unfold dropBracketEscapes
    split
    · next heq =>
      cases heq
      exact absurd rfl hslash
    · next heq =>
      cases heq
      rw [ih h.tail]
    · next heq => cases heq

theorem showEmoji_eq (h : IsQuiet text) : Text.showEmoji text = text := by
  induction text with
  | nil => rw [Text.showEmoji]
  | cons c rest ih =>
    by_cases hcolon : c = ':'
    · subst hcolon
      -- the word after the colon is empty, for a blank stands there or nothing
      have hcode : (rest.takeWhile fun d => d != ':' && !Text.isBlank d) = [] := by
        cases rest with
        | nil => rfl
        | cons d rest =>
          obtain rfl : d = ' ' := (List.isChain_cons_cons.mp h.follow).1.1 rfl
          exact List.takeWhile_cons_of_neg (by decide)
      have hword : ∀ after, rest ≠ ':' :: after := by
        rintro after rfl
        have hblank : ':' = ' ' := (List.isChain_cons_cons.mp h.follow).1.1 rfl
        cases hblank
      rw [Text.showEmoji]
      dsimp only
      split
      · next after heq =>
        rw [hcode] at heq
        exact absurd heq (hword after)
      · rw [ih h.tail]
    · rw [Text.showEmoji, ih h.tail]
      exact fun heq => hcolon heq

theorem showPlain_eq (h : IsQuiet text) : showPlain text = text := by
  rw [showPlain, h.dropBracketEscapes_eq, h.showEmoji_eq]

end IsQuiet

/-! ## Marks -/

variable {plain : List Char → List Char} {mark : List Char → List Char → List Char} {before text rest : List Char}

theorem mapStyles_of_ordinary {c : Char} (hc : c ≠ '[') :
    mapStyles plain mark before (c :: rest) = mapStyles plain mark (c :: before) rest := by
  rw [mapStyles]
  exact fun heq => hc heq

theorem mapStyles_of_no_style (h : styleIn? rest = none) :
    mapStyles plain mark before ('[' :: rest) = mapStyles plain mark ('[' :: before) rest := by
  rw [mapStyles]
  split
  · next heq =>
    rw [h] at heq
    cases heq
  · rfl

theorem mapStyles_of_style {inside after : List Char} (h : styleIn? rest = some (inside, after)) :
    mapStyles plain mark before ('[' :: rest) =
      plain (before.drop (before.takeWhile (· == '\\')).length).reverse ++
        mark (before.takeWhile (· == '\\')) ('[' :: inside ++ [']']) ++ mapStyles plain mark [] after := by
  rw [mapStyles]
  split
  · next heq =>
    rw [h] at heq
    cases heq
    rfl
  · next heq =>
    rw [h] at heq
    cases heq

/-- What does not begin like a style is none. -/
theorem styleIn?_of_not_beginsStyle (h : ∀ c ∈ text.head?, beginsStyle c = false) : styleIn? text = none := by
  cases text with
  | nil => rfl
  | cons c rest =>
    have hc : ¬beginsStyle c = true := Bool.eq_false_iff.mp (h c rfl)
    simp only [styleIn?, if_neg hc]
    split <;> rfl

/-- What begins like a style is one if a bracket closes it and none opens in it. -/
theorem styleIn?_of_word {c : Char} {word : List Char} (hc : beginsStyle c = true)
    (hword : (word.all fun d => d != ']' && d != '[') = true) :
    styleIn? (c :: word ++ ']' :: rest) = some (c :: word, rest) := by
  have hinside : ((word ++ ']' :: rest).takeWhile fun d => d != ']' && d != '[') = word := by
    rw [List.takeWhile_append_of_pos (List.all_eq_true.mp hword), List.takeWhile_cons_of_neg (by decide),
      List.append_nil]
  rw [List.cons_append]
  simp only [styleIn?, hinside, List.drop_left, if_pos hc]

theorem styleIn?_opening (style : Style) (rest : List Char) :
    styleIn? (style.name.toList ++ ']' :: rest) = some (style.name.toList, rest) := by
  cases style <;> exact styleIn?_of_word (by decide) (by decide)

theorem styleIn?_closing (style : Style) (rest : List Char) :
    styleIn? ('/' :: style.name.toList ++ ']' :: rest) = some ('/' :: style.name.toList, rest) := by
  cases style <;> exact styleIn?_of_word (by decide) (by decide)

/-- A quiet text has no styles, if what comes after it does not make its last character begin one. -/
theorem mapStyles_append (htext : IsQuiet text)
    (hlast : ∀ c ∈ text.getLast?, c = '[' → ∀ d ∈ rest.head?, beginsStyle d = false) :
    mapStyles plain mark before (text ++ rest) = mapStyles plain mark (text.reverse ++ before) rest := by
  induction text generalizing before with
  | nil => rfl
  | cons c text ih =>
    have hstep : mapStyles plain mark before (c :: (text ++ rest)) =
        mapStyles plain mark (c :: before) (text ++ rest) := by
      by_cases hc : c = '['
      · subst hc
        refine mapStyles_of_no_style (styleIn?_of_not_beginsStyle fun d hd => ?_)
        cases text with
        | nil => exact hlast '[' rfl rfl d hd
        | cons next text =>
          cases hd
          exact (List.isChain_cons_cons.mp htext.follow).1.2 rfl
      · exact mapStyles_of_ordinary hc
    have hrest : ∀ d ∈ text.getLast?, d = '[' → ∀ e ∈ rest.head?, beginsStyle e = false := by
      intro d hd
      refine hlast d ?_
      rw [List.getLast?_cons, Option.mem_def.mp hd]
      rfl
    rw [List.cons_append, hstep, ih htext.tail hrest, List.reverse_cons, List.append_assoc]
    rfl

/-- A style does not show, and what stands before it does as it is. -/
theorem mapStyles_showing {inside after : List Char} (h : styleIn? rest = some (inside, after))
    (hbefore : IsQuiet before.reverse) :
    mapStyles showPlain showMark before ('[' :: rest) =
      before.reverse ++ mapStyles showPlain showMark [] after := by
  have hslashes : before.takeWhile (· == '\\') = [] := by
    cases before with
    | nil => rfl
    | cons c before =>
      have hc : c ≠ '\\' := (hbefore.visible c (List.mem_reverse.mpr List.mem_cons_self)).2
      exact List.takeWhile_cons_of_neg (by simpa using hc)
  rw [mapStyles_of_style h, hslashes, List.length_nil, List.drop_zero, hbefore.showPlain_eq]
  exact congrArg (· ++ _) (List.append_nil _)

/-! ## Marked-up texts -/

theorem toList_plainText_cons (span : Span) (spans : List Span) :
    (plainText (span :: spans)).toList = span.text.toList ++ (plainText spans).toList :=
  toList_join_cons _ _

theorem toList_markup_cons_plain (text : String) (spans : List Span) :
    (markup ({ text := text } :: spans)).toList = text.toList ++ (markup spans).toList :=
  toList_join_cons _ _

theorem toList_markup_cons_style (style : Style) (text : String) (spans : List Span) :
    (markup ({ style := some style, text := text } :: spans)).toList =
      '[' :: (style.name.toList ++ ']' ::
        (text.toList ++ '[' :: ('/' :: style.name.toList ++ ']' :: (markup spans).toList))) := by
  rw [markup, List.map_cons, toList_join_cons]
  simp only [Span.markup, String.toList_append, List.append_assoc]
  rfl

/-- A marked-up text begins with a bracket or as the text does. -/
theorem head?_markup {spans : List Span} {c : Char} (h : c ∈ (markup spans).toList.head?) :
    c = '[' ∨ c ∈ (plainText spans).toList.head? := by
  induction spans with
  | nil => cases h
  | cons span spans ih =>
    obtain ⟨style, text⟩ := span
    cases style with
    | some style =>
      rw [toList_markup_cons_style] at h
      cases h
      exact Or.inl rfl
    | none =>
      rw [toList_markup_cons_plain] at h
      rw [toList_plainText_cons]
      cases htext : text.toList with
      | nil =>
        rw [htext] at h
        exact ih h
      | cons first rest =>
        rw [htext] at h
        exact Or.inr h

/-- **A marked-up text shows as the text** that is left when the marks are out. -/
theorem mapStyles_markup {spans : List Span} (h : IsQuiet (before.reverse ++ (plainText spans).toList)) :
    mapStyles showPlain showMark before (markup spans).toList = before.reverse ++ (plainText spans).toList := by
  induction spans generalizing before with
  | nil =>
    show mapStyles showPlain showMark before [] = _
    rw [mapStyles, h.left.showPlain_eq]
    exact (List.append_nil _).symm
  | cons span spans ih =>
    obtain ⟨style, text⟩ := span
    rw [toList_plainText_cons] at h ⊢
    have htext : IsQuiet text.toList := h.right.left
    cases style with
    | none =>
      have hlast : ∀ c ∈ text.toList.getLast?, c = '[' → ∀ d ∈ (markup spans).toList.head?, beginsStyle d = false := by
        intro c hc hbracket d hd
        rcases head?_markup hd with rfl | hd
        · decide
        · exact ((List.isChain_append.mp h.right.follow).2.2 c hc d hd).2 hbracket
      rw [toList_markup_cons_plain, mapStyles_append htext hlast, ih]
      · rw [List.reverse_append, List.reverse_reverse, List.append_assoc]
      · rwa [List.reverse_append, List.reverse_reverse, List.append_assoc]
    | some style =>
      have hlast : ∀ c ∈ text.toList.getLast?, c = '[' →
          ∀ d ∈ ('[' :: ('/' :: style.name.toList ++ ']' :: (markup spans).toList)).head?, beginsStyle d = false := by
        rintro _ _ _ _ ⟨⟩
        decide
      rw [toList_markup_cons_style, mapStyles_showing (styleIn?_opening style _) h.left, mapStyles_append htext hlast,
        List.append_nil, mapStyles_showing (styleIn?_closing style _) (by rwa [List.reverse_reverse]),
        List.reverse_reverse]
      have hrest : mapStyles showPlain showMark [] (markup spans).toList = [].reverse ++ (plainText spans).toList :=
        ih h.right.right
      rw [hrest, List.reverse_nil, List.nil_append]

theorem showMarkup_markup {spans : List Span} (h : IsQuiet (plainText spans).toList) :
    showMarkup (markup spans).toList = (plainText spans).toList := by
  have hshown : mapStyles showPlain showMark [] (markup spans).toList = [].reverse ++ (plainText spans).toList :=
    mapStyles_markup h
  rw [showMarkup, hshown, List.reverse_nil, List.nil_append]
  refine List.filter_eq_self.mpr fun c hc => ?_
  have hvisible : 32 ≤ c.toNat := (h.visible c hc).1
  simp only [movesCursor, Bool.not_eq_true', List.contains_eq_mem, decide_eq_false_iff_not, List.mem_cons,
    List.not_mem_nil, or_false]
  omega

theorem escapeStyles_eq (h : IsQuiet text) : escapeStyles text = text := by
  have hstyles : mapStyles id (fun slashes word => slashes ++ slashes ++ ('\\' :: word)) [] (text ++ []) = text := by
    have hend : ∀ c ∈ text.getLast?, c = '[' → ∀ d ∈ ([] : List Char).head?, beginsStyle d = false := by
      intro _ _ _ d hd
      cases hd
    rw [mapStyles_append h hend, mapStyles, List.append_nil, List.reverse_reverse]
    rfl
  rw [List.append_nil] at hstyles
  have hslash : '\\' ∉ text.reverse := fun hmem => (h.visible _ (List.mem_reverse.mp hmem)).2 rfl
  rw [escapeStyles, hstyles]
  unfold doubleLastBackslash
  split
  · rfl
  · next heq =>
    rw [heq] at hslash
    exact absurd List.mem_cons_self hslash
  · rfl

/-! ## Tables -/

theorem isFraming_blanks (n : Nat) : (blanks n).toList.all isFraming = true := by
  rw [blanks, String.toList_ofList, List.all_eq_true]
  intro c hc
  rw [List.eq_of_mem_replicate hc]
  rfl

/-- Framing may be put in front of a line. -/
theorem ShowsTexts.append_framing {before line : List Char} {texts : List String}
    (hbefore : before.all isFraming = true) (h : ShowsTexts line texts) : ShowsTexts (before ++ line) texts := by
  cases h with
  | nil hline => exact .nil (by rw [List.all_append, hbefore, hline]; rfl)
  | @cons between rest text texts hne hbetween hrest =>
    rw [List.append_assoc, ← List.append_assoc before, ← List.append_assoc]
    refine .cons (List.append_ne_nil_of_right_ne_nil before hne) ?_ hrest
    rw [List.all_append, hbefore, hbetween]
    rfl

/-- A text that is filled up has framing on both sides, be it none. -/
theorem exists_fill_eq (column : Column) (width : Nat) (text : String) :
    ∃ left right : String, fill column width text = left ++ text ++ right ∧
      left.toList.all isFraming = true ∧ right.toList.all isFraming = true := by
  unfold fill
  dsimp only
  split
  · exact ⟨_, "", by rw [String.append_empty], isFraming_blanks _, rfl⟩
  · exact ⟨"", _, by rw [String.empty_append], rfl, isFraming_blanks _⟩

/-- A row of a table shows its texts. -/
theorem showsTexts_rowLine {columns : List (Column × Nat)} {texts : List String}
    (h : texts.length = columns.length) : ShowsTexts (rowLine columns texts).toList texts := by
  induction columns generalizing texts with
  | nil =>
    obtain rfl := List.eq_nil_of_length_eq_zero h
    exact .nil rfl
  | cons column columns ih =>
    obtain ⟨column, width⟩ := column
    cases texts with
    | nil => cases h
    | cons text texts =>
      obtain ⟨left, right, hfill, hleft, hright⟩ := exists_fill_eq column width text
      have hrest : ShowsTexts (right.toList ++ (" ".toList ++ (rowLine columns texts).toList)) texts :=
        .append_framing hright (.append_framing rfl (ih (Nat.succ.inj h)))
      have hline : (rowLine ((column, width) :: columns) (text :: texts)).toList =
          ("│ ".toList ++ left.toList) ++ text.toList ++
            (right.toList ++ (" ".toList ++ (rowLine columns texts).toList)) := by
        rw [rowLine, hfill]
        simp only [String.toList_append, List.append_assoc]
      rw [hline]
      refine .cons (List.append_ne_nil_of_left_ne_nil (by decide) _) ?_ hrest
      rw [List.all_append, hleft]
      rfl

/-- A line of the frame shows nothing. -/
theorem showsTexts_frameLine {left middle right : String} (hleft : left.toList.all isFraming = true)
    (hmiddle : middle.toList.all isFraming = true) (hright : right.toList.all isFraming = true)
    (columns : List (Column × Nat)) : ShowsTexts (frameLine left middle right columns).toList [] := by
  have hdashes : ∀ text ∈ columns.map fun column => String.ofList (List.replicate (column.2 + 2) '─'),
      text.toList.all isFraming = true := by
    intro text htext
    obtain ⟨column, -, rfl⟩ := List.mem_map.mp htext
    rw [String.toList_ofList, List.all_eq_true]
    intro c hc
    rw [List.eq_of_mem_replicate hc]
    rfl
  refine .nil ?_
  rw [frameLine, String.toList_append, String.toList_append, List.all_append, List.all_append, hleft, hright,
    all_intercalate hmiddle hdashes]
  rfl

theorem flatten_piecesFrom (width room : Nat) (text : List Char) : (piecesFrom width room text).flatten = text := by
  induction text generalizing room with
  | nil => rfl
  | cons c rest ih =>
    unfold piecesFrom
    split
    · have hrest := ih (room - Text.cellWidth c)
      generalize piecesFrom width (room - Text.cellWidth c) rest = pieces at hrest ⊢
      subst hrest
      cases pieces with
      | nil => rfl
      | cons piece pieces => rfl
    · have hrest := ih (width - Text.cellWidth c)
      generalize piecesFrom width (width - Text.cellWidth c) rest = pieces at hrest ⊢
      subst hrest
      cases pieces with
      | nil => rfl
      | cons piece pieces => rfl

theorem filter_blanks (n : Nat) : (blanks n).toList.filter (· ≠ ' ') = [] := by
  rw [blanks, String.toList_ofList, List.filter_eq_nil_iff]
  intro c hc
  rw [List.eq_of_mem_replicate hc]
  decide

/-- A title is kept, in as many pieces as it is shown. -/
theorem keepsText_titleLines (width : Nat) (title : String) : KeepsText (titleLines width title) title := by
  have hpieces (pieces : List (List Char)) :
      (String.join (pieces.map fun piece => centred width (String.ofList piece))).toList.filter (· ≠ ' ') =
        pieces.flatten.filter (· ≠ ' ') := by
    induction pieces with
    | nil => rfl
    | cons piece pieces ih =>
      rw [List.map_cons, toList_join_cons, List.filter_append, ih, List.flatten_cons, List.filter_append, centred]
      simp only [String.toList_append, List.filter_append, filter_blanks, String.toList_ofList, List.nil_append,
        List.append_nil]
  rw [KeepsText, titleLines, hpieces, flatten_piecesFrom]

theorem showsTable_tableLines {t : Table} (h : t.IsPlain) : ShowsTable t (tableLines t) := by
  have hwidth : t.columns.length = t.widths.length := by rw [Table.widths, List.length_mapIdx]
  refine ⟨_, t.rows.map (rowLine t.widths), _, _, _, _, rfl, keepsText_titleLines _ t.title, ?_, ?_, ?_, ?_, ?_⟩
  · exact showsTexts_rowLine (by rw [List.length_map, hwidth])
  · refine List.forall₂_map_left_iff.mpr (List.forall₂_same.mpr fun row hrow => ?_)
    exact showsTexts_rowLine (by rw [h.width row hrow, hwidth])
  · exact showsTexts_frameLine rfl rfl rfl _
  · exact showsTexts_frameLine rfl rfl rfl _
  · exact showsTexts_frameLine rfl rfl rfl _

/-! ## The terminal -/

/-- The terminal is a console. -/
theorem lawfulConsole_terminal : @LawfulConsole .terminal :=
  letI : Console := .terminal
  have hprint {spans : List Span} (h : IsPlain (plainText spans).toList) :
      [String.ofList (showMarkup (markup spans).toList)] = [plainText spans] := by
    rw [showMarkup_markup h.isQuiet, String.ofList_toList]
  { escape_plain := fun {text} h => by
      show String.ofList (escapeStyles text.toList) = text
      rw [escapeStyles_eq h.isQuiet, String.ofList_toList]
    print_kept := fun {spans} h => by
      show KeepsText [String.ofList (showMarkup (markup spans).toList)] _
      rw [hprint h]
      exact keepsText_singleton _
    print_fits := fun h _ => hprint h
    printTable_fits := fun h _ => showsTable_tableLines h }

end DiceNotation.CommandLine
