import Mathlib.Data.List.Forall2
import DiceNotation.CommandLine.Console

/-!
# What is known of consoles

A console comes from outside. How it marks styles, breaks lines and draws frames is not known here, and for most
texts neither is what becomes of them: a word in brackets may be taken for a style, and one between colons for the
name of an emoji. But a plain text is one in which there is no such word. All that a console does to plain texts is to
break them where a line ends, and one that fits into a line it shows as it is.

In a table that fits, every row has a line, in order, in which its texts stand one after the other.
-/

namespace DiceNotation.CommandLine

/-! ## Texts put together -/

theorem toList_join_cons (text : String) (texts : List String) :
    (String.join (text :: texts)).toList = text.toList ++ (String.join texts).toList := by
  rw [String.join_cons, String.toList_append]

section Put

variable {p : Char → Bool} {texts : List String}

theorem all_join (h : ∀ text ∈ texts, text.toList.all p = true) : (String.join texts).toList.all p = true := by
  induction texts with
  | nil => rfl
  | cons text texts ih =>
    obtain ⟨htext, htexts⟩ := List.forall_mem_cons.mp h
    rw [toList_join_cons, List.all_append, htext, ih htexts]
    rfl

theorem all_intercalate {separator : String} (hseparator : separator.toList.all p = true)
    (h : ∀ text ∈ texts, text.toList.all p = true) : (separator.intercalate texts).toList.all p = true := by
  induction texts with
  | nil => rfl
  | cons text texts ih =>
    obtain ⟨htext, htexts⟩ := List.forall_mem_cons.mp h
    cases texts with
    | nil => rwa [String.intercalate_singleton]
    | cons next texts =>
      rw [String.intercalate_cons_cons, String.toList_append, String.toList_append, List.all_append,
        List.all_append, htext, hseparator, ih htexts]
      rfl

end Put

/-! ## Plain texts -/

/-- Whether a character stands for itself wherever it is. -/
def isOrdinary (c : Char) : Bool := ' ' ≤ c && c != '\\' && c != '[' && c != ':'

theorem isOrdinary_iff {c : Char} : isOrdinary c = true ↔ ' ' ≤ c ∧ c ≠ '\\' ∧ c ≠ '[' ∧ c ≠ ':' := by
  simp only [isOrdinary, Bool.and_eq_true, decide_eq_true_eq, bne_iff_ne, and_assoc]

/-- A text that stands for itself. A colon in it begins no word, and a bracket no style. -/
inductive IsPlain : List Char → Prop where
  | nil : IsPlain []
  | ordinary {c : Char} {rest : List Char} : isOrdinary c = true → IsPlain rest → IsPlain (c :: rest)
  | colon {rest : List Char} : IsPlain rest → IsPlain (':' :: ' ' :: rest)
  | bracket {c : Char} {rest : List Char} : beginsStyle c = false → IsPlain (c :: rest) → IsPlain ('[' :: c :: rest)

namespace IsPlain

variable {text more : List Char}

theorem of_all (h : text.all isOrdinary = true) : IsPlain text := by
  induction text with
  | nil => exact .nil
  | cons c rest ih =>
    rw [List.all_cons, Bool.and_eq_true] at h
    exact .ordinary h.1 (ih h.2)

theorem append (h : IsPlain text) (h' : IsPlain more) : IsPlain (text ++ more) := by
  induction h with
  | nil => exact h'
  | ordinary hc _ ih => exact .ordinary hc ih
  | colon _ ih => exact .colon ih
  | bracket hc _ ih => exact .bracket hc ih

/-- A bracket may be put before a text that begins with no style. -/
theorem cons_bracket (hne : text ≠ []) (hfirst : ∀ c ∈ text, beginsStyle c = false) (h : IsPlain text) :
    IsPlain ('[' :: text) := by
  cases text with
  | nil => exact absurd rfl hne
  | cons c rest => exact .bracket (hfirst c List.mem_cons_self) h

theorem intercalate {separator : String} {texts : List String} (hseparator : IsPlain separator.toList)
    (htexts : ∀ text ∈ texts, IsPlain text.toList) : IsPlain (separator.intercalate texts).toList := by
  induction texts with
  | nil => exact .nil
  | cons text texts ih =>
    obtain ⟨htext, hothers⟩ := List.forall_mem_cons.mp htexts
    cases texts with
    | nil => rwa [String.intercalate_singleton]
    | cons next texts =>
      rw [String.intercalate_cons_cons, String.toList_append, String.toList_append]
      exact (htext.append hseparator).append (ih hothers)

end IsPlain

/-! ## Lines -/

/-- The lines hold the text, whatever blanks have come in or gone. -/
def KeepsText (lines : List String) (text : String) : Prop :=
  (String.join lines).toList.filter (· ≠ ' ') = text.toList.filter (· ≠ ' ')

theorem keepsText_singleton (text : String) : KeepsText [text] text := by
  rw [KeepsText, toList_join_cons]
  exact congrArg _ (List.append_nil _)

/-- Whether a character is blank or belongs to a frame. -/
def isFraming (c : Char) : Bool := c == ' ' || (0x2500 ≤ c.toNat && c.toNat ≤ 0x257F)

/-- A line that shows texts one after the other, with nothing but blanks and the frame before each and at the end. -/
inductive ShowsTexts : List Char → List String → Prop where
  | nil {line : List Char} : line.all isFraming = true → ShowsTexts line []
  | cons {before rest : List Char} {text : String} {texts : List String} : before ≠ [] →
      before.all isFraming = true → ShowsTexts rest texts → ShowsTexts (before ++ text.toList ++ rest) (text :: texts)

/-- Lines that show a table: the title, the headers in a frame, a line for each row in order, and the end of the
frame. -/
def ShowsTable (t : Table) (lines : List String) : Prop :=
  ∃ (title rows : List String) (top headers rule bottom : String),
    lines = title ++ [top, headers, rule] ++ rows ++ [bottom] ∧ KeepsText title t.title ∧
      ShowsTexts headers.toList (t.columns.map Column.header) ∧
      List.Forall₂ (fun line row => ShowsTexts line.toList row) rows t.rows ∧
      ShowsTexts top.toList [] ∧ ShowsTexts rule.toList [] ∧ ShowsTexts bottom.toList []

/-- A table of plain texts, with one in each column of each row. -/
structure Table.IsPlain (t : Table) : Prop where
  title : CommandLine.IsPlain t.title.toList
  headers : ∀ column ∈ t.columns, CommandLine.IsPlain column.header.toList
  cells : ∀ row ∈ t.rows, ∀ cell ∈ row, CommandLine.IsPlain cell.toList
  width : ∀ row ∈ t.rows, row.length = t.columns.length

/-! ## Consoles -/

variable [Console]

/-- What all consoles have in common. -/
class LawfulConsole : Prop where
  /-- Nothing in a plain text has to be marked. -/
  escape_plain : ∀ {text : String}, IsPlain text.toList → Console.escape text = text
  /-- No text is lost, however the lines are broken. -/
  print_kept : ∀ {spans : List Span}, IsPlain (plainText spans).toList →
    KeepsText (Console.print (markup spans)) (plainText spans)
  /-- A text that fits into a line is one line. -/
  print_fits : ∀ {spans : List Span}, IsPlain (plainText spans).toList → Console.Fits (plainText spans) →
    Console.print (markup spans) = [plainText spans]
  /-- A table that fits has a line for each row. -/
  printTable_fits : ∀ {t : Table}, t.IsPlain → Console.FitsTable t → ShowsTable t (Console.printTable t)

/-- Lines that show a text: it is in them, and they are nothing but it if it fits into a line. -/
structure Shows (lines : List String) (text : String) : Prop where
  kept : KeepsText lines text
  whole : Console.Fits text → lines = [text]

theorem shows_print [LawfulConsole] {spans : List Span} (h : IsPlain (plainText spans).toList) :
    Shows (Console.print (markup spans)) (plainText spans) :=
  ⟨LawfulConsole.print_kept h, LawfulConsole.print_fits h⟩

end DiceNotation.CommandLine
