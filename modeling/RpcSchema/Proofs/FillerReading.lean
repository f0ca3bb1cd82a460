import RpcSchema.Proofs.LexemeRun
import RpcSchema.Proofs.SurroundedSource

/-! # Runs over comments, blank lines and line ends

Whatever a comment says, reading goes on at its own end and nowhere before it. -/
namespace RpcSchema.FillerReading
open GoLexeme ReaderRun LexemeRun SurroundedSource

variable {lineEnds : Bool} {s t r text : Text} {cs : List Text} {e : LineEnd}

section LineEnds

theorem skips_newLine (h : Skips false s cs t) : Skips false (e.text ++ s) cs t := by
  have hbreak : Skips false ('\n' :: s) cs t := Skips.skip rfl rfl h
  cases e with
  | lf => exact hbreak
  | crlf => exact Skips.skip rfl rfl hbreak

/-- Where a line break is a lexeme, only the character before it is skipped. -/
theorem skips_break : Skips true (e.text ++ s) [] ('\n' :: s) := by
  cases e with
  | lf => exact skips_line_end
  | crlf => exact Skips.skip rfl rfl skips_line_end

theorem stops_lineEnd : Stops (e.text ++ s) := by
  cases e with
  | lf => exact stops_cons (by decide)
  | crlf => exact stops_cons (by decide)

theorem reads_lineEnd : Reads terminator (e.text ++ s) () s :=
  (reads_sign skips_break).orElse

theorem skips_tabs (n : Nat) (h : Skips lineEnds s cs t) :
    Skips lineEnds (List.replicate n '\t' ++ s) cs t := by
  induction n with
  | zero => exact h
  | succ n ih => exact Skips.skip rfl (by simp) ih

end LineEnds

section Comments

theorem afterLine_append (hbreak : '\n' ∉ text) (hnul : '\x00' ∉ text) :
    afterLine (text ++ '\n' :: s) = '\n' :: s := by
  induction text with
  | nil => rfl
  | cons c text ih =>
    simp only [List.mem_cons, not_or] at hbreak hnul
    have hc : ¬(c == '\n' || c == '\x00') = true := by
      simp [Ne.symm hbreak.1, Ne.symm hnul.1]
    rw [List.cons_append, afterLine, if_neg hc]
    exact ih hbreak.2 hnul.2

/-- The first end mark is the one behind the text. -/
theorem afterBlock_append (hend : ¬['*', '/'] <:+: text) (hnul : '\x00' ∉ text) :
    afterBlock (text ++ '*' :: '/' :: s) = some s := by
  induction text with
  | nil => rfl
  | cons c text ih =>
    simp only [List.mem_cons, not_or] at hnul
    have hrest := ih (fun h => hend (h.trans (List.infix_cons (List.infix_refl text)))) hnul.2
    -- the mark cannot begin with the character before the rest of the text
    have hmark : ∀ d u, text ++ '*' :: '/' :: s = d :: u → ¬(c == '*' && d == '/') = true := by
      intro d u hd hboth
      simp only [Bool.and_eq_true, beq_iff_eq] at hboth
      cases text with
      | nil =>
        have hstar := List.head_eq_of_cons_eq hd
        rw [hboth.2] at hstar
        exact absurd hstar (by decide)
      | cons d' text =>
        have hslash := List.head_eq_of_cons_eq hd
        refine hend ⟨[], text, ?_⟩
        rw [hboth.1, hslash, hboth.2]
        rfl
    obtain ⟨d, u, hd⟩ : ∃ d u, text ++ '*' :: '/' :: s = d :: u := by
      cases text with
      | nil => exact ⟨_, _, rfl⟩
      | cons d text => exact ⟨_, _, rfl⟩
    rw [List.cons_append, hd, afterBlock, if_neg (hmark d u hd), ← hd, hrest]
    rw [if_neg (by simpa using Ne.symm hnul.1)]

theorem nextTrivia_lineComment (hbreak : '\n' ∉ text) (hnul : '\x00' ∉ text) :
    nextTrivia lineEnds ('/' :: '/' :: (text ++ '\n' :: s)) =
      some (some ('/' :: '/' :: text), '\n' :: s) := by
  unfold nextTrivia
  simp [afterLine_append hbreak hnul]

theorem nextTrivia_blockComment (hend : ¬['*', '/'] <:+: text) (hnul : '\x00' ∉ text) :
    nextTrivia lineEnds ('/' :: '*' :: (text ++ '*' :: '/' :: s)) =
      some (some ('/' :: '*' :: (text ++ ['*', '/'])), s) := by
  have hsplit : (text ++ '*' :: '/' :: s).take ((text ++ '*' :: '/' :: s).length - s.length) =
      text ++ ['*', '/'] := by
    have happend : text ++ '*' :: '/' :: s = (text ++ ['*', '/']) ++ s := by simp
    rw [happend, List.length_append, Nat.add_sub_cancel, List.take_left]
  unfold nextTrivia
  simp only [afterBlock_append hend hnul, hsplit]

end Comments

section Fillers

/-- The comment of a line, if it is one. The text of a line comment takes in all that
stands before the line break. -/
def comments (e : LineEnd) : Filler → List Text
  | .blank => []
  | .lineComment t => ['/' :: '/' :: (t.text ++ e.blanks)]
  | .blockComment t => ['/' :: '*' :: (t.text ++ ['*', '/'])]

theorem skips_filler (f : Filler) (h : Skips false s cs t) :
    Skips false (f.text e ++ s) (comments e f ++ cs) t := by
  cases f with
  | blank => exact skips_newLine h
  | lineComment c =>
    have hbreak : '\n' ∉ c.text ++ e.blanks := by
      cases e <;> simp [LineEnd.blanks, c.noBreak]
    have hnul : '\x00' ∉ c.text ++ e.blanks := by
      cases e <;> simp [LineEnd.blanks, c.noNul]
    have htext : (Filler.lineComment c).text e ++ s =
        '/' :: '/' :: ((c.text ++ e.blanks) ++ '\n' :: s) := by
      simp [Filler.text, LineEnd.text]
    rw [htext]
    exact Skips.step (nextTrivia_lineComment hbreak hnul) (Skips.skip rfl rfl h)
  | blockComment c =>
    have htext : (Filler.blockComment c).text e ++ s =
        '/' :: '*' :: (c.text ++ '*' :: '/' :: (e.text ++ s)) := by
      simp [Filler.text]
    rw [htext]
    exact Skips.step (nextTrivia_blockComment c.noEnd c.noNul) (skips_newLine h)

theorem skips_fillers (fs : List Filler) (h : Skips false s cs t) :
    Skips false (fs.flatMap (Filler.text e) ++ s) (fs.flatMap (comments e) ++ cs) t := by
  induction fs with
  | nil => exact h
  | cons f fs ih =>
    rw [List.flatMap_cons, List.append_assoc, List.flatMap_cons, List.append_assoc]
    exact skips_filler f ih

end Fillers

end RpcSchema.FillerReading
