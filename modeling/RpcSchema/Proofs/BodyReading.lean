import RpcSchema.Proofs.FunctionReading
import RpcSchema.Proofs.FillerReading

/-! # Bodies are read

A body of lines, each of which assigns a text in back quotes, is read as one block,
whatever the texts are. -/
namespace RpcSchema.BodyReading
open GoLexeme GoStatements GoExpressions ReaderRun LexemeRun LiteralRun OperandRun PlainNames
open SurroundedSource FillerReading FunctionReading TypeReading OperandReading

variable {g : Nested} {o : Operand} {r s u v text : Text} {c : Char} {n : Nat} {e : LineEnd}

section Strings

theorem chain_raw (hquote : '\x60' ∉ text) (hnul : '\x00' ∉ text) :
    Chain (single (Reader.one fun c => c != '\x60' && c != '\x00')) () (text ++ '\x60' :: r) text
      ('\x60' :: r) := by
  induction text with
  | nil => exact .stop_many (.one rfl)
  | cons c text ih =>
    simp only [List.mem_cons, not_or] at hquote hnul
    have hc : (c != '\x60' && c != '\x00') = true := by
      simp [Ne.symm hquote.1, Ne.symm hnul.1]
    exact .step_many (.one hc) (Nat.lt_succ_self _) (ih hquote.2 hnul.2)

/-- A text in back quotes ends at the first back quote, so it is one literal. -/
theorem reads_raw (hquote : '\x60' ∉ text) (hnul : '\x00' ∉ text) :
    Reads GoLiteral.literal ('\x60' :: (text ++ '\x60' :: r)) () r := by
  have hopen {s : Text} : Reads (Reader.anyOf ['\x60']) ('\x60' :: s) () s := .anyOf rfl
  have hraw : Reads GoLiteral.rawString ('\x60' :: (text ++ '\x60' :: r)) () r :=
    hopen.bind ((chain_raw hquote hnul).many.bind hopen)
  have hquoted : Refuses GoLiteral.quotedString ('\x60' :: (text ++ '\x60' :: r)) :=
    Refuses.bind (.anyOf rfl)
  exact (hquoted.orElse hraw).orElse

end Strings

section Values

/-- A line break ends an expression at the end of a statement. -/
theorem refuses_suffix_break (hend : Skips true s [] ('\n' :: r)) (ho : o.value = true)
    (hbraces : o.braces ≠ .contested) : Refuses (suffix g .statement o) s := by
  have hskips : Skips (Edge.statement.lineEnds && o.value) s [] ('\n' :: r) := by rwa [ho]
  exact refuses_suffix_at hskips (by decide) fun _ => hbraces

theorem refuses_operator_break (hend : Skips true s [] ('\n' :: r)) :
    Refuses (operator .statement) s :=
  refuses_lexeme hend rfl

theorem reads_value {edge : Edge} (h : Reads (g.expression edge) s o u) (ho : o.value = true) :
    Reads (value g edge) s () u :=
  h.bind (.require ho)

/-- One value at the end of a statement. -/
theorem reads_values (h : Reads (g.expression .statement) s .expression u)
    (hend : Skips true u [] ('\n' :: r)) : Reads (values g .statement) s () u := by
  have hcomma : Refuses (symbol Edge.statement.lineEnds [',']) u :=
    refuses_symbol hend (by simp)
  exact ((reads_value h rfl).separated_one hcomma).bind .pure

/-- A literal at the end of a statement. -/
theorem reads_literal_statement (hs : Skips false s [] u) (hmarks : ∀ c ∈ u.head?, c ∉ operandMarks)
    (h : Reads GoLiteral.literal u () v) (hend : Skips true v [] ('\n' :: r)) :
    Reads (expression g .statement) s .expression v := by
  have hsuffix : Refuses (suffix g .statement .expression) v :=
    refuses_suffix_break hend rfl (by decide)
  have hoperand : Reads (operand g .statement) s .expression v := by
    refine (run_operand hs hmarks).trans ?_
    exact ((reads_lexeme hs h).bind (reads_suffixes_at hsuffix rfl)).orElse
  exact reads_expression_at hoperand (refuses_operator_break hend)

end Values

section Assignments

def lowLine : PrintedSource.Name := ⟨['_'], by decide, by decide⟩

/-- The statement from its sign on. -/
def assigned (l : RawLine) (r : Text) : Text :=
  ' ' :: '=' :: ' ' :: '\x60' :: (l.text ++ '\x60' :: r)

theorem statement_append (l : RawLine) (r : Text) :
    l.statement ++ r = lowLine.text ++ assigned l r := by
  simp [RawLine.statement, assigned, lowLine]

variable {lineEnds : Bool} {l : RawLine}

theorem skips_assigned : Skips lineEnds (assigned l r) []
    ('=' :: ' ' :: '\x60' :: (l.text ++ '\x60' :: r)) :=
  (skips_cons rfl (by simp)).blank

theorem stops_assigned : Stops (assigned l r) := stops_cons (by decide)

theorem reads_lowLine (hs : Skips false s [] (lowLine.text ++ assigned l r)) :
    Reads (expression g Edge.statement.leading) s .identifier (assigned l r) := by
  have hsuffix : Refuses (suffix g Edge.statement.leading .identifier) (assigned l r) :=
    refuses_suffix_at skips_assigned (by decide) (by simp)
  have hoperator : Refuses (operator Edge.statement.leading) (assigned l r) :=
    refuses_lexeme skips_assigned rfl
  exact reads_expression_at (reads_operand_of_word hs lowLine.isIdentifier
    (reads_wordOperand_name hs stops_assigned) (reads_suffixes_at hsuffix rfl)) hoperator

/-- What is assigned, up to the end of the line. -/
theorem reads_assignedText :
    Reads (expression g .statement) (' ' :: '\x60' :: (l.text ++ '\x60' :: (e.text ++ r)))
      .expression (e.text ++ r) := by
  have hquote : Skips false (' ' :: '\x60' :: (l.text ++ '\x60' :: (e.text ++ r))) []
      ('\x60' :: (l.text ++ '\x60' :: (e.text ++ r))) := (skips_cons rfl (by simp)).blank
  exact reads_literal_statement hquote (forall_head (by decide)) (reads_raw l.noQuote l.noNul)
    skips_break

theorem reads_simple (hs : Skips false s [] (lowLine.text ++ assigned l (e.text ++ r))) :
    Reads (simple (Nested.upTo (n + 1)) .statement .statement false) s (.complete .value)
      (e.text ++ r) := by
  have hskips {lineEnds : Bool} : Skips lineEnds (assigned l (e.text ++ r)) []
      ('=' :: ' ' :: '\x60' :: (l.text ++ '\x60' :: (e.text ++ r))) := skips_assigned
  have hrefuses {d : Char} {piece : Text} (hd : d ≠ '=') :
      Refuses (symbol true (d :: piece)) (assigned l (e.text ++ r)) := refuses_symbol hskips hd
  have hstep : Refuses (symbol true ['+', '+'] <|> symbol true ['-', '-'])
      (assigned l (e.text ++ r)) := (hrefuses (by simp)).orElse_refuses (hrefuses (by simp))
  have hsign : Reads (plainAssignment .statement) (assigned l (e.text ++ r)) ()
      (' ' :: '\x60' :: (l.text ++ '\x60' :: (e.text ++ r))) := (reads_sign hskips).orElse
  have hvalues : Reads (values (Nested.upTo (n + 1)) .statement)
      (' ' :: '\x60' :: (l.text ++ '\x60' :: (e.text ++ r))) () (e.text ++ r) :=
    reads_values reads_assignedText skips_break
  refine (reads_value (reads_lowLine hs) rfl).bind ?_
  refine (hrefuses (d := ',') (by simp)).bind.optional.bind ?_
  refine hstep.bind.orElse ?_
  refine (hrefuses (by simp)).bind.orElse ?_
  refine Reads.orElse (Reads.orElse (hsign.bind ?_))
  obtain ⟨ranges, hranges⟩ := sees_run (keyword false "range".toList)
    (' ' :: '\x60' :: (l.text ++ '\x60' :: (e.text ++ r)))
  exact hranges.bind (hvalues.bind .pure)

/-- A line is a statement of its own, since what it begins with is no label. -/
theorem reads_statement {place : StatementPlace}
    (hs : Skips false s [] (lowLine.text ++ assigned l (e.text ++ r))) :
    Reads ((Nested.upTo (n + 2)).statement place) s (.statement, .value) (e.text ++ r) := by
  have hword : Reads (word false) s lowLine.text (assigned l (e.text ++ r)) :=
    reads_word hs lowLine.isIdentifier stops_assigned
  have hlabel : Refuses label s := by
    refine (reads_name hs lowLine.isIdentifier stops_assigned (by decide)).bind_refuses ?_
    exact Refuses.bind (refuses_symbol skips_assigned (by simp))
  have hclause : ¬(place.clauses && clauseWords.contains lowLine.text) = true := by
    have hcontains : clauseWords.contains lowLine.text = false := by decide
    rw [hcontains, Bool.and_false]
    exact Bool.false_ne_true
  have hsimple : Reads (simpleStatement (Nested.upTo (n + 1))) s .value (e.text ++ r) :=
    (reads_simple hs).bind .pure
  refine (reads_nextChar hs).bind ?_
  change Reads (Reader.peek (word false) >>= _) s _ _
  refine hword.peek.bind ?_
  rw [Option.getD_some, if_neg hclause, if_neg (by decide)]
  exact hlabel.sees.bind (hsimple.bind .pure)

end Assignments

section Blocks

theorem skips_line {l : RawLine} : Skips false (l.line e ++ r) []
    (lowLine.text ++ assigned l (e.text ++ r)) := by
  have hline : l.line e ++ r =
      List.replicate l.tabs '\t' ++ (lowLine.text ++ assigned l (e.text ++ r)) := by
    rw [← statement_append]
    simp [RawLine.line]
  rw [hline]
  exact skips_tabs l.tabs skips_name

/-- A statement behind the end of another one. -/
def nextStatement (g : Nested) : Reader Unit := do
  terminator
  let (_, ending) ← g.statement ⟨true, true⟩
  Reader.require (ending != .label || (← nextChar false) == some '\x7d' || (← seesClause))

/-- The lines behind the first one, up to the end of the last line. -/
theorem chain_lines (ls : List RawLine) :
    Chain (single (nextStatement (Nested.upTo (n + 2)))) ()
      (e.text ++ (ls.flatMap (RawLine.line e) ++ '\x7d' :: r)) (ls.map fun _ => ())
      (e.text ++ '\x7d' :: r) := by
  induction ls with
  | nil =>
    have hclose : Skips false ('\x7d' :: r) [] ('\x7d' :: r) := skips_cons rfl (by simp)
    exact .stop_many (reads_lineEnd.bind_refuses (refuses_statement_brace hclose).bind)
  | cons l ls ih =>
    rw [List.flatMap_cons, List.append_assoc]
    let rest := e.text ++ (ls.flatMap (RawLine.line e) ++ '\x7d' :: r)
    have hstatement : Reads (nextStatement (Nested.upTo (n + 2)))
        (e.text ++ (l.line e ++ (ls.flatMap (RawLine.line e) ++ '\x7d' :: r))) () rest := by
      have hnext : Skips false rest (trivia false rest).1 (trivia false rest).2 := rfl
      obtain ⟨clause, hclause⟩ := sees_run (do
        Reader.require (clauseWords.contains (← word false))) rest
      refine reads_lineEnd.bind ((reads_statement skips_line).bind ?_)
      exact (reads_nextChar hnext).bind (hclause.bind (.require rfl))
    refine .step_many hstatement ?_ ih
    have hline : 0 < (l.line e).length := by
      simp only [RawLine.line, RawLine.statement, List.length_append, List.length_cons]
      omega
    simp only [rest, List.length_append]
    omega

theorem reads_block (ls : List RawLine)
    (hs : Skips false s [] ('\x7b' :: (bodyText e ls ++ r))) :
    Reads (block (Nested.upTo (n + 2))) s () r := by
  cases ls with
  | nil => exact reads_emptyBlock hs (skips_cons rfl (by simp))
  | cons l ls =>
    have htext : bodyText e (l :: ls) ++ r =
        e.text ++ (l.line e ++ (ls.flatMap (RawLine.line e) ++ '\x7d' :: r)) := by
      simp [bodyText]
    rw [htext] at hs
    have hfirst : Reads ((Nested.upTo (n + 2)).statement ⟨false, true⟩)
        (e.text ++ (l.line e ++ (ls.flatMap (RawLine.line e) ++ '\x7d' :: r))) (.statement, .value)
        (e.text ++ (ls.flatMap (RawLine.line e) ++ '\x7d' :: r)) :=
      reads_statement (skips_newLine skips_line)
    have hclose : Skips false ('\x7d' :: r) [] ('\x7d' :: r) := skips_cons rfl (by simp)
    refine (reads_sign hs).bind (Reads.bind (a := ()) ?_ (reads_sign hclose))
    exact hfirst.optional.bind
      ((chain_lines ls).many.bind (reads_lineEnd.optional.bind .pure))

end Blocks

end RpcSchema.BodyReading
