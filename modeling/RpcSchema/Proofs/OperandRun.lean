import RpcSchema.Proofs.LiteralRun

/-! # Runs of the operand readers

Where a closing bracket comes next an operand has no further pieces, and an expression
consists of one operand. -/
namespace RpcSchema.OperandRun
open GoLexeme GoExpressions ReaderRun LexemeRun LiteralRun PrintedSource
open Reader (exactly)
open Numerals (ne_of_isDigit)

variable {g : Nested} {e : Edge} {o : Operand} {r s u : Text} {cs : List Text} {c : Char}
  {n : Nat}

/-- The signs that decide what an operand is. -/
def operandMarks : List Char := ['*', '<', '+', '-', '!', '^', '&', '~', '(', '[']

/-- Without a sign at its front an operand is a literal or begins with a word. -/
theorem run_operand {e : Edge} (hs : Skips false s cs u) (h : ∀ c ∈ u.head?, c ∉ operandMarks) :
    (operand g e).run s = ((do
      lexeme false GoLiteral.literal
      suffixes g e .expression)
    <|> do suffixes g e (← wordOperand g)).run s := by
  have hne {c : Char} (hc : c ∈ operandMarks) : u.head? ≠ some c := fun hu => h c hu hc
  refine (reads_nextChar hs).run_eq.trans ?_
  split
  all_goals first
    | exact absurd ‹_› (hne (by decide))
    | rfl

/-- The signs that can go on with an operand, line breaks apart. -/
def suffixMarks : List Char := ['.', '[', '(', '\x7b']

theorem refuses_suffix_at (hs : Skips (e.lineEnds && o.value) s cs (c :: u))
    (hc : c ∉ suffixMarks) (hbreak : c = '\n' → o.braces ≠ .contested) :
    Refuses (suffix g e o) s := by
  have hne {d : Char} (hd : d ∈ suffixMarks) : (c :: u).head? ≠ some d := fun h =>
    hc (Option.some.inj h ▸ hd)
  refine (reads_nextChar hs).bind_refuses ?_
  split
  · next h => exact absurd h (hne (by decide))
  · next h => exact absurd h (hne (by decide))
  · next h => exact absurd h (hne (by decide))
  · next h => exact absurd h (hne (by decide))
  · next h =>
    have hne := hbreak (Option.some.inj h)
    exact Refuses.bind (.require (by simpa using hne))
  · exact .fail

/-- An operand that does not go on. -/
theorem reads_suffixes_at (h : Refuses (suffix g e o) s) (ho : (o.value || o.type) = true) :
    Reads (suffixes g e o) s o s :=
  h.bind.orElse ((Reads.require ho).bind .pure)

theorem refuses_suffix (hr : LeadsTo closers r) : Refuses (suffix g .inner o) r := by
  have hall : ∀ c ∈ closers, c ∉ suffixMarks ∧ c ≠ '\n' := by decide
  obtain ⟨cs, c, u, hskips, hc⟩ := hr.skips
  exact refuses_suffix_at hskips (hall c hc).1 fun h => absurd h (hall c hc).2

theorem reads_suffixes (hr : LeadsTo closers r) (ho : (o.value || o.type) = true) :
    Reads (suffixes g .inner o) r o r :=
  reads_suffixes_at (refuses_suffix hr) ho

theorem refuses_operator (hr : LeadsTo closers r) : Refuses (operator .inner) r := by
  obtain ⟨cs, c, u, hskips, hc⟩ := hr.skips
  apply refuses_lexeme hskips
  rcases List.mem_cons.1 hc with rfl | hc
  · rfl
  · obtain rfl := List.mem_singleton.1 hc
    rfl

/-- An operand behind which there is no operator. -/
theorem reads_expression_at (h : Reads (operand g e) s o u) (hop : Refuses (operator e) u) :
    Reads (expression g e) s o u := by
  refine h.bind ?_
  by_cases ho : o.value = true
  · rw [ho]
    have hstop : Refuses (operator e >>= fun _ => do
        Reader.require (← operand g { e with typeSwitch := false }).value) u := hop.bind
    exact (Chain.stop_many hstop).many.bind .pure
  · rw [Bool.not_eq_true] at ho
    rw [ho]
    exact .pure

theorem reads_expression (hr : LeadsTo closers r) (h : Reads (operand g .inner) s o r) :
    Reads (expression g .inner) s o r :=
  reads_expression_at h (refuses_operator hr)

theorem reads_expression_upTo (hr : LeadsTo closers r)
    (h : Reads ((Nested.upTo n).operand .inner) s o r) :
    Reads ((Nested.upTo n).expression .inner) s o r := by
  cases n with
  | zero => cases h
  | succ n => exact reads_expression hr h

/-- A literal may be the length of an array. -/
theorem reads_literal_operand (x : DecimalLiteral) (hs : Skips false s cs (x.text ++ r))
    (hr : LeadsTo closers r) : Reads (operand g .inner) s .expression r := by
  have hmarks : ∀ d ∈ (x.text ++ r).head?, d ∉ operandMarks := by
    have hall : ∀ d ∈ operandMarks, d.isDigit = false := by decide
    obtain ⟨c, v, hx, hc⟩ := exists_digit_append x r
    rw [hx]
    exact forall_head fun hmark => ne_of_isDigit hc (hall c hmark) rfl
  refine (run_operand hs hmarks).trans ?_
  exact Reads.orElse ((reads_lexeme hs (reads_literal x hr)).bind (reads_suffixes hr rfl))

section Refusals

/-- Nothing that begins an operand stands here. -/
def NoOperand : Text → Prop
  | [] => True
  | c :: _ => IdentifierCharacter.isStart c = false ∧ c.isDigit = false ∧
      c ∉ operandMarks ∧ c ∉ literalMarks

theorem NoOperand.noWord (h : NoOperand s) : NoWord s := by
  cases s with
  | nil => exact noWord_nil
  | cons c s => exact noWord_cons h.1

theorem refuses_operand (hs : Skips false s cs u) (hu : NoOperand u) :
    Refuses (operand g e) s := by
  have hmarks : ∀ d ∈ u.head?, d ∉ operandMarks := by
    cases u with
    | nil => simp
    | cons c u => exact forall_head hu.2.2.1
  have hliteral : Refuses GoLiteral.literal u := by
    cases u with
    | nil => exact refuses_literal_nil
    | cons c u => exact refuses_literal hu.2.1 hu.2.2.2
  refine (run_operand hs hmarks).trans ?_
  apply Refuses.orElse_refuses
  · exact (refuses_lexeme hs hliteral).bind
  · exact (refuses_word hs hu.noWord).bind.bind

theorem refuses_expression (hs : Skips false s cs u) (hu : NoOperand u) :
    Refuses ((Nested.upTo n).expression e) s := by
  cases n with
  | zero => exact .fail
  | succ n => exact (refuses_operand hs hu).bind

end Refusals

end RpcSchema.OperandRun
