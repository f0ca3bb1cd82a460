import RpcSchema.Proofs.LexemeRun
import RpcSchema.Proofs.PrintedSource

/-! # Runs of the literal readers

A decimal literal in brackets is read up to what stands behind it, and a literal begins with
a digit, a dot or a quote. -/
namespace RpcSchema.LiteralRun
open GoLexeme GoLiteral ReaderRun LexemeRun PrintedSource
open Numerals (ne_of_isDigit)
open Reader (one anyOf)

variable {α : Type} {r s : Text} {c d : Char}

theorem solid_of_isDigit (hc : c.isDigit = true) : Solid (c :: s) := by
  have hne {d : Char} (hd : d.isDigit = false) : c ≠ d := ne_of_isDigit hc hd
  exact solid_cons (by simp [isBlank, hne]) (hne rfl)

theorem ne_of_not_isDigit (hc : c.isDigit = false) (hd : d.isDigit = true) : c ≠ d :=
  (ne_of_isDigit hd hc).symm

section Decimals

/-- The characters that may stand behind a literal here. -/
def literalEnds : List Char := ' ' :: '/' :: closers

variable {e : Char} (he : e ∈ literalEnds)

private theorem refuses_end {cs : List Char} (h : ∀ d ∈ literalEnds, cs.contains d = false)
    (he : e ∈ literalEnds) : Refuses (anyOf cs) (e :: s) :=
  .anyOf (h e he)

private theorem refuses_class {p : Char → Bool} (h : ∀ d ∈ literalEnds, p d = false)
    (he : e ∈ literalEnds) : Refuses (one p) (e :: s) :=
  .one (h e he)

private theorem reads_optional_sign (b : Bool) (m : Fin 10) :
    ∃ u, Reads (Reader.optional (anyOf ['_'])) (DecimalLiteral.digitText (b, m) ++ s) u
      (Text.digit m :: s) := by
  cases b with
  | true => exact ⟨some (), Reads.mark.optional⟩
  | false =>
    have hm : Text.digit m ≠ '_' := ne_of_isDigit (Numerals.isDigit_digit m) rfl
    exact ⟨none, (Refuses.mark hm).optional⟩

include he

private theorem refuses_sign : Refuses (anyOf ['_']) (e :: r) := refuses_end (by decide) he

private theorem refuses_digits : Refuses (digits Char.isDigit) (e :: r) :=
  Refuses.bind (refuses_class (by decide) he)

/-- The digits behind the first one, up to the end of the literal. -/
private theorem chain_digits (others : List (Bool × Fin 10)) :
    Chain (single (Reader.optional (anyOf ['_']) >>= fun _ => one Char.isDigit)) ()
      (others.flatMap DecimalLiteral.digitText ++ e :: r) (others.map fun d => Text.digit d.2)
      (e :: r) := by
  induction others with
  | nil => exact .stop_many ((refuses_sign he).optional.bind_refuses (refuses_class (by decide) he))
  | cons d others ih =>
    obtain ⟨b, m⟩ := d
    rw [List.flatMap_cons, List.append_assoc]
    obtain ⟨u, hu⟩ :=
      reads_optional_sign b m (s := others.flatMap DecimalLiteral.digitText ++ e :: r)
    refine .step_many (hu.bind (.one (Numerals.isDigit_digit m))) ?_ ih
    have hlength : 0 < (DecimalLiteral.digitText (b, m)).length := by
      cases b <;> exact Nat.succ_pos _
    simp only [List.length_append]
    omega

private theorem reads_digits_of_isDigit (hc : c.isDigit = true) (others : List (Bool × Fin 10)) :
    Reads (digits Char.isDigit) (c :: others.flatMap DecimalLiteral.digitText ++ e :: r) ()
      (e :: r) :=
  Reads.bind (.one hc) (Reads.bind (chain_digits he others).many .pure)

omit he in
theorem isDigit_zero : ('0' : Char).isDigit = true := rfl

theorem reads_digits (n : DecimalLiteral) :
    Reads (digits Char.isDigit) (n.text ++ e :: r) () (e :: r) := by
  cases n with
  | zero => exact reads_digits_of_isDigit he isDigit_zero []
  | positive first others => exact reads_digits_of_isDigit he (Numerals.isDigit_digit _) others

omit he in
private theorem digit_first (first : Fin 9) :
    (decide ('1' ≤ Text.digit (first + 1)) && decide (Text.digit (first + 1) ≤ '9')) = true := by
  revert first
  decide

omit he in
private theorem exists_digit (n : DecimalLiteral) : ∃ c s, n.text = c :: s ∧ c.isDigit = true := by
  cases n with
  | zero => exact ⟨'0', [], rfl, isDigit_zero⟩
  | positive first others => exact ⟨_, _, rfl, Numerals.isDigit_digit _⟩

private theorem refuses_decimalFloat (n : DecimalLiteral) :
    Refuses decimalFloat (n.text ++ e :: r) := by
  have hdot : Refuses (anyOf ['.']) (n.text ++ e :: r) := by
    obtain ⟨c, s, h, hc⟩ := exists_digit n
    rw [h]
    exact Refuses.mark (ne_of_isDigit hc rfl)
  have hexponent : Refuses (exponent ['e', 'E']) (e :: r) :=
    Refuses.bind (refuses_end (by decide) he)
  apply Refuses.orElse_refuses
  · exact (reads_digits he n).bind_refuses (Refuses.bind (refuses_end (by decide) he))
  · apply Refuses.orElse_refuses
    · exact (reads_digits he n).bind_refuses hexponent
    · exact hdot.bind

private theorem refuses_imaginaryDigits (n : DecimalLiteral) :
    Refuses number.imaginaryDigits (n.text ++ e :: r) := by
  have hi : Refuses (anyOf ['i']) (e :: r) := refuses_end (by decide) he
  exact (reads_digits he n).bind_refuses (hi.sees.bind_refuses (.require rfl))

omit he in
/-- Nothing of the literal stands behind a leading zero. -/
private theorem refuses_behind_zero (n : DecimalLiteral) {p : Reader α}
    (hp : Refuses p (e :: r)) :
    Refuses (anyOf ['0'] >>= fun _ => p) (n.text ++ e :: r) := by
  cases n with
  | zero => exact Reads.mark.bind_refuses hp
  | positive first others =>
    apply Refuses.bind
    apply Refuses.mark
    revert first
    decide

private theorem reads_decimalInteger (first : Fin 9) (others : List (Bool × Fin 10)) :
    Reads decimalInteger ((DecimalLiteral.positive first others).text ++ e :: r) () (e :: r) := by
  refine Reads.bind (.one (digit_first first)) ?_
  cases others with
  | nil =>
    exact ((refuses_sign he).optional.bind_refuses (refuses_digits he)).optional.bind .pure
  | cons d others =>
    obtain ⟨b, m⟩ := d
    obtain ⟨u, hu⟩ :=
      reads_optional_sign b m (s := others.flatMap DecimalLiteral.digitText ++ e :: r)
    have hdigits := reads_digits_of_isDigit he (Numerals.isDigit_digit m) others (r := r)
    have hrest : Reads (Reader.optional (anyOf ['_']) >>= fun _ => digits Char.isDigit)
        (((b, m) :: others).flatMap DecimalLiteral.digitText ++ e :: r) () (e :: r) := by
      rw [List.flatMap_cons, List.append_assoc]
      exact hu.bind hdigits
    exact hrest.optional.bind .pure

theorem reads_number (n : DecimalLiteral) : Reads number (n.text ++ e :: r) () (e :: r) := by
  have hi : Refuses (anyOf ['i']) (e :: r) := refuses_end (by decide) he
  have hoctal : Refuses octalInteger (n.text ++ e :: r) :=
    refuses_behind_zero n ((refuses_sign he).optional.bind_refuses
      (Refuses.bind (refuses_class (by decide) he)))
  have hradix {letters : List Char} {p : Char → Bool}
      (h : ∀ d ∈ literalEnds, letters.contains d = false) :
      Refuses (radixInteger letters p) (n.text ++ e :: r) :=
    refuses_behind_zero n (Refuses.bind (refuses_end h he))
  have hfloat : Refuses hexFloat (n.text ++ e :: r) :=
    refuses_behind_zero n (Refuses.bind (refuses_end (by decide) he))
  refine Reads.bind (a := ()) ?_ (hi.optional.bind .pure)
  apply hfloat.orElse
  apply (refuses_decimalFloat he n).orElse
  apply (refuses_imaginaryDigits he n).orElse
  apply (hradix (by decide)).orElse
  apply (hradix (by decide)).orElse
  apply (hradix (by decide)).orElse
  apply hoctal.orElse
  cases n with
  | zero =>
    have hpositive : Refuses decimalInteger ('0' :: e :: r) := Refuses.bind (.one rfl)
    exact hpositive.orElse Reads.mark
  | positive first others => exact (reads_decimalInteger he first others).orElse

omit he in
/-- A literal ends before a gap and before a closing bracket. -/
theorem reads_literal (n : DecimalLiteral) (hr : LeadsTo closers r) :
    Reads literal (n.text ++ r) () r := by
  obtain ⟨e, u, rfl, he⟩ := hr.front
  obtain ⟨c, s, h, hc⟩ := exists_digit n
  have hquote {q : Char} {p : Unit → Reader Unit} (hq : q.isDigit = false) :
      Refuses (anyOf [q] >>= p) (n.text ++ e :: u) := by
    rw [h]
    exact Refuses.bind (Refuses.mark (ne_of_isDigit hc hq))
  have hstring : Refuses string (n.text ++ e :: u) :=
    Refuses.orElse_refuses (hquote rfl) (hquote rfl)
  have hcharacter : Refuses character (n.text ++ e :: u) := hquote rfl
  exact hstring.orElse (hcharacter.orElse (reads_number he n))

omit he in
theorem exists_digit_append (n : DecimalLiteral) (s : Text) :
    ∃ c t, n.text ++ s = c :: t ∧ c.isDigit = true := by
  obtain ⟨c, t, h, hc⟩ := exists_digit n
  exact ⟨c, t ++ s, by rw [h, List.cons_append], hc⟩

end Decimals

section Refusals

/-- The characters that begin a literal, digits apart. -/
def literalMarks : List Char := ['"', '\x60', '\'', '.']

private theorem not_positive (h : c.isDigit = false) :
    (decide ('1' ≤ c) && decide (c ≤ '9')) = false := by
  by_contra hc
  simp only [Bool.not_eq_false, Bool.and_eq_true, decide_eq_true_eq] at hc
  have hone : ('0' : Char) ≤ '1' := by simp
  have hle : '0' ≤ c := Char.le_trans hone hc.1
  have hdigit : c.isDigit = true := by
    simp only [Char.isDigit, Bool.and_eq_true, decide_eq_true_eq]
    exact ⟨hle, hc.2⟩
  rw [h] at hdigit
  cases hdigit

private theorem refuses_number (h : c.isDigit = false) (hdot : c ≠ '.') :
    Refuses number (c :: s) := by
  have hzero {p : Unit → Reader Unit} : Refuses (anyOf ['0'] >>= p) (c :: s) :=
    Refuses.bind (Refuses.mark (ne_of_not_isDigit h isDigit_zero))
  have hdigits {p : Unit → Reader Unit} : Refuses (digits Char.isDigit >>= p) (c :: s) :=
    Refuses.bind (Refuses.bind (.one h))
  have hmark {p : Unit → Reader Unit} : Refuses (anyOf ['.'] >>= p) (c :: s) :=
    Refuses.bind (Refuses.mark hdot)
  have hfloat : Refuses decimalFloat (c :: s) :=
    Refuses.orElse_refuses hdigits (Refuses.orElse_refuses hdigits hmark)
  have hpositive : Refuses decimalInteger (c :: s) := Refuses.bind (.one (not_positive h))
  apply Refuses.bind
  apply Refuses.orElse_refuses (p := hexFloat) hzero
  apply Refuses.orElse_refuses hfloat
  apply Refuses.orElse_refuses (p := number.imaginaryDigits) hdigits
  iterate 3 apply Refuses.orElse_refuses (p := radixInteger _ _) hzero
  apply Refuses.orElse_refuses (p := octalInteger) hzero
  apply Refuses.orElse_refuses hpositive
  exact Refuses.mark (ne_of_not_isDigit h isDigit_zero)

theorem refuses_literal (h : c.isDigit = false) (hmarks : c ∉ literalMarks) :
    Refuses literal (c :: s) := by
  have hmark {q : Char} {p : Unit → Reader Unit} (hq : q ∈ literalMarks) :
      Refuses (anyOf [q] >>= p) (c :: s) := by
    apply Refuses.bind
    apply Refuses.mark
    rintro rfl
    exact hmarks hq
  have hstring : Refuses string (c :: s) :=
    Refuses.orElse_refuses (hmark (by decide)) (hmark (by decide))
  have hcharacter : Refuses character (c :: s) := hmark (by decide)
  have hdot : c ≠ '.' := by
    rintro rfl
    exact hmarks (by decide)
  exact Refuses.orElse_refuses hstring
    (Refuses.orElse_refuses hcharacter (refuses_number h hdot))

theorem refuses_literal_nil : Refuses literal [] := rfl

end Refusals

end RpcSchema.LiteralRun
