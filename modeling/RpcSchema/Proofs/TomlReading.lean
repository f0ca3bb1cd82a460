import RpcSchema.TomlDocument
import RpcSchema.Proofs.Numerals
import RpcSchema.Proofs.PrintedToml
import RpcSchema.Proofs.ReaderRun

/-! # Printed TOML is read

Values, keys and lines are read as they were printed. Each keeps what was left of the text where
it began and where it ended. -/
namespace RpcSchema.TomlReading
open Toml PrintedToml ReaderRun Numerals
open Reader (one anyOf exactly span)

variable {α β : Type} {p : Reader α} {s r ds : Text} {c d mark : Char} {a : α}

section Places

theorem reads_located (h : Reads p s a r) : Reads (located p) s (a, ⟨s, r⟩) r :=
  Reads.bind (p := Reader.remaining) (a := s) (r := s) rfl
    (h.bind (Reads.bind (p := Reader.remaining) (a := r) (r := r) rfl .pure))

theorem refuses_located (h : Refuses p s) : Refuses (located p) s :=
  Reads.bind_refuses (p := Reader.remaining) (a := s) (r := s) rfl h.bind

end Places

section Digits

/-- So many digits cannot be read, or only digits are left before the end. -/
theorem several_digits (hds : ∀ d ∈ ds, d.isDigit = true) (hc : c.isDigit = false) (count : Nat) :
    Refuses (several Char.isDigit count) (ds ++ c :: r) ∨ ∃ t rest,
      (∀ d ∈ rest, d.isDigit = true) ∧
        Reads (several Char.isDigit count) (ds ++ c :: r) t (rest ++ c :: r) := by
  -- a digit that is read leaves fewer digits, and never the character behind them
  induction count generalizing ds with
  | zero => exact .inr ⟨[], ds, hds, .pure⟩
  | succ count ih =>
    cases ds with
    | nil => exact .inl (Refuses.bind (.one hc))
    | cons d ds =>
      obtain ⟨hd, hds⟩ := List.forall_mem_cons.1 hds
      have hfirst : Reads (one Char.isDigit) (d :: ds ++ c :: r) d (ds ++ c :: r) := .one hd
      rcases ih hds with h | ⟨t, rest, hrest, h⟩
      · exact .inl (hfirst.bind_refuses h.bind)
      · exact .inr ⟨d :: t, rest, hrest, hfirst.bind (h.bind .pure)⟩

/-- Behind digits alone there is no mark. -/
theorem refuses_bounded {count low high : Nat} {f : Nat → Unit → Reader β}
    (hds : ∀ d ∈ ds, d.isDigit = true) (hc : c.isDigit = false) (hmark : c ≠ mark)
    (hdigit : mark.isDigit = false) :
    Refuses (bounded count low high >>= fun n => anyOf [mark] >>= f n) (ds ++ c :: r) := by
  have hrefuses {rest : Text} (hrest : ∀ d ∈ rest, d.isDigit = true) (n : Nat) :
      Refuses (anyOf [mark] >>= f n) (rest ++ c :: r) := by
    cases rest with
    | nil => exact (Refuses.mark hmark).bind
    | cons d rest => exact (Refuses.mark (ne_of_isDigit (hrest d List.mem_cons_self) hdigit)).bind
  rcases several_digits (r := r) hds hc count with h | ⟨t, rest, hrest, h⟩
  · exact h.bind.bind
  · cases hbound : decide (low ≤ decimalValue t ∧ decimalValue t ≤ high) with
    | false =>
      refine Refuses.bind (h.bind_refuses (Refuses.bind (.require ?_)))
      simpa using hbound
    | true =>
      have hnumber : Reads (bounded count low high) (ds ++ c :: r) (decimalValue t)
          (rest ++ c :: r) := by
        refine h.bind (Reads.bind (a := ()) (.require ?_) .pure)
        simpa using hbound
      exact hnumber.bind_refuses (hrefuses hrest _)

/-- A date has a dash behind its first digits, and a time of day a colon. -/
theorem refuses_moment (hds : ∀ d ∈ ds, d.isDigit = true) (hc : c.isDigit = false)
    (hdash : c ≠ '-') (hcolon : c ≠ ':') : Refuses moment (ds ++ c :: r) :=
  Refuses.orElse_refuses (Refuses.bind (refuses_bounded hds hc hdash rfl))
    (refuses_bounded hds hc hcolon rfl)

theorem chain_digits (hds : ∀ d ∈ ds, d.isDigit = true) (hc : c.isDigit = false) (hlow : c ≠ '_') :
    Chain (single (Reader.optional (anyOf ['_']) >>= fun _ => one Char.isDigit)) ()
      (ds ++ c :: r) ds (c :: r) := by
  induction ds with
  | nil => exact .stop_many ((Refuses.mark hlow).optional.bind_refuses (.one hc))
  | cons d ds ih =>
    obtain ⟨hd, hds⟩ := List.forall_mem_cons.1 hds
    have hnone := (Refuses.mark (s := ds ++ c :: r) (ne_of_isDigit (d := '_') hd rfl)).optional
    exact .step_many (hnone.bind (.one hd)) (Nat.lt_succ_self _) (ih hds)

theorem reads_digits (hd : d.isDigit = true) (hds : ∀ d ∈ ds, d.isDigit = true)
    (hc : c.isDigit = false) (hlow : c ≠ '_') :
    Reads (digits Char.isDigit) (d :: ds ++ c :: r) (d :: ds) (c :: r) :=
  Reads.bind (.one hd) ((chain_digits hds hc hlow).many.bind .pure)

end Digits

section Numbers

/-- The characters that may stand behind a value. -/
def valueMarks : List Char := ['\n', ' ', ']']

theorem exists_digit_ofNat (n : Nat) : ∃ d ds, Text.ofNat n = d :: ds ∧ d.isDigit = true ∧
    ∀ d ∈ ds, d.isDigit = true := by
  have hall : ∀ d ∈ Text.ofNat n, d.isDigit = true := fun d hd => isDigit_of_mem_ofNat hd
  cases hn : Text.ofNat n with
  | nil => exact absurd hn (ofNat_ne_nil n)
  | cons d ds =>
    rw [hn] at hall
    exact ⟨d, ds, rfl, List.forall_mem_cons.1 hall⟩

theorem decimalValue_ofNat (n : Nat) : decimalValue (Text.ofNat n) = n := by
  have hvalue : decimalValue (Text.ofNat n) = Numerals.value (Text.ofNat n) := by
    simp only [decimalValue, Numerals.value, Nat.mul_comm]
    rfl
  rw [hvalue, value_ofNat]

theorem reads_sign (sg : PrintedToml.Sign) (n : Nat) :
    Reads Toml.sign (sg.text ++ (Text.ofNat n ++ r)) (sg == .minus) (Text.ofNat n ++ r) := by
  cases sg with
  | none =>
    obtain ⟨d, ds, hn, hd, -⟩ := exists_digit_ofNat n
    have hsign : (d == '+' || d == '-') = false := by
      simp [ne_of_isDigit (d := '+') hd rfl, ne_of_isDigit (d := '-') hd rfl]
    rw [hn]
    exact (Refuses.optional (.one hsign)).bind .pure
  | plus => exact (Reads.optional (.one rfl)).bind .pure
  | minus => exact (Reads.optional (.one rfl)).bind .pure

theorem notDigit_of_mem_valueMarks (hc : c ∈ valueMarks) : c.isDigit = false := by
  have hall : ∀ c ∈ valueMarks, c.isDigit = false := by decide
  exact hall c hc

theorem ne_of_mem_valueMarks (hc : c ∈ valueMarks) (hd : d ∉ valueMarks) : c ≠ d := by
  rintro rfl
  exact hd hc

variable (hc : c ∈ valueMarks)
include hc

theorem reads_wholeDigits (n : Nat) :
    Reads wholeDigits (Text.ofNat n ++ c :: r) (Text.ofNat n) (c :: r) := by
  -- a leading zero is refused by the first alternative, and only zero has one
  rcases Nat.eq_zero_or_pos n with rfl | hn
  · have hzero : Text.ofNat 0 = ['0'] := ofNat_of_lt (by decide)
    have hsees : Reads (Reader.sees (anyOf ['0'])) ('0' :: c :: r) true ('0' :: c :: r) :=
      Reads.mark.sees
    rw [hzero]
    exact (hsees.bind_refuses (Refuses.bind (.require rfl))).orElse
      (Reads.bind (.one rfl) .pure)
  · obtain ⟨d, ds, hfront, hzero⟩ := exists_front_ofNat hn
    obtain ⟨e, es, hdigits, hd, hds⟩ := exists_digit_ofNat n
    obtain ⟨rfl, rfl⟩ := List.cons_eq_cons.1 (hdigits.symm.trans hfront)
    have hsees : Reads (Reader.sees (anyOf ['0'])) (e :: es ++ c :: r) false (e :: es ++ c :: r) :=
      (Refuses.mark hzero).sees
    rw [hfront]
    exact Reads.orElse (hsees.bind ((Reads.require rfl).bind (reads_digits hd hds
      (notDigit_of_mem_valueMarks hc) (ne_of_mem_valueMarks hc (by decide)))))

theorem reads_decimalInteger (n : Numeral) :
    Reads decimalInteger (n.sign.text ++ (Text.ofNat n.magnitude ++ c :: r))
      (signed n.sign n.magnitude) (c :: r) := by
  have hvalue : (if (n.sign == .minus) = true then -(decimalValue (Text.ofNat n.magnitude) : Int)
      else decimalValue (Text.ofNat n.magnitude)) = signed n.sign n.magnitude := by
    rw [decimalValue_ofNat]
    cases n.sign <;> rfl
  refine (reads_sign n.sign n.magnitude).bind ((reads_wholeDigits hc n.magnitude).bind ?_)
  change Reads (inRange (if _ then _ else _)) _ _ _
  rw [hvalue]
  exact (Reads.require (by simpa using n.inRange)).bind .pure

theorem refuses_decimalFloat (n : Numeral) :
    Refuses decimalFloat (n.sign.text ++ (Text.ofNat n.magnitude ++ c :: r)) := by
  have hdot : Refuses fraction (c :: r) :=
    Refuses.bind (.mark (ne_of_mem_valueMarks hc (by decide)))
  have hpower : Refuses exponent (c :: r) := by
    have hall : ∀ c ∈ valueMarks, ['e', 'E'].contains c = false := by decide
    exact Refuses.bind (.anyOf (hall c hc))
  refine (reads_sign n.sign n.magnitude).bind_refuses ?_
  refine (reads_wholeDigits hc n.magnitude).bind_refuses ?_
  exact hdot.optional.bind_refuses (hpower.optional.bind_refuses (Refuses.bind (.require rfl)))

omit hc in
theorem refuses_specialFloat (n : Numeral) :
    Refuses specialFloat (n.sign.text ++ (Text.ofNat n.magnitude ++ r)) := by
  obtain ⟨d, ds, hn, hd, -⟩ := exists_digit_ofNat n.magnitude
  have hword {letter : Char} {word : Text} (hletter : letter.isDigit = false) :
      Refuses (exactly (letter :: word)) (Text.ofNat n.magnitude ++ r) := by
    rw [hn]
    exact .exactly (ne_of_isDigit hd hletter).symm
  exact (reads_sign n.sign n.magnitude).bind_refuses
    (Refuses.orElse_refuses (hword rfl).bind (hword rfl).bind)

/-- A decimal integer has no letter for another base. -/
theorem refuses_based {letter : Char} {base : Nat} {kind : Char → Bool} (n : Numeral)
    (hletter : letter ∉ valueMarks) :
    Refuses (basedInteger letter base kind)
      (n.sign.text ++ (Text.ofNat n.magnitude ++ c :: r)) := by
  apply Refuses.bind
  cases n.sign with
  | none =>
    rcases Nat.eq_zero_or_pos n.magnitude with hn | hn
    · have hzero : Text.ofNat 0 = ['0'] := ofNat_of_lt (by decide)
      rw [hn, hzero]
      refine .exactly_of_not fun hp => ?_
      have hfront := (List.cons_prefix_cons.1 (List.cons_prefix_cons.1 hp).2).1
      exact ne_of_mem_valueMarks hc hletter hfront.symm
    · obtain ⟨d, ds, hfront, hzero⟩ := exists_front_ofNat hn
      rw [hfront]
      exact .exactly hzero.symm
  | plus => exact .exactly (by decide)
  | minus => exact .exactly (by decide)

end Numbers

section Values

theorem chain_string (t : StringText) :
    Chain (single (one isBasic <|> escape)) () (t.text ++ '"' :: r) t.text ('"' :: r) := by
  obtain ⟨text, hbasic⟩ := t
  induction text with
  | nil =>
    have hescape : Refuses escape ('"' :: r) := Refuses.bind (.mark (by decide))
    have hone : Refuses (one isBasic) ('"' :: r) := .one rfl
    exact .stop_many (hone.orElse_refuses hescape)
  | cons c text ih =>
    obtain ⟨hc, hbasic⟩ := List.forall_mem_cons.1 hbasic
    exact .step_many (Reads.orElse (.one hc)) (Nat.lt_succ_self _) (ih hbasic)

theorem reads_basicString (t : StringText) :
    Reads basicString ('"' :: (t.text ++ '"' :: r)) t.text r :=
  Reads.mark.bind ((chain_string t).many.bind (Reads.mark.bind .pure))

/-- Only an empty string could be taken for the beginning of a long one. -/
theorem reads_string (t : StringText) (hc : c ≠ '"') :
    Reads string ('"' :: (t.text ++ '"' :: c :: r)) t.text (c :: r) := by
  have hquotes : ¬['"', '"', '"'] <+: '"' :: (t.text ++ '"' :: c :: r) := by
    intro hp
    obtain ⟨-, hp⟩ := List.cons_prefix_cons.1 hp
    obtain ⟨text, hbasic⟩ := t
    cases text with
    | nil => exact hc (List.cons_prefix_cons.1 (List.cons_prefix_cons.1 hp).2).1.symm
    | cons d text =>
      obtain rfl := (List.cons_prefix_cons.1 hp).1
      exact absurd (hbasic '"' List.mem_cons_self) (by decide)
  exact (Refuses.exactly_of_not hquotes).bind.orElse (reads_basicString t).orElse

theorem refuses_basicString (h : c ≠ '"') : Refuses basicString (c :: s) :=
  Refuses.bind (.mark h)

theorem refuses_literalString (h : c ≠ '\'') : Refuses literalString (c :: s) :=
  Refuses.bind (.mark h)

theorem refuses_string (hquote : c ≠ '"') (hsingle : c ≠ '\'') : Refuses string (c :: s) := by
  have hlong {quote : Char} {piece : Reader Text} (h : c ≠ quote) :
      Refuses (longString quote piece) (c :: s) := Refuses.bind (.exactly h.symm)
  exact (hlong hquote).orElse_refuses ((refuses_basicString hquote).orElse_refuses
    ((hlong hsingle).orElse_refuses (refuses_literalString hsingle)))

theorem exists_front_numeral (n : Numeral) (s : Text) : ∃ c u,
    n.sign.text ++ (Text.ofNat n.magnitude ++ s) = c :: u ∧ c ≠ '"' ∧ c ≠ '\'' := by
  cases n.sign with
  | none =>
    obtain ⟨d, ds, hn, hd, -⟩ := exists_digit_ofNat n.magnitude
    exact ⟨d, ds ++ s, by rw [hn]; rfl, ne_of_isDigit hd rfl, ne_of_isDigit hd rfl⟩
  | plus => exact ⟨'+', _, rfl, by decide, by decide⟩
  | minus => exact ⟨'-', _, rfl, by decide, by decide⟩

variable (hc : c ∈ valueMarks)
include hc

theorem refuses_moment_numeral (n : Numeral) :
    Refuses moment (n.sign.text ++ (Text.ofNat n.magnitude ++ c :: r)) := by
  cases n.sign with
  | none =>
    exact refuses_moment (fun d hd => isDigit_of_mem_ofNat hd) (notDigit_of_mem_valueMarks hc)
      (ne_of_mem_valueMarks hc (by decide)) (ne_of_mem_valueMarks hc (by decide))
  | plus => rfl
  | minus => rfl

theorem reads_numeral (n : Numeral) :
    Reads scalar (n.sign.text ++ (Text.ofNat n.magnitude ++ c :: r))
      (.integer (signed n.sign n.magnitude)) (c :: r) := by
  have hstring : Refuses string (n.sign.text ++ (Text.ofNat n.magnitude ++ c :: r)) := by
    obtain ⟨d, u, hfront, hquote, hsingle⟩ := exists_front_numeral n (c :: r)
    rw [hfront]
    exact refuses_string hquote hsingle
  have hfloat : Refuses float (n.sign.text ++ (Text.ofNat n.magnitude ++ c :: r)) :=
    (refuses_decimalFloat hc n).orElse_refuses (refuses_specialFloat n)
  have hinteger : Reads integer (n.sign.text ++ (Text.ofNat n.magnitude ++ c :: r))
      (signed n.sign n.magnitude) (c :: r) :=
    (refuses_based hc n (by decide)).orElse ((refuses_based hc n (by decide)).orElse
      ((refuses_based hc n (by decide)).orElse (reads_decimalInteger hc n)))
  -- an integer is looked for only where there is no string, no moment and no float
  exact hstring.map.orElse ((refuses_moment_numeral hc n).bind.orElse
    (hfloat.map.orElse hinteger.map.orElse))

theorem reads_scalar (v : Value) : Reads scalar (v.text ++ c :: r) v.scalar (c :: r) := by
  cases v with
  | integer n =>
    rw [Value.text, List.append_assoc]
    exact reads_numeral hc n
  | boolean b => cases b <;> rfl
  | string t =>
    have htext : Value.text (.string t) ++ c :: r = '"' :: (t.text ++ '"' :: c :: r) := by
      simp [Value.text]
    rw [htext]
    exact (reads_string t (ne_of_mem_valueMarks hc (by decide))).map.orElse

end Values

section Keys

theorem ne_of_isBare (h : isBareKeyCharacter c = true) (hd : isBareKeyCharacter d = false) :
    c ≠ d := by
  rintro rfl
  rw [h] at hd
  cases hd

theorem notBlank_of_isBare (h : isBareKeyCharacter c = true) : isBlank c = false := by
  have hspace : c ≠ ' ' := ne_of_isBare h (by decide)
  have htab : c ≠ '\t' := ne_of_isBare h (by decide)
  simp [isBlank, hspace, htab]

theorem notBare_of_isBlank (h : isBlank c = true) : isBareKeyCharacter c = false := by
  by_contra hc
  rw [notBlank_of_isBare (Bool.of_not_eq_false hc)] at h
  cases h

theorem exists_front_key (k : BareKey) (s : Text) :
    ∃ c u, k.text ++ s = c :: u ∧ isBareKeyCharacter c = true := by
  obtain ⟨text, hne, hbare⟩ := k
  cases text with
  | nil => exact absurd rfl hne
  | cons c u => exact ⟨c, u ++ s, rfl, hbare c List.mem_cons_self⟩

/-- The signs behind a key. -/
def keyMarks : List Char := ['.', '=', ']']

theorem reads_blanks (lead : Text) (hlead : ∀ c ∈ lead, isBlank c = true)
    (hr : ∀ c ∈ r.head?, isBlank c = false) : Reads blanks (lead ++ r) () r :=
  (Reads.span hlead hr).bind .pure

theorem reads_bareKey (k : BareKey) (hr : ∀ c ∈ r.head?, isBareKeyCharacter c = false) :
    Reads bareKey (k.text ++ r) k.text r := by
  obtain ⟨text, hne, hbare⟩ := k
  cases text with
  | nil => exact absurd rfl hne
  | cons c u =>
    obtain ⟨hc, hu⟩ := List.forall_mem_cons.1 hbare
    exact Reads.bind (.one hc) ((Reads.span hu hr).bind .pure)

/-- What the key is read as, with what is left behind it. -/
def keyAs (k : BareKey) (r : Text) : Key := ⟨k.text, ⟨k.text ++ r, r⟩⟩

theorem reads_keyPart (lead trail : Text) (k : BareKey) (hlead : ∀ c ∈ lead, isBlank c = true)
    (htrail : ∀ c ∈ trail, isBlank c = true) (hc : c ∈ keyMarks) :
    Reads keyPart (lead ++ (k.text ++ (trail ++ c :: r))) (keyAs k (trail ++ c :: r)) (c :: r) := by
  have hmarks : ∀ c ∈ keyMarks, isBareKeyCharacter c = false ∧ isBlank c = false := by decide
  have hbehind : ∀ d ∈ (trail ++ c :: r).head?, isBareKeyCharacter d = false := by
    cases trail with
    | nil => exact forall_head (hmarks c hc).1
    | cons e trail => exact forall_head (notBare_of_isBlank (htrail e List.mem_cons_self))
  obtain ⟨d, u, hfront, hd⟩ := exists_front_key k (trail ++ c :: r)
  have hname : Reads (basicString <|> literalString <|> bareKey) (k.text ++ (trail ++ c :: r))
      k.text (trail ++ c :: r) := by
    have hbare := reads_bareKey k hbehind
    rw [hfront] at hbare ⊢
    exact (refuses_basicString (ne_of_isBare hd (by decide))).orElse
      ((refuses_literalString (ne_of_isBare hd (by decide))).orElse hbare)
  have hstart : ∀ d ∈ (k.text ++ (trail ++ c :: r)).head?, isBlank d = false := by
    rw [hfront]
    exact forall_head (notBlank_of_isBare hd)
  have hend : ∀ d ∈ (c :: r).head?, isBlank d = false := forall_head (hmarks c hc).2
  exact (reads_blanks lead hlead hstart).bind ((reads_located hname).bind
    ((reads_blanks trail htrail hend).bind .pure))

theorem reads_key (lead trail : Text) (k : BareKey) (hlead : ∀ c ∈ lead, isBlank c = true)
    (htrail : ∀ c ∈ trail, isBlank c = true) (hc : c ∈ keyMarks) (hdot : c ≠ '.') :
    Reads key (lead ++ (k.text ++ (trail ++ c :: r))) [keyAs k (trail ++ c :: r)] (c :: r) :=
  ((reads_keyPart lead trail k hlead htrail hc).separated_one (.mark hdot)).bind
    ((Reads.require rfl).bind .pure)

theorem reads_dottedKey (trail : Text) (table k : BareKey) (htrail : ∀ c ∈ trail, isBlank c = true)
    (hc : c ∈ keyMarks) (hdot : c ≠ '.') :
    Reads key (table.text ++ '.' :: (k.text ++ (trail ++ c :: r)))
      [keyAs table ('.' :: (k.text ++ (trail ++ c :: r))), keyAs k (trail ++ c :: r)] (c :: r) := by
  have hnone : ∀ c ∈ ([] : Text), isBlank c = true := fun c hc => absurd hc List.not_mem_nil
  have hfirst := reads_keyPart (c := '.') (r := k.text ++ (trail ++ c :: r)) [] [] table hnone
    hnone (by decide)
  have hsecond : Reads (anyOf ['.'] >>= fun _ => keyPart)
      ('.' :: (k.text ++ (trail ++ c :: r))) (keyAs k (trail ++ c :: r)) (c :: r) :=
    Reads.mark.bind (reads_keyPart [] trail k hnone htrail hc)
  refine (hfirst.separated (.step_many hsecond ?_ (.stop_many (Refuses.mark hdot).bind))).bind
    ((Reads.require rfl).bind .pure)
  simp only [List.length_cons, List.length_append]
  omega

end Keys

section Items

variable {item : Reader Toml.Item} {i : Toml.Item} {path : List Key} {n : Nat}

/-- What begins a gap. -/
def gapMarks : List Char := [' ', '\t', '#', '\n', '\r']

theorem exists_front_value (v : Value) (s : Text) : ∃ c u, v.text ++ s = c :: u ∧ c ∉ gapMarks := by
  cases v with
  | integer n =>
    cases hsign : n.sign with
    | none =>
      obtain ⟨d, ds, hn, hd, -⟩ := exists_digit_ofNat n.magnitude
      have hall : ∀ d ∈ gapMarks, d.isDigit = false := by decide
      refine ⟨d, ds ++ s, by simp [Value.text, hsign, PrintedToml.Sign.text, hn], fun hmark => ?_⟩
      exact ne_of_isDigit hd (hall d hmark) rfl
    | plus => exact ⟨'+', _, by rw [Value.text, hsign]; rfl, by decide⟩
    | minus => exact ⟨'-', _, by rw [Value.text, hsign]; rfl, by decide⟩
  | boolean b =>
    cases b with
    | true => exact ⟨'t', _, rfl, by decide⟩
    | false => exact ⟨'f', _, rfl, by decide⟩
  | string t => exact ⟨'"', _, rfl, by decide⟩

theorem notBlank_of_notMem (hc : c ∉ gapMarks) : isBlank c = false := by
  simp only [gapMarks, List.mem_cons, not_or] at hc
  simp [isBlank, hc]

theorem notBlank_value (v : Value) (s : Text) : ∀ c ∈ (v.text ++ s).head?, isBlank c = false := by
  obtain ⟨c, u, hfront, hc⟩ := exists_front_value v s
  exact hfront ▸ forall_head (notBlank_of_notMem hc)

theorem refuses_comment (hc : c ≠ '#') : Refuses comment (c :: s) :=
  Refuses.bind (.mark hc)

theorem refuses_lineBreak (hn : c ≠ '\n') (hr : c ≠ '\r') : Refuses lineBreak (c :: s) :=
  Refuses.orElse_refuses (.exactly hn.symm) (.exactly hr.symm)

theorem reads_noBlanks (hc : isBlank c = false) : Reads blanks (c :: s) () (c :: s) :=
  reads_blanks [] (by simp) (forall_head hc)

/-- There may be nothing in a gap. -/
theorem reads_noGap (hc : c ∉ gapMarks) : Reads gap (c :: s) () (c :: s) := by
  have hblank := notBlank_of_notMem hc
  simp only [gapMarks, List.mem_cons, not_or] at hc
  obtain ⟨-, -, hhash, hn, hr, -⟩ := hc
  have hline : Refuses gap.blankLine (c :: s) :=
    (refuses_comment hhash).optional.bind_refuses (refuses_lineBreak hn hr)
  have hone : Refuses (one isBlank) (c :: s) := .one hblank
  exact (Chain.stop_many (hline.orElse_refuses hone.bind)).many.bind .pure

theorem reads_setting (hkey : Reads key s path ('=' :: ' ' :: r))
    (hr : ∀ c ∈ r.head?, isBlank c = false) (hitem : Reads item r i ds) :
    Reads (setting item) s ⟨path, i⟩ ds := by
  have hblank : Reads blanks (' ' :: r) () r :=
    reads_blanks [' '] (by simp [isBlank]) hr
  exact hkey.bind (Reads.mark.bind (hblank.bind (hitem.bind .pure)))

/-- What the value is read as where `r` stands behind it. -/
def valueAs (v : Value) (r : Text) : Toml.Item := .scalar v.scalar ⟨v.text ++ r, r⟩

theorem reads_valueAs (v : Value) (hc : c ∈ valueMarks) :
    Reads (value n) (v.text ++ c :: r) (valueAs v (c :: r)) (c :: r) := by
  have hscalar := (reads_located (reads_scalar hc v (r := r))).bind (β := Toml.Item)
    (f := fun x => Pure.pure (.scalar x.1 x.2)) .pure
  cases n with
  | zero => exact hscalar
  | succ n => exact hscalar.orElse

theorem reads_list (v : Value) :
    Reads (value (n + 1)) ('[' :: (v.text ++ ']' :: r))
      (.array [valueAs v (']' :: r)] ⟨'[' :: (v.text ++ ']' :: r), r⟩) r := by
  obtain ⟨c, u, hfront, hc⟩ := exists_front_value v (']' :: r)
  have hscalar : Refuses scalar ('[' :: (v.text ++ ']' :: r)) := rfl
  have hclose : Reads gap (']' :: r) () (']' :: r) := reads_noGap (by decide)
  have hgap : Reads gap (v.text ++ ']' :: r) () (v.text ++ ']' :: r) := by
    rw [hfront]
    exact reads_noGap hc
  have hspaced : Reads (listItems.spaced (value n)) (v.text ++ ']' :: r) (valueAs v (']' :: r))
      (']' :: r) := hgap.bind ((reads_valueAs v (by decide)).bind (hclose.bind .pure))
  have hcomma : Refuses (anyOf [',']) (']' :: r) := .mark (by decide)
  have hitems : Reads (listItems (value n)) ('[' :: (v.text ++ ']' :: r)) [valueAs v (']' :: r)]
      r := by
    refine Reads.mark.bind ((hspaced.separated_one hcomma).optional.bind ?_)
    exact hcomma.optional.bind (hclose.bind (Reads.mark.bind .pure))
  refine (refuses_located hscalar).bind.orElse (Reads.orElse ?_)
  exact (reads_located hitems).bind .pure

/-- What stands behind an opening brace. -/
def behindBrace (k : BareKey) (v : Value) (r : Text) : Text :=
  ' ' :: (k.text ++ ' ' :: '=' :: ' ' :: (v.text ++ ' ' :: '\x7d' :: r))

def entryInBraces (k : BareKey) (v : Value) (r : Text) : Key × Toml.Item :=
  (keyAs k (' ' :: '=' :: ' ' :: (v.text ++ ' ' :: '\x7d' :: r)), valueAs v (' ' :: '\x7d' :: r))

theorem reads_braces (k : BareKey) (v : Value) :
    Reads (value (n + 1)) ('\x7b' :: behindBrace k v r)
      (.table .braces (some ⟨'\x7b' :: behindBrace k v r, r⟩) [entryInBraces k v r]) r := by
  have hscalar : Refuses scalar ('\x7b' :: behindBrace k v r) := rfl
  have hlist : Refuses (listItems (value n)) ('\x7b' :: behindBrace k v r) :=
    Refuses.bind (.mark (by decide))
  have hblank : ∀ c ∈ [' '], isBlank c = true := by decide
  have hkey : Reads key (behindBrace k v r)
      [keyAs k (' ' :: '=' :: ' ' :: (v.text ++ ' ' :: '\x7d' :: r))]
      ('=' :: ' ' :: (v.text ++ ' ' :: '\x7d' :: r)) :=
    reads_key [' '] [' '] k hblank hblank (by decide) (by decide)
  have hitem : Reads (value n) (v.text ++ ' ' :: '\x7d' :: r) (valueAs v (' ' :: '\x7d' :: r))
      (' ' :: '\x7d' :: r) := reads_valueAs v (by decide)
  have hbehind : Reads blanks (' ' :: '\x7d' :: r) () ('\x7d' :: r) :=
    reads_blanks [' '] hblank (forall_head (by decide))
  have hspaced : Reads (braceEntries.spaced (value n)) (behindBrace k v r)
      ⟨[(entryInBraces k v r).1], (entryInBraces k v r).2⟩ ('\x7d' :: r) :=
    (reads_setting hkey (notBlank_value v _) hitem).bind (hbehind.bind .pure)
  have hcomma : Refuses (anyOf [',']) ('\x7d' :: r) := .mark (by decide)
  have hentries : Reads (braceEntries (value n)) ('\x7b' :: behindBrace k v r)
      [entryInBraces k v r] r := by
    refine Reads.mark.bind ((hspaced.separated_one hcomma).optional.bind ?_)
    exact (reads_noBlanks (by decide)).bind (Reads.mark.bind .pure)
  refine (refuses_located hscalar).bind.orElse ((refuses_located hlist).bind.orElse ?_)
  exact (reads_located hentries).bind .pure

/-- What the item is read as where `r` stands behind it. -/
def itemAs (r : Text) : PrintedItem → Toml.Item
  | .scalar v => valueAs v r
  | .braces k v =>
    .table .braces (some ⟨'\x7b' :: behindBrace k v r, r⟩) [entryInBraces k v r]
  | .list v => .array [valueAs v (']' :: r)] ⟨'[' :: (v.text ++ ']' :: r), r⟩

theorem reads_item (i : PrintedItem) :
    Reads (value (n + 1)) (i.text ++ '\n' :: r) (itemAs ('\n' :: r) i) ('\n' :: r) := by
  cases i with
  | scalar v => exact reads_valueAs v (by decide)
  | braces k v =>
    have htext : (PrintedItem.braces k v).text ++ '\n' :: r =
        '\x7b' :: behindBrace k v ('\n' :: r) := by
      simp [PrintedItem.text, behindBrace]
    rw [htext]
    exact reads_braces k v
  | list v =>
    have htext : (PrintedItem.list v).text ++ '\n' :: r = '[' :: (v.text ++ ']' :: '\n' :: r) := by
      simp [PrintedItem.text]
    rw [htext]
    exact reads_list v

theorem notBlank_item (i : PrintedItem) (s : Text) :
    ∀ c ∈ (i.text ++ s).head?, isBlank c = false := by
  cases i with
  | scalar v => exact notBlank_value v s
  | braces k v => exact forall_head (by decide)
  | list v => exact forall_head (by decide)

end Items

end RpcSchema.TomlReading
