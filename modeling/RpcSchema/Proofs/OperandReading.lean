import RpcSchema.Proofs.TypeReading

/-! # Types as operands

Where the length of an array could stand, a type is read as an operand. Whether it
is an expression decides what the brackets are. -/
namespace RpcSchema.OperandReading
open GoLexeme GoExpressions ReaderRun LexemeRun LiteralRun OperandRun PlainNames PrintedSource
open TypeReading CommentedSource GapReading
open Numerals (ne_of_isDigit)

variable {g : Nested} {e : Edge} {o : Operand} {r s u v : Text} {cs cs' : List Text} {c : Char}
  {n : Nat} {x : Name} {node : TypeNode}

/-- What the type is read as. -/
def operandOf : CommentedType → Operand
  | .name _ => .identifier
  | .qualified _ _ _ _ => .qualified
  | .pointer _ target => (operandOf target).enclosed
  | .slice _ _ element => .ofType (.list (readAs element) []) .always
  | .array _ _ _ _ element => .ofType (.list (readAs element) []) .always
  | .map _ _ _ _ _ value => .ofType (.prefixed (readAs value) []) .always
  | .parens _ inner _ => (operandOf inner).enclosed

theorem value_operandOf (t : CommentedType) : (operandOf t).value = t.plain.isValue := by
  induction t with
  | name x => rfl
  | qualified package before after member => rfl
  | pointer gap target ih => exact ih
  | slice inside behind element => exact isInstance_readAs element
  | array before length after behind element => exact isInstance_readAs element
  | map front before key after behind value => exact isInstance_readAs value
  | parens before inner after ih => exact ih

theorem type_operandOf (t : CommentedType) : (operandOf t).type = true := by
  induction t with
  | name x => rfl
  | qualified package before after member => rfl
  | pointer gap target ih => exact ih
  | slice inside behind element => rfl
  | array before length after behind element => rfl
  | map front before key after behind value => rfl
  | parens before inner after ih => exact ih

section Steps

theorem isDigit_of_isStart (h : IdentifierCharacter.isStart c = true) : c.isDigit = false := by
  by_contra hd
  simp only [Char.isDigit, Bool.not_eq_false, Bool.and_eq_true, decide_eq_true_eq] at hd
  have hlo : 48 ≤ c.toNat := UInt32.le_iff_toNat_le.1 hd.1
  have hhi : c.toNat ≤ 57 := UInt32.le_iff_toNat_le.1 hd.2
  have hall : ∀ k < 10, IdentifierCharacter.isStart (Char.ofNat (48 + k)) = false := by decide
  have hc := hall (c.toNat - 48) (by omega)
  rw [Nat.add_sub_cancel' hlo, Char.ofNat_toNat, h] at hc
  cases hc

/-- A word is no literal. -/
theorem refuses_literal_word (h : IsIdentifier s) : Refuses GoLiteral.literal (s ++ r) := by
  obtain ⟨c, v, rfl, hc⟩ := exists_head h
  exact refuses_literal (isDigit_of_isStart hc) (notMem_of_isStart hc (by decide))

/-- An operand that begins with a word. -/
theorem reads_operand_of_word {w v : Text} (hs : Skips false s cs (w ++ v)) (h : IsIdentifier w)
    (hword : Reads (wordOperand g) s o u) {t : Text} {p : Operand}
    (hrest : Reads (suffixes g e o) u p t) : Reads (operand g e) s p t := by
  have hmarks : ∀ d ∈ (w ++ v).head?, d ∉ operandMarks := by
    obtain ⟨c, w, rfl, hc⟩ := exists_head h
    exact forall_head (notMem_of_isStart hc (by decide))
  refine (run_operand hs hmarks).trans ?_
  have hliteral := refuses_lexeme hs (refuses_literal_word h (r := v))
  exact hliteral.bind.orElse (hword.bind hrest)

theorem reads_wordOperand_name (hs : Skips false s cs (x.text ++ u)) (hu : Stops u) :
    Reads (wordOperand g) s .identifier u := by
  have hne {k : Text} (hk : k ∈ reservedWords) : ¬(x.text == k) = true := by
    rw [beq_iff_eq]
    exact Name.ne x hk
  have hallocator : ¬(x.text == "new".toList || x.text == "make".toList) = true := by
    rw [Bool.or_eq_true, not_or]
    exact ⟨hne (by decide), hne (by decide)⟩
  have hword : ¬operandWords.contains x.text = true := by
    have hsubset : operandWords ⊆ reservedWords := by decide
    rw [List.contains_iff_mem]
    exact fun h => x.notReserved (hsubset h)
  refine (reads_word hs x.isIdentifier hu).bind ?_
  rw [if_neg (hne (by decide)), if_neg (hne (by decide)), if_neg (hne (by decide)),
    if_neg (hne (by decide)), if_neg (hne (by decide)), if_neg hallocator, if_neg hword]
  exact .pure

theorem reads_wordOperand_map (hs : Skips false s cs ("map".toList ++ u)) (hu : Stops u)
    (h : Reads (GoTypes.mapType g false) u (fun t => .prefixed node t) r) :
    Reads (wordOperand g) s (.ofType (.prefixed node []) .always) r := by
  refine (reads_word hs isIdentifier_map hu).bind ?_
  rw [if_neg (by simp), if_pos (by simp)]
  exact h.bind .pure

/-- A dot and a word behind a package name. -/
theorem reads_selector (hs : Skips false s cs ('.' :: u)) (hu : Skips false u cs' (x.text ++ r))
    (hr : Stops r) : Reads (suffix g .inner .identifier) s .qualified r := by
  refine (reads_nextChar hs).bind ((Reads.require rfl).bind ?_)
  refine (reads_sign hs).bind ((reads_nextChar hu).bind ?_)
  have hword := (reads_word hu x.isIdentifier hr).bind
    (f := fun _ => (pure Operand.qualified : Reader Operand)) .pure
  split
  · next hc =>
    obtain ⟨c, v, hx, hstart⟩ := exists_head x.isIdentifier
    rw [hx] at hc
    exact absurd (Option.some.inj hc) (ne_of_isStart hstart (by decide))
  · exact hword

theorem reads_pointer_operand (hs : Skips false s cs ('*' :: u))
    (h : Reads (g.operand .inner) u o r) : Reads (operand g .inner) s o.enclosed r :=
  (reads_nextChar hs).bind ((reads_sign hs).bind (h.bind .pure))

theorem reads_parens_operand (hs : Skips false s cs ('(' :: u))
    (h : Reads (g.expression .inner) u o v) (hclose : Skips false v cs' (')' :: r))
    (hr : LeadsTo closers r) (ho : o.type = true) : Reads (operand g .inner) s o.enclosed r := by
  have hgrouped : Reads (grouped g) s o.enclosed r :=
    (reads_sign hs).bind (h.bind ((reads_sign hclose).bind .pure))
  have htype : (o.enclosed.value || o.enclosed.type) = true := by
    rw [Bool.or_eq_true]
    exact .inr ho
  exact (reads_nextChar hs).bind (hgrouped.bind (reads_suffixes hr htype))

/-- An array or slice type, whose length is no run of dots. -/
theorem reads_list_operand (hs : Skips false s cs ('[' :: u))
    (hdots : Refuses (symbol false ['.', '.', '.']) u)
    (hlength : Reads (GoTypes.arrayLength g) u () v) (h : Reads (g.type false) v node r)
    (hr : LeadsTo closers r) :
    Reads (operand g .inner) s (.ofType (.list node []) .always) r := by
  have hlist : Reads (listOperand g) s (.ofType (.list node []) .always) r :=
    (reads_sign hs).bind (hdots.bind.orElse (hlength.bind (h.bind .pure)))
  have htype : ((Operand.ofType (.list node []) .always).value ||
      (Operand.ofType (.list node []) .always).type) = true := by
    rw [Bool.or_eq_true]
    exact .inr rfl
  exact (reads_nextChar hs).bind (hlist.bind (reads_suffixes hr htype))

end Steps

section Types

theorem reads_suffixes_operandOf (hr : LeadsTo closers r) (t : CommentedType) :
    Reads (suffixes g .inner (operandOf t)) r (operandOf t) r := by
  apply reads_suffixes hr
  rw [type_operandOf, Bool.or_true]

theorem reads_operand (t : CommentedType) (hn : t.text.length ≤ n)
    (hs : Skips false s cs (t.text ++ r)) (hr : LeadsTo closers r) :
    Reads ((Nested.upTo n).operand .inner) s (operandOf t) r := by
  have hends {r : Text} (hr : LeadsTo closers r) : Ends false r :=
    LeadsTo.ends hr closers_subset
  induction t generalizing n s cs r with
  | name x =>
    obtain ⟨m, rfl⟩ := exists_succ (.name x) hn
    exact reads_operand_of_word hs x.isIdentifier
      (reads_wordOperand_name hs (hr.stops closers_subset))
      (reads_suffixes_operandOf hr (.name x))
  | qualified package before after member =>
    obtain ⟨m, rfl⟩ := exists_succ (.qualified package before after member) hn
    have hpackage := List.length_pos_iff.2 package.isIdentifier.ne_nil
    simp only [CommentedType.text, List.length_append, List.length_cons] at hn
    obtain ⟨k, rfl⟩ : ∃ k, m = k + 1 := ⟨m - 1, by omega⟩
    have hdot : Skips false (before.text ++ '.' :: (after.text ++ (member.text ++ r)))
        before.comments ('.' :: (after.text ++ (member.text ++ r))) :=
      Solid.skips_gap (solid_cons rfl (by simp)) before
    have hmember := reads_selector (g := Nested.upTo (k + 1)) hdot
      (Solid.skips_gap (solid_of_isIdentifier member.isIdentifier) after)
      (hr.stops closers_subset)
    have hrest := reads_suffixes_operandOf (g := Nested.upTo k) hr
      (.qualified package before after member)
    rw [text_qualified_append] at hs
    exact reads_operand_of_word hs package.isIdentifier
      (reads_wordOperand_name hs (stops_gap before stops_dot)) (hmember.bind hrest).orElse
  | pointer gap target ih =>
    obtain ⟨m, rfl⟩ := exists_succ (.pointer gap target) hn
    simp only [CommentedType.text, List.length_cons, List.length_append] at hn
    have hgap : Skips false (gap.text ++ (target.text ++ r)) gap.comments (target.text ++ r) :=
      Solid.skips_gap (solid_text target r) gap
    rw [CommentedType.text, List.cons_append, List.append_assoc] at hs
    exact reads_pointer_operand hs (ih (n := m) (by omega) hgap hr)
  | slice inside behind element ih =>
    obtain ⟨m, rfl⟩ := exists_succ (.slice inside behind element) hn
    simp only [CommentedType.text, List.length_cons, List.length_append] at hn
    have helement := reads_type_gap behind (reads_type element (n := m) (by omega) (hends hr))
    have hclose : Skips false (inside.text ++ ']' :: (behind.text ++ (element.text ++ r)))
        inside.comments _ := skips_bracket inside
    rw [text_slice_append] at hs
    exact reads_list_operand hs (refuses_symbol hclose (by simp)) (reads_noLength hclose) helement
      hr
  | array before length after behind element ih =>
    obtain ⟨m, rfl⟩ := exists_succ (.array before length after behind element) hn
    simp only [CommentedType.text, List.length_cons, List.length_append] at hn
    have helement := reads_type_gap behind (reads_type element (n := m) (by omega) (hends hr))
    have hlength := reads_decimal_length before after length (n := m)
      (r := behind.text ++ (element.text ++ r)) (by omega)
    have hdots : Refuses (symbol false ['.', '.', '.']) (before.text ++ (length.text ++
        (after.text ++ ']' :: (behind.text ++ (element.text ++ r))))) := by
      obtain ⟨d, v, hv, hd⟩ := exists_digit_append length
        (after.text ++ ']' :: (behind.text ++ (element.text ++ r)))
      rw [hv]
      exact refuses_symbol (Solid.skips_gap (solid_of_isDigit hd) before)
        (ne_of_isDigit hd rfl).symm
    rw [text_array_append] at hs
    exact reads_list_operand hs hdots hlength helement hr
  | map front before key after behind value =>
    obtain ⟨m, rfl⟩ := exists_succ (.map front before key after behind value) hn
    simp only [CommentedType.text, List.length_cons, List.length_append] at hn
    have hkey := reads_type_gap before (reads_type key (n := m) (by omega)
      (ends_gap after (c := ']') (r := behind.text ++ (value.text ++ r)) (by decide)))
    have hvalue := reads_type_gap behind (reads_type value (n := m) (by omega) (hends hr))
    have hopen : Skips false (front.text ++ '[' :: (before.text ++ (key.text ++ (after.text ++
        ']' :: (behind.text ++ (value.text ++ r)))))) front.comments _ :=
      Solid.skips_gap (solid_cons rfl (by simp)) front
    have hmap := reads_mapType hopen hkey (skips_bracket after) hvalue
    rw [text_map_append] at hs
    exact reads_operand_of_word hs isIdentifier_map
      (reads_wordOperand_map hs (stops_gap front (stops_cons (by decide))) hmap)
      (reads_suffixes_operandOf hr (.map front before key after behind value))
  | parens before inner after ih =>
    obtain ⟨m, rfl⟩ := exists_succ (.parens before inner after) hn
    simp only [CommentedType.text, List.length_cons, List.length_append] at hn
    have hclose : LeadsTo closers (after.text ++ ')' :: r) :=
      leadsTo_gap after (by decide) closers_subset
    have hgap : Skips false (before.text ++ (inner.text ++ (after.text ++ ')' :: r)))
        before.comments (inner.text ++ (after.text ++ ')' :: r)) :=
      Solid.skips_gap (solid_text inner _) before
    have hinner := reads_expression_upTo hclose (ih (n := m) (by omega) hgap hclose)
    rw [text_parens_append] at hs
    exact reads_parens_operand hs hinner (Solid.skips_gap (solid_cons rfl (by simp)) after) hr
      (type_operandOf inner)

theorem reads_expression_operandOf (t : CommentedType) (hn : t.text.length ≤ n)
    (hs : Skips false s cs (t.text ++ r)) (hr : LeadsTo closers r) :
    Reads ((Nested.upTo n).expression .inner) s (operandOf t) r :=
  reads_expression_upTo hr (reads_operand t hn hs hr)

end Types

end RpcSchema.OperandReading
