import RpcSchema.Proofs.GapReading
import RpcSchema.Proofs.OperandRun

/-! # Types are read as they were meant

A type with gaps in it is read up to its last character, at every depth of nesting the text
has room for, if nothing that could continue it stands behind it. -/
namespace RpcSchema.TypeReading
open GoLexeme GoTypes ReaderRun LexemeRun LiteralRun OperandRun PlainNames PrintedSource
open CommentedSource GapReading
open Reader (exactly optional)
open Numerals (ne_of_isDigit)

variable {g : Nested} {lineEnds : Bool} {r s u v : Text} {cs cs' : List Text} {c d : Char}
  {n : Nat}
  {f : Text → TypeNode} {node : TypeNode} {o : Operand}

section Fronts

theorem Name.ne (x : Name) {k : Text} (h : k ∈ reservedWords) : x.text ≠ k := by
  rintro rfl
  exact x.notReserved h

theorem isStart_map : IdentifierCharacter.isStart 'm' = true := by decide

theorem isIdentifier_map : IsIdentifier "map".toList := by decide

/-- What a type may begin with. -/
def Opens (c : Char) : Prop := IdentifierCharacter.isStart c = true ∨ c ∈ ['*', '[', '(']

theorem Opens.ne (h : Opens c) (hd : d ∈ punctuation) (hn : d ∉ ['*', '[', '(']) : c ≠ d := by
  rcases h with h | h
  · exact ne_of_isStart h hd
  · rintro rfl
    exact hn h

theorem Opens.solid (h : Opens c) : Solid (c :: s) := by
  rcases h with h | h
  · exact solid_of_isStart h
  · have hall : ∀ c ∈ ['*', '[', '('], isBlank c = false ∧ c ≠ '/' := by decide
    exact solid_cons (hall c h).1 (hall c h).2

theorem exists_front_bare (t : CommentedType) (h : t.plain.isParenthesized = false) :
    ∃ c s, t.text = c :: s ∧ (IdentifierCharacter.isStart c = true ∨ c ∈ ['*', '[']) := by
  have hname (x : Name) (s : Text) : ∃ c v, x.text ++ s = c :: v ∧
      (IdentifierCharacter.isStart c = true ∨ c ∈ ['*', '[']) := by
    obtain ⟨c, v, h, hc⟩ := exists_head x.isIdentifier
    exact ⟨c, v ++ s, by rw [h, List.cons_append], .inl hc⟩
  cases t with
  | name x =>
    have h := hname x []
    rw [List.append_nil] at h
    exact h
  | qualified package before after member => exact hname package _
  | pointer gap target => exact ⟨_, _, rfl, .inr (by simp)⟩
  | slice inside behind element => exact ⟨_, _, rfl, .inr (by simp)⟩
  | array before length after behind element => exact ⟨_, _, rfl, .inr (by simp)⟩
  | map front before key after behind value => exact ⟨'m', _, rfl, .inl isStart_map⟩
  | parens before inner after => cases h

theorem exists_front (t : CommentedType) : ∃ c s, t.text = c :: s ∧ Opens c := by
  cases h : t.plain.isParenthesized with
  | true =>
    cases t with
    | parens before inner after => exact ⟨_, _, rfl, .inr (by simp)⟩
    | _ => cases h
  | false =>
    have hsubset : ['*', '['] ⊆ ['*', '[', '('] := by simp
    obtain ⟨c, s, ht, hc⟩ := exists_front_bare t h
    exact ⟨c, s, ht, hc.imp id fun h => hsubset h⟩

theorem exists_front_append (t : CommentedType) (s : Text) :
    ∃ c v, t.text ++ s = c :: v ∧ Opens c := by
  obtain ⟨c, v, h, hc⟩ := exists_front t
  exact ⟨c, v ++ s, by rw [h, List.cons_append], hc⟩

theorem solid_text (t : CommentedType) (s : Text) : Solid (t.text ++ s) := by
  obtain ⟨c, v, h, hc⟩ := exists_front_append t s
  rw [h]
  exact hc.solid

section Texts

variable {package member : Name} {length : DecimalLiteral} {key value inner element : CommentedType}
  {front before after inside behind : Gap}

theorem text_qualified_append : (CommentedType.qualified package before after member).text ++ s =
    package.text ++ (before.text ++ '.' :: (after.text ++ (member.text ++ s))) := by
  simp [CommentedType.text]

theorem text_slice_append : (CommentedType.slice inside behind element).text ++ s =
    '[' :: (inside.text ++ ']' :: (behind.text ++ (element.text ++ s))) := by
  simp [CommentedType.text]

theorem text_array_append : (CommentedType.array before length after behind element).text ++ s =
    '[' :: (before.text ++ (length.text ++ (after.text ++
      ']' :: (behind.text ++ (element.text ++ s))))) := by
  simp [CommentedType.text]

theorem text_map_append : (CommentedType.map front before key after behind value).text ++ s =
    "map".toList ++ (front.text ++ '[' :: (before.text ++ (key.text ++ (after.text ++
      ']' :: (behind.text ++ (value.text ++ s)))))) := by
  simp [CommentedType.text]

theorem text_parens_append : (CommentedType.parens before inner after).text ++ s =
    '(' :: (before.text ++ (inner.text ++ (after.text ++ ')' :: s))) := by
  simp [CommentedType.text]

end Texts

end Fronts

section Steps

/-- Nothing that stands here continues a type. -/
structure Ends (lineEnds : Bool) (r : Text) : Prop where
  stops : Stops r
  follows : ∃ cs c u, Skips lineEnds r cs (c :: u) ∧ c ≠ '.' ∧ c ≠ '['

theorem LeadsTo.ends {marks : List Char} (h : LeadsTo marks r) (hmarks : marks ⊆ endMarks) :
    Ends false r := by
  have hall : ∀ c ∈ endMarks, c ≠ '.' ∧ c ≠ '[' := by decide
  obtain ⟨cs, c, u, hskips, hc⟩ := h.skips
  exact ⟨h.stops hmarks, cs, c, u, hskips, hall c (hmarks hc)⟩

theorem ends_gap (gap : Gap) (hc : c ∈ endMarks) : Ends false (gap.text ++ c :: r) :=
  LeadsTo.ends (leadsTo_gap gap hc (List.Subset.refl _)) (List.Subset.refl _)

/-- The brace of a body ends the type before it. -/
theorem ends_brace (gap : Gap) : Ends lineEnds (gap.text ++ '\x7b' :: r) :=
  ⟨stops_gap gap (stops_cons (by decide)), _, '\x7b', r, skips_gap gap (skips_cons rfl (by simp)),
    by simp, by simp⟩

/-- The signs that begin a type. -/
def typeMarks : List Char := ['*', '~', '<', '(', '[']

/-- Without a sign at its front a type begins with a word. -/
theorem run_typeBody (h : ∀ c ∈ s.head?, c ∉ typeMarks) :
    (typeBody g lineEnds).run s = (wordType g lineEnds).run s := by
  have hne {c : Char} (hc : c ∈ typeMarks) : s.head? ≠ some c := fun hs => h c hs hc
  unfold typeBody
  rw [Reads.front.run_eq]
  split
  · next hs => exact absurd hs (hne (by decide))
  · next hs => exact absurd hs (hne (by decide))
  · next hs => exact absurd hs (hne (by decide))
  · next hs => exact absurd hs (hne (by decide))
  · next hs => exact absurd hs (hne (by decide))
  · rfl

/-- The source of the type is the piece that was read. -/
theorem reads_captured (hs : Solid (s ++ r)) (h : Reads (typeBody g lineEnds) (s ++ r) f r) :
    Reads (type g lineEnds) (s ++ r) (f s) r :=
  (reads_lexeme hs.skips h.captured).bind .pure

theorem reads_of_typeBody {t : CommentedType} (hs : t.text ++ r = s)
    (h : Reads (typeBody g lineEnds) s f r) :
    Reads (type g lineEnds) (t.text ++ r) (f t.text) r := by
  subst hs
  exact reads_captured (solid_text t r) h

theorem reads_pointer (h : Reads (g.type lineEnds) s node r) :
    Reads (typeBody g lineEnds) ('*' :: s) (.prefixed node) r :=
  Reads.front.bind ((Reads.exactly ['*'] s).bind (h.bind .pure))

/-- The first comment behind the parenthesis is kept. -/
theorem reads_parens (hs : Skips false s cs u) (h : Reads (g.type false) u node v)
    (hclose : Skips false v cs' (')' :: r)) :
    Reads (typeBody g lineEnds) ('(' :: s) (.parenthesized cs.head? node) r := by
  refine Reads.front.bind ((Reads.exactly ['('] s).bind ?_)
  exact (reads_comments hs).bind (h.bind ((reads_sign hclose).bind .pure))

theorem reads_list (hlength : Reads (arrayLength g) s () u)
    (h : Reads (g.type lineEnds) u node r) :
    Reads (typeBody g lineEnds) ('[' :: s) (.list node) r :=
  Reads.front.bind ((Reads.exactly ['['] s).bind (hlength.bind (h.bind .pure)))

theorem skips_bracket (gap : Gap) :
    Skips lineEnds (gap.text ++ ']' :: r) gap.comments (']' :: r) :=
  Solid.skips_gap (solid_cons rfl (by simp)) gap

theorem reads_noLength (hs : Skips false s cs (']' :: r)) : Reads (arrayLength g) s () r :=
  Reads.orElse (reads_sign hs)

theorem arrayLength_orElse (hs : Skips false s cs (c :: u)) (hc : c ≠ ']') :
    Refuses (symbol false [']']) s :=
  refuses_symbol hs hc.symm

theorem reads_length (hs : Skips false s cs (c :: u)) (hc : c ≠ ']')
    (h : Reads (g.expression .inner) s o v) (ho : o.value = true)
    (hclose : Skips false v cs' (']' :: r)) : Reads (arrayLength g) s () r := by
  apply (arrayLength_orElse hs hc).orElse
  exact h.bind ((Reads.require ho).bind (reads_sign hclose))

/-- What is no expression is no length. -/
theorem refuses_length (hs : Skips false s cs (c :: u)) (hc : c ≠ ']')
    (h : Reads (g.expression .inner) s o v) (ho : o.value = false) :
    Refuses (arrayLength g) s := by
  apply (arrayLength_orElse hs hc).orElse_refuses
  exact h.bind_refuses (Refuses.bind (.require ho))

theorem reads_mapType (hopen : Skips false s cs ('[' :: u)) (hkey : Reads (g.type false) u node v)
    {value : TypeNode} {w : Text} (hclose : Skips false v cs' (']' :: w))
    (hvalue : Reads (g.type lineEnds) w value r) :
    Reads (mapType g lineEnds) s (.prefixed value) r :=
  (reads_sign hopen).bind (hkey.bind ((reads_sign hclose).bind (hvalue.bind .pure)))

end Steps

section Names

variable {x : Name}

theorem typeWords_subset : typeWords ⊆ reservedWords := by decide

theorem notMem_typeWords (x : Name) : x.text ∉ typeWords :=
  fun h => x.notReserved (typeWords_subset h)

theorem stops_dot : Stops ('.' :: s) := stops_cons (by decide)

/-- No type arguments follow. -/
theorem refuses_typeArguments (hr : Ends lineEnds r) : Refuses (typeArguments g lineEnds) r := by
  obtain ⟨cs, c, u, hskips, -, hbracket⟩ := hr.follows
  exact Refuses.bind (refuses_symbol hskips hbracket.symm)

theorem skips_name : Skips lineEnds (x.text ++ s) [] (x.text ++ s) := skips_word x.isIdentifier

theorem refuses_wordKeyword {k : Text} (hk : k ∈ reservedWords) (hs : Stops s)
    {p : Unit → Reader (Text → TypeNode)} :
    Refuses (keyword false k >>= p) (x.text ++ s) := by
  exact Refuses.bind (refuses_keyword skips_name x.isIdentifier hs (Name.ne x hk))

/-- A word that is not reserved begins the name of a type. -/
theorem reads_wordType (hs : Stops s) (h : Reads (namedType g lineEnds) (x.text ++ s) f r) :
    Reads (wordType g lineEnds) (x.text ++ s) f r := by
  apply (refuses_wordKeyword (k := "func".toList) (by decide) hs).orElse
  apply (refuses_wordKeyword (k := "map".toList) (by decide) hs).orElse
  apply (refuses_wordKeyword (k := "chan".toList) (by decide) hs).orElse
  apply (refuses_wordKeyword (k := "struct".toList) (by decide) hs).orElse
  apply (refuses_wordKeyword (k := "interface".toList) (by decide) hs).orElse
  exact h

theorem reads_typeName (x : Name) (hs : Stops s) :
    Reads (name false typeWords) (x.text ++ s) x.text s :=
  reads_name skips_name x.isIdentifier hs (notMem_typeWords x)

theorem reads_name_type (hr : Ends lineEnds r) :
    Reads (namedType g lineEnds) (x.text ++ r) (fun _ => .name x.text) r := by
  obtain ⟨cs, c, u, hskips, hdot, -⟩ := hr.follows
  have hmember : Refuses (symbol lineEnds ['.'] >>= fun _ => word false) r :=
    Refuses.bind (refuses_symbol hskips hdot.symm)
  refine (reads_typeName x hr.stops).bind (hmember.optional.bind ?_)
  exact (refuses_typeArguments hr).optional.bind .pure

theorem reads_qualified_type {package member : Name} (hs : Stops s)
    (hdot : Skips lineEnds s cs ('.' :: u)) (hskips : Skips false u cs' (member.text ++ r))
    (hr : Ends lineEnds r) : Reads (namedType g lineEnds) (package.text ++ s) .other r := by
  have hword : Reads (word false) u member.text r := reads_word hskips member.isIdentifier hr.stops
  have hmember := Reads.optional (Reads.bind (f := fun _ => word false) (reads_sign hdot) hword)
  refine (reads_typeName package hs).bind (hmember.bind ?_)
  exact (refuses_typeArguments hr).optional.bind .pure

theorem reads_typeBody_of_name (hs : Stops s)
    (h : Reads (namedType g lineEnds) (x.text ++ s) f r) :
    Reads (typeBody g lineEnds) (x.text ++ s) f r := by
  obtain ⟨c, v, hx, hc⟩ := exists_head x.isIdentifier
  have hword := reads_wordType hs h
  unfold Reads at *
  rw [run_typeBody]
  · exact hword
  · rw [hx]
    exact forall_head (notMem_of_isStart hc (by decide))

theorem reads_map (h : Reads (mapType g lineEnds) s f r) (hs : Stops s) :
    Reads (typeBody g lineEnds) ("map".toList ++ s) f r := by
  have hskips : Skips false ("map".toList ++ s) [] ("map".toList ++ s) :=
    skips_word isIdentifier_map
  have hfunc : Refuses (keyword false "func".toList) ("map".toList ++ s) :=
    refuses_keyword hskips isIdentifier_map hs (by simp)
  have hword : Reads (wordType g lineEnds) ("map".toList ++ s) f r := by
    apply hfunc.bind.orElse
    exact ((reads_keyword hskips isIdentifier_map hs).bind h).orElse
  unfold Reads at *
  rw [run_typeBody]
  · exact hword
  · exact forall_head (notMem_of_isStart isStart_map (by decide))

end Names

section Types

/-- What the type is read as. -/
def readAs : CommentedType → TypeNode
  | .name x => .name x.text
  | .qualified package before after member =>
    .other (CommentedType.qualified package before after member).text
  | .pointer gap target => .prefixed (readAs target) (CommentedType.pointer gap target).text
  | .slice inside behind element =>
    .list (readAs element) (CommentedType.slice inside behind element).text
  | .array before length after behind element =>
    .list (readAs element) (CommentedType.array before length after behind element).text
  | .map front before key after behind value =>
    .prefixed (readAs value) (CommentedType.map front before key after behind value).text
  | .parens before inner after =>
    .parenthesized before.comments.head? (readAs inner)
      (CommentedType.parens before inner after).text

/-- What the type is read as where there is nothing in its gaps. -/
def nodeOf : TypeExpr → TypeNode
  | .name x => .name x.text
  | .qualified package member => .other (TypeExpr.qualified package member).text
  | .pointer target => .prefixed (nodeOf target) (TypeExpr.pointer target).text
  | .slice element => .list (nodeOf element) (TypeExpr.slice element).text
  | .array length element => .list (nodeOf element) (TypeExpr.array length element).text
  | .map key value => .prefixed (nodeOf value) (TypeExpr.map key value).text
  | .parens inner => .parenthesized none (nodeOf inner) (TypeExpr.parens inner).text

theorem readAs_ofType (t : TypeExpr) : readAs (ofType t) = nodeOf t := by
  have htext := text_ofType t
  induction t with
  | name x => rfl
  | qualified package member => rfl
  | pointer target ih => exact congr (congrArg _ (ih (text_ofType target))) htext
  | slice element ih => exact congr (congrArg _ (ih (text_ofType element))) htext
  | array length element ih => exact congr (congrArg _ (ih (text_ofType element))) htext
  | map key value _ ih => exact congr (congrArg _ (ih (text_ofType value))) htext
  | parens inner ih => exact congr (congrArg _ (ih (text_ofType inner))) htext

theorem valueType_nodeOf (t : TypeExpr) : (nodeOf t).valueType = t.valueType := by
  induction t with
  | name x => rfl
  | qualified package member => rfl
  | pointer target => rfl
  | slice element => cases element <;> rfl
  | array length element => cases element <;> rfl
  | map key value => rfl
  | parens inner ih => exact ih

theorem isInstance_readAs (t : CommentedType) : (readAs t).isInstance = false := by
  induction t with
  | name x => rfl
  | qualified package before after member => rfl
  | pointer gap target ih => exact ih
  | slice inside behind element ih => exact ih
  | array before length after behind element ih => exact ih
  | map front before key after behind value _ ih => exact ih
  | parens before inner after => rfl

/-- There are no type arguments in these types. -/
theorem endsInArguments_readAs (t : CommentedType) :
    (readAs t).unwrapped.endsInArguments = false ∧ (readAs t).endsInArguments = false := by
  induction t with
  | name x => exact ⟨rfl, rfl⟩
  | qualified package before after member => exact ⟨rfl, rfl⟩
  | pointer gap target ih => exact ⟨ih.2, ih.2⟩
  | slice inside behind element ih => exact ⟨ih.2, ih.2⟩
  | array before length after behind element ih => exact ⟨ih.2, ih.2⟩
  | map front before key after behind value _ ih => exact ⟨ih.2, ih.2⟩
  | parens before inner after ih => exact ⟨ih.1, rfl⟩

theorem exists_succ (t : CommentedType) (hn : t.text.length ≤ n) : ∃ m, n = m + 1 := by
  obtain ⟨c, v, h, -⟩ := exists_front t
  rw [h, List.length_cons] at hn
  exact ⟨n - 1, by omega⟩

/-- A decimal literal is read as the length of an array. -/
theorem reads_decimal_length (before after : Gap) (x : DecimalLiteral) (hn : 0 < n) :
    Reads (arrayLength (Nested.upTo n)) (before.text ++ (x.text ++ (after.text ++ ']' :: r))) ()
      r := by
  obtain ⟨m, rfl⟩ : ∃ m, n = m + 1 := ⟨n - 1, by omega⟩
  obtain ⟨c, v, hx, hc⟩ := exists_digit_append x (after.text ++ ']' :: r)
  have hskips : Skips false (before.text ++ (x.text ++ (after.text ++ ']' :: r))) before.comments
      (x.text ++ (after.text ++ ']' :: r)) := Solid.skips_gap (hx ▸ solid_of_isDigit hc) before
  have hclose : LeadsTo closers (after.text ++ ']' :: r) :=
    leadsTo_gap after (by decide) closers_subset
  have hexpression : Reads ((Nested.upTo (m + 1)).expression .inner) _ .expression _ :=
    reads_expression_upTo hclose (reads_literal_operand x hskips hclose)
  have hdigit : Skips false (before.text ++ (x.text ++ (after.text ++ ']' :: r))) before.comments
      (c :: v) := by
    rw [← hx]
    exact hskips
  exact reads_length hdigit (ne_of_isDigit hc rfl) hexpression rfl (skips_bracket after)

theorem reads_type (t : CommentedType) (hn : t.text.length ≤ n) (hr : Ends lineEnds r) :
    Reads ((Nested.upTo n).type lineEnds) (t.text ++ r) (readAs t) r := by
  induction t generalizing n lineEnds r with
  | name x =>
    obtain ⟨m, rfl⟩ := exists_succ (.name x) hn
    exact reads_of_typeBody (t := .name x) (f := fun _ => .name x.text) rfl
      (reads_typeBody_of_name hr.stops (reads_name_type hr))
  | qualified package before after member =>
    obtain ⟨m, rfl⟩ := exists_succ (.qualified package before after member) hn
    have hstops : Stops (before.text ++ '.' :: (after.text ++ (member.text ++ r))) :=
      stops_gap before stops_dot
    have hdot : Skips lineEnds (before.text ++ '.' :: (after.text ++ (member.text ++ r)))
        before.comments ('.' :: (after.text ++ (member.text ++ r))) :=
      Solid.skips_gap (solid_cons rfl (by simp)) before
    have hmember : Skips false (after.text ++ (member.text ++ r)) after.comments
        (member.text ++ r) := Solid.skips_gap (solid_of_isIdentifier member.isIdentifier) after
    exact reads_of_typeBody text_qualified_append
      (reads_typeBody_of_name hstops (reads_qualified_type hstops hdot hmember hr))
  | pointer gap target ih =>
    obtain ⟨m, rfl⟩ := exists_succ (.pointer gap target) hn
    simp only [CommentedType.text, List.length_cons, List.length_append] at hn
    have htarget := reads_type_gap gap (ih (n := m) (by omega) hr)
    refine reads_of_typeBody (t := .pointer gap target) ?_ (reads_pointer htarget)
    simp [CommentedType.text]
  | slice inside behind element ih =>
    obtain ⟨m, rfl⟩ := exists_succ (.slice inside behind element) hn
    simp only [CommentedType.text, List.length_cons, List.length_append] at hn
    have helement := reads_type_gap behind (ih (n := m) (by omega) hr)
    exact reads_of_typeBody text_slice_append
      (reads_list (reads_noLength (skips_bracket inside)) helement)
  | array before length after behind element ih =>
    obtain ⟨m, rfl⟩ := exists_succ (.array before length after behind element) hn
    simp only [CommentedType.text, List.length_cons, List.length_append] at hn
    have helement := reads_type_gap behind (ih (n := m) (by omega) hr)
    have hlength := reads_decimal_length before after length (n := m)
      (r := behind.text ++ (element.text ++ r)) (by omega)
    exact reads_of_typeBody text_array_append (reads_list hlength helement)
  | map front before key after behind value ihkey ihvalue =>
    obtain ⟨m, rfl⟩ := exists_succ (.map front before key after behind value) hn
    simp only [CommentedType.text, List.length_cons, List.length_append] at hn
    have hkey := reads_type_gap before (ihkey (n := m) (by omega)
      (ends_gap after (c := ']') (r := behind.text ++ (value.text ++ r)) (by decide)))
    have hvalue := reads_type_gap behind (ihvalue (n := m) (by omega) hr)
    have hopen : Skips false (front.text ++ '[' :: (before.text ++ (key.text ++ (after.text ++
        ']' :: (behind.text ++ (value.text ++ r)))))) front.comments _ :=
      Solid.skips_gap (solid_cons rfl (by simp)) front
    exact reads_of_typeBody text_map_append
      (reads_map (reads_mapType hopen hkey (skips_bracket after) hvalue)
        (stops_gap front (stops_cons (by decide))))
  | parens before inner after ih =>
    obtain ⟨m, rfl⟩ := exists_succ (.parens before inner after) hn
    simp only [CommentedType.text, List.length_cons, List.length_append] at hn
    have hinner := ih (n := m) (by omega) (ends_gap after (c := ')') (r := r) (by decide))
    have hskips : Skips false (before.text ++ (inner.text ++ (after.text ++ ')' :: r)))
        before.comments (inner.text ++ (after.text ++ ')' :: r)) :=
      Solid.skips_gap (solid_text inner _) before
    exact reads_of_typeBody text_parens_append
      (reads_parens hskips hinner (Solid.skips_gap (solid_cons rfl (by simp)) after))

/-- No type begins with this sign. -/
theorem refuses_type (hs : Skips false s cs (c :: u)) (hsolid : Solid (c :: u))
    (hword : IdentifierCharacter.isStart c = false) (hmark : c ∉ typeMarks) :
    Refuses ((Nested.upTo n).type lineEnds) s := by
  cases n with
  | zero => exact .fail
  | succ n =>
    have hkeyword {k : Text} {p : Unit → Reader (Text → TypeNode)} :
        Refuses (keyword false k >>= p) (c :: u) :=
      Refuses.bind (refuses_keyword_noWord hsolid.skips (noWord_cons hword))
    have hnamed : Refuses (namedType (Nested.upTo n) lineEnds) (c :: u) :=
      Refuses.bind (refuses_name_noWord hsolid.skips (noWord_cons hword))
    have hbody : Refuses (typeBody (Nested.upTo n) lineEnds) (c :: u) := by
      unfold Refuses
      rw [run_typeBody]
      · iterate 5 apply Refuses.orElse_refuses hkeyword
        exact hnamed
      · exact forall_head hmark
    exact (refuses_lexeme hs hbody.captured).bind

end Types

end RpcSchema.TypeReading
