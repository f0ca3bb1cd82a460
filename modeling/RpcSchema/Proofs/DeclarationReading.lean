import RpcSchema.Proofs.BodyReading

/-! # Declarations of all kinds are read

Each declaration, with whatever is skipped before it and the end of its line, is one item
of its kind. -/
namespace RpcSchema.DeclarationReading
open GoLexeme GoSourceFile GoStatements GoExpressions ReaderRun LexemeRun LiteralRun OperandRun
open PlainNames SurroundedSource FillerReading FunctionReading OperandReading BodyReading
open CommentedSource TypeReading EntryReading ParameterReading ParameterGrouping
open PrintedSource hiding packageClause

variable {g : Nested} {s u v w r : Text} {cs : List Text} {c : Char} {n : Nat} {e : LineEnd}
  {kind : ItemKind} {x : Name}

section Clauses

theorem isIdentifier_package : IsIdentifier "package".toList := by decide

/-- A file begins with its package clause. -/
theorem reads_packageClause (hs : Skips false s cs (clauseText x ++ v))
    (hv : Skips true v [] ('\n' :: r)) (hstop : Stops v) :
    Reads (item g) s (cs.map .comment ++ [.code .package (clauseText x ++ v)]) r := by
  have htext : clauseText x ++ v = "package".toList ++ ' ' :: (x.text ++ v) :=
    List.append_assoc _ _ _
  have hskips : Skips false ("package".toList ++ ' ' :: (x.text ++ v)) []
      ("package".toList ++ ' ' :: (x.text ++ v)) := skips_word isIdentifier_package
  refine reads_item hs (Reads.orElse ?_) hv
  rw [htext]
  refine (reads_keyword hskips isIdentifier_package (stops_cons (by decide))).bind ?_
  exact (reads_word skips_name.blank x.isIdentifier hstop).bind .pure

end Clauses

section Routines

variable {routine : Routine}

/-- The length of what is nested in a routine, bodies apart. -/
structure Fits (routine : Routine) (n : Nat) : Prop where
  parameters : routine.parameters.text.length ≤ n
  results : routine.results.text.length ≤ n

theorem Fits.results_lt (h : Fits routine n) : routine.results.text.length < n + 2 :=
  Nat.lt_of_le_of_lt h.results (by omega)

theorem routine_append (routine : Routine) (r : Text) : routine.text e ++ r =
    routine.parameters.text ++ ' ' :: (routine.results.text ++
      '\x7b' :: (bodyText e routine.body ++ r)) := by
  simp [Routine.text]

theorem skips_body {lineEnds : Bool} : Skips lineEnds (' ' :: '\x7b' :: s) [] ('\x7b' :: s) :=
  (skips_cons rfl (by simp)).blank

theorem reads_routineBody (routine : Routine) :
    Reads (body (Nested.upTo (n + 3))) (' ' :: '\x7b' :: (bodyText e routine.body ++ r)) () r :=
  reads_body_of_block skips_body (reads_block routine.body skips_body)

theorem reads_function_item (hfits : Fits routine n)
    (hs : Skips false s cs ((Declaration.function x routine).text e ++ (e.text ++ r))) :
    Reads (item (Nested.upTo (n + 3))) s
      (cs.map .comment ++ [.code (.function (functionOf ⟨x, routine.parameters, routine.results⟩))
        ((Declaration.function x routine).text e ++ (e.text ++ r))]) r := by
  have htext : (Declaration.function x routine).text e ++ (e.text ++ r) =
      "func".toList ++ (ofFunction ⟨x, routine.parameters, routine.results⟩).signatureText
        (bodyText e routine.body ++ (e.text ++ r)) := by
    rw [text_function, List.append_assoc, List.cons_append, List.append_assoc, routine_append,
      signatureText_ofFunction]
  have hdeclaration := reads_declaration_printed ⟨x, routine.parameters, routine.results⟩
    (Nat.le_add_right_of_le hfits.parameters) hfits.results_lt
    (reads_routineBody (n := n) (e := e) (r := e.text ++ r) routine)
  rw [htext] at hs ⊢
  exact reads_item hs hdeclaration skips_break

/-- A method has its receiver where a function has its name. -/
def receiverList (receiver : Name) (owner : TypeExpr) : ParameterList :=
  .named [⟨[receiver], by simp, by simp, owner⟩]

theorem text_receiverList (receiver : Name) (owner : TypeExpr) :
    (receiverList receiver owner).text =
      '(' :: (receiver.text ++ ' ' :: (owner.text ++ [')'])) := by
  simp [receiverList, ParameterList.text, ParameterList.groupTexts, NameGroup.text,
    commaSeparated, Text.join]

theorem method_append (receiver : Name) (owner : TypeExpr) (r : Text) :
    (Declaration.method receiver owner x routine).text e ++ r =
      "func".toList ++ ' ' :: ((receiverList receiver owner).text ++ ' ' :: (x.text ++
        (routine.parameters.text ++ ' ' :: (routine.results.text ++
          '\x7b' :: (bodyText e routine.body ++ r))))) := by
  rw [text_receiverList, text_method]
  simp only [List.append_assoc, List.cons_append, List.nil_append, routine_append]

/-- A parenthesis is no name of a function, and what it opens is the receiver. -/
theorem reads_method_item {receiver : Name} {owner : TypeExpr}
    (hreceiver : (receiverList receiver owner).text.length ≤ n) (hfits : Fits routine n)
    (hs : Skips false s cs
      ((Declaration.method receiver owner x routine).text e ++ (e.text ++ r))) :
    Reads (item (Nested.upTo (n + 3))) s
      (cs.map .comment ++ [.code .method
        ((Declaration.method receiver owner x routine).text e ++ (e.text ++ r))]) r := by
  rw [method_append] at hs ⊢
  let v := ' ' :: ((receiverList receiver owner).text ++ ' ' :: (x.text ++
    (routine.parameters.text ++ ' ' :: (routine.results.text ++
      '\x7b' :: (bodyText e routine.body ++ (e.text ++ r))))))
  have hskips : Skips false ("func".toList ++ v) [] ("func".toList ++ v) :=
    skips_word isIdentifier_func
  have hstop : Stops v := stops_cons (by decide)
  have hkeyword : Reads (keyword false "func".toList) ("func".toList ++ v) () v :=
    reads_keyword hskips isIdentifier_func hstop
  have hparen : Skips false v [] v.tail := by
    simp only [v, List.tail_cons, receiverList, ParameterList.text, List.cons_append]
    exact (skips_cons rfl (by simp)).blank
  have hfunction : Refuses (functionDeclaration (Nested.upTo (n + 3))) ("func".toList ++ v) := by
    refine hkeyword.bind_refuses (refuses_word hparen ?_).bind
    simp only [v, List.tail_cons, receiverList, ParameterList.text, List.cons_append]
    exact noWord_cons (by decide)
  have hmethod : Reads (methodDeclaration (Nested.upTo (n + 3))) ("func".toList ++ v) .method
      (e.text ++ r) := by
    refine hkeyword.bind ?_
    refine (reads_parameters_gap [.blank] (reads_parameters_printed _ (by omega))).bind ?_
    refine (reads_name skips_name.blank x.isIdentifier (stops_cons (by decide))
      (notMem_typeWords x)).bind ?_
    refine (reads_parameters_printed _ (Nat.le_add_right_of_le hfits.parameters)).bind ?_
    refine (reads_results_printed _ hfits.results_lt).bind ?_
    exact (reads_routineBody routine).bind .pure
  obtain ⟨hpackage, himport⟩ :=
    refuses_clauses hskips isIdentifier_func hstop (by simp) (by simp)
  exact reads_item hs (hpackage.orElse (himport.orElse (hfunction.orElse hmethod))) skips_break

end Routines

section Words

/-- A word that begins a statement, at the front of an item. -/
theorem reads_word_item {ending : Ending} (hs : Skips false s cs (w ++ v))
    (hw : IsIdentifier w) (hv : Stops v) (hword : w ∈ statementWords)
    (h : Reads (wordStatement (Nested.upTo n) w) (w ++ v) (kind, ending) u)
    (hend : Skips true u [] ('\n' :: r)) :
    Reads (item (Nested.upTo (n + 1))) s (cs.map .comment ++ [.code kind (w ++ v)]) r := by
  have hskips : Skips false (w ++ v) [] (w ++ v) := skips_word hw
  have hclause : ∀ k ∈ ["package".toList, "import".toList, "func".toList], w ≠ k := by
    have hall : ∀ w ∈ statementWords,
        ∀ k ∈ ["package".toList, "import".toList, "func".toList], w ≠ k := by decide
    exact hall w hword
  have hrefuses {k : Text} {p : Unit → Reader ItemKind}
      (hk : k ∈ ["package".toList, "import".toList, "func".toList]) :
      Refuses (keyword false k >>= p) (w ++ v) :=
    (refuses_keyword hskips hw hv (hclause k hk)).bind
  have hdeclaration : Refuses (endedDeclaration (Nested.upTo (n + 1))) (w ++ v) := by
    apply Refuses.bind
    apply Refuses.orElse_refuses (hrefuses (by simp))
    apply Refuses.orElse_refuses (hrefuses (by simp))
    exact Refuses.orElse_refuses (hrefuses (by simp)) (hrefuses (by simp))
  have hread : Reads (word false) (w ++ v) w v := reads_word hskips hw hv
  have hstatement : Reads ((Nested.upTo (n + 1)).statement ⟨false, false⟩) (w ++ v)
      (kind, ending) u := by
    obtain ⟨c, t, rfl, hc⟩ := exists_head hw
    refine (reads_nextChar hskips).bind ?_
    split
    · next hmark => exact absurd (Option.some.inj hmark) (ne_of_isStart hc (by decide))
    · next hmark => exact absurd (Option.some.inj hmark) (ne_of_isStart hc (by decide))
    · refine hread.peek.bind ?_
      rw [Option.getD_some, if_neg (by simp), if_pos (by simpa using hword)]
      exact h
  have hfirst : (w != "package".toList && w != "import".toList) = true := by
    simp only [Bool.and_eq_true, bne_iff_ne]
    exact ⟨hclause _ (by simp), hclause _ (by simp)⟩
  have hended : Reads (endedStatement (Nested.upTo (n + 1))) (w ++ v) (kind, []) r := by
    refine hread.peek.bind ((Reads.require hfirst).bind ?_)
    refine hstatement.bind ((reads_comments hend).bind ?_)
    exact (reads_terminator skips_line_end).orElse.bind .pure
  refine (reads_comments hs).bind
    (Reads.bind (p := Reader.remaining) (a := w ++ v) (r := w ++ v) rfl ?_)
  exact (hdeclaration.orElse hended).bind .pure

/-- One specification, which does not begin with a parenthesis. -/
theorem reads_specification {spec : Reader Ending} {ending : Ending}
    (hs : Skips false s [] (x.text ++ v)) (h : Reads spec s ending u) :
    Reads (specifications spec) s ending u := by
  have hparen : Refuses (symbol false ['(']) s := by
    obtain ⟨c, t, hx, hc⟩ := exists_head x.isIdentifier
    rw [hx] at hs
    exact refuses_symbol hs (ne_of_isStart hc (by decide)).symm
  exact hparen.bind.orElse h

end Words

section Types

theorem isIdentifier_struct : IsIdentifier "struct".toList := by decide

theorem isIdentifier_type : IsIdentifier "type".toList := by decide

theorem reads_emptyStruct : Reads (GoTypes.structBody g) (' ' :: '\x7b' :: '\x7d' :: v) () v := by
  have hclose : Skips false ('\x7d' :: v) [] ('\x7d' :: v) := skips_cons rfl (by simp)
  have hstar : Refuses (symbol false ['*']) ('\x7d' :: v) := refuses_symbol hclose (by simp)
  have hword : Refuses (word false) ('\x7d' :: v) := refuses_word hclose (noWord_cons (by decide))
  have hnamed : Refuses (GoTypes.namedField g) ('\x7d' :: v) := hword.bind
  have hembedded : Refuses (GoTypes.embeddedField g) ('\x7d' :: v) :=
    hstar.optional.bind_refuses hword.bind
  refine (reads_sign skips_body).bind ?_
  refine Reads.bind (Refuses.optional (Refuses.bind ?_)) (reads_sign hclose)
  exact Refuses.bind (p := GoTypes.namedField g <|> GoTypes.embeddedField g)
    (hnamed.orElse_refuses hembedded)

theorem reads_structType : Reads (GoTypes.type g true)
    (' ' :: ("struct".toList ++ (' ' :: '\x7b' :: '\x7d' :: v)))
    (.other ("struct".toList ++ [' ', '\x7b', '\x7d'])) v := by
  have hskips : Skips false ("struct".toList ++ (' ' :: '\x7b' :: '\x7d' :: v)) []
      ("struct".toList ++ (' ' :: '\x7b' :: '\x7d' :: v)) := skips_word isIdentifier_struct
  have hstop : Stops (' ' :: '\x7b' :: '\x7d' :: v) := stops_cons (by decide)
  have hrefuses {k : Text} {p : Unit → Reader (Text → TypeNode)} (hk : "struct".toList ≠ k) :
      Refuses (keyword false k >>= p) ("struct".toList ++ (' ' :: '\x7b' :: '\x7d' :: v)) :=
    (refuses_keyword hskips isIdentifier_struct hstop hk).bind
  have hword : Reads (GoTypes.wordType g true)
      ("struct".toList ++ (' ' :: '\x7b' :: '\x7d' :: v)) .other v := by
    refine (hrefuses (by simp)).orElse ((hrefuses (by simp)).orElse ?_)
    refine (hrefuses (by simp)).orElse ?_
    refine Reads.orElse ((reads_keyword hskips isIdentifier_struct hstop).bind ?_)
    exact reads_emptyStruct.bind .pure
  have hbody : Reads (GoTypes.typeBody g true)
      (("struct".toList ++ [' ', '\x7b', '\x7d']) ++ v) .other v :=
    (run_typeBody (forall_head (by decide))).trans hword
  exact (reads_lexeme hskips.blank hbody.captured).bind .pure

theorem reads_typing_item
    (hs : Skips false s cs ((Declaration.typing x).text e ++ (e.text ++ r))) :
    Reads (item (Nested.upTo (n + 2))) s
      (cs.map .comment ++ [.code .typing ((Declaration.typing x).text e ++ (e.text ++ r))]) r := by
  let v := ' ' :: (x.text ++ ' ' :: ("struct".toList ++ (' ' :: '\x7b' :: '\x7d' :: (e.text ++ r))))
  have htext : (Declaration.typing x).text e ++ (e.text ++ r) = "type".toList ++ v := by
    simp only [text_typing, v, List.append_assoc, List.cons_append, List.nil_append]
  have hstop : Stops v := stops_cons (by decide)
  have hskips : Skips false ("type".toList ++ v) [] ("type".toList ++ v) :=
    skips_word isIdentifier_type
  have hname : Skips false v [] (x.text ++ ' ' :: ("struct".toList ++
      (' ' :: '\x7b' :: '\x7d' :: (e.text ++ r)))) := skips_name.blank
  have hstruct : Skips false (' ' :: ("struct".toList ++
      (' ' :: '\x7b' :: '\x7d' :: (e.text ++ r)))) [] ("struct".toList ++
      (' ' :: '\x7b' :: '\x7d' :: (e.text ++ r))) :=
    (skips_word isIdentifier_struct).blank
  have hrefuses {d : Char} {p : Unit → Reader Unit} (hd : d ≠ 's') :
      Refuses (symbol false [d] >>= p) (' ' :: ("struct".toList ++
        (' ' :: '\x7b' :: '\x7d' :: (e.text ++ r)))) := (refuses_symbol hstruct hd).bind
  have hspec : Reads (typeSpec (Nested.upTo (n + 1))) v .other (e.text ++ r) := by
    refine (reads_word hname x.isIdentifier (stops_cons (by decide))).bind ?_
    refine Reads.bind (a := ()) ?_ .pure
    refine (hrefuses (by simp)).orElse (Refuses.orElse (hrefuses (by simp)).bind ?_)
    exact reads_structType.bind .pure
  have hstatement : Reads (wordStatement (Nested.upTo (n + 1)) "type".toList)
      ("type".toList ++ v) (.typing, .other) (e.text ++ r) := by
    refine (reads_keyword hskips isIdentifier_type hstop).bind ?_
    rw [if_neg (by decide), if_neg (by decide), if_pos (by decide)]
    exact (reads_specification hname hspec).bind .pure
  rw [htext] at hs ⊢
  exact reads_word_item hs isIdentifier_type hstop (by decide) hstatement skips_break

end Types

section Values

variable {routine : Routine}

theorem isIdentifier_const : IsIdentifier "const".toList := by decide

theorem isIdentifier_var : IsIdentifier "var".toList := by decide

theorem skips_equals {lineEnds : Bool} : Skips lineEnds (' ' :: '=' :: s) [] ('=' :: s) :=
  (skips_cons rfl (by simp)).blank

theorem reads_one : Reads (expression g .statement) (' ' :: '1' :: (e.text ++ r)) .expression
    (e.text ++ r) := by
  have hskips : Skips false (' ' :: '1' :: (e.text ++ r)) [] ('1' :: (e.text ++ r)) :=
    (skips_cons rfl (by simp)).blank
  have hliteral : Reads GoLiteral.literal ('1' :: (e.text ++ r)) () (e.text ++ r) := by
    cases e <;> rfl
  exact reads_literal_statement hskips (forall_head (by decide)) hliteral skips_break

theorem reads_constant_item
    (hs : Skips false s cs ((Declaration.constant x).text e ++ (e.text ++ r))) :
    Reads (item (Nested.upTo (n + 2))) s
      (cs.map .comment ++ [.code .constant ((Declaration.constant x).text e ++ (e.text ++ r))])
      r := by
  let v := ' ' :: (x.text ++ ' ' :: '=' :: ' ' :: '1' :: (e.text ++ r))
  have htext : (Declaration.constant x).text e ++ (e.text ++ r) = "const".toList ++ v := by
    simp only [text_constant, v, List.append_assoc, List.cons_append, List.nil_append]
  have hstop : Stops v := stops_cons (by decide)
  have hskips : Skips false ("const".toList ++ v) [] ("const".toList ++ v) :=
    skips_word isIdentifier_const
  have hname : Skips false v [] (x.text ++ ' ' :: '=' :: ' ' :: '1' :: (e.text ++ r)) :=
    skips_name.blank
  have hnames : Reads names v () (' ' :: '=' :: ' ' :: '1' :: (e.text ++ r)) :=
    (Reads.separated_one (reads_word hname x.isIdentifier (stops_cons (by decide)))
      (refuses_symbol skips_equals (by simp))).bind .pure
  have hvalues : Reads (values (Nested.upTo (n + 1)) .statement) (' ' :: '1' :: (e.text ++ r)) ()
      (e.text ++ r) := reads_values reads_one skips_break
  have hspec : Reads (constantSpec (Nested.upTo (n + 1))) v .value (e.text ++ r) := by
    refine hnames.bind (Reads.bind (a := some ()) (Reads.optional ?_) .pure)
    refine (reads_nextChar skips_equals).bind ?_
    exact (reads_sign skips_equals).bind hvalues
  have hstatement : Reads (wordStatement (Nested.upTo (n + 1)) "const".toList)
      ("const".toList ++ v) (.constant, .value) (e.text ++ r) := by
    refine (reads_keyword hskips isIdentifier_const hstop).bind ?_
    rw [if_pos (by decide)]
    exact (reads_specification hname hspec).bind .pure
  rw [htext] at hs ⊢
  exact reads_word_item hs isIdentifier_const hstop (by decide) hstatement skips_break

/-- A function value ends with its body. -/
theorem reads_functionValue (hfits : Fits routine n)
    (hs : Skips false s [] ("func".toList ++ (routine.text e ++ (e.text ++ r)))) :
    Reads (expression (Nested.upTo (n + 3)) .statement) s .expression (e.text ++ r) := by
  rw [routine_append] at hs
  have hstop : Stops (routine.parameters.text ++ ' ' :: (routine.results.text ++
      '\x7b' :: (bodyText e routine.body ++ (e.text ++ r)))) := stops_cons (by decide)
  have hword : Reads (wordOperand (Nested.upTo (n + 3))) s .expression (e.text ++ r) := by
    refine (reads_word hs isIdentifier_func hstop).bind ?_
    rw [if_pos (by simp)]
    refine (reads_parameters_printed _ (Nat.le_add_right_of_le hfits.parameters)).bind ?_
    refine (reads_results_printed _ hfits.results_lt).bind ?_
    refine (reads_nextChar skips_body).bind ?_
    exact (reads_block routine.body skips_body).bind .pure
  have hsuffix : Refuses (suffix (Nested.upTo (n + 3)) .statement .expression) (e.text ++ r) :=
    refuses_suffix_break skips_break rfl (by decide)
  exact reads_expression_at (reads_operand_of_word hs isIdentifier_func hword
    (reads_suffixes_at hsuffix rfl)) (refuses_operator_break skips_break)

theorem reads_closure_item (hfits : Fits routine n)
    (hs : Skips false s cs ((Declaration.closure x routine).text e ++ (e.text ++ r))) :
    Reads (item (Nested.upTo (n + 5))) s
      (cs.map .comment ++ [.code .variable
        ((Declaration.closure x routine).text e ++ (e.text ++ r))]) r := by
  let t := ' ' :: ("func".toList ++ (routine.text e ++ (e.text ++ r)))
  let v := ' ' :: (x.text ++ ' ' :: '=' :: t)
  have htext : (Declaration.closure x routine).text e ++ (e.text ++ r) = "var".toList ++ v := by
    simp only [text_closure, v, t, List.append_assoc, List.cons_append]
  have hstop : Stops v := stops_cons (by decide)
  have hskips : Skips false ("var".toList ++ v) [] ("var".toList ++ v) :=
    skips_word isIdentifier_var
  have hname : Skips false v [] (x.text ++ ' ' :: '=' :: t) := skips_name.blank
  have hnames : Reads (Reader.separated (symbol false [',']) (word false)) v [x.text]
      (' ' :: '=' :: t) :=
    Reads.separated_one (reads_word hname x.isIdentifier (stops_cons (by decide)))
      (refuses_symbol skips_equals (by simp))
  have hvalues : Reads (values (Nested.upTo (n + 4)) .statement) t () (e.text ++ r) :=
    reads_values (reads_functionValue hfits (skips_word isIdentifier_func).blank)
      skips_break
  have hspec : Reads (variableSpec (Nested.upTo (n + 4))) v .value (e.text ++ r) := by
    refine hnames.bind ((reads_nextChar skips_equals).bind ?_)
    exact (reads_sign skips_equals).bind (hvalues.bind .pure)
  have hstatement : Reads (wordStatement (Nested.upTo (n + 4)) "var".toList)
      ("var".toList ++ v) (.variable, .value) (e.text ++ r) := by
    refine (reads_keyword hskips isIdentifier_var hstop).bind ?_
    rw [if_neg (by decide), if_pos (by decide)]
    exact (reads_specification hname hspec).bind .pure
  rw [htext] at hs ⊢
  exact reads_word_item hs isIdentifier_var hstop (by decide) hstatement skips_break

end Values

end RpcSchema.DeclarationReading
