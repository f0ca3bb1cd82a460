import RpcSchema.Proofs.OperandReading

/-! # Entries of parameter lists

How the pieces of a list between its commas are read, whatever their gaps hold. A map type
behind a name alone is read as an array type with the name `map`, if its key could be an
expression. -/
namespace RpcSchema.EntryReading
open GoLexeme GoParameters ReaderRun LexemeRun OperandRun PlainNames PrintedSource
open TypeReading OperandReading CommentedSource GapReading
open Reader (exactly optional sees)

variable {g : Nested} {b : Bool} {r s u : Text} {cs : List Text} {c d : Char} {n : Nat} {x : Name}
  {node : TypeNode} {reserved : List Text}

section Ends

/-- The signs behind an entry. -/
def listMarks : List Char := [',', ')']

theorem listMarks_subset : listMarks ⊆ endMarks := by decide

theorem ends_mark (hr : LeadsTo listMarks r) : Ends false r := LeadsTo.ends hr listMarks_subset

theorem reads_atEnd (hr : LeadsTo listMarks r) : Reads atEnd r true r := by
  obtain ⟨cs, c, u, hskips, hc⟩ := hr.skips
  rcases List.mem_cons.1 hc with rfl | hc
  · exact Reads.sees (Reads.orElse (reads_sign hskips))
  · obtain rfl := List.mem_singleton.1 hc
    have hcomma : Refuses (symbol false [',']) r := refuses_symbol hskips (by simp)
    exact Reads.sees (hcomma.orElse (reads_sign hskips))

theorem reads_atEnd_false (hs : Skips false s cs (c :: u)) (hc : c ∉ listMarks) :
    Reads atEnd s false s := by
  have hne {d : Char} (hd : d ∈ listMarks) : d ≠ c := by
    rintro rfl
    exact hc hd
  exact Refuses.sees (Refuses.orElse_refuses (refuses_symbol hs (hne (by decide)))
    (refuses_symbol hs (hne (by decide))))

end Ends

section Entries

theorem refuses_variadic {k : Option Text} (hk : Reads (optional (name false typeWords)) s k u)
    (hdots : Refuses (symbol false ['.', '.', '.']) u) : Refuses (variadic g) s :=
  (Refuses.captured (hk.bind_refuses hdots.bind)).bind

/-- A word may name a parameter unless it is `map` with type arguments behind it. -/
theorem exists_brackets {w : Text}
    (h : w ≠ "map".toList ∨ Reads (argumentsInBrackets g) s false s) :
    ∃ k, Reads (argumentsInBrackets g) s k s ∧ (w != "map".toList || !k) = true := by
  rcases h with hw | hbrackets
  · obtain ⟨k, hk⟩ := sees_run (do
      symbol false ['[']
      Reader.require (← g.type false).unwrapped.endsInArguments
      symbol false [']']) s
    exact ⟨k, hk, by rw [bne_iff_ne.2 hw, Bool.true_or]⟩
  · exact ⟨false, hbrackets, by rw [Bool.not_false, Bool.or_true]⟩

theorem reads_bare (hx : x.text ∉ reserved) (hr : LeadsTo listMarks r) :
    Reads (nameEntry g reserved) (x.text ++ r) (.bare x.text) r := by
  obtain ⟨k, hk, hfree⟩ := exists_brackets (g := g) (s := r) (.inl (Name.ne x (by decide)))
  refine (reads_name skips_name x.isIdentifier (hr.stops listMarks_subset) hx).bind (hk.bind ?_)
  exact (Reads.require hfree).bind ((reads_atEnd hr).bind .pure)

section Words

variable {w : Text} (hw : IsIdentifier w) (hres : w ∉ reserved)
  (hmap : w ≠ "map".toList ∨ Reads (argumentsInBrackets g) s false s) (hs : Stops s)
  (hskips : Skips false s cs (d :: u)) (hd : d ∉ listMarks)

include hw hres hmap hs hskips hd

theorem reads_named (ht : Reads (g.type false) s node r) (hr : LeadsTo listMarks r) :
    Reads (nameEntry g reserved) (w ++ s) (.named w node) r := by
  obtain ⟨k, hk, hfree⟩ := exists_brackets hmap
  refine (reads_name (skips_word hw) hw hs hres).bind (hk.bind ?_)
  refine (Reads.require hfree).bind ((reads_atEnd_false hskips hd).bind ?_)
  exact ht.bind ((reads_atEnd hr).bind ((Reads.require rfl).bind .pure))

theorem refuses_named (ht : Refuses (g.type false) s) :
    Refuses (nameEntry g reserved) (w ++ s) := by
  obtain ⟨k, hk, hfree⟩ := exists_brackets hmap
  refine (reads_name (skips_word hw) hw hs hres).bind_refuses
    (hk.bind_refuses ?_)
  exact (Reads.require hfree).bind_refuses ((reads_atEnd_false hskips hd).bind_refuses ht.bind)

end Words

/-- A word before a type alone, if there is one, has no brackets behind it. -/
theorem reads_typeEntry (hword : Refuses (name false typeWords) s ∨
      ∃ w, Reads (name false typeWords) s w u ∧ Refuses (symbol false ['[']) u)
    (ht : Reads (g.type false) s node r) : Reads (typeEntry g) s (.typed node) r := by
  have hsees : Reads (sees do
      let _ ← name false typeWords
      Reader.require (← GoTypes.valueInBrackets)) s false s := by
    apply Refuses.sees
    rcases hword with hword | ⟨w, hword, hbracket⟩
    · exact hword.bind
    · exact hword.bind_refuses (hbracket.bind.sees.bind_refuses (.require rfl))
  exact hsees.bind ((Reads.require rfl).bind (ht.bind .pure))

end Entries

section Types

/-- What the type is read as, alone between its commas. -/
def entryAs (afterBare : Bool) : CommentedType → GoParameters.Entry
  | .name x => .bare x.text
  | .map front before key after behind value =>
    if afterBare && key.plain.isValue then
      .named "map".toList (.list (readAs value) ('[' :: (before.text ++ (key.text ++ (after.text ++
        ']' :: (behind.text ++ value.text))))))
    else .typed (readAs (.map front before key after behind value))
  | t => .typed (readAs t)

/-- What the type is read as where there is nothing in its gaps. -/
def entryOf (afterBare : Bool) : TypeExpr → GoParameters.Entry
  | .name x => .bare x.text
  | .map key value =>
    if afterBare && key.isValue then
      .named "map".toList (.list (nodeOf value) ('[' :: (key.text ++ ']' :: value.text)))
    else .typed (nodeOf (.map key value))
  | t => .typed (nodeOf t)

theorem entryAs_ofType (t : TypeExpr) : entryAs b (ofType t) = entryOf b t := by
  have hnode := readAs_ofType t
  cases t with
  | name x => rfl
  | map key value =>
    rw [ofType] at hnode
    simp [ofType, entryAs, entryOf, plain_ofType, readAs_ofType, text_ofType, hnode, Gap.text]
  | _ => exact congrArg GoParameters.Entry.typed hnode

theorem notMem_listMarks (h : Opens c) : c ∉ listMarks := by
  intro hc
  have hall : ∀ c ∈ listMarks, c ∈ punctuation ∧ c ∉ ['*', '[', '('] := by decide
  exact h.ne (hall c hc).1 (hall c hc).2 rfl

/-- A type that begins with a sign. -/
theorem reads_entry_of_sign (hs : c ∈ ['*', '[', '(']) (ht : Reads (g.type false) (c :: s) node r) :
    Reads (entry g b) (c :: s) (.typed node) r := by
  have hskips : Skips false (c :: s) [] (c :: s) := (Opens.solid (.inr hs)).skips
  have hword : NoWord (c :: s) := by
    have hall : ∀ c ∈ ['*', '[', '('], IdentifierCharacter.isStart c = false := by decide
    exact noWord_cons (hall c hs)
  have hname {reserved : List Text} : Refuses (name false reserved) (c :: s) :=
    refuses_name_noWord hskips hword
  have hdots : Refuses (symbol false ['.', '.', '.']) (c :: s) :=
    refuses_symbol hskips (Opens.ne (.inr hs) (by decide) (by simp)).symm
  apply (refuses_variadic hname.optional hdots).orElse
  exact hname.bind.orElse (reads_typeEntry (u := c :: s) (.inl hname) ht)

theorem notMem_reserved (x : Name) (b : Bool) : x.text ∉ if b then [] else typeWords := by
  cases b with
  | true => exact List.not_mem_nil
  | false => exact notMem_typeWords x

theorem reads_entry_name (hr : LeadsTo listMarks r) :
    Reads (entry g b) (x.text ++ r) (.bare x.text) r := by
  have hdots : Refuses (symbol false ['.', '.', '.']) r := by
    have hall : ∀ c ∈ listMarks, '.' ≠ c := by decide
    obtain ⟨cs, c, u, hskips, hc⟩ := hr.skips
    exact refuses_symbol hskips (hall c hc)
  have hname := reads_typeName x (hr.stops listMarks_subset)
  apply (refuses_variadic hname.optional hdots).orElse
  exact (reads_bare (notMem_reserved x b) hr).orElse

/-- What stands behind a gap before a name is no dot. -/
theorem exists_front_member (after : Gap) (member : Name) (s : Text) :
    ∃ d v, after.text ++ (member.text ++ s) = d :: v ∧ d ≠ '.' := by
  by_cases hafter : after = []
  · obtain ⟨d, v, h, hd⟩ := exists_head member.isIdentifier
    exact ⟨d, v ++ s, by rw [hafter, h]; rfl, ne_of_isStart hd (by decide)⟩
  · obtain ⟨d, v, h, hd⟩ := exists_front_gap hafter (member.text ++ s)
    have hall : ∀ d ∈ [' ', '/'], d ≠ '.' := by decide
    exact ⟨d, v, h, hall d hd⟩

theorem reads_entry_qualified {package member : Name} {before after : Gap}
    (ht : Reads ((Nested.upTo n).type false)
      (package.text ++ (before.text ++ '.' :: (after.text ++ (member.text ++ r)))) node r) :
    Reads (entry (Nested.upTo n) b)
      (package.text ++ (before.text ++ '.' :: (after.text ++ (member.text ++ r))))
      (.typed node) r := by
  have hsolid : Solid ('.' :: (after.text ++ (member.text ++ r))) := solid_cons rfl (by simp)
  have hskips : Skips false (before.text ++ '.' :: (after.text ++ (member.text ++ r)))
      before.comments ('.' :: (after.text ++ (member.text ++ r))) := Solid.skips_gap hsolid before
  have hstops := stops_gap before (stops_dot (s := after.text ++ (member.text ++ r)))
  have hname := reads_typeName package hstops
  have hdots : Refuses (symbol false ['.', '.', '.'])
      (before.text ++ '.' :: (after.text ++ (member.text ++ r))) := by
    apply refuses_lexeme hskips
    apply Refuses.exactly_of_not
    obtain ⟨d, v, hm, hd⟩ := exists_front_member after member r
    rw [hm, List.cons_prefix_cons, List.cons_prefix_cons]
    exact fun h => hd h.2.1.symm
  have hentry := refuses_named package.isIdentifier (notMem_reserved package b)
    (.inl (Name.ne package (by decide))) hstops hskips (by decide)
    (refuses_type (n := n) hskips hsolid (by decide) (by decide))
  apply (refuses_variadic hname.optional hdots).orElse
  apply hentry.orElse
  exact reads_typeEntry (.inr ⟨_, hname, refuses_symbol hskips (by simp)⟩) ht

section Maps

/-- The pieces of a map type behind its first word. -/
structure MapParts where
  front : Gap
  before : Gap
  key : CommentedType
  after : Gap
  behind : Gap
  value : CommentedType

namespace MapParts

def type (m : MapParts) : CommentedType :=
  .map m.front m.before m.key m.after m.behind m.value

/-- What stands behind the opening bracket. -/
def inside (m : MapParts) (s : Text) : Text :=
  m.before.text ++ (m.key.text ++ (m.after.text ++ ']' :: (m.behind.text ++ (m.value.text ++ s))))

/-- What stands behind the word. -/
def tail (m : MapParts) (s : Text) : Text := m.front.text ++ '[' :: m.inside s

end MapParts

variable {m : MapParts}

theorem text_mapParts_append : m.type.text ++ s = "map".toList ++ m.tail s := text_map_append

theorem skips_tail : Skips false (m.tail s) m.front.comments ('[' :: m.inside s) :=
  Solid.skips_gap (solid_cons rfl (by simp)) m.front

theorem stops_tail : Stops (m.tail s) := stops_gap m.front (stops_cons (by decide))

theorem skips_inside :
    Skips false (m.inside s) m.before.comments (m.key.text ++ (m.after.text ++
      ']' :: (m.behind.text ++ (m.value.text ++ s)))) :=
  Solid.skips_gap (solid_text m.key _) m.before

theorem skips_map : Skips false ("map".toList ++ m.tail s) [] ("map".toList ++ m.tail s) :=
  skips_word isIdentifier_map

theorem refuses_name_map : Refuses (name false typeWords) ("map".toList ++ m.tail s) :=
  refuses_name skips_map isIdentifier_map stops_tail (by decide)

theorem refuses_variadic_map : Refuses (variadic g) ("map".toList ++ m.tail s) :=
  refuses_variadic refuses_name_map.optional (refuses_symbol skips_map (by decide))

theorem reads_typeEntry_map (ht : Reads (g.type false) ("map".toList ++ m.tail s) node r) :
    Reads (typeEntry g) ("map".toList ++ m.tail s) (.typed node) r :=
  reads_typeEntry (u := []) (.inl refuses_name_map) ht

/-- The key of a map holds no type arguments. -/
theorem reads_argumentsInBrackets (hn : m.key.text.length ≤ n) :
    Reads (argumentsInBrackets (Nested.upTo n)) (m.tail s) false (m.tail s) := by
  have hkey : Reads ((Nested.upTo n).type false) (m.inside s) (readAs m.key)
      (m.after.text ++ ']' :: (m.behind.text ++ (m.value.text ++ s))) :=
    reads_type_gap m.before (reads_type m.key hn (ends_gap m.after (by decide)))
  apply Refuses.sees
  refine (reads_sign skips_tail).bind_refuses (hkey.bind_refuses ?_)
  exact Refuses.bind (.require (endsInArguments_readAs m.key).1)

/-- The key is an operand, and no closing bracket stands before it. -/
theorem reads_key (hn : m.key.text.length ≤ n) (s : Text) :
    Reads ((Nested.upTo n).expression .inner) (m.inside s) (operandOf m.key)
        (m.after.text ++ ']' :: (m.behind.text ++ (m.value.text ++ s))) ∧
      ∃ cs c u, Skips false (m.inside s) cs (c :: u) ∧ c ≠ ']' := by
  have hskips := skips_inside (m := m) (s := s)
  constructor
  · exact reads_expression_operandOf m.key hn hskips
      (leadsTo_gap m.after (by decide) closers_subset)
  · obtain ⟨c, v, h, hc⟩ := exists_front_append m.key
      (m.after.text ++ ']' :: (m.behind.text ++ (m.value.text ++ s)))
    rw [h] at hskips
    exact ⟨_, c, v, hskips, hc.ne (by decide) (by simp)⟩

/-- The brackets behind `map` with their content are no array type. -/
theorem refuses_array (hn : m.key.text.length ≤ n) (hkey : m.key.plain.isValue = false) :
    Refuses ((Nested.upTo (n + 1)).type false) (m.tail s) := by
  obtain ⟨hexpression, cs, c, u, hskips, hc⟩ := reads_key hn s
  have hlength : Refuses (GoTypes.arrayLength (Nested.upTo n)) (m.inside s) :=
    refuses_length hskips hc hexpression ((value_operandOf m.key).trans hkey)
  have hbody : Refuses (GoTypes.typeBody (Nested.upTo n) false) ('[' :: m.inside s) :=
    Reads.front.bind_refuses ((Reads.exactly ['['] _).bind_refuses hlength.bind)
  exact (refuses_lexeme skips_tail hbody.captured).bind

/-- The brackets behind `map` with their content, read as an array type. -/
theorem reads_array (hn : m.key.text.length ≤ n) (hm : m.value.text.length ≤ n)
    (hkey : m.key.plain.isValue = true) (hr : LeadsTo listMarks r) :
    Reads ((Nested.upTo (n + 1)).type false) (m.tail r)
      (.list (readAs m.value) ('[' :: m.inside [])) r := by
  obtain ⟨hexpression, cs, c, u, hskips, hc⟩ := reads_key hn r
  have hlength : Reads (GoTypes.arrayLength (Nested.upTo n)) (m.inside r) ()
      (m.behind.text ++ (m.value.text ++ r)) :=
    reads_length hskips hc hexpression ((value_operandOf m.key).trans hkey) (skips_bracket m.after)
  have hinside : '[' :: m.inside r = '[' :: m.inside [] ++ r := by simp [MapParts.inside]
  have hbody : Reads (GoTypes.typeBody (Nested.upTo n) false) ('[' :: m.inside r)
      (.list (readAs m.value)) r :=
    reads_list hlength (reads_type_gap m.behind (reads_type m.value hm (ends_mark hr)))
  refine reads_type_gap m.front ?_
  rw [hinside] at hbody ⊢
  exact reads_captured (hinside ▸ solid_cons rfl (by simp)) hbody

theorem reads_entry_map (hn : m.type.text.length ≤ n) (hr : LeadsTo listMarks r) :
    Reads (entry (Nested.upTo n) b) ("map".toList ++ m.tail r) (entryAs b m.type) r := by
  have htype := reads_type m.type hn (ends_mark hr)
  rw [text_mapParts_append] at htype
  obtain ⟨k, rfl⟩ := exists_succ _ hn
  simp only [MapParts.type, CommentedType.text, List.length_append, List.length_cons] at hn
  have hbrackets : Reads (argumentsInBrackets (Nested.upTo (k + 1))) (m.tail r) false (m.tail r) :=
    reads_argumentsInBrackets (by omega)
  have htyped := reads_typeEntry_map htype
  apply refuses_variadic_map.orElse
  cases b with
  | false => exact refuses_name_map.bind.orElse htyped
  | true =>
    cases hkey : m.key.plain.isValue with
    | false =>
      have hentry : Refuses (nameEntry (Nested.upTo (k + 1)) []) ("map".toList ++ m.tail r) :=
        refuses_named isIdentifier_map List.not_mem_nil (.inr hbrackets) stops_tail
          skips_tail (by decide) (refuses_array (by omega) hkey)
      rw [MapParts.type, entryAs, hkey]
      exact hentry.orElse htyped
    | true =>
      have hentry := reads_named isIdentifier_map List.not_mem_nil (.inr hbrackets) stops_tail
        skips_tail (by decide) (reads_array (by omega) (by omega) hkey hr) hr
      have hentryAs : entryAs true m.type =
          .named "map".toList (.list (readAs m.value) ('[' :: m.inside [])) := by
        simp [MapParts.type, MapParts.inside, entryAs, hkey]
      rw [hentryAs]
      exact hentry.orElse

end Maps

theorem reads_entry (t : CommentedType) (hn : t.text.length ≤ n) (hr : LeadsTo listMarks r) :
    Reads (entry (Nested.upTo n) b) (t.text ++ r) (entryAs b t) r := by
  have ht := reads_type t hn (ends_mark hr)
  cases t with
  | name x => exact reads_entry_name hr
  | qualified package before after member =>
    rw [text_qualified_append] at ht ⊢
    exact reads_entry_qualified ht
  | pointer gap target => exact reads_entry_of_sign (by simp) ht
  | slice inside behind element => exact reads_entry_of_sign (by simp) ht
  | array before length after behind element => exact reads_entry_of_sign (by simp) ht
  | map front before key after behind value =>
    have hentry := reads_entry_map (b := b) (m := ⟨front, before, key, after, behind, value⟩) hn hr
    rwa [← text_mapParts_append] at hentry
  | parens before inner after => exact reads_entry_of_sign (by simp) ht

end Types

end RpcSchema.EntryReading
