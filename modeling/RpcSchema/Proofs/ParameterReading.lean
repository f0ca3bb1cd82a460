import RpcSchema.Proofs.EntryReading
import RpcSchema.Proofs.ParameterGroups

/-! # Parameter lists are read

A list is a row of pieces with commas between them and gaps around them. Its entries are read
one after the other; each is told whether the one before it was a word alone. -/
namespace RpcSchema.ParameterReading
open GoLexeme GoParameters ReaderRun LexemeRun PlainNames PrintedSource CommentedSource
open GapReading TypeReading EntryReading ParameterGroups

variable {b : Bool} {r s : Text} {c : Char} {n : Nat} {e : GoParameters.Entry}

section Entries

/-- What the piece is read as. -/
def entryAsPiece (afterBare : Bool) : CommentedPiece → GoParameters.Entry
  | .alone type => entryAs afterBare type
  | .named name _ type => .named name.text (readAs type)

/-- The comments around a piece are entries of their own. -/
def entriesAsItem (afterBare : Bool) (i : CommentedItem) : List GoParameters.Entry :=
  i.before.comments.map .comment ++
    entryAsPiece afterBare i.piece :: i.after.comments.map .comment

/-- What the items are read as, the first of them behind a word alone or not. -/
def entriesAs (afterBare : Bool) : List CommentedItem → List (List GoParameters.Entry)
  | [] => []
  | i :: items =>
    entriesAsItem afterBare i :: entriesAs (entryAsPiece afterBare i.piece).isBare items

theorem solid_piece (p : CommentedPiece) : Solid (p.text ++ s) := by
  cases p with
  | alone type => exact solid_text type s
  | named x separator type =>
    rw [CommentedPiece.text, List.append_assoc]
    exact solid_of_isIdentifier x.isIdentifier

theorem reads_piece (p : CommentedPiece) (hn : p.text.length ≤ n) (hr : LeadsTo listMarks r) :
    Reads (entry (Nested.upTo n) b) (p.text ++ r) (entryAsPiece b p) r := by
  cases p with
  | alone type => exact reads_entry type hn hr
  | named x separator type =>
    simp only [CommentedPiece.text, List.length_append] at hn
    obtain ⟨d, v, hv, hd⟩ := exists_front_append type r
    have hskips : Skips false (separator.text ++ (type.text ++ r)) separator.gap.comments
        (d :: v) := by
      rw [hv]
      exact Solid.skips_gap hd.solid separator.gap
    have hdots : Refuses (symbol false ['.', '.', '.']) (separator.text ++ (type.text ++ r)) :=
      refuses_symbol hskips (hd.ne (by decide) (by simp)).symm
    have htype := reads_type_gap separator.gap (reads_type type (n := n) (by omega) (ends_mark hr))
    have hstops := stops_separator separator (type.text ++ r)
    have hnamed := reads_named x.isIdentifier (notMem_reserved x b) (.inl (Name.ne x (by decide)))
      hstops hskips (notMem_listMarks hd) htype hr
    have htext : (CommentedPiece.named x separator type).text ++ r =
        x.text ++ (separator.text ++ (type.text ++ r)) := by
      simp [CommentedPiece.text]
    rw [htext]
    exact (refuses_variadic (reads_typeName x hstops).optional hdots).orElse hnamed.orElse

theorem reads_commented (i : CommentedItem) (hn : i.piece.text.length ≤ n) (hc : c ∈ listMarks) :
    Reads (commented (Nested.upTo n) b) (i.text ++ c :: r)
      (entriesAsItem b i, (entryAsPiece b i.piece).isBare) (c :: r) := by
  have htext : i.text ++ c :: r =
      i.before.text ++ (i.piece.text ++ (i.after.text ++ c :: r)) := by
    simp [CommentedItem.text]
  have hbefore : Skips false (i.before.text ++ (i.piece.text ++ (i.after.text ++ c :: r)))
      i.before.comments (i.piece.text ++ (i.after.text ++ c :: r)) :=
    Solid.skips_gap (solid_piece i.piece) i.before
  have hafter : Skips false (i.after.text ++ c :: r) i.after.comments (c :: r) :=
    Solid.skips_gap (solid_endMark (listMarks_subset hc)) i.after
  have hpiece := reads_piece (b := b) i.piece hn (leadsTo_gap i.after hc listMarks_subset (r := r))
  rw [htext]
  exact (reads_comments hbefore).bind (hpiece.bind ((reads_comments hafter).bind .pure))

/-- The text of the items behind the first one, up to the end of the list. -/
def tail (items : List CommentedItem) (r : Text) : Text :=
  items.flatMap (fun i => ',' :: i.text) ++ ')' :: r

theorem exists_mark (items : List CommentedItem) (r : Text) :
    ∃ c v, tail items r = c :: v ∧ c ∈ listMarks := by
  cases items with
  | nil => exact ⟨')', r, rfl, by decide⟩
  | cons i items => exact ⟨',', _, rfl, by decide⟩

theorem reads_commented_tail (i : CommentedItem) (items : List CommentedItem)
    (hn : i.piece.text.length ≤ n) :
    Reads (commented (Nested.upTo n) b) (i.text ++ tail items r)
      (entriesAsItem b i, (entryAsPiece b i.piece).isBare) (tail items r) := by
  obtain ⟨c, v, hv, hc⟩ := exists_mark items r
  rw [hv]
  exact reads_commented i hn hc

theorem chain_items (items : List CommentedItem) (hn : ∀ i ∈ items, i.piece.text.length ≤ n) :
    Chain (fun afterBare => do
      symbol false [',']
      commented (Nested.upTo n) afterBare) b (tail items r) (entriesAs b items) (')' :: r) := by
  induction items generalizing b with
  | nil =>
    have hcomma : Refuses (symbol false [',']) (')' :: r) :=
      refuses_symbol (skips_endMark (by decide)) (by simp)
    exact .stop hcomma.bind
  | cons i items ih =>
    have htail : tail (i :: items) r = ',' :: (i.text ++ tail items r) := by simp [tail]
    have hcomma : Skips false (',' :: (i.text ++ tail items r)) []
        (',' :: (i.text ++ tail items r)) := skips_endMark (by decide)
    have hitem := reads_commented_tail (b := b) (r := r) i items (hn i List.mem_cons_self)
    rw [htail]
    refine .step ((reads_sign hcomma).bind hitem) ?_ (ih fun j hj => hn j (.tail _ hj))
    simp only [List.length_cons, List.length_append]
    omega

theorem reads_entries (i : CommentedItem) (items : List CommentedItem)
    (hn : ∀ j ∈ i :: items, j.piece.text.length ≤ n) :
    Reads (entries (Nested.upTo n)) (i.text ++ tail items r)
      (entriesAs false (i :: items)).flatten (')' :: r) := by
  have hfirst := reads_commented_tail (b := false) (r := r) i items (hn i List.mem_cons_self)
  have hothers := chain_items (b := (entryAsPiece false i.piece).isBare) (r := r) items
    fun j hj => hn j (.tail _ hj)
  exact hfirst.bind (hothers.manyFrom.bind .pure)

/-- There are no entries in an empty list. -/
theorem refuses_entries (gap : Gap) :
    Refuses (entries (Nested.upTo n)) (gap.text ++ ')' :: r) := by
  have hskips : Skips false (')' :: r) [] (')' :: r) := skips_endMark (by decide)
  have hgap : Skips false (gap.text ++ ')' :: r) gap.comments (')' :: r) :=
    Solid.skips_gap (solid_endMark (by decide)) gap
  have hname {reserved : List Text} : Refuses (name false reserved) (')' :: r) :=
    refuses_name_noWord hskips (noWord_cons (by decide))
  have hdots : Refuses (symbol false ['.', '.', '.']) (')' :: r) :=
    refuses_symbol hskips (by simp)
  have htype : Refuses (typeEntry (Nested.upTo n)) (')' :: r) := by
    refine hname.bind.sees.bind_refuses ((Reads.require rfl).bind_refuses (Refuses.bind ?_))
    exact refuses_type hskips (solid_cons rfl (by simp)) (by decide) (by decide)
  have hentry : Refuses (entry (Nested.upTo n) false) (')' :: r) :=
    (refuses_variadic hname.optional hdots).orElse_refuses
      (Refuses.orElse_refuses hname.bind htype)
  exact Refuses.bind ((reads_comments hgap).bind_refuses hentry.bind)

end Entries

section Nodes

/-- What stands in the list, comments included. -/
def listEntries (l : CommentedList) : List GoParameters.Entry :=
  if l.items.isEmpty then l.empty.comments.map .comment else (entriesAs false l.items).flatten

/-- What the list is read as. -/
def nodesAs (l : CommentedList) : List ParameterNode := group [] (listEntries l)

theorem exists_of_mem_entriesAs {items : List CommentedItem}
    (h : e ∈ (entriesAs b items).flatten) :
    (∃ c, e = .comment c) ∨ ∃ b' p, e = entryAsPiece b' p := by
  induction items generalizing b with
  | nil => cases h
  | cons i items ih =>
    have hcomment {g : Gap} (h : e ∈ g.comments.map .comment) : ∃ c, e = .comment c := by
      obtain ⟨c, -, rfl⟩ := List.mem_map.1 h
      exact ⟨c, rfl⟩
    rcases List.mem_append.1 h with h | h
    · rcases List.mem_append.1 h with h | h
      · exact .inl (hcomment h)
      · rcases List.mem_cons.1 h with rfl | h
        · exact .inr ⟨b, i.piece, rfl⟩
        · exact .inl (hcomment h)
    · exact ih h

theorem wellFormed_readAs (t : CommentedType) :
    wellFormed [.declaration [] (readAs t)] = true := by
  cases t with
  | name x => simpa [wellFormed, readAs] using notMem_typeWords x
  | _ => rfl

theorem wellFormed_entryAs (b : Bool) (t : CommentedType) :
    wellFormed (ungrouped [entryAs b t]) = true := by
  have hnode := wellFormed_readAs t
  cases t with
  | map front before key after behind value =>
    rw [entryAs]
    split
    · rfl
    · exact hnode
  | _ => exact hnode

theorem wellFormed_items (b : Bool) (items : List CommentedItem) :
    wellFormed (group [] (entriesAs b items).flatten) = true := by
  refine wellFormed_group fun e he => ?_
  rcases exists_of_mem_entriesAs he with ⟨c, rfl⟩ | ⟨b, p, rfl⟩
  · rfl
  · cases p with
    | alone type => exact wellFormed_entryAs b type
    | named x separator type => rfl

theorem wellFormed_comments (comments : List Text) :
    wellFormed (group [] (comments.map .comment)) = true := by
  refine wellFormed_group fun e he => ?_
  obtain ⟨c, -, rfl⟩ := List.mem_map.1 he
  rfl

end Nodes

section Lists

theorem length_item_le {i : CommentedItem} {items : List CommentedItem} (h : i ∈ items) :
    i.text.length ≤ (itemsText items).length := by
  cases items with
  | nil => cases h
  | cons j items =>
    rw [itemsText, List.length_append]
    rcases List.mem_cons.1 h with rfl | h
    · omega
    · obtain ⟨before, after, rfl⟩ := List.append_of_mem h
      rw [List.flatMap_append, List.flatMap_cons]
      simp only [List.length_append, List.length_cons]
      omega

/-- What stands between the parentheses is read first, and then grouped. -/
theorem reads_listed {inside u : Text} {found : Option (List GoParameters.Entry)}
    {before : List Text}
    (hfound : Reads (Reader.optional (entries (Nested.upTo n))) (inside ++ ')' :: r) found u)
    (hbefore : Skips false u before (')' :: r))
    (hwell : wellFormed (group [] (found.getD [] ++ before.map .comment)) = true) :
    Reads (parameters (Nested.upTo n)) ('(' :: (inside ++ ')' :: r))
      (group [] (found.getD [] ++ before.map .comment)) r := by
  have hopen : Skips false ('(' :: (inside ++ ')' :: r)) [] ('(' :: (inside ++ ')' :: r)) :=
    skips_cons rfl (by simp)
  have hclose : Skips false (')' :: r) [] (')' :: r) := skips_endMark (by decide)
  have hcomma : Refuses (symbol false [',']) (')' :: r) := refuses_symbol hclose (by simp)
  refine (reads_sign hopen).bind (hfound.bind ((reads_comments hbefore).bind ?_))
  refine hcomma.optional.bind ((reads_comments hclose).bind ((reads_sign hclose).bind ?_))
  rw [List.append_nil]
  exact (Reads.require hwell).bind .pure

theorem reads_items (i : CommentedItem) (items : List CommentedItem)
    (hn : (itemsText (i :: items)).length ≤ n) :
    Reads (parameters (Nested.upTo n)) ('(' :: (itemsText (i :: items) ++ ')' :: r))
      (group [] (entriesAs false (i :: items)).flatten) r := by
  have hall (j : CommentedItem) (hj : j ∈ i :: items) : j.piece.text.length ≤ n := by
    have hle := length_item_le hj
    simp only [CommentedItem.text, List.length_append] at hle
    omega
  have htext : itemsText (i :: items) ++ ')' :: r = i.text ++ tail items r :=
    List.append_assoc _ _ _
  have hread := reads_listed (r := r) (htext ▸ (reads_entries (r := r) i items hall).optional)
    (skips_endMark (by decide))
    (by simpa using wellFormed_items false (i :: items))
  simpa using hread

/-- A list with nothing but a gap in it. -/
theorem reads_empty (gap : Gap) :
    Reads (parameters (Nested.upTo n)) ('(' :: (gap.text ++ ')' :: r))
      (group [] (gap.comments.map .comment)) r :=
  reads_listed (refuses_entries gap).optional
    (Solid.skips_gap (solid_endMark (by decide)) gap) (wellFormed_comments gap.comments)

theorem reads_parameters (l : CommentedList) (hn : l.text.length ≤ n) :
    Reads (parameters (Nested.upTo n)) (l.text ++ r) (nodesAs l) r := by
  have htext : l.text ++ r = '(' :: (l.inside ++ ')' :: r) := by simp [CommentedList.text]
  have hinside : l.inside.length ≤ n := by
    simp only [CommentedList.text, List.length_cons, List.length_append] at hn
    omega
  rw [htext]
  unfold CommentedList.inside at hinside ⊢
  unfold nodesAs listEntries
  cases hitems : l.items with
  | nil => exact reads_empty l.empty
  | cons i items =>
    rw [hitems] at hinside
    exact reads_items i items hinside

end Lists

section Printed

/-- What the piece is read as where there is nothing in its gaps. -/
def entryOfPiece (afterBare : Bool) : Piece → GoParameters.Entry
  | .alone type => entryOf afterBare type
  | .named name type => .named name.text (nodeOf type)

/-- The entries of the pieces, the first of them behind a word alone or not. -/
def entriesOf (afterBare : Bool) : List Piece → List GoParameters.Entry
  | [] => []
  | p :: ps => entryOfPiece afterBare p :: entriesOf (entryOfPiece afterBare p).isBare ps

/-- What the list is read as where there is nothing in its gaps. -/
def nodesOf (list : ParameterList) : List ParameterNode :=
  group [] (entriesOf false (pieces list))

theorem entryAsPiece_ofPiece (p : Piece) : entryAsPiece b (ofPiece p) = entryOfPiece b p := by
  cases p with
  | alone type => exact entryAs_ofType type
  | named name type => exact congrArg _ (readAs_ofType type)

theorem entriesAs_blank (ps : List Piece) :
    (entriesAs b (ps.map fun p => ⟨[.blank], ofPiece p, []⟩)).flatten = entriesOf b ps := by
  induction ps generalizing b with
  | nil => rfl
  | cons p ps ih =>
    rw [entriesOf, ← entryAsPiece_ofPiece, ← ih]
    rfl

theorem entriesAs_itemsOf (ps : List Piece) :
    (entriesAs b (itemsOf ps)).flatten = entriesOf b ps := by
  cases ps with
  | nil => rfl
  | cons p ps =>
    rw [entriesOf, ← entryAsPiece_ofPiece, ← entriesAs_blank]
    rfl

/-- A printed list is read piece by piece. -/
theorem reads_pieces {ps : List Piece} (h : ps ≠ [])
    (hn : (commaSeparated (ps.map Piece.text)).length ≤ n) :
    Reads (parameters (Nested.upTo n)) ('(' :: (commaSeparated (ps.map Piece.text) ++ ')' :: r))
      (group [] (entriesOf false ps)) r := by
  rw [← itemsText_itemsOf] at hn ⊢
  rw [← entriesAs_itemsOf]
  cases ps with
  | nil => exact absurd rfl h
  | cons p ps => exact reads_items _ _ hn

theorem listEntries_ofList (list : ParameterList) :
    listEntries (ofList list) = entriesOf false (pieces list) := by
  have hitems : (ofList list).items = itemsOf (pieces list) := rfl
  rw [← entriesAs_itemsOf, listEntries, hitems]
  cases pieces list <;> rfl

theorem nodesAs_ofList (list : ParameterList) : nodesAs (ofList list) = nodesOf list :=
  congrArg _ (listEntries_ofList list)

end Printed

end RpcSchema.ParameterReading
