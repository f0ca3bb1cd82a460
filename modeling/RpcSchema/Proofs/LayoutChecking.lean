import RpcSchema.Proofs.QuotedSource
import RpcSchema.Proofs.SourcePlaces

/-! # The layout check

A file is in order if its items, comments apart, are a package clause, then imports, then
declarations. Of any other file the check blames the last item of the shortest beginning that
no file in order has, at its place in the source. -/
namespace RpcSchema.LayoutChecking
open GoLayout GoLexeme GoSourceFile ReaderRun ReaderOutcome QuotedSource SourcePlaces

variable {kind : ItemKind} {kinds : List ItemKind} {part : Part} {items : List Item}
  {found before after : List (ItemKind × Text)} {source rest : Text}

section Order

def IsDeclaration : ItemKind → Prop
  | .function _ => True
  | .method => True
  | .typing => True
  | .constant => True
  | .variable => True
  | _ => False

/-- Imports, then declarations. -/
def ImportsFirst (kinds : List ItemKind) : Prop :=
  ∃ imports declarations, kinds = imports ++ declarations ∧
    (∀ k ∈ imports, k = .importing) ∧ ∀ k ∈ declarations, IsDeclaration k

/-- A package clause, then imports, then declarations. -/
def InOrder (kinds : List ItemKind) : Prop :=
  ∃ others, kinds = .package :: others ∧ ImportsFirst others

/-- Some file in order begins with these items. -/
def Begins (kinds : List ItemKind) : Prop := ∃ more, InOrder (kinds ++ more)

theorem inOrder_cons : InOrder (kind :: kinds) ↔ kind = .package ∧ ImportsFirst kinds := by
  constructor
  · rintro ⟨others, h, ho⟩
    obtain ⟨rfl, rfl⟩ := List.cons.inj h
    exact ⟨rfl, ho⟩
  · rintro ⟨rfl, h⟩
    exact ⟨kinds, rfl, h⟩

theorem importsFirst_cons : ImportsFirst (kind :: kinds) ↔
    (kind = .importing ∧ ImportsFirst kinds) ∨ ∀ k ∈ kind :: kinds, IsDeclaration k := by
  constructor
  · rintro ⟨imports, declarations, h, hi, hd⟩
    cases imports with
    | nil => exact .inr (h ▸ hd)
    | cons k imports =>
      obtain ⟨rfl, rfl⟩ := List.cons.inj h
      obtain ⟨hk, hi⟩ := List.forall_mem_cons.1 hi
      exact .inl ⟨hk, imports, declarations, rfl, hi, hd⟩
  · rintro (⟨rfl, imports, declarations, rfl, hi, hd⟩ | hd)
    · exact ⟨.importing :: imports, declarations, rfl, List.forall_mem_cons.2 ⟨rfl, hi⟩, hd⟩
    · exact ⟨[], _, rfl, by simp, hd⟩

end Order

section Parts

/-- What may stand in a file from a part on. -/
def Completes : Part → List ItemKind → Prop
  | .start, kinds => InOrder kinds
  | .imports, kinds => ImportsFirst kinds
  | .declarations, kinds => ∀ k ∈ kinds, IsDeclaration k

/-- What may come next in a file from a part on. -/
def Continues (part : Part) (kinds : List ItemKind) : Prop := ∃ more, Completes part (kinds ++ more)

theorem completes_nil (h : part ≠ .start) : Completes part [] := by
  cases part with
  | start => exact absurd rfl h
  | imports => exact ⟨[], [], rfl, by simp, by simp⟩
  | declarations => exact List.forall_mem_nil _

/-- The part that an item leads to is all that counts for the items behind it. -/
theorem completes_cons : Completes part (kind :: kinds) ↔
    ∃ next, advance part kind = some next ∧ Completes next kinds := by
  cases part with
  | start =>
    refine inOrder_cons.trans ?_
    cases kind <;> simp [advance, Completes]
  | imports =>
    refine importsFirst_cons.trans ?_
    cases kind <;> simp [advance, Completes, IsDeclaration]
  | declarations =>
    refine List.forall_mem_cons.trans ?_
    cases kind <;> simp [advance, Completes, IsDeclaration]

theorem advance_ne_start {next : Part} (h : advance part kind = some next) : next ≠ .start := by
  rintro rfl
  cases part <;> cases kind <;> simp [advance] at h

theorem continues_nil (part : Part) : Continues part [] := by
  cases part with
  | start =>
    have hnil : Completes .imports [] := completes_nil (by simp)
    exact ⟨[.package], [], rfl, hnil⟩
  | imports => exact ⟨[], completes_nil (by simp)⟩
  | declarations => exact ⟨[], completes_nil (by simp)⟩

theorem continues_cons : Continues part (kind :: kinds) ↔
    ∃ next, advance part kind = some next ∧ Continues next kinds := by
  constructor
  · rintro ⟨more, h⟩
    obtain ⟨next, ha, hc⟩ := completes_cons.1 h
    exact ⟨next, ha, more, hc⟩
  · rintro ⟨next, ha, more, hc⟩
    exact ⟨more, completes_cons.2 ⟨next, ha, hc⟩⟩

theorem continues_cons_of_advance {next : Part} (h : advance part kind = some next) :
    Continues part (kind :: kinds) ↔ Continues next kinds := by
  simp [continues_cons, h]

theorem not_continues_cons (h : advance part kind = none) : ¬Continues part (kind :: kinds) := by
  simp [continues_cons, h]

instance decidableContinues : (part : Part) → (kinds : List ItemKind) →
    Decidable (Continues part kinds)
  | part, [] => isTrue (continues_nil part)
  | part, kind :: kinds =>
    match h : advance part kind with
    | none => isFalse (not_continues_cons h)
    | some next => @decidable_of_iff _ _ (continues_cons_of_advance h).symm
        (decidableContinues next kinds)

instance (kinds : List ItemKind) : Decidable (Begins kinds) :=
  inferInstanceAs (Decidable (Continues .start kinds))

theorem Continues.of_prefix {first : List ItemKind} (h : Continues part kinds)
    (hp : first <+: kinds) : Continues part first := by
  obtain ⟨more, hm⟩ := h
  obtain ⟨others, rfl⟩ := hp
  exact ⟨others ++ more, List.append_assoc .. ▸ hm⟩

/-- What may come next is complete as well, but for the missing package clause. -/
theorem Continues.completes (h : Continues part kinds) :
    Completes part kinds ∨ part = .start ∧ kinds = [] := by
  induction kinds generalizing part with
  | nil =>
    by_cases hp : part = .start
    · exact .inr ⟨hp, rfl⟩
    · exact .inl (completes_nil hp)
  | cons kind kinds ih =>
    obtain ⟨next, ha, hc⟩ := continues_cons.1 h
    rcases ih hc with hc | ⟨hp, -⟩
    · exact .inl (completes_cons.2 ⟨next, ha, hc⟩)
    · exact absurd hp (advance_ne_start ha)

/-- Where a row of items cannot go on, one of them is the first that cannot stand there. -/
theorem exists_misplaced (h : ¬Continues part (found.map Prod.fst)) :
    ∃ before kind rest after, found = before ++ (kind, rest) :: after ∧
      Continues part (before.map Prod.fst) ∧ ¬Continues part (before.map Prod.fst ++ [kind]) := by
  induction found generalizing part with
  | nil => exact absurd (continues_nil part) h
  | cons x found ih =>
    obtain ⟨kind, rest⟩ := x
    cases ha : advance part kind with
    | none => exact ⟨[], kind, rest, found, rfl, continues_nil part, not_continues_cons ha⟩
    | some next =>
      have hiff {ks : List ItemKind} : Continues part (kind :: ks) ↔ Continues next ks :=
        continues_cons_of_advance ha
      obtain ⟨before, k, r, after, rfl, hb, hk⟩ := ih (mt hiff.2 h)
      exact ⟨(kind, rest) :: before, k, r, after, rfl, hiff.2 hb, mt hiff.1 hk⟩

end Parts

section Faults

/-- The items of a file, comments apart. -/
def codeOf : List Item → List (ItemKind × Text)
  | [] => []
  | .comment _ :: items => codeOf items
  | .code kind rest :: items => (kind, rest) :: codeOf items

@[simp] theorem codeOf_append (items others : List Item) :
    codeOf (items ++ others) = codeOf items ++ codeOf others := by
  induction items with
  | nil => rfl
  | cons i items ih => cases i <;> simp [codeOf, ih]

@[simp] theorem codeOf_comments (cs : List Text) : codeOf (cs.map .comment) = [] := by
  induction cs with
  | nil => rfl
  | cons c cs ih => exact ih

def kindsOf (items : List Item) : List ItemKind := (codeOf items).map Prod.fst

theorem fault_comment (c : Text) : fault? part (.comment c :: items) = fault? part items := by
  cases part <;> rfl

theorem fault_code (kind : ItemKind) (rest : Text) :
    fault? part (.code kind rest :: items) =
      ((advance part kind).elim (some (.misplaced rest)) fun next => fault? next items) := by
  cases part <;> rw [fault?] <;> cases advance _ kind <;> rfl

theorem fault_eq_none_iff : fault? part items = none ↔ Completes part (kindsOf items) := by
  induction items generalizing part with
  | nil =>
    by_cases hp : part = .start
    · subst hp
      exact iff_of_false (by simp [fault?]) fun ⟨_, h, _⟩ => by cases h
    · have hnone : fault? part [] = none := by
        cases part with
        | start => exact absurd rfl hp
        | imports => rfl
        | declarations => rfl
      exact iff_of_true hnone (completes_nil hp)
  | cons item items ih =>
    cases item with
    | comment c => exact (fault_comment c ▸ ih :)
    | code kind rest =>
      rw [fault_code]
      refine Iff.trans ?_ completes_cons.symm
      cases advance part kind with
      | none => simp
      | some next => simpa [kindsOf] using ih

/-- The check stops at the first item that cannot stand where it does. -/
theorem fault_of_misplaced {kind : ItemKind} (h : codeOf items = before ++ (kind, rest) :: after)
    (hb : Continues part (before.map Prod.fst))
    (hk : ¬Continues part (before.map Prod.fst ++ [kind])) :
    fault? part items = some (.misplaced rest) := by
  induction items generalizing part before with
  | nil => simp [codeOf] at h
  | cons item items ih =>
    cases item with
    | comment c => exact (fault_comment c).trans (ih h hb hk)
    | code k r =>
      rw [fault_code]
      cases before with
      | nil =>
        obtain ⟨hx, -⟩ := List.cons.inj h
        obtain ⟨rfl, rfl⟩ := Prod.mk.inj hx
        cases ha : advance part k with
        | none => rfl
        | some next => exact absurd (continues_cons.2 ⟨next, ha, continues_nil next⟩) hk
      | cons x before =>
        obtain ⟨rfl, htail⟩ := List.cons.inj h
        obtain ⟨next, ha, hb⟩ := continues_cons.1 hb
        rw [ha]
        exact ih htail hb fun hc => hk (continues_cons.2 ⟨next, ha, hc⟩)

theorem fault_of_no_code (h : codeOf items = []) : fault? .start items = some .noPackage := by
  induction items with
  | nil => rfl
  | cons item items ih =>
    cases item with
    | comment c => exact ih h
    | code kind rest => cases h

end Faults

section Places

/-- The item begins in the source where its text does, behind all blanks and comments. -/
def Placed (source : Text) : Item → Prop
  | .comment _ => True
  | .code _ rest => rest <:+ source ∧ nextTrivia false rest = none

theorem yields_placed (g : Nested) :
    Yields source (item g) fun found => ∀ i ∈ found, Placed source i := by
  intro s found r hs h
  have hcomments : Reads (comments false) s (trivia false s).1 (trivia false s).2 :=
    rfl
  have hrest : Reads Reader.remaining (trivia false s).2 (trivia false s).2 (trivia false s).2 :=
    rfl
  rw [item, hcomments.run_eq, hrest.run_eq] at h
  obtain ⟨x, t, -, h⟩ := exists_of_run_bind h
  obtain ⟨rfl, -⟩ := Prod.mk.inj (Option.some.inj h)
  intro i hi
  rcases List.mem_append.1 hi with hi | hi
  · obtain ⟨c, -, rfl⟩ := List.mem_map.1 hi
    exact trivial
  · rcases List.mem_cons.1 hi with rfl | hi
    · exact ⟨(trivia_suffix false s).trans hs, nextTrivia_trivia false s⟩
    · obtain ⟨c, -, rfl⟩ := List.mem_map.1 hi
      exact trivial

theorem placed_of_read (h : GoSourceFile.read source = some items) :
    ∀ i ∈ items, Placed source i :=
  forall_read (fun _ => yields_placed _) (fun _ => trivial) h

end Places

section Checking

/-- The text begins at the last item of the shortest beginning that no file in order has. -/
def FirstMisplaced (items : List Item) (rest : Text) : Prop :=
  ∃ before kind after, codeOf items = before ++ (kind, rest) :: after ∧
    (∀ first, first <+: before.map Prod.fst → Begins first) ∧
    ¬Begins (before.map Prod.fst ++ [kind])

theorem mem_of_codeOf {kind : ItemKind} (h : (kind, rest) ∈ codeOf items) :
    .code kind rest ∈ items := by
  induction items with
  | nil => cases h
  | cons item items ih =>
    cases item with
    | comment c => exact .tail _ (ih h)
    | code k r =>
      rcases List.mem_cons.1 h with h | h
      · obtain ⟨rfl, rfl⟩ := Prod.mk.inj h
        exact List.mem_cons_self
      · exact .tail _ (ih h)

theorem exists_firstMisplaced (h : ∃ first, first <+: kindsOf items ∧ ¬Begins first) :
    ∃ rest, FirstMisplaced items rest := by
  obtain ⟨first, hp, hn⟩ := h
  have hall : ¬Continues .start (kindsOf items) := fun hc => hn (hc.of_prefix hp)
  obtain ⟨before, kind, rest, after, hcode, hb, hk⟩ := exists_misplaced hall
  exact ⟨rest, before, kind, after, hcode, fun _ hp => hb.of_prefix hp, hk⟩

theorem FirstMisplaced.fault_eq (h : FirstMisplaced items rest) :
    fault? .start items = some (.misplaced rest) := by
  obtain ⟨before, kind, after, hcode, hb, hk⟩ := h
  exact fault_of_misplaced hcode (hb _ (List.prefix_refl _)) hk

theorem FirstMisplaced.placed (h : FirstMisplaced items rest)
    (hread : GoSourceFile.read source = some items) :
    rest <:+ source ∧ nextTrivia false rest = none := by
  obtain ⟨before, kind, after, hcode, -, -⟩ := h
  have hmem : (kind, rest) ∈ codeOf items := by simp [hcode]
  exact placed_of_read hread _ (mem_of_codeOf hmem)

theorem signaturesOf_of_read (h : GoSourceFile.read source = some items) :
    signaturesOf source = match fault? .start items with
      | some fault => .error (.ofLayout source fault)
      | none => .ok (items.filterMap Item.signature?) := by
  cases hfault : fault? .start items with
  | some fault => simp [signaturesOf, h, hfault]
  | none => simp [signaturesOf, h, hfault]

/-- A source that can be read is accepted if its items are in order. Otherwise the blame falls
on the last item of the shortest beginning that no file in order has, at the place that the
bytes before it lead to; where nothing but comments was read there is no such beginning, and
the blame falls on the start. -/
theorem layout_checked (h : GoSourceFile.read source = some items) :
    (fault? .start items = none ↔ InOrder (kindsOf items)) ∧
      ((∃ signatures, signaturesOf source = .ok signatures) ↔ InOrder (kindsOf items)) ∧
      ((∃ first, first <+: kindsOf items ∧ ¬Begins first) →
        ∃ rest front, FirstMisplaced items rest ∧ source = front ++ rest ∧
          nextTrivia false rest = none ∧
          signaturesOf source = .error (.layout (placeAfter front.bytes.data.toList))) ∧
      (¬InOrder (kindsOf items) → (∀ first, first <+: kindsOf items → Begins first) →
        codeOf items = [] ∧ signaturesOf source = .error (.layout ⟨1, 1⟩)) := by
  have hnone : fault? .start items = none ↔ InOrder (kindsOf items) := fault_eq_none_iff
  have hsource := signaturesOf_of_read h
  refine ⟨hnone, ?_, fun hbad => ?_, fun horder hall => ?_⟩
  · rw [← hnone, hsource]
    cases fault? .start items <;> simp
  · obtain ⟨rest, hfirst⟩ := exists_firstMisplaced hbad
    obtain ⟨⟨front, rfl⟩, hsolid⟩ := hfirst.placed h
    refine ⟨rest, front, hfirst, rfl, hsolid, ?_⟩
    rw [hsource, hfirst.fault_eq, toList_bytes, ← ofRest_eq]
    rfl
  · have hwhole : Continues .start (kindsOf items) := hall _ (List.prefix_refl _)
    rcases hwhole.completes with hc | ⟨-, hnil⟩
    · exact absurd hc horder
    · have hcode : codeOf items = [] := List.map_eq_nil_iff.1 hnil
      refine ⟨hcode, ?_⟩
      rw [hsource, fault_of_no_code hcode]
      rfl

/-- A statement behind a comment of more bytes than characters. -/
def statementSource : Text := "package p\n/* \u00e9 */ x := 1\n".toList

def statementItems : List Item :=
  [.code .package statementSource, .comment "/* \u00e9 */".toList,
    .code .statement "x := 1\n".toList]

theorem read_statementSource : GoSourceFile.read statementSource = some statementItems := by
  decide +kernel

theorem layout_checked_statement :
    GoSourceFile.read statementSource = some statementItems ∧
      ∃ rest front, FirstMisplaced statementItems rest ∧ statementSource = front ++ rest ∧
        nextTrivia false rest = none ∧
        signaturesOf statementSource = .error (.layout (placeAfter front.bytes.data.toList)) ∧
        placeAfter front.bytes.data.toList = ⟨2, 10⟩ := by
  obtain ⟨-, -, hmisplaced, -⟩ := layout_checked read_statementSource
  obtain ⟨rest, front, hfirst, hfront, hsolid, herror⟩ :=
    hmisplaced ⟨[.package, .statement], List.prefix_refl _, by decide⟩
  have hplace : signaturesOf statementSource = .error (.layout ⟨2, 10⟩) := by decide +kernel
  refine ⟨read_statementSource, rest, front, hfirst, hfront, hsolid, herror, ?_⟩
  exact SyntaxFault.layout.inj (Except.error.inj (herror.symm.trans hplace))

end Checking

end RpcSchema.LayoutChecking
