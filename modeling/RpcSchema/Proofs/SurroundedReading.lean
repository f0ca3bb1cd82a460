import RpcSchema.Proofs.DeclarationReading
import RpcSchema.Proofs.LayoutChecking

/-! # Only functions are extracted

A file is read section by section. What stands around its functions, and what their bodies
hold, makes no difference to the signatures. -/
namespace RpcSchema.SurroundedReading
open GoLexeme GoSourceFile ReaderRun LexemeRun
open SurroundedSource FillerReading FunctionReading BodyReading DeclarationReading LayoutChecking
open PrintedSource hiding packageClause

variable {s r last : Text} {cs : List Text} {n : Nat} {e : LineEnd}

section Sections

/-- What a declaration is read as. -/
def kindOf : SurroundedSource.Declaration → ItemKind
  | .function name r => .function (functionOf ⟨name, r.parameters, r.results⟩)
  | .method _ _ _ _ => .method
  | .typing _ => .typing
  | .constant _ => .constant
  | .closure _ _ => .variable

theorem fits_of_length {routine : Routine} (h : (routine.text e).length ≤ n) : Fits routine n := by
  simp only [Routine.text, List.length_append, List.length_cons] at h
  exact ⟨by omega, by omega⟩

theorem reads_declaration (d : SurroundedSource.Declaration) (hn : (d.text e).length ≤ n)
    (hs : Skips false s cs (d.text e ++ (e.text ++ r))) :
    Reads (item (Nested.upTo (n + 5))) s
      (cs.map .comment ++ [.code (kindOf d) (d.text e ++ (e.text ++ r))]) r := by
  cases d with
  | function name routine =>
    have hlength : (routine.text e).length ≤ n + 2 := by
      simp only [text_function, List.length_append, List.length_cons] at hn
      omega
    exact reads_function_item (fits_of_length hlength) hs
  | method receiver owner name routine =>
    simp only [text_method, List.length_append, List.length_cons] at hn
    have hlength : (routine.text e).length ≤ n + 2 := by omega
    have hreceiver : (receiverList receiver owner).text.length ≤ n + 2 := by
      simp only [text_receiverList, List.length_append, List.length_cons, List.length_nil]
      omega
    exact reads_method_item hreceiver (fits_of_length hlength) hs
  | typing name => exact reads_typing_item hs
  | constant name => exact reads_constant_item hs
  | closure name routine =>
    have hlength : (routine.text e).length ≤ n := by
      simp only [text_closure, List.length_append, List.length_cons] at hn
      omega
    exact reads_closure_item (fits_of_length hlength) hs

/-- Every declaration begins with a keyword. -/
theorem solid_declaration (d : SurroundedSource.Declaration) : Solid (d.text e ++ s) := by
  cases d with
  | function name r => exact solid_of_isStart (by decide)
  | method receiver owner name r => exact solid_of_isStart (by decide)
  | typing name => exact solid_of_isStart (by decide)
  | constant name => exact solid_of_isStart (by decide)
  | closure name r => exact solid_of_isStart (by decide)

/-- The items of some sections, each with the comments before it. -/
def itemsOf (e : LineEnd) (last : Text) : List Section → List (List Item)
  | [] => []
  | p :: sections =>
    ((p.before.flatMap (FillerReading.comments e)).map .comment ++
      [.code (kindOf p.declaration) (p.declaration.text e ++ (e.text ++
        (sections.flatMap (Section.text e) ++ last)))]) :: itemsOf e last sections

theorem chain_sections (sections : List Section)
    (hn : ∀ p ∈ sections, (p.text e).length ≤ n) (hlast : Skips false last cs []) :
    Chain (single (item (Nested.upTo (n + 5)))) () (sections.flatMap (Section.text e) ++ last)
      (itemsOf e last sections) last := by
  induction sections with
  | nil => exact .stop_many (refuses_item hlast)
  | cons p sections ih =>
    obtain ⟨hp, hn⟩ := List.forall_mem_cons.1 hn
    let rest := sections.flatMap (Section.text e) ++ last
    have htext : (p :: sections).flatMap (Section.text e) ++ last =
        p.before.flatMap (Filler.text e) ++ (p.declaration.text e ++ (e.text ++ rest)) := by
      simp only [List.flatMap_cons, Section.text, List.append_assoc, rest]
    have hlength : (p.declaration.text e).length ≤ n := by
      simp only [Section.text, List.length_append] at hp
      omega
    have hskips : Skips false
        (p.before.flatMap (Filler.text e) ++ (p.declaration.text e ++ (e.text ++ rest)))
        (p.before.flatMap (FillerReading.comments e))
        (p.declaration.text e ++ (e.text ++ rest)) := by
      have h := skips_fillers (e:=e) p.before (solid_declaration (e:=e) (s:=e.text ++ rest)
        p.declaration).skips
      rwa [List.append_nil] at h
    have hpositive := e.length_text_pos
    rw [htext]
    refine .step_many (reads_declaration p.declaration hlength hskips) ?_ (ih hn)
    simp only [rest, List.length_append] at *
    omega

theorem skips_last (fillers : List Filler) : Skips false (fillers.flatMap (Filler.text e))
    (fillers.flatMap (FillerReading.comments e)) [] := by
  have h := skips_fillers (e:=e) fillers solid_nil.skips
  rwa [List.append_nil, List.append_nil] at h

end Sections

section Files

/-- There is room in a file for constructs nested as deep as the file is long. -/
theorem read_of_reads {source : Text} {found : List Item} (hpositive : 0 < source.length)
    (hmark : withoutMark source = source)
    (h : ∀ n, source.length ≤ n → Reads (items (Nested.upTo (n + 5))) source found []) :
    GoSourceFile.read source = some found := by
  obtain ⟨n, hn, hdepth⟩ : ∃ n, source.length ≤ n ∧ 4 * (source.length + 1) = n + 5 :=
    ⟨4 * source.length - 1, by omega, by omega⟩
  have hitems : (items (Nested.upTo (n + 5))).run source = some (found, []) := h n hn
  unfold GoSourceFile.read
  rw [hmark, hdepth, hitems]

variable (e) (file : SourceFile)

def clauseItems : List Item :=
  (file.before.flatMap (FillerReading.comments e)).map .comment ++
    [.code .package (file.fromClause e)]

def fileItems : List Item :=
  (clauseItems e file :: itemsOf e (file.last.flatMap (Filler.text e)) file.sections).flatten ++
    (file.last.flatMap (FillerReading.comments e)).map .comment

theorem length_section_le {p : Section} (h : p ∈ file.sections) :
    (p.text e).length ≤ (file.text e).length := by
  obtain ⟨before, after, hsections⟩ := List.append_of_mem h
  unfold SourceFile.text SourceFile.fromClause SourceFile.behind
  simp only [hsections, List.flatMap_append, List.flatMap_cons, List.length_append]
  omega

theorem length_behind_lt : (file.behind e).length < (file.text e).length := by
  have hpositive := e.length_text_pos
  unfold SourceFile.text SourceFile.fromClause
  simp only [List.length_append]
  omega

theorem reads_clause : Reads (item (Nested.upTo n)) (file.text e) (clauseItems e file)
    (file.behind e) := by
  have hsolid : Solid (file.fromClause e) := solid_of_isStart (by decide)
  have hskips := skips_fillers (e:=e) file.before hsolid.skips
  rw [List.append_nil] at hskips
  exact reads_packageClause hskips skips_break stops_lineEnd

theorem reads_file (hn : (file.text e).length ≤ n) :
    Reads (items (Nested.upTo (n + 5))) (file.text e) (fileItems e file) [] := by
  have hsections : ∀ p ∈ file.sections, (p.text e).length ≤ n := fun p hp =>
    Nat.le_trans (length_section_le e file hp) hn
  have hmany := (Chain.step_many (reads_clause e file) (length_behind_lt e file)
    (chain_sections file.sections hsections (skips_last file.last))).many
  unfold fileItems
  exact hmany.bind ((reads_comments (skips_last file.last)).bind .pure)

/-- No file begins with a byte order mark. -/
theorem withoutMark_text : withoutMark (file.text e) = file.text e := by
  obtain ⟨before, package, sections, last⟩ := file
  cases before with
  | nil => rfl
  | cons f before => cases f <;> cases e <;> rfl

theorem read_text : GoSourceFile.read (file.text e) = some (fileItems e file) :=
  read_of_reads (Nat.zero_lt_of_lt (length_behind_lt e file)) (withoutMark_text e file)
    fun _ hn => reads_file e file hn

end Files

section Signatures

/-- The signature of a kind, if it is a function. -/
def signatureOfKind? : ItemKind → Option Signature
  | .function node => some node.signature
  | _ => none

theorem filterMap_signature (items : List Item) :
    items.filterMap Item.signature? = (kindsOf items).filterMap signatureOfKind? := by
  induction items with
  | nil => rfl
  | cons i items ih =>
    cases i with
    | comment c => exact ih
    | code kind rest =>
      unfold kindsOf at ih ⊢
      cases kind <;> simp [codeOf, Item.signature?, signatureOfKind?, List.filterMap_cons, ih]

/-- The signatures of a file of declarations behind a package clause. -/
theorem signaturesOf_of_kindsOf {source : Text} {items : List Item} {kinds : List ItemKind}
    (h : GoSourceFile.read source = some items) (hkinds : kindsOf items = .package :: kinds)
    (hall : ∀ k ∈ kinds, IsDeclaration k) :
    signaturesOf source = .ok (kinds.filterMap signatureOfKind?) := by
  have hfault : GoLayout.fault? .start items = none :=
    fault_eq_none_iff.2 ⟨kinds, hkinds, [], kinds, rfl, by simp, hall⟩
  rw [signaturesOf_of_read h, hfault, filterMap_signature, hkinds, List.filterMap_cons_none rfl]

variable (e) (file : SourceFile)

theorem kindsOf_itemsOf (last : Text) (sections : List Section) :
    kindsOf (itemsOf e last sections).flatten = sections.map fun p => kindOf p.declaration := by
  induction sections with
  | nil => rfl
  | cons p sections ih =>
    unfold kindsOf at ih ⊢
    simp [itemsOf, codeOf, ih]

theorem kindsOf_fileItems : kindsOf (fileItems e file) =
    .package :: file.sections.map fun p => kindOf p.declaration := by
  have hsections := kindsOf_itemsOf e (file.last.flatMap (Filler.text e)) file.sections
  unfold kindsOf at hsections ⊢
  simp [fileItems, clauseItems, codeOf, hsections]

theorem isDeclaration_kindOf (d : SurroundedSource.Declaration) : IsDeclaration (kindOf d) := by
  cases d <;> trivial

theorem signatureOfKind_kindOf (d : SurroundedSource.Declaration) :
    signatureOfKind? (kindOf d) = d.function?.map fun f => (functionOf f).signature := by
  cases d <;> rfl

theorem signaturesOf_text : signaturesOf (file.text e) =
    .ok (file.functions.map fun f => (functionOf f).signature) := by
  have hall : ∀ k ∈ file.sections.map fun p => kindOf p.declaration, IsDeclaration k :=
    List.forall_mem_map.2 fun p _ => isDeclaration_kindOf p.declaration
  rw [signaturesOf_of_kindsOf (read_text e file) (kindsOf_fileItems e file) hall,
    List.filterMap_map]
  unfold SourceFile.functions
  rw [List.map_filterMap]
  exact congrArg _ (List.filterMap_congr fun p _ => signatureOfKind_kindOf p.declaration)

/-- Whatever stands around the functions of a file and in their bodies, and however its lines
end, the signatures are those of the file with the functions alone: one for each function, and
just the declared one where no type in a list misleads the type before it. -/
theorem surroundings_ignored : ∃ signatures,
    signaturesOf (file.text e) = .ok signatures ∧
      signaturesOf (bareText file.package file.functions) = .ok signatures ∧
      signatures.map Signature.name = file.functions.map (fun f => f.name.text) ∧
      (signatures = file.functions.map FunctionDeclaration.signature ↔
        ∀ f ∈ file.functions, f.IsClear) := by
  refine ⟨_, signaturesOf_text e file, ?_, ?_, ?_⟩
  · rw [← text_bareFile, signaturesOf_text, functions_bareFile]
  · rw [List.map_map]
    rfl
  · rw [List.map_inj_left]
    exact forall₂_congr fun f _ => signature_functionOf_iff

example : signaturesOf
    ("/* func A() \x7b\x7d */\r\npackage p\r\n// func A() \x7b\x7d\r\n" ++
      "func B() \x7b\r\n\t_ = \x60func A() \x7b\x7d\x60\r\n\x7d\r\n" ++
      "func (r R) C() \x7b\x7d\r\nvar d = func() \x7b\x7d\r\n").toList =
    .ok [⟨"B".toList, [], []⟩] := by
  decide +kernel

end Signatures

end RpcSchema.SurroundedReading
