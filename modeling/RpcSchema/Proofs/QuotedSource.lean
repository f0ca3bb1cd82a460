import RpcSchema.Proofs.FlattenedLists
import RpcSchema.Proofs.ParameterGroups
import RpcSchema.Proofs.PlainNames
import RpcSchema.Proofs.ReaderOutcome
import Mathlib.Data.List.TakeWhile

/-! # Signatures quote their source

Every name in a signature is an identifier, and every text in it is a piece of the
source, but for the names of parameters that the source does not name. The types and
parameters that readers yield have this property at every depth of nesting, since readers
of nested constructs are built from readers that have it. -/
namespace RpcSchema.QuotedSource
open Reader GoLexeme FlattenedLists ParameterGroups PlainNames ReaderRun ReaderOutcome

variable {source : Text}

/-- An identifier that stands in the source. -/
def Word (source name : Text) : Prop := IsIdentifier name ∧ name <:+: source

section Lexemes

theorem nextTrivia_comment {lineEnds : Bool} {s comment r : Text}
    (h : nextTrivia lineEnds s = some (some comment, r)) : comment <:+: s := by
  unfold nextTrivia at h
  split at h
  · next t =>
    cases h
    exact List.IsPrefix.isInfix
      (List.prefix_append_right_inj ['/', '/'] |>.2 (List.take_prefix _ t))
  · next t =>
    split at h
    · cases h
    · cases h
      exact List.IsPrefix.isInfix
        (List.prefix_append_right_inj ['/', '*'] |>.2 (List.take_prefix _ t))
  · split at h <;> cases h
  · cases h

theorem trivia_comments (lineEnds : Bool) (s : Text) :
    ∀ c ∈ (trivia lineEnds s).1, c <:+: s := by
  fun_induction trivia lineEnds s with
  | case1 => simp
  | case2 s comment r h _ next ih =>
    obtain ⟨d, t, rfl, ht⟩ := nextTrivia_suffix h
    intro c hc
    rcases List.mem_append.1 hc with hc | hc
    · obtain rfl := Option.mem_toList.1 hc
      exact nextTrivia_comment h
    · exact (ih c hc).trans (ht.trans (List.suffix_cons d t)).isInfix

/-- Blanks and comments are read over at once. -/
theorem nextTrivia_trivia (lineEnds : Bool) (s : Text) :
    nextTrivia lineEnds (trivia lineEnds s).2 = none := by
  fun_induction trivia lineEnds s with
  | case1 s h => exact h
  | case2 s comment r h _ next ih => exact ih

theorem yields_comments (lineEnds : Bool) :
    Yields source (comments lineEnds) fun cs => ∀ c ∈ cs, c <:+: source := by
  intro s cs r hs hr c hc
  have ht : (trivia lineEnds s).1 = cs := congrArg Prod.fst (Option.some.inj hr)
  exact (trivia_comments lineEnds s c (ht ▸ hc)).trans hs.isInfix

theorem yields_lexeme {α : Type} {p : Reader α} {P : α → Prop} (lineEnds : Bool)
    (h : Yields source p P) : Yields source (lexeme lineEnds p) P :=
  Yields.after fun _ => h

theorem yields_identifier : Yields source identifier (Word source) := by
  intro s w r hs hr
  cases s with
  | nil => cases hr
  | cons c s =>
    change (if _ then some (c :: s.takeWhile _, s.dropWhile _) else none) = some (w, r) at hr
    split at hr
    · next hc =>
      obtain ⟨rfl, -⟩ := Prod.mk.inj (Option.some.inj hr)
      refine ⟨⟨hc, fun d hd => ?_⟩, ?_⟩
      · exact List.mem_takeWhile_imp hd
      · have hp := (List.prefix_cons_inj c).2
          (List.takeWhile_prefix (l := s) IdentifierCharacter.isContinue)
        exact hp.isInfix.trans hs.isInfix
    · cases hr

theorem yields_word (lineEnds : Bool) : Yields source (word lineEnds) (Word source) :=
  yields_lexeme lineEnds yields_identifier

theorem yields_name (lineEnds : Bool) (reserved : List Text) :
    Yields source (name lineEnds reserved) (Word source) :=
  Yields.bind (yields_word lineEnds) fun _ hw => Yields.after fun _ => Yields.pure hw

end Lexemes

section Nodes

/-- The names in a type are words of the source, and its pieces are pieces of it. -/
def TypeQuoted (source : Text) : TypeNode → Prop
  | .name n => Word source n
  | .generic _ s => s <:+: source
  | .list element s => TypeQuoted source element ∧ s <:+: source
  | .prefixed _ s => s <:+: source
  | .parenthesized comment inner s =>
    (∀ c ∈ comment, c <:+: source) ∧ TypeQuoted source inner ∧ s <:+: source
  | .other s => s <:+: source

/-- The names and pieces in a parameter stand in the source, and its type has a property. -/
def ParameterQuoted (source : Text) (P : TypeNode → Prop) : ParameterNode → Prop
  | .comment _ => True
  | .declaration names type => (∀ n ∈ names, Word source n) ∧ P type
  | .variadic name s => (∀ n ∈ name, Word source n) ∧ s <:+: source

def ResultsQuoted (source : Text) (P : TypeNode → Prop) : ResultNode → Prop
  | .none => True
  | .list elements => ∀ e ∈ elements, ParameterQuoted source P e
  | .single type => P type

structure FunctionQuoted (source : Text) (P : TypeNode → Prop) (f : FunctionNode) : Prop where
  name : Word source f.name
  parameters : ∀ p ∈ f.parameters, ParameterQuoted source P p
  results : ResultsQuoted source P f.results

/-- The nested readers yield types with a property, and parameters that are quoted. -/
structure Quotes (source : Text) (P : TypeNode → Prop) (g : Nested) : Prop where
  type : ∀ lineEnds, Yields source (g.type lineEnds) P
  parameters : Yields source g.parameters fun nodes => ∀ n ∈ nodes, ParameterQuoted source P n

end Nodes

section Types

variable {g : Nested}

/-- What a reader yields that still has to be told which piece of the text it read. -/
def Completed (source : Text) (f : Text → TypeNode) : Prop :=
  ∀ piece, piece <:+: source → TypeQuoted source (f piece)

/-- A type of which its piece of the text is kept and no part is looked into. -/
def Unopened (f : Text → TypeNode) : Prop :=
  ∀ piece, match f piece with
    | .generic _ s | .prefixed _ s | .other s => s = piece
    | _ => False

theorem Unopened.completed {f : Text → TypeNode} (h : Unopened f) : Completed source f := by
  intro piece hpiece
  have hf := h piece
  cases hpieces : f piece <;> simp only [hpieces] at hf
  all_goals exact hf ▸ hpiece

theorem yields_functionType (lineEnds : Bool) :
    Yields source (GoTypes.functionType g lineEnds) Unopened := by
  refine Yields.after fun _ => Yields.after fun results => ?_
  split
  · exact Yields.pure fun _ => rfl
  · exact Yields.pure fun _ => rfl

/-- A type that ends in another one. -/
theorem yields_prefixed (p : Reader TypeNode) :
    Yields source (do return .prefixed (← p)) Unopened :=
  Yields.after fun _ => Yields.pure fun _ => rfl

theorem yields_mapType (lineEnds : Bool) :
    Yields source (GoTypes.mapType g lineEnds) Unopened :=
  Yields.after fun _ => Yields.after fun _ => Yields.after fun _ => yields_prefixed _

theorem yields_channelType (lineEnds : Bool) :
    Yields source (GoTypes.channelType g lineEnds) Unopened :=
  Yields.after fun _ => yields_prefixed _

theorem yields_bodyType (p : Reader Unit) :
    Yields source (do p; return .other) Unopened :=
  Yields.after fun _ => Yields.pure fun _ => rfl

theorem yields_tildeType (lineEnds : Bool) :
    Yields source (do
      let last ← g.type lineEnds
      match ← (GoTypes.typeArguments g lineEnds).optional with
      | some plain => return .generic plain
      | none => return .prefixed last) Unopened := by
  refine Yields.after fun last => Yields.after fun arguments => ?_
  cases arguments <;> exact Yields.pure fun _ => rfl

theorem takes_arrayLength :
    Takes (GoTypes.arrayLength g) fun piece _ => ∃ length, piece = length ++ [']'] := by
  have hsymbol : Takes (symbol false [']']) fun piece _ => ∃ length, piece = length ++ [']'] :=
    Takes.bind (Takes.any _) fun u _ _ => (Takes.exactly _).imp fun v _ hv => ⟨u, hv ▸ rfl⟩
  refine Takes.orElse hsymbol (Takes.bind (Takes.any _) fun u _ _ =>
    Takes.bind (Takes.any _) fun v _ _ => hsymbol.imp fun w _ hw => ?_)
  obtain ⟨length, rfl⟩ := hw
  exact ⟨u ++ (v ++ length), by simp⟩

/-- What the reader of types reads from `s` up to `r`, as far as it is kept. -/
inductive BodyRun (g : Nested) (lineEnds : Bool) (s r : Text) : (Text → TypeNode) → Prop
  | unopened {f : Text → TypeNode} (h : Unopened f) : BodyRun g lineEnds s r f
  | name {n : Text} (hn : (name false typeWords).run s = some (n, r)) :
      BodyRun g lineEnds s r fun _ => .name n
  | parenthesized {before : List Text} {inner : TypeNode} {t u v : Text} (hs : s = '(' :: t)
      (hbefore : (comments false).run t = some (before, u))
      (hinner : (g.type false).run u = some (inner, v)) :
      BodyRun g lineEnds s r (.parenthesized before.head? inner)
  | list {length t : Text} {element : TypeNode} (hs : s = '[' :: length ++ ']' :: t)
      (helement : (g.type lineEnds).run t = some (element, r)) :
      BodyRun g lineEnds s r (.list element)

variable {lineEnds : Bool} {s r : Text} {f : Text → TypeNode}

theorem bodyRun_of_yields {p : Reader (Text → TypeNode)} (hp : Yields s p Unopened)
    (h : p.run s = some (f, r)) : BodyRun g lineEnds s r f :=
  .unopened (hp s f r (List.suffix_refl s) h)

theorem bodyRun_namedType (h : (GoTypes.namedType g lineEnds).run s = some (f, r)) :
    BodyRun g lineEnds s r f := by
  obtain ⟨own, t, hname, h⟩ := exists_of_run_bind h
  obtain ⟨member, u, hmember, h⟩ := exists_of_run_bind h
  obtain ⟨arguments, v, harguments, h⟩ := exists_of_run_bind h
  obtain ⟨rfl, rfl⟩ := Prod.mk.inj (Option.some.inj h)
  obtain ⟨piece, rfl, hpiece⟩ := Takes.optional _ _ _ _ hmember
  obtain ⟨piece', rfl, hpiece'⟩ := Takes.optional _ _ _ _ harguments
  cases arguments with
  | some plain => exact .unopened fun _ => rfl
  | none =>
    cases member with
    | some m => exact .unopened fun _ => rfl
    | none =>
      -- neither a member nor arguments: the name is all that was taken off
      obtain rfl := hpiece rfl
      obtain rfl := hpiece' rfl
      exact .name hname

theorem bodyRun_wordType (h : (GoTypes.wordType g lineEnds).run s = some (f, r)) :
    BodyRun g lineEnds s r f := by
  have hkeyword {p : Reader (Text → TypeNode)} {w : Text} (hp : Yields s p Unopened)
      (h : (keyword false w >>= fun _ => p).run s = some (f, r)) : BodyRun g lineEnds s r f :=
    bodyRun_of_yields (Yields.after fun _ => hp) h
  unfold GoTypes.wordType at h
  simp only [run_orElse, Option.or_eq_some_iff] at h
  obtain h | ⟨-, h | ⟨-, h | ⟨-, h | ⟨-, h | ⟨-, h⟩⟩⟩⟩⟩ := h
  · exact hkeyword (yields_functionType lineEnds) h
  · exact hkeyword (yields_mapType lineEnds) h
  · exact hkeyword (yields_channelType lineEnds) h
  · exact hkeyword (yields_bodyType _) h
  · exact hkeyword (yields_bodyType _) h
  · exact bodyRun_namedType h

theorem bodyRun_typeBody (h : (GoTypes.typeBody g lineEnds).run s = some (f, r)) :
    BodyRun g lineEnds s r f := by
  obtain ⟨next, s, hfront, h⟩ := exists_of_run_bind h
  obtain ⟨-, rfl⟩ := Prod.mk.inj (Option.some.inj hfront)
  split at h
  · exact bodyRun_of_yields (Yields.after fun _ => yields_prefixed _) h
  · exact bodyRun_of_yields (Yields.after fun _ => yields_tildeType lineEnds) h
  · exact bodyRun_of_yields (Yields.after fun _ => Yields.after fun _ => yields_prefixed _) h
  · obtain ⟨_, t, hopen, h⟩ := exists_of_run_bind h
    obtain ⟨before, u, hbefore, h⟩ := exists_of_run_bind h
    obtain ⟨inner, v, hinner, h⟩ := exists_of_run_bind h
    obtain ⟨_, w, -, h⟩ := exists_of_run_bind h
    obtain ⟨rfl, rfl⟩ := Prod.mk.inj (Option.some.inj h)
    obtain ⟨piece, rfl, rfl⟩ := Takes.exactly _ _ _ _ hopen
    exact .parenthesized rfl hbefore hinner
  · obtain ⟨_, t, hopen, h⟩ := exists_of_run_bind h
    obtain ⟨_, u, hlength, h⟩ := exists_of_run_bind h
    obtain ⟨element, v, helement, h⟩ := exists_of_run_bind h
    obtain ⟨rfl, rfl⟩ := Prod.mk.inj (Option.some.inj h)
    obtain ⟨piece, rfl, rfl⟩ := Takes.exactly _ _ _ _ hopen
    obtain ⟨piece', rfl, length, rfl⟩ := takes_arrayLength _ _ _ hlength
    have hs : ['['] ++ (length ++ [']'] ++ u) = '[' :: length ++ ']' :: u := by simp
    exact .list hs helement
  · exact bodyRun_wordType h

theorem yields_typeBody (htype : ∀ lineEnds, Yields source (g.type lineEnds) (TypeQuoted source))
    (lineEnds : Bool) :
    Yields source (GoTypes.typeBody g lineEnds) (Completed source) := by
  intro s f r hs hr
  cases bodyRun_typeBody hr with
  | unopened h => exact h.completed
  | name hn => exact fun _ _ => yields_name false typeWords _ _ _ hs hn
  | @parenthesized before inner t u v ht hbefore hinner =>
    have hsuffix : t <:+ s := ht ▸ List.suffix_cons '(' t
    have hin : t <:+ source := hsuffix.trans hs
    have hcomments := yields_comments false _ _ _ hin hbefore
    have htypeIn := htype false _ _ _ (((comments false).suffix hbefore).trans hin) hinner
    exact fun piece hpiece =>
      -- the comment in front of the type in parentheses is kept with it
      ⟨fun c hc => hcomments c (List.mem_of_mem_head? hc), htypeIn, hpiece⟩
  | @list length t element ht helement =>
    have hsuffix : t <:+ s := ⟨'[' :: length ++ [']'], by simp [ht]⟩
    have hin : t <:+ source := hsuffix.trans hs
    exact fun piece hpiece => ⟨htype lineEnds _ _ _ hin helement, hpiece⟩

theorem yields_type (htype : ∀ lineEnds, Yields source (g.type lineEnds) (TypeQuoted source))
    (lineEnds : Bool) : Yields source (GoTypes.type g lineEnds) (TypeQuoted source) :=
  Yields.bind (yields_lexeme false (Yields.captured (yields_typeBody htype lineEnds)))
    fun x hx => Yields.pure (hx.2 x.1 hx.1)

/-- Quoting is kept by every level of nesting. -/
theorem typeQuoted_upTo (source : Text) (n : Nat) (lineEnds : Bool) :
    Yields source ((Nested.upTo n).type lineEnds) (TypeQuoted source) := by
  induction n generalizing lineEnds with
  | zero => exact Yields.fail
  | succ n ih => exact yields_type ih lineEnds

end Types

section Parameters
open GoParameters

variable {g : Nested} {P : TypeNode → Prop}

def EntryQuoted (source : Text) (P : TypeNode → Prop) : GoParameters.Entry → Prop
  | .comment _ => True
  | .bare w => Word source w
  | .named w type => Word source w ∧ P type
  | .typed type => P type
  | .variadic name s => (∀ n ∈ name, Word source n) ∧ s <:+: source

theorem yields_variadic : Yields source (variadic g) (EntryQuoted source P) := by
  refine Yields.bind (P := fun x => x.1 <:+: source ∧ ∀ n ∈ x.2, Word source n) ?_
    fun x hx => Yields.pure ⟨hx.2, hx.1⟩
  refine Yields.captured (P := fun o => ∀ n ∈ o, Word source n)
    (Yields.bind (yields_name false typeWords).optional fun n hn => ?_)
  exact Yields.after fun _ => Yields.after fun _ => Yields.pure hn

theorem yields_nameEntry (htype : ∀ lineEnds, Yields source (g.type lineEnds) P)
    (reserved : List Text) : Yields source (nameEntry g reserved) (EntryQuoted source P) := by
  refine Yields.bind (yields_name false reserved) fun w hw => ?_
  refine Yields.after fun _ => Yields.after fun _ => Yields.after fun _ => ?_
  refine Yields.ite (Yields.pure hw) ?_
  refine Yields.bind (htype false) fun type ht => ?_
  exact Yields.after fun _ => Yields.after fun _ => Yields.pure ⟨hw, ht⟩

theorem yields_typeEntry (htype : ∀ lineEnds, Yields source (g.type lineEnds) P) :
    Yields source (typeEntry g) (EntryQuoted source P) :=
  Yields.after fun _ => Yields.after fun _ => Yields.bind (htype false) fun _ h => Yields.pure h

theorem yields_commented (htype : ∀ lineEnds, Yields source (g.type lineEnds) P)
    (afterBare : Bool) :
    Yields source (commented g afterBare) fun x => ∀ e ∈ x.1, EntryQuoted source P e := by
  have hentry : Yields source (entry g afterBare) (EntryQuoted source P) :=
    Yields.orElse yields_variadic
      (Yields.orElse (yields_nameEntry htype _) (yields_typeEntry htype))
  refine Yields.after fun before => Yields.bind hentry fun e he => Yields.after fun after => ?_
  refine Yields.pure fun x hx => ?_
  rcases List.mem_append.1 hx with hx | hx
  · obtain ⟨c, -, rfl⟩ := List.mem_map.1 hx
    exact trivial
  · rcases List.mem_cons.1 hx with rfl | hx
    · exact he
    · obtain ⟨c, -, rfl⟩ := List.mem_map.1 hx
      exact trivial

theorem yields_entries (htype : ∀ lineEnds, Yields source (g.type lineEnds) P) :
    Yields source (entries g) fun es => ∀ e ∈ es, EntryQuoted source P e := by
  refine Yields.bind (yields_commented htype false) fun first hfirst => ?_
  refine Yields.bind (Yields.manyFrom (P := fun es => ∀ e ∈ es, EntryQuoted source P e)
    (fun b => Yields.after fun _ => yields_commented htype b) _) fun others hothers =>
    Yields.pure fun e he => ?_
  rcases List.mem_append.1 he with he | he
  · exact hfirst e he
  · obtain ⟨es, hes, he⟩ := List.mem_flatten.1 he
    exact hothers es hes e he

theorem quoted_ungrouped (hword : ∀ w, Word source w → P (.name w)) {e : GoParameters.Entry}
    (h : EntryQuoted source P e) : ∀ n ∈ ungrouped [e], ParameterQuoted source P n := by
  intro n hn
  obtain rfl := List.mem_singleton.1 hn
  cases e with
  | comment s => exact trivial
  | bare w => exact ⟨by simp, hword w h⟩
  | named w type => exact ⟨by simpa using h.1, h.2⟩
  | typed type => exact ⟨by simp, h⟩
  | variadic name s => exact h

theorem quoted_group (hword : ∀ w, Word source w → P (.name w))
    {entries : List GoParameters.Entry} (h : ∀ e ∈ entries, EntryQuoted source P e) :
    ∀ n ∈ group [] entries, ParameterQuoted source P n := by
  refine forall_group (fun e he => quoted_ungrouped hword he) (fun names w type hnames hw => ?_)
    (fun e he => absurd he List.not_mem_nil) h
  refine ⟨fun v hv => ?_, hw.2⟩
  rcases List.mem_append.1 hv with hv | hv
  · exact hnames v hv
  · exact List.mem_singleton.1 hv ▸ hw.1

/-- A word alone is a type, so what holds of types has to hold of words. -/
theorem yields_parameters (hword : ∀ w, Word source w → P (.name w))
    (htype : ∀ lineEnds, Yields source (g.type lineEnds) P) :
    Yields source (parameters g) fun nodes => ∀ n ∈ nodes, ParameterQuoted source P n := by
  refine Yields.after fun _ => Yields.bind (yields_entries htype).optional fun read hread => ?_
  refine Yields.after fun before => Yields.after fun _ => Yields.after fun after => ?_
  refine Yields.after fun _ => Yields.after fun _ => Yields.pure ?_
  refine quoted_group hword fun e he => ?_
  rcases List.mem_append.1 he with he | he
  · cases read with
    | none => cases he
    | some es => exact hread es rfl e he
  · obtain ⟨c, -, rfl⟩ := List.mem_map.1 he
    exact trivial

end Parameters

section Items
open GoStatements GoSourceFile

variable {g : Nested} {P : TypeNode → Prop}

/-- The function of an item, if it is one, is quoted. -/
def KindQuoted (source : Text) (P : TypeNode → Prop) : ItemKind → Prop
  | .function f => FunctionQuoted source P f
  | _ => True

def ItemQuoted (source : Text) (P : TypeNode → Prop) : Item → Prop
  | .comment _ => True
  | .code kind _ => KindQuoted source P kind

/-- A statement that begins with a word of its own is no function. -/
theorem yields_wordStatement (w : Text) :
    Yields source (wordStatement g w) fun x => KindQuoted source P x.1 := by
  refine Yields.after fun _ => ?_
  -- one choice for each of the words, the two that share one being `go` and `defer`
  iterate 11
    refine Yields.ite (Yields.after fun _ => Yields.pure trivial) ?_
  exact Yields.pure trivial

theorem yields_statement (place : StatementPlace) :
    Yields source (statement g place) fun x => KindQuoted source P x.1 := by
  refine Yields.after fun next => ?_
  split
  · exact Yields.after fun _ => Yields.pure trivial
  · exact Yields.after fun _ => Yields.pure trivial
  · refine Yields.after fun w => Yields.ite Yields.fail (Yields.ite (yields_wordStatement _) ?_)
    refine Yields.after fun isLabel => Yields.ite ?_ ?_
    · exact Yields.after fun _ => Yields.pure trivial
    · exact Yields.after fun _ => Yields.pure trivial

theorem yields_results (hg : Quotes source P g) (lineEnds : Bool) :
    Yields source (GoTypes.results g lineEnds) (ResultsQuoted source P) := by
  unfold GoTypes.results
  refine Yields.after fun next => ?_
  split
  · exact Yields.bind hg.parameters fun _ h => Yields.pure h
  · exact Yields.ite (Yields.bind (hg.type lineEnds) fun _ h => Yields.pure h)
      (Yields.pure trivial)
  · exact Yields.pure trivial

theorem yields_functionDeclaration (hg : Quotes source P g) :
    Yields source (functionDeclaration g) (KindQuoted source P) := by
  refine Yields.after fun _ => Yields.bind (yields_word false) fun name hname => ?_
  refine Yields.after fun _ => Yields.bind hg.parameters fun parameters hparameters => ?_
  refine Yields.bind (yields_results hg true) fun results hresults => Yields.after fun _ => ?_
  exact Yields.pure ⟨hname, hparameters, hresults⟩

theorem yields_declaration (hg : Quotes source P g) :
    Yields source (declaration g) (KindQuoted source P) := by
  refine Yields.orElse (Yields.after fun _ => Yields.after fun _ => Yields.pure trivial) ?_
  refine Yields.orElse (Yields.after fun _ => Yields.after fun _ => Yields.pure trivial) ?_
  refine Yields.orElse (yields_functionDeclaration hg) ?_
  exact Yields.after fun _ => Yields.after fun _ => Yields.after fun _ => Yields.after fun _ =>
    Yields.after fun _ => Yields.after fun _ => Yields.pure trivial

/-- Statements of the nested readers are no functions. -/
theorem yields_item (hg : Quotes source P g)
    (hstatement : ∀ place, Yields source (g.statement place) fun x => KindQuoted source P x.1) :
    Yields source (item g) fun items => ∀ i ∈ items, ItemQuoted source P i := by
  have hended : Yields source (endedDeclaration g <|> endedStatement g)
      fun x => KindQuoted source P x.1 := by
    refine Yields.orElse ?_ ?_
    · exact Yields.bind (yields_declaration hg) fun _ h => Yields.after fun _ =>
        Yields.after fun _ => Yields.pure h
    · exact Yields.after fun _ => Yields.after fun _ => Yields.bind (hstatement _) fun _ h =>
        Yields.after fun _ => Yields.after fun _ => Yields.pure h
  refine Yields.after fun before => Yields.after fun rest => Yields.bind hended fun x hx =>
    Yields.pure fun i hi => ?_
  rcases List.mem_append.1 hi with hi | hi
  · obtain ⟨c, -, rfl⟩ := List.mem_map.1 hi
    exact trivial
  · rcases List.mem_cons.1 hi with rfl | hi
    · exact hx
    · obtain ⟨c, -, rfl⟩ := List.mem_map.1 hi
      exact trivial

theorem quotes_upTo (hword : ∀ w, Word source w → P (.name w))
    (htype : ∀ n lineEnds, Yields source ((Nested.upTo n).type lineEnds) P) (n : Nat) :
    Quotes source P (Nested.upTo n) := by
  refine ⟨htype n, ?_⟩
  cases n with
  | zero => exact Yields.fail
  | succ n => exact yields_parameters hword (htype n)

theorem yields_statement_upTo (n : Nat) (place : StatementPlace) :
    Yields source ((Nested.upTo n).statement place) fun x => KindQuoted source P x.1 := by
  cases n with
  | zero => exact Yields.fail
  | succ n => exact yields_statement place

/-- What holds of comments and of the items read one by one holds of all items. -/
theorem yields_items {P : Item → Prop} (hitem : Yields source (item g) fun is => ∀ i ∈ is, P i)
    (hcomment : ∀ c, P (.comment c)) :
    Yields source (items g) fun found => ∀ i ∈ found, P i := by
  refine Yields.bind (Yields.many hitem) fun read hread => Yields.after fun last =>
    Yields.pure fun i hi => ?_
  rcases List.mem_append.1 hi with hi | hi
  · obtain ⟨is, his, hi⟩ := List.mem_flatten.1 hi
    exact hread is his i hi
  · obtain ⟨c, -, rfl⟩ := List.mem_map.1 hi
    exact hcomment c

theorem withoutMark_suffix (source : Text) : withoutMark source <:+ source := by
  unfold withoutMark
  split
  · exact List.suffix_cons _ _
  · exact List.suffix_refl _

theorem forall_read {P : Item → Prop} {found : List Item}
    (hitem : ∀ n, Yields source (item (Nested.upTo n)) fun is => ∀ i ∈ is, P i)
    (hcomment : ∀ c, P (.comment c)) (h : GoSourceFile.read source = some found) :
    ∀ i ∈ found, P i := by
  unfold GoSourceFile.read at h
  split at h
  · next hrun =>
    cases h
    exact yields_items (hitem _) hcomment _ _ _ (withoutMark_suffix source) hrun
  · cases h

/-- What holds of words and of all types that are read holds of the types in a file. -/
theorem read_quoted (hword : ∀ w, Word source w → P (.name w))
    (htype : ∀ n lineEnds, Yields source ((Nested.upTo n).type lineEnds) P) {items : List Item}
    (h : GoSourceFile.read source = some items) : ∀ i ∈ items, ItemQuoted source P i :=
  forall_read (fun n => yields_item (quotes_upTo hword htype n) (yields_statement_upTo n))
    (fun _ => trivial) h

end Items

section Signatures

/-- The names in a type are words of the source, and so is the text of a type that
cannot be sent. -/
def ValueQuoted (source : Text) : ValueType → Prop
  | .scalar name => Word source name
  | .arrayOf element => Word source element
  | .unsupported s => s <:+: source

/-- A parameter at a position bears the name that is declared for it, which stands in the
source; the one that is invented for the position it bears only where none is declared. -/
structure ParameterFits (source : Text) (position : Nat) (m : Member) (p : Parameter) : Prop where
  declared : ∀ n, m.name = some n → p.name = n ∧ Word source n
  invented : m.name = none → p.name = inventedName position
  type : p.type = m.type ∧ ValueQuoted source p.type

/-- The signature of a function has the parameters that are declared, in order. -/
structure SignatureQuoted (source : Text) (f : FunctionNode) (s : Signature) : Prop where
  name : s.name = f.name ∧ Word source s.name
  count : s.parameters.length = (flatten f.parameters).length
  parameter : ∀ i p, s.parameters[i]? = some p →
    ∃ m, (flatten f.parameters)[i]? = some m ∧ ParameterFits source (i + 1) m p
  result : ∀ r ∈ s.results, ValueQuoted source r

theorem valueQuoted_of_typeQuoted {t : TypeNode} (h : TypeQuoted source t) :
    ValueQuoted source t.valueType := by
  fun_induction TypeNode.valueType t with
  | case1 n => exact h
  | case2 n s => exact h.1
  | case3 comment inner s => exact h.1 comment rfl
  | case4 inner s ih => exact ih h.2.1
  | case5 plain s => exact h
  | case6 element s => exact h.2
  | case7 last s => exact h
  | case8 s => exact h

theorem quoted_of_mem_members {node : ParameterNode}
    (h : ParameterQuoted source (TypeQuoted source) node) {m : Member} (hm : m ∈ members node) :
    (∀ n, m.name = some n → Word source n) ∧ ValueQuoted source m.type := by
  cases node with
  | comment s => cases hm
  | declaration names type =>
    have htype := valueQuoted_of_typeQuoted h.2
    cases names with
    | nil =>
      obtain rfl := List.mem_singleton.1 hm
      exact ⟨nofun, htype⟩
    | cons n names =>
      obtain ⟨own, hown, rfl⟩ := List.mem_map.1 hm
      exact ⟨fun n hn => Option.some.inj hn ▸ h.1 own hown, htype⟩
  | variadic name s =>
    obtain rfl := List.mem_singleton.1 hm
    exact h

theorem fits_parameter {m : Member} (hname : ∀ n, m.name = some n → Word source n)
    (htype : ValueQuoted source m.type) (position : Nat) :
    ParameterFits source position m (m.parameter position) where
  declared n hn := ⟨by rw [Member.parameter, hn, Option.getD_some], hname n hn⟩
  invented hn := by rw [Member.parameter, hn, Option.getD_none]
  type := ⟨rfl, htype⟩

theorem valueQuoted_of_mem_results {node : ParameterNode}
    (h : ParameterQuoted source (TypeQuoted source) node) {r : ValueType}
    (hr : r ∈ node.results) : ValueQuoted source r := by
  cases node with
  | comment s => cases hr
  | declaration names type =>
    obtain rfl := List.eq_of_mem_replicate hr
    exact valueQuoted_of_typeQuoted h.2
  | variadic name s => cases hr

theorem FunctionQuoted.signature {f : FunctionNode}
    (h : FunctionQuoted source (TypeQuoted source) f) : SignatureQuoted source f f.signature where
  name := ⟨rfl, h.name⟩
  count := by rw [parameters_signature, List.length_mapIdx]
  parameter i p hp := by
    rw [parameters_signature, List.getElem?_mapIdx] at hp
    obtain ⟨m, hm, rfl⟩ := Option.map_eq_some_iff.1 hp
    obtain ⟨node, hnode, hmem⟩ := List.mem_flatMap.1 (List.mem_of_getElem? hm)
    obtain ⟨hname, htype⟩ := quoted_of_mem_members (h.parameters node hnode) hmem
    exact ⟨m, hm, fits_parameter hname htype (i + 1)⟩
  result r hr := by
    obtain ⟨name, parameters, results⟩ := f
    have hresults := h.results
    cases results with
    | none => cases hr
    | list elements =>
      obtain ⟨e, he, hr⟩ := List.mem_flatMap.1 hr
      exact valueQuoted_of_mem_results (hresults e he) hr
    | single type =>
      obtain rfl := List.mem_singleton.1 hr
      exact valueQuoted_of_typeQuoted hresults

/-- The types in a function have what all types have that are read. -/
theorem functions_quoted {P : TypeNode → Prop} (hword : ∀ w, Word source w → P (.name w))
    (htype : ∀ n lineEnds, Yields source ((Nested.upTo n).type lineEnds) P) :
    ∀ f ∈ functionsOf source, FunctionQuoted source P f := by
  intro f hf
  cases hread : GoSourceFile.read source with
  | none => simp [functionsOf, hread] at hf
  | some items =>
    rw [functionsOf, hread, Option.getD_some] at hf
    obtain ⟨item, hitem, hf⟩ := List.mem_filterMap.1 hf
    have hq := read_quoted hword htype hread item hitem
    split at hf
    · cases hf
      exact hq
    · cases hf

theorem signature_quoted : ∀ f ∈ functionsOf source, SignatureQuoted source f f.signature :=
  fun f hf => (functions_quoted (fun _ hw => hw) (typeQuoted_upTo source) f hf).signature

/-- The name in a type, if there is one. -/
def nameIn : ValueType → List Text
  | .scalar name => [name]
  | .arrayOf element => [element]
  | .unsupported _ => []

/-- All names in a signature: of the function, of its parameters and in its types. -/
def namesOf (s : Signature) : List Text :=
  s.name :: (s.parameters.flatMap fun p => p.name :: nameIn p.type) ++ s.results.flatMap nameIn

theorem isIdentifier_of_mem_nameIn {t : ValueType} (h : ValueQuoted source t) {n : Text}
    (hn : n ∈ nameIn t) : IsIdentifier n := by
  cases t with
  | scalar name => exact List.mem_singleton.1 hn ▸ h.1
  | arrayOf element => exact List.mem_singleton.1 hn ▸ h.1
  | unsupported s => cases hn

variable {f : FunctionNode} {s : Signature}

theorem ParameterFits.isIdentifier {position : Nat} {m : Member} {p : Parameter}
    (h : ParameterFits source position m p) : IsIdentifier p.name := by
  cases hname : m.name with
  | none => exact h.invented hname ▸ isIdentifier_inventedName position
  | some n =>
    obtain ⟨hp, hword⟩ := h.declared n hname
    exact hp ▸ hword.1

theorem SignatureQuoted.parameter_of_mem (h : SignatureQuoted source f s) {p : Parameter}
    (hp : p ∈ s.parameters) : IsIdentifier p.name ∧ ValueQuoted source p.type := by
  obtain ⟨i, hi⟩ := List.mem_iff_getElem?.1 hp
  obtain ⟨m, -, hfits⟩ := h.parameter i p hi
  exact ⟨hfits.isIdentifier, hfits.type.2⟩

theorem SignatureQuoted.isIdentifier (h : SignatureQuoted source f s) {n : Text}
    (hn : n ∈ namesOf s) : IsIdentifier n := by
  rcases List.mem_append.1 hn with hn | hn
  · rcases List.mem_cons.1 hn with rfl | hn
    · exact h.name.2.1
    · obtain ⟨p, hp, hn⟩ := List.mem_flatMap.1 hn
      have hq := h.parameter_of_mem hp
      rcases List.mem_cons.1 hn with rfl | hn
      · exact hq.1
      · exact isIdentifier_of_mem_nameIn hq.2 hn
  · obtain ⟨r, hr, hn⟩ := List.mem_flatMap.1 hn
    exact isIdentifier_of_mem_nameIn (h.result r hr) hn

/-- A word of the source, a name that a type holds and an invented name are all plain. -/
theorem SignatureQuoted.hasPlainNames (h : SignatureQuoted source f s) : HasPlainNames s := by
  have htype : ∀ {t}, ValueQuoted source t → HasPlainName t := by
    intro t ht
    cases t with
    | scalar name => exact ht.1.isPlain
    | arrayOf element => exact ht.1.isPlain
    | unsupported s => exact trivial
  refine ⟨h.name.2.1.isPlain, fun p hp => ?_, fun r hr => htype (h.result r hr)⟩
  have hq := h.parameter_of_mem hp
  exact ⟨hq.1.isPlain, htype hq.2⟩

theorem hasPlainNames_of_signaturesOf {signatures : List Signature}
    (h : signaturesOf source = .ok signatures) : ∀ s ∈ signatures, HasPlainNames s := by
  intro s hs
  rw [signatures_eq_map h] at hs
  obtain ⟨f, hf, rfl⟩ := List.mem_map.1 hs
  exact (signature_quoted f hf).hasPlainNames

/-- What is extracted from a source consists of identifiers and of pieces of the source. Only
parameters that the source does not name have an invented name, each for its position. -/
theorem signatures_quote_source {signatures : List Signature}
    (h : signaturesOf source = .ok signatures) :
    signatures = (functionsOf source).map FunctionNode.signature ∧
      ∀ f ∈ functionsOf source, SignatureQuoted source f f.signature ∧
        ∀ n ∈ namesOf f.signature,
          IsIdentifier n ∧ ∀ c ∈ n, c ∉ whiteSpace ∧ c ∉ punctuation := by
  refine ⟨signatures_eq_map h, fun f hf => ?_⟩
  have hq := signature_quoted f hf
  refine ⟨hq, fun n hn => ?_⟩
  have hid := hq.isIdentifier hn
  exact ⟨hid, fun c hc => hid.notMem hc⟩

/-- A blank, grouped and nameless parameters, and a result in parentheses. -/
def mixedSource : Text := "package p\nfunc F(_, b int, []T, *u) (x (error)) \x7b\x7d\n".toList

def mixedFunction : FunctionNode :=
  ⟨"F".toList, [.declaration ["_".toList, "b".toList] (.name "int".toList),
    .declaration [] (.list (.name "T".toList) "[]T".toList),
    .declaration [] (.prefixed (.name "u".toList) "*u".toList)],
    .list [.declaration ["x".toList] (.parenthesized none (.name "error".toList)
      "(error)".toList)]⟩

def mixedSignature : Signature :=
  ⟨"F".toList,
    [⟨"_".toList, .scalar "int".toList⟩, ⟨"b".toList, .scalar "int".toList⟩,
      ⟨"arg3".toList, .arrayOf "T".toList⟩, ⟨"arg4".toList, .unsupported "*u".toList⟩],
    [.scalar "error".toList]⟩

theorem signaturesOf_mixedSource : signaturesOf mixedSource = .ok [mixedSignature] := by
  decide +kernel

theorem signatures_quote_source_mixed :
    signaturesOf mixedSource = .ok [mixedSignature] ∧ functionsOf mixedSource = [mixedFunction] ∧
      SignatureQuoted mixedSource mixedFunction mixedFunction.signature ∧
      ∀ n ∈ namesOf mixedFunction.signature,
        IsIdentifier n ∧ ∀ c ∈ n, c ∉ whiteSpace ∧ c ∉ punctuation := by
  have hfunctions : functionsOf mixedSource = [mixedFunction] := by decide +kernel
  have hmem : mixedFunction ∈ functionsOf mixedSource := hfunctions ▸ List.mem_cons_self
  exact ⟨signaturesOf_mixedSource, hfunctions,
    (signatures_quote_source signaturesOf_mixedSource).2 mixedFunction hmem⟩

end Signatures

end RpcSchema.QuotedSource
