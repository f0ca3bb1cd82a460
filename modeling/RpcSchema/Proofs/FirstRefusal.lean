import RpcSchema.Proofs.MessageFields

/-! # The first refusal

Signatures are refused for the first of them that is exported and has a type that cannot be
sent, and this one for the first such type, its parameters before its results. -/
namespace RpcSchema.FirstRefusal
open Signature

section Lists

variable {α : Type}

/-- The first item of a list with a property. -/
def FirstIn (bad : α → Prop) (as : List α) (a : α) : Prop :=
  ∃ before after, as = before ++ a :: after ∧ (∀ b ∈ before, ¬bad b) ∧ bad a

variable {bad : α → Prop} {a b : α} {as : List α}

theorem FirstIn.mem_and (h : FirstIn bad as a) : a ∈ as ∧ bad a := by
  obtain ⟨before, after, rfl, -, ha⟩ := h
  exact ⟨List.mem_append_cons_self, ha⟩

theorem firstIn_cons : FirstIn bad (a :: as) b ↔ bad a ∧ b = a ∨ ¬bad a ∧ FirstIn bad as b := by
  constructor
  · rintro ⟨before, after, has, hbefore, hb⟩
    cases before with
    | nil =>
      obtain ⟨rfl, -⟩ := List.cons.inj has
      exact .inl ⟨hb, rfl⟩
    | cons c before =>
      obtain ⟨rfl, rfl⟩ := List.cons.inj has
      obtain ⟨ha, hbefore⟩ := List.forall_mem_cons.1 hbefore
      exact .inr ⟨ha, before, after, rfl, hbefore, hb⟩
  · rintro (⟨hb, rfl⟩ | ⟨ha, before, after, rfl, hbefore, hb⟩)
    · exact ⟨[], as, rfl, by simp, hb⟩
    · exact ⟨a :: before, after, rfl, List.forall_mem_cons.2 ⟨ha, hbefore⟩, hb⟩

@[simp] theorem not_firstIn_nil : ¬FirstIn bad [] a := by
  rintro ⟨before, after, h, -⟩
  cases before <;> cases h

theorem exists_firstIn_iff : (∃ a, FirstIn bad as a) ↔ ∃ a ∈ as, bad a := by
  induction as with
  | nil => simp
  | cons a as ih =>
    by_cases ha : bad a
    · simp [firstIn_cons, ha]
    · simp [firstIn_cons, ha, ih]

end Lists

section Types

/-- The first type of a signature that cannot be sent. Parameters have to be scalars; results
can be arrays as well. -/
inductive FirstType (s : Signature) : ValueType → Prop
  | parameter {p : Parameter} (h : FirstIn (·.type.isScalar = false) s.parameters p) :
      FirstType s p.type
  | result {r : ValueType} (hparameters : ∀ p ∈ s.parameters, p.type.isScalar = true)
      (h : FirstIn (·.isUnsupported = true) s.results r) : FirstType s r

/-- An exported signature with a type that cannot be sent. -/
def Offends (s : Signature) : Prop :=
  s.isExported = true ∧
    ((∃ p ∈ s.parameters, p.type.isScalar = false) ∨ ∃ r ∈ s.results, r.isUnsupported = true)

/-- What a list of signatures is refused with. -/
inductive Refusal (signatures : List Signature) : UnsupportedType → Prop
  | first {s : Signature} {type : ValueType} (hs : FirstIn Offends signatures s)
      (htype : FirstType s type) : Refusal signatures ⟨s.name, type.sourceText⟩

/-- The refusal of one signature by itself. -/
def RefusedWith (s : Signature) (e : UnsupportedType) : Prop :=
  s.isExported = true ∧ ∃ type, FirstType s type ∧ e = ⟨s.name, type.sourceText⟩

variable {s : Signature} {e : UnsupportedType} {before after signatures : List Signature}

theorem exists_firstType_iff :
    (∃ type, FirstType s type) ↔
      (∃ p ∈ s.parameters, p.type.isScalar = false) ∨ ∃ r ∈ s.results, r.isUnsupported = true := by
  rw [← exists_firstIn_iff, ← exists_firstIn_iff]
  constructor
  · rintro ⟨type, h | ⟨-, h⟩⟩
    · exact .inl ⟨_, h⟩
    · exact .inr ⟨_, h⟩
  · rintro (⟨p, h⟩ | ⟨r, h⟩)
    · exact ⟨_, .parameter h⟩
    · by_cases hp : ∃ p ∈ s.parameters, p.type.isScalar = false
      · obtain ⟨p, hp⟩ := exists_firstIn_iff.2 hp
        exact ⟨_, .parameter hp⟩
      · exact ⟨_, .result (by simpa using hp) h⟩

theorem offends_iff : Offends s ↔ ∃ e, RefusedWith s e := by
  unfold Offends RefusedWith
  rw [← exists_firstType_iff]
  constructor
  · rintro ⟨hs, type, htype⟩
    exact ⟨_, hs, type, htype, rfl⟩
  · rintro ⟨e, hs, type, htype, -⟩
    exact ⟨hs, type, htype⟩

theorem not_refusal_nil : ¬Refusal [] e := by
  rintro ⟨hs, -⟩
  exact not_firstIn_nil hs

theorem refusal_cons :
    Refusal (s :: signatures) e ↔ RefusedWith s e ∨ ¬Offends s ∧ Refusal signatures e := by
  constructor
  · rintro ⟨hs, htype⟩
    rcases firstIn_cons.1 hs with ⟨ho, rfl⟩ | ⟨ho, hs⟩
    · exact .inl ⟨ho.1, _, htype, rfl⟩
    · exact .inr ⟨ho, .first hs htype⟩
  · rintro (h | ⟨ho, ⟨hs, htype⟩⟩)
    · have ho := offends_iff.2 ⟨e, h⟩
      obtain ⟨-, type, htype, rfl⟩ := h
      exact .first (firstIn_cons.2 (.inl ⟨ho, rfl⟩)) htype
    · exact .first (firstIn_cons.2 (.inr ⟨ho, hs⟩)) htype

theorem exists_refusal_iff : (∃ e, Refusal signatures e) ↔ ∃ s ∈ signatures, Offends s := by
  rw [← exists_firstIn_iff]
  constructor
  · rintro ⟨e, ⟨hs, -⟩⟩
    exact ⟨_, hs⟩
  · rintro ⟨s, hs⟩
    obtain ⟨e, -, type, htype, -⟩ := offends_iff.1 hs.mem_and.2
    exact ⟨_, .first hs htype⟩

/-- Signatures that are not exported are passed over. -/
theorem refusal_filter : Refusal (signatures.filter isExported) e ↔ Refusal signatures e := by
  induction signatures with
  | nil => rfl
  | cons s signatures ih =>
    cases hs : s.isExported with
    | true => rw [List.filter_cons_of_pos hs, refusal_cons, refusal_cons, ih]
    | false =>
      have ho : ¬Offends s := by simp [Offends, hs]
      have hr : ¬RefusedWith s e := by simp [RefusedWith, hs]
      rw [List.filter_cons_of_neg (by simp [hs]), refusal_cons, ih]
      simp [ho, hr]

/-- Behind a signature that offends nothing matters. -/
theorem refusal_append (h : Offends s) :
    Refusal (before ++ s :: after) e ↔ Refusal (before ++ [s]) e := by
  induction before with
  | nil => simp [refusal_cons, h]
  | cons u before ih => rw [List.cons_append, List.cons_append, refusal_cons, refusal_cons, ih]

end Types

section Messages

variable {s : Signature} {e : UnsupportedType} {naming : ReplyNaming}

section Numbered

variable {α : Type} {field : Nat → α → Except UnsupportedType Field} {bad : α → Prop}
  {report : α → UnsupportedType}

theorem numbered_error_iff (hfield : ∀ n a e, field n a = .error e ↔ bad a ∧ e = report a)
    (n : Nat) (as : List α) :
    numbered field n as = .error e ↔ ∃ a, FirstIn bad as a ∧ e = report a := by
  induction as generalizing n with
  | nil => simp [numbered]
  | cons a as ih =>
    unfold numbered
    cases hf : field n a with
    | error e' =>
      obtain ⟨ha, rfl⟩ := (hfield n a e').1 hf
      simp [firstIn_cons, ha, eq_comm]
    | ok f =>
      have ha : ¬bad a := fun ha => by simp [(hfield n a _).2 ⟨ha, rfl⟩] at hf
      have hrest := ih (n + 1)
      cases hn : numbered field (n + 1) as with
      | error e' => simpa [firstIn_cons, ha, hn, Except.map] using hrest
      | ok fs => simpa [firstIn_cons, ha, hn, Except.map] using hrest

/-- A message that is written under a condition only. -/
private theorem conditional_error_iff
    (hfield : ∀ n a e, field n a = .error e ↔ bad a ∧ e = report a) (c : Bool) (name : Text)
    (as : List α) :
    (if c && !as.isEmpty then (numbered field 1 as).map fun fs => some (Message.mk name fs)
      else .ok none) = .error e ↔ c = true ∧ ∃ a, FirstIn bad as a ∧ e = report a := by
  have hnumbered := numbered_error_iff (e := e) hfield 1 as
  cases c with
  | false => simp
  | true =>
    cases as with
    | nil => simp
    | cons a as =>
      rw [← hnumbered]
      cases numbered field 1 (a :: as) <;> simp [Except.map]

end Numbered

theorem requestField_error_iff (n : Nat) (p : Parameter) :
    s.requestField n p = .error e ↔
      p.type.isScalar = false ∧ e = ⟨s.name, p.type.sourceText⟩ := by
  obtain ⟨name, type⟩ := p
  cases type <;> simp [requestField, ValueType.isScalar, eq_comm]

theorem replyField_error_iff (n : Nat) (r : ValueType) :
    s.replyField naming n r = .error e ↔
      r.isUnsupported = true ∧ e = ⟨s.name, r.sourceText⟩ := by
  cases r <;> simp [replyField, ValueType.isUnsupported, ValueType.sourceText, eq_comm]

theorem requestMessage_error_iff :
    s.requestMessage = .error e ↔ s.isExported = true ∧
      ∃ p, FirstIn (·.type.isScalar = false) s.parameters p ∧
        e = ⟨s.name, p.type.sourceText⟩ :=
  conditional_error_iff (fun n p _ => requestField_error_iff n p) _ _ _

theorem replyMessage_error_iff :
    s.replyMessage naming = .error e ↔ s.isExported = true ∧
      ∃ r, FirstIn (·.isUnsupported = true) s.results r ∧ e = ⟨s.name, r.sourceText⟩ :=
  conditional_error_iff (fun n r _ => replyField_error_iff n r) _ _ _

/-- A request is written if it is not asked for, or if all its parameters can be received. -/
theorem exists_requestMessage_iff :
    (∃ m, s.requestMessage = .ok m) ↔
      (s.isExported = true → ∀ p ∈ s.parameters, p.type.isScalar = true) := by
  have herror (e : UnsupportedType) := requestMessage_error_iff (s := s) (e := e)
  cases hq : s.requestMessage with
  | ok m =>
    refine iff_of_true ⟨m, rfl⟩ fun hs p hp => ?_
    cases hscalar : p.type.isScalar with
    | true => rfl
    | false =>
      obtain ⟨q, hfirst⟩ : ∃ q, FirstIn (·.type.isScalar = false) s.parameters q :=
        exists_firstIn_iff.2 ⟨p, hp, hscalar⟩
      simp [(herror _).2 ⟨hs, q, hfirst, rfl⟩] at hq
  | error e =>
    refine iff_of_false (by simp) fun hscalars => ?_
    obtain ⟨hs, q, hfirst, -⟩ := (herror e).1 hq
    obtain ⟨p, hp, hscalar⟩ := exists_firstIn_iff.1 ⟨q, hfirst⟩
    simp [hscalars hs p hp] at hscalar

/-- The reply is asked for behind a request that could be written. -/
private theorem messages_error :
    s.messages naming = .error e ↔ s.requestMessage = .error e ∨
      (∃ m, s.requestMessage = .ok m) ∧ s.replyMessage naming = .error e := by
  unfold messages
  cases s.requestMessage with
  | error e' => simp
  | ok request => cases s.replyMessage naming <;> simp

theorem messages_error_iff : s.messages naming = .error e ↔ RefusedWith s e := by
  rw [messages_error, requestMessage_error_iff, exists_requestMessage_iff, replyMessage_error_iff]
  constructor
  · rintro (⟨hs, p, hp, he⟩ | ⟨hscalars, hs, r, hr, he⟩)
    · exact ⟨hs, p.type, .parameter hp, he⟩
    · exact ⟨hs, r, .result (hscalars hs) hr, he⟩
  · rintro ⟨hs, type, hp | ⟨hscalars, hr⟩, he⟩
    · exact .inl ⟨hs, _, hp, he⟩
    · exact .inr ⟨fun _ => hscalars, hs, _, hr, he⟩

theorem messagesOf_error_iff {signatures : List Signature} :
    messagesOf naming signatures = .error e ↔ Refusal signatures e := by
  induction signatures with
  | nil => simp [messagesOf, not_refusal_nil]
  | cons s signatures ih =>
    have hs (e : UnsupportedType) : s.messages naming = .error e ↔ RefusedWith s e :=
      messages_error_iff
    rw [refusal_cons, offends_iff, ← ih]
    simp only [← hs]
    rw [messagesOf]
    cases s.messages naming with
    | error e' => simp
    | ok own => cases messagesOf naming signatures <;> simp [Except.map]

theorem render_error_iff {service : Text} {signatures : List Signature} :
    render service signatures naming = .error e ↔ Refusal signatures e := by
  have hmessages : messagesOf naming signatures = .error e ↔ Refusal signatures e :=
    messagesOf_error_iff
  rw [← hmessages, render]
  cases messagesOf naming signatures <;> simp [Except.map]

end Messages

/-- Signatures have no document just if one of them offends, and the refusal names the first
that does and its first type that cannot be sent. So it does not depend on the service or on
how results are named, nor on signatures that are not exported or stand further behind. -/
theorem refusal_determined (service : Text) (naming : ReplyNaming) (signatures : List Signature) :
    ((∃ e, render service signatures naming = .error e) ↔ ∃ s ∈ signatures, Offends s) ∧
    (∀ e, render service signatures naming = .error e ↔ Refusal signatures e) ∧
    (∀ e service' naming', render service signatures naming = .error e →
      render service' signatures naming' = .error e) ∧
    ∀ before s after, signatures = before ++ s :: after → Offends s →
      ∀ before' after', before.filter isExported = before'.filter isExported →
        render service signatures naming = render service (before' ++ s :: after') naming := by
  refine ⟨?_, fun e => render_error_iff, fun e service' naming' h => ?_, ?_⟩
  · simp only [render_error_iff, exists_refusal_iff]
  · exact render_error_iff.2 (render_error_iff.1 h)
  · rintro before s after rfl ho before' after' hbefore
    obtain ⟨e, he⟩ : ∃ e, Refusal (before ++ s :: after) e :=
      exists_refusal_iff.2 ⟨s, List.mem_append_cons_self, ho⟩
    have he' : Refusal (before' ++ s :: after') e := by
      rw [refusal_append ho, ← refusal_filter] at he ⊢
      rwa [List.filter_append, ← hbefore, ← List.filter_append]
    rw [render_error_iff.2 he, render_error_iff.2 he']

end RpcSchema.FirstRefusal
