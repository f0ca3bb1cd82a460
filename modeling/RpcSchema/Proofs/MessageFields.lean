import RpcSchema.ProtoDocument

/-! # The fields of a message

The fields stand for the parameters or results of a function, one by one and in order. -/
namespace RpcSchema.MessageFields
open Signature

/-- The type that a field has on the wire. Types without a counterpart have no field. -/
def wireType : ValueType → Text
  | .scalar name => protoType name
  | .arrayOf element => protoType element
  | .unsupported source => source

def isRepeated : ValueType → Bool
  | .arrayOf _ => true
  | _ => false

/-- The names that stand on the wire for others. -/
def wireNames : List Text :=
  ["double".toList, "float".toList, "int32".toList, "uint32".toList]

/-- A name stays as it is or becomes one of four. -/
theorem of_protoType {P : Text → Prop} {name : Text} (hwire : ∀ t ∈ wireNames, P t)
    (h : P name) : P (protoType name) := by
  unfold protoType
  split
  · exact hwire _ (by decide)
  · split
    · exact hwire _ (by decide)
    · split
      · exact hwire _ (by decide)
      · split
        · exact hwire _ (by decide)
        · exact h

/-- What does not depend on the position is shown alike at every position. -/
theorem map_mapIdx {α β γ : Type} {g : Nat → α → β} {shown : β → γ} {k : α → γ}
    (hg : ∀ i a, shown (g i a) = k a) (as : List α) : (as.mapIdx g).map shown = as.map k := by
  apply List.ext_getElem
  · simp
  · intro i _ _
    simp [hg]

section Numbered

variable {α β : Type} {field : Nat → α → Except UnsupportedType Field}

theorem numbered_cons_ok {n : Nat} {a : α} {as : List α} {fields : List Field}
    (h : numbered field n (a :: as) = .ok fields) :
    ∃ f fs, field n a = .ok f ∧ numbered field (n + 1) as = .ok fs ∧ fields = f :: fs := by
  unfold numbered at h
  cases hf : field n a with
  | error e => simp [hf] at h
  | ok f =>
    cases hn : numbered field (n + 1) as with
    | error e => simp [hf, hn, Except.map] at h
    | ok fs =>
      simp only [hf, hn, Except.map, Except.ok.injEq] at h
      exact ⟨f, fs, rfl, rfl, h.symm⟩

/-- What each field shows of its item, the fields together show of all items. -/
theorem numbered_map {g : Field → β} {k : α → β}
    (hg : ∀ n a f, field n a = .ok f → g f = k a) {n : Nat} {as : List α} {fields : List Field}
    (h : numbered field n as = .ok fields) : fields.map g = as.map k := by
  induction as generalizing n fields with
  | nil => cases h; rfl
  | cons a as ih =>
    obtain ⟨f, fs, hf, hn, rfl⟩ := numbered_cons_ok h
    rw [List.map_cons, List.map_cons, hg n a f hf, ih hn]

/-- Each field is made of its item and the next number. -/
theorem numbered_eq_mapIdx {g : Nat → α → Field} (hg : ∀ n a f, field n a = .ok f → f = g n a)
    {n : Nat} {as : List α} {fields : List Field} (h : numbered field n as = .ok fields) :
    fields = as.mapIdx fun i a => g (n + i) a := by
  induction as generalizing n fields with
  | nil => cases h; rfl
  | cons a as ih =>
    obtain ⟨f, fs, hf, hn, rfl⟩ := numbered_cons_ok h
    have hnext (i : Nat) : n + 1 + i = n + (i + 1) := by omega
    rw [List.mapIdx_cons, hg n a f hf, ih hn]
    simp only [hnext]
    rfl

theorem numbered_forall {P : Field → Prop} {n : Nat} {as : List α} {fields : List Field}
    (hP : ∀ n, ∀ a ∈ as, ∀ f, field n a = .ok f → P f) (h : numbered field n as = .ok fields) :
    ∀ f ∈ fields, P f := by
  induction as generalizing n fields with
  | nil => cases h; simp
  | cons a as ih =>
    obtain ⟨f, fs, hf, hn, rfl⟩ := numbered_cons_ok h
    intro g hg
    rcases List.mem_cons.1 hg with rfl | hg
    · exact hP n a List.mem_cons_self _ hf
    · exact ih (fun n b hb => hP n b (List.mem_cons_of_mem a hb)) hn g hg

end Numbered

theorem requestField_ok {s : Signature} {n : Nat} {p : Parameter} {f : Field}
    (h : s.requestField n p = .ok f) :
    f = ⟨false, wireType p.type, p.name, n⟩ ∧ p.type.isUnsupported = false := by
  obtain ⟨name, type⟩ := p
  cases type with
  | scalar name => exact ⟨(Except.ok.inj h).symm, rfl⟩
  | arrayOf element => cases h
  | unsupported source => cases h

theorem replyField_ok {s : Signature} {naming : ReplyNaming} {n : Nat} {r : ValueType}
    {f : Field} (h : s.replyField naming n r = .ok f) :
    f = ⟨isRepeated r, wireType r, s.replyFieldName naming n, n⟩ ∧ r.isUnsupported = false := by
  cases r with
  | scalar name => exact ⟨(Except.ok.inj h).symm, rfl⟩
  | arrayOf element => exact ⟨(Except.ok.inj h).symm, rfl⟩
  | unsupported source => cases h

private theorem conditional_ok {c : Bool} {name : Text} {m : Option Message}
    {numbered : Except UnsupportedType (List Field)}
    (h : (if c then numbered.map fun fs => some ⟨name, fs⟩ else .ok none) = .ok m) :
    c = false ∧ m = none ∨
      c = true ∧ ∃ fields, numbered = .ok fields ∧ m = some ⟨name, fields⟩ := by
  cases c with
  | false => exact .inl ⟨rfl, (Except.ok.inj h).symm⟩
  | true =>
    cases numbered with
    | error e => cases h
    | ok fields => exact .inr ⟨rfl, fields, rfl, (Except.ok.inj h).symm⟩

/-- A request message has a field for each parameter. -/
theorem requestMessage_ok {s : Signature} {m : Option Message} (h : s.requestMessage = .ok m) :
    (s.isExported && !s.parameters.isEmpty) = false ∧ m = none ∨
      (s.isExported && !s.parameters.isEmpty) = true ∧
        ∃ fields, numbered s.requestField 1 s.parameters = .ok fields ∧
          m = some ⟨s.requestName, fields⟩ :=
  conditional_ok h

/-- A reply message has a field for each result. -/
theorem replyMessage_ok {s : Signature} {naming : ReplyNaming} {m : Option Message}
    (h : s.replyMessage naming = .ok m) :
    (s.isExported && !s.results.isEmpty) = false ∧ m = none ∨
      (s.isExported && !s.results.isEmpty) = true ∧
        ∃ fields, numbered (s.replyField naming) 1 s.results = .ok fields ∧
          m = some ⟨s.replyName, fields⟩ :=
  conditional_ok h

theorem fields_requestMessage {s : Signature} {m : Message}
    (h : s.requestMessage = .ok (some m)) :
    m.fields = s.parameters.mapIdx fun i p => ⟨false, wireType p.type, p.name, i + 1⟩ := by
  rcases requestMessage_ok h with ⟨-, hnone⟩ | ⟨-, fields, hfields, hm⟩
  · cases hnone
  · cases hm
    simp only [Nat.add_comm _ 1]
    exact numbered_eq_mapIdx (fun n p f hf => (requestField_ok hf).1) hfields

theorem fields_replyMessage {s : Signature} {naming : ReplyNaming} {m : Message}
    (h : s.replyMessage naming = .ok (some m)) :
    m.fields = s.results.mapIdx fun i r =>
      ⟨isRepeated r, wireType r, s.replyFieldName naming (i + 1), i + 1⟩ := by
  rcases replyMessage_ok h with ⟨-, hnone⟩ | ⟨-, fields, hfields, hm⟩
  · cases hnone
  · cases hm
    simp only [Nat.add_comm _ 1]
    exact numbered_eq_mapIdx (fun n r f hf => (replyField_ok hf).1) hfields

/-- The beginning of a message, up to its fields. -/
def header (m : Message) : Text := "\n\nmessage ".toList ++ m.name ++ " \x7b\n".toList

theorem text_eq_header (m : Message) :
    m.text = header m ++ m.fields.flatMap Field.text ++ ['\x7d'] :=
  rfl

theorem messages_ok {s : Signature} {naming : ReplyNaming} {own : List Message}
    (h : s.messages naming = .ok own) :
    ∃ request reply, s.requestMessage = .ok request ∧ s.replyMessage naming = .ok reply ∧
      own = request.toList ++ reply.toList := by
  unfold Signature.messages at h
  cases hq : s.requestMessage with
  | error e => simp [hq] at h
  | ok request =>
    cases hr : s.replyMessage naming with
    | error e => simp [hq, hr] at h
    | ok reply =>
      simp only [hq, hr, Except.ok.injEq] at h
      exact ⟨request, reply, rfl, rfl, h.symm⟩

theorem messagesOf_cons_ok {naming : ReplyNaming} {s : Signature} {signatures : List Signature}
    {messages : List Message} (h : messagesOf naming (s :: signatures) = .ok messages) :
    ∃ own others, s.messages naming = .ok own ∧ messagesOf naming signatures = .ok others ∧
      messages = own ++ others := by
  unfold messagesOf at h
  cases ho : s.messages naming with
  | error e => simp [ho] at h
  | ok own =>
    cases hm : messagesOf naming signatures with
    | error e => simp [ho, hm, Except.map] at h
    | ok others =>
      simp only [ho, hm, Except.map, Except.ok.injEq] at h
      exact ⟨own, others, rfl, rfl, h.symm⟩

/-- A property of the fields of single parameters and results, the fields of a document
have all together. -/
theorem messagesOf_forall {P : Field → Prop} {naming : ReplyNaming} {signatures : List Signature}
    {messages : List Message}
    (hrequest : ∀ s ∈ signatures, ∀ n, ∀ p ∈ s.parameters, ∀ f, s.requestField n p = .ok f → P f)
    (hreply : ∀ s ∈ signatures, ∀ n, ∀ r ∈ s.results, ∀ f, s.replyField naming n r = .ok f → P f)
    (h : messagesOf naming signatures = .ok messages) : ∀ m ∈ messages, ∀ f ∈ m.fields, P f := by
  induction signatures generalizing messages with
  | nil => cases h; simp
  | cons s signatures ih =>
    obtain ⟨own, others, ho, hm, rfl⟩ := messagesOf_cons_ok h
    obtain ⟨request, reply, hq, hr, rfl⟩ := messages_ok ho
    obtain ⟨hs, hrequest⟩ := List.forall_mem_cons.1 hrequest
    obtain ⟨hs', hreply⟩ := List.forall_mem_cons.1 hreply
    intro m hmem
    rcases List.mem_append.1 hmem with hmem | hmem
    · rcases List.mem_append.1 hmem with hmem | hmem
      · rcases requestMessage_ok hq with ⟨-, rfl⟩ | ⟨-, fields, hn, rfl⟩
        · cases hmem
        · obtain rfl := List.mem_singleton.1 hmem
          exact numbered_forall hs hn
      · rcases replyMessage_ok hr with ⟨-, rfl⟩ | ⟨-, fields, hn, rfl⟩
        · cases hmem
        · obtain rfl := List.mem_singleton.1 hmem
          exact numbered_forall hs' hn
    · exact ih hrequest hreply hm m hmem

theorem render_ok {service document : Text} {naming : ReplyNaming} {signatures : List Signature}
    (h : render service signatures naming = .ok document) :
    ∃ messages, messagesOf naming signatures = .ok messages ∧
      document = assemble service (signatures.map method) (messages.map Message.text) := by
  unfold render at h
  cases hm : messagesOf naming signatures with
  | error e => simp [hm, Except.map] at h
  | ok messages =>
    simp only [hm, Except.map, Except.ok.injEq] at h
    exact ⟨messages, rfl, h.symm⟩

end RpcSchema.MessageFields
