import RpcSchema.CommandArguments

/-! # Reading and settling arguments

Arguments are read from the front, with one equation for each way to read the first of them.
What they say is settled from the front, too: what can be added to the choices is added, and
the rest is settled with it. -/
namespace RpcSchema.ArgumentReading
open Occurrence

section Reading

variable {argument : Text}

theorem eq_of_readArgument (h : readArgument argument = .separator) :
    argument = ['-', '-'] := by
  have hlong (body : Text) : readLong body ≠ .separator := by
    unfold readLong
    grind
  have hshort (letter : Char) (rest : Text) : readShort letter rest ≠ .separator := by
    unfold readShort
    grind
  unfold readArgument at h
  split at h
  · rfl
  · exact absurd h (hlong _)
  · exact absurd h (hshort _ _)
  · cases h

theorem ofArguments_value (h : readArgument argument = .value) (rest : List Text) :
    ofArguments (argument :: rest) = prependPositional argument (ofArguments rest) := by
  rw [ofArguments, h]

theorem ofArguments_complete {o : Occurrence} (h : readArgument argument = .complete o)
    (rest : List Text) : ofArguments (argument :: rest) = o :: ofArguments rest := by
  rw [ofArguments, h]

/-- An option takes the next argument for its value, if that can be one. -/
theorem ofArguments_awaiting {o : ValueOption} {value : Text}
    (h : readArgument argument = .awaiting o) (hvalue : isValue value = true) (rest : List Text) :
    ofArguments (argument :: value :: rest) = .option o (some value) false :: ofArguments rest := by
  rw [ofArguments, h]
  simp [hvalue]

theorem ofArguments_lacking {o : ValueOption} {next : Text}
    (h : readArgument argument = .awaiting o) (hnext : isValue next = false) (rest : List Text) :
    ofArguments (argument :: next :: rest) =
      .option o none false :: ofArguments (next :: rest) := by
  rw [ofArguments, h]
  simp [hnext]

end Reading

section Settling

variable {c c' : Choices} {os : List Occurrence}

theorem settle_cons {o : Occurrence} (hhelp : o ≠ .flag .help) (hversion : o ≠ .flag .version)
    (c : Choices) (os : List Occurrence) :
    c.settle (o :: os) =
      match c.next o os with
      | .error e => .error e
      | .ok c => c.settle os := by
  rw [Choices.settle] <;> first | rfl | assumption

/-- What is not understood is told whatever has been chosen. -/
theorem settle_of_notUnderstood {o : Occurrence} {e : UsageError}
    (h : Choices.notUnderstood o = some e) : c.settle (o :: os) = .error e := by
  cases o with
  | unknown argument =>
    cases h
    rfl
  | unwanted f value =>
    cases h
    rfl
  | _ => cases h

theorem next_cases (c : Choices) (o : Occurrence) (os : List Occurrence) :
    c.next o os = c.add o ∨
      ∃ u rest e, os = u :: rest ∧ Choices.notUnderstood u = some e ∧ c.next o os = .error e := by
  cases os with
  | nil => exact .inl (by cases h : o.waits <;> simp [Choices.next, h])
  | cons u rest =>
    cases hwaits : o.waits with
    | false => exact .inl (by simp [Choices.next, hwaits])
    | true =>
      cases hu : Choices.notUnderstood u with
      | none => exact .inl (by simp [Choices.next, hwaits, hu])
      | some e => exact .inr ⟨u, rest, e, rfl, hu, by simp [Choices.next, hwaits, hu]⟩

/-- An occurrence that can be added is added, unless what follows is not understood, which
would be told further on as well. -/
theorem settle_of_add {o : Occurrence} (hhelp : o ≠ .flag .help) (hversion : o ≠ .flag .version)
    (h : c.add o = .ok c') : c.settle (o :: os) = c'.settle os := by
  rw [settle_cons hhelp hversion]
  rcases next_cases c o os with hnext | ⟨u, rest, e, rfl, hu, hnext⟩
  · rw [hnext, h]
  · rw [hnext, settle_of_notUnderstood hu]

theorem addPositionals_cons (value : Text) (values : List Text) :
    c.addPositionals (value :: values) =
      { c with positionals := c.positionals ++ [value] }.addPositionals values := by
  have hall : c.positionals ++ value :: values = c.positionals ++ [value] ++ values := by simp
  simp only [Choices.addPositionals, hall]

theorem settle_prependPositional {value : Text} (h : [] ∉ (c.positionals ++ [value]).tail) :
    c.settle (prependPositional value os) =
      { c with positionals := c.positionals ++ [value] }.settle os := by
  have hadd : c.add (.positional [value]) =
      .ok { c with positionals := c.positionals ++ [value] } := if_neg h
  have hone : c.settle (.positional [value] :: os) =
      { c with positionals := c.positionals ++ [value] }.settle os :=
    settle_of_add nofun nofun hadd
  cases os with
  | nil => exact hone
  | cons o os =>
    cases o with
    | positional values =>
      -- the values in a row are added together
      have hnext : c.next (.positional (value :: values)) os =
          { c with positionals := c.positionals ++ [value] }.next (.positional values) os := by
        unfold Choices.next
        rw [Choices.add, Choices.add, addPositionals_cons]
        rfl
      have hcons (c : Choices) (values : List Text) : c.settle (.positional values :: os) =
          match c.next (.positional values) os with
          | .error e => .error e
          | .ok c => c.settle os := settle_cons (by nofun) (by nofun) c os
      rw [prependPositional, hcons, hcons, hnext]
    | _ => exact hone

end Settling

end RpcSchema.ArgumentReading
