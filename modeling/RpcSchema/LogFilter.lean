import RpcSchema.LogEvent

/-! Log filters: which events are written. A filter is written as rules between
commas: a level for all targets, `target=level`, or a target alone for everything
from it. Of the rules for a target the one with the longest name counts, and of two
rules with one name the later one. -/
namespace RpcSchema

/-- The events whose target begins with a name are admitted up to a level, or not at all. -/
structure LogRule where
  target : Text
  upTo : Option LogLevel
deriving DecidableEq, Repr

abbrev LogFilter := List LogRule

namespace LogRule

def covers (r : LogRule) (e : LogEvent) : Bool := r.target.isPrefixOf e.target

def admits (r : LogRule) (e : LogEvent) : Bool :=
  match r.upTo with
  | none => false
  | some level => e.level.detail ≤ level.detail

/-- Of two rules the one that counts; the second one comes later. -/
def stronger (r s : LogRule) : LogRule :=
  if s.target.length < r.target.length then r else s

/-- A level by its name in any case, or by its number; zero and `off` admit nothing. -/
def level? (t : Text) : Option (Option LogLevel) :=
  let upper := t.map Char.toUpper
  if upper = "OFF".toList ∨ t = ['0'] then some none
  else
    (LogLevel.all.find? fun level => level.name == upper || Text.ofNat level.detail == t).map some

/-- A target begins with a letter, a digit or one of `-`, `:` and `_`. -/
def isTarget (t : Text) : Bool :=
  match t with
  | [] => false
  | c :: _ => (c.isAlphanum || 127 < c.toNat || c ∈ ['-', ':', '_']) && !t.contains '['

def read? (t : Text) : Option LogRule :=
  match level? t with
  | some upTo => some ⟨[], upTo⟩
  | none =>
    let target := t.takeWhile (· != '=')
    if !isTarget target then none
    else
      match t.dropWhile (· != '=') with
      | [] => some ⟨target, some .trace⟩
      | [_] => some ⟨target, some .trace⟩
      | _ :: level => (level? level).map (⟨target, ·⟩)

end LogRule

namespace LogFilter

def admits (f : LogFilter) (e : LogEvent) : Bool :=
  match f.filter (·.covers e) with
  | [] => false
  | r :: rules => (rules.foldl LogRule.stronger r).admits e

/-- Without any rule errors are admitted. -/
def ofRules : List LogRule → LogFilter
  | [] => [⟨[], some .error⟩]
  | rules => rules

def pieces (t : Text) : List Text := (t.splitAt ',').filter (!·.isEmpty)

def read? (t : Text) : Option LogFilter := ((pieces t).mapM LogRule.read?).map ofRules

def ofText (t : Text) : LogFilter := ofRules ((pieces t).filterMap LogRule.read?)

/-- The filter of the environment, if it sets one, goes before the chosen one. -/
def choose (environment : Option Text) (chosen : Text) : LogFilter :=
  match environment.bind read? with
  | some f => f
  | none => ofText chosen

end LogFilter

end RpcSchema
