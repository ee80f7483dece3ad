import VpcMachines.Schema.Datum

/-!
# Verdicts

Checking a datum accepts it with a value, or rejects it with all the issues that were found, each at
its place. Two verdicts side by side accept only if both do, and otherwise keep the issues of both in
order.
-/

namespace VpcMachines.Schema

/-- A step on the way to a place inside a datum. -/
inductive Step where
  | field (name : String)
  | item (index : Nat)
  deriving DecidableEq, Repr

inductive IssueKind where
  | missing
  | notText
  | notUnicode
  | notList
  | notMapping
  | notRecord (model : String)
  | notChoice (expected : String)
  | notInteger
  | notIntegerText
  | fractional
  | tooLarge
  | notFinite
  | below (least : Nat)
  | above (most : Nat)
  | notBoolean
  | notBooleanText
  deriving DecidableEq, Repr

structure Issue where
  place : List Step
  kind : IssueKind
  deriving DecidableEq, Repr

def IssueKind.tag : IssueKind → String
  | .missing => "missing"
  | .notText => "string_type"
  | .notUnicode => "string_unicode"
  | .notList => "list_type"
  | .notMapping => "dict_type"
  | .notRecord _ => "model_type"
  | .notChoice _ => "enum"
  | .notInteger => "int_type"
  | .notIntegerText => "int_parsing"
  | .fractional => "int_from_float"
  | .tooLarge => "int_parsing_size"
  | .notFinite => "finite_number"
  | .below _ => "greater_than_equal"
  | .above _ => "less_than_equal"
  | .notBoolean => "bool_type"
  | .notBooleanText => "bool_parsing"

def IssueKind.message : IssueKind → String
  | .missing => "Field required"
  | .notText => "Input should be a valid string"
  | .notUnicode => "Input should be a valid string, unable to parse raw data as a unicode string"
  | .notList => "Input should be a valid list"
  | .notMapping => "Input should be a valid dictionary"
  | .notRecord model => s!"Input should be a valid dictionary or instance of {model}"
  | .notChoice expected => s!"Input should be {expected}"
  | .notInteger => "Input should be a valid integer"
  | .notIntegerText => "Input should be a valid integer, unable to parse string as an integer"
  | .fractional => "Input should be a valid integer, got a number with a fractional part"
  | .tooLarge => "Unable to parse input string as an integer, exceeded maximum size"
  | .notFinite => "Input should be a finite number"
  | .below least => s!"Input should be greater than or equal to {least}"
  | .above most => s!"Input should be less than or equal to {most}"
  | .notBoolean => "Input should be a valid boolean"
  | .notBooleanText => "Input should be a valid boolean, unable to interpret input"

inductive Verdict (α : Type) where
  | accepted (value : α)
  | rejected (issues : List Issue)
  deriving Repr

namespace Verdict

variable {α β : Type}

def map (f : α → β) : Verdict α → Verdict β
  | accepted a => accepted (f a)
  | rejected issues => rejected issues

def apply (f : Verdict (α → β)) (a : Verdict α) : Verdict β :=
  match f, a with
  | accepted f, accepted a => accepted (f a)
  | rejected issues, accepted _ => rejected issues
  | accepted _, rejected issues => rejected issues
  | rejected first, rejected second => rejected (first ++ second)

instance : Applicative Verdict where
  pure := accepted
  map := map
  seq f a := apply f (a ())

/-- The verdict seen from one step further out. -/
def under (step : Step) : Verdict α → Verdict α
  | accepted a => accepted a
  | rejected issues => rejected (issues.map fun issue ↦ { issue with place := step :: issue.place })

def refuse (kind : IssueKind) : Verdict α := rejected [⟨[], kind⟩]

def value? : Verdict α → Option α
  | accepted a => some a
  | rejected _ => none

end Verdict

/-- A rule for one kind of datum. -/
abbrev Check (α : Type) := Datum → Verdict α

namespace Check

variable {α : Type}

/-- Null, or what the rule accepts. -/
def nullable (check : Check α) : Check (Option α)
  | .null => .accepted none
  | d => (check d).map some

def itemsFrom (check : Check α) (index : Nat) : List Datum → Verdict (List α)
  | [] => .accepted []
  | item :: rest =>
    List.cons <$> (check item).under (.item index) <*> itemsFrom check (index + 1) rest

def list (check : Check α) : Check (List α)
  | .list items => itemsFrom check 0 items
  | _ => .refuse .notList

def entriesOf (check : Check α) : List (String × Datum) → Verdict (List (String × α))
  | [] => .accepted []
  | (name, value) :: rest =>
    List.cons <$> ((check value).under (.field name)).map (name, ·) <*> entriesOf check rest

/-- Any names, with values by one rule. -/
def mapping (check : Check α) : Check (List (String × α))
  | .record fields => entriesOf check fields
  | _ => .refuse .notMapping

/-- A record of a model, by rules for its fields. -/
def model (name : String) (fields : List (String × Datum) → Verdict α) : Check α
  | .record given => fields given
  | _ => .refuse (.notRecord name)

end Check

variable {α : Type}

/-- The field of that name, which has to be given. -/
def required (given : List (String × Datum)) (name : String) (check : Check α) : Verdict α :=
  match given.lookup name with
  | none => .rejected [⟨[.field name], .missing⟩]
  | some d => (check d).under (.field name)

/-- The field of that name, or its default. -/
def optional (given : List (String × Datum)) (name : String) (default : α) (check : Check α) :
    Verdict α :=
  match given.lookup name with
  | none => .accepted default
  | some d => (check d).under (.field name)

end VpcMachines.Schema
