import VpcMachines.Proofs.Failing
import VpcMachines.Yaml.Rendering

/-!
# Why values cannot be written

Writing a value of a document fails for two reasons only: an integer in it has too many digits, or
collections are inside each other too deeply (`Document.plainForm_failsOnly`).
-/

namespace VpcMachines.Yaml

theorem Atom.integerForm_failsOnly (n : Int) : FailsOnly (· = .unwritable) (integerForm n) := by
  unfold integerForm
  split
  · exact .ok _
  · exact .error rfl

theorem Atom.quotedForm_failsOnly (a : Atom) : FailsOnly (· = .unwritable) a.quotedForm := by
  unfold quotedForm
  split
  case h_3 n => exact integerForm_failsOnly n
  all_goals exact .ok _

theorem Atom.plainForm_failsOnly (a : Atom) : FailsOnly (· = .unwritable) a.plainForm := by
  unfold plainForm
  split
  case h_4 => exact quotedForm_failsOnly a
  all_goals exact .ok _

/-- The faults of writing. -/
def Fault.IsOfWriting (f : Fault) : Prop := f = .unwritable ∨ f = .tooDeepToWrite

namespace Document

variable (d : Document) (r : Ref)

theorem quotedFormIn_failsOnly (fuel : Nat) (above : List Ref) :
    FailsOnly Fault.IsOfWriting (d.quotedFormIn fuel above r) := by
  have hatom (a : Atom) : FailsOnly Fault.IsOfWriting a.quotedForm :=
    a.quotedForm_failsOnly.mono fun _ ↦ .inl
  induction fuel generalizing above r with
  | zero => exact .error (.inr rfl)
  | succ fuel ih =>
    unfold quotedFormIn
    split
    case h_1 => exact hatom _
    case h_2 items =>
      split
      · exact .ok _
      · refine .bind (.mapM fun item ↦ ih item _) ?_
        exact fun parts ↦ .ok _
    case h_3 entries =>
      split
      · exact .ok _
      · refine .bind (.mapM fun entry ↦ ?_) ?_
        · refine .bind (hatom entry.1.atom) fun key ↦ ?_
          refine .bind (ih entry.2 _) fun value ↦ ?_
          exact .ok _
        · exact fun parts ↦ .ok _
    case h_4 => exact .ok _
    case h_5 members =>
      refine .bind (.mapM fun key ↦ hatom key.atom) ?_
      exact fun parts ↦ .ok _
    case h_6 items =>
      split
      · exact .ok _
      · refine .bind (.mapM fun pair ↦ ?_) ?_
        · refine .bind (ih pair.1 _) fun first ↦ ?_
          refine .bind (ih pair.2 _) fun second ↦ ?_
          exact .ok _
        · exact fun parts ↦ .ok _

theorem plainForm_failsOnly : FailsOnly Fault.IsOfWriting (d.plainForm r) := by
  unfold plainForm
  split
  · exact (Atom.plainForm_failsOnly _).mono fun _ ↦ .inl
  · exact quotedFormIn_failsOnly d r Graph.depthLimit []

end Document

end VpcMachines.Yaml
