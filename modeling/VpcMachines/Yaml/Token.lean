import VpcMachines.Yaml.Fault

/-!
# Tokens of a YAML document

Indentation shows as tokens: the start of a block collection, and its end. A key that is recognised by
the colon behind it gets its token in front.
-/

namespace VpcMachines.Yaml

inductive Token where
  | version (major : Nat)
  | tagHandle (handle uri : String)
  | unknownDirective
  | documentStart
  | documentEnd
  | streamEnd
  | flowSequenceStart
  | flowSequenceEnd
  | flowMappingStart
  | flowMappingEnd
  | flowEntry
  | blockSequenceStart
  | blockMappingStart
  | blockEnd
  | blockEntry
  | key
  | value
  | alias (name : String)
  | anchor (name : String)
  | tag (handle : Option String) (rest : String)
  | scalar (text : String) (plain : Bool)
  /-- The point where the document stops being a sequence of tokens. -/
  | broken (fault : Fault)
  deriving DecidableEq, Repr

end VpcMachines.Yaml
