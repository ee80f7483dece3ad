import VpcMachines.Proofs.Yaml.Mappings
import VpcMachines.Proofs.Yaml.Words
import VpcMachines.Secret.Store

/-!
# The layout of an encoded secret

A secret file may hold one value, in base64 and without quotes. Whatever word stands there, the file
is a mapping of two entries: its encoding, and its data, which is a mapping of one entry. The word only
decides the tag of the last node, and with it the value of that node.
-/

namespace VpcMachines.Secret

open Yaml

variable {w : List Char}

/-- What stands in front of the value. -/
def heading : List Char := "encoding: base64\ndata:\n  value: ".toList

/-- A file with one value in base64. -/
def layout (w : List Char) : List Char := heading ++ (w ++ ['\n'])

theorem all_layout {p : Char → Bool} (hheading : heading.all p = true) (hw : w.all p = true)
    (hend : p '\n' = true) : (layout w).all p = true := by
  rw [layout, List.all_append, List.all_append, hheading, hw, List.all_cons, hend]
  rfl

theorem all_isAllowed_layout (hw : ∀ c ∈ w, isWordChar c = true) :
    (layout w).all isAllowed = true :=
  all_layout (by decide +kernel)
    (List.all_eq_true.mpr fun c hc ↦ (plain_of_isWordChar (hw c hc)).2.2.1) (by decide)

/-! ## Tokens -/

/-- The tokens of the heading, the last one first. -/
def headingTokens : List Token :=
  [.value, .scalar "value" true, .key, .blockMappingStart, .value, .scalar "data" true, .key,
    .scalar "base64" true, .value, .scalar "encoding" true, .key, .blockMappingStart]

section

-- The scan goes entry by entry; unfolding it would run it character by character.
attribute [local irreducible] Scan.tokensFrom

theorem tokensFrom_heading (fuel : Nat) (rest : List Char) :
    Scan.tokensFrom (fuel + 7) (Scan.ofText (heading ++ rest)) =
      Scan.tokensFrom fuel
        ⟨⟨31, 2, 8⟩, [' '] ++ rest, headingTokens, 12, [2, 0], none, [], false⟩ := by
  have hnone : IsGap [] := nofun
  have hblank : IsGap [' '] := by simp [IsGap]
  have hinner : IsGap ['\n', ' ', ' '] := by simp [IsGap]
  have hencoding : IsWord "encoding".toList := .of_all (by decide) (by decide)
  have hbase64 : IsWord "base64".toList := .of_all (by decide) (by decide)
  have hdata : IsWord "data".toList := .of_all (by decide) (by decide)
  have hvalue : IsWord "value".toList := .of_all (by decide) (by decide)
  have first (rest : List Char) :
      Scan.tokensFrom (fuel + 5 + 2)
          ⟨⟨0, 0, 0⟩, [] ++ ("encoding".toList ++ ':' :: ' ' :: rest), [], 0, [], none, [], true⟩ =
        _ :=
    Scan.tokensFrom_key hnone hencoding (by decide) rfl rfl nofun rfl
  have second (rest : List Char) (hrest : AtWord rest) :
      Scan.tokensFrom (fuel + 4 + 1)
          ⟨⟨9, 0, 9⟩, [' '] ++ ("base64".toList ++ '\n' :: rest), headingTokens.drop 8, 4, [0], none,
            [], false⟩ =
        _ :=
    Scan.tokensFrom_value hblank (by decide) hbase64 hrest rfl (by decide) (by decide)
  have third (rest : List Char) :
      Scan.tokensFrom (fuel + 2 + 2)
          ⟨⟨17, 1, 0⟩, [] ++ ("data".toList ++ ':' :: '\n' :: rest), headingTokens.drop 7, 5, [0],
            none, [], true⟩ =
        _ :=
    Scan.tokensFrom_key hnone hdata (by decide) rfl rfl (by decide) rfl
  have fourth (rest : List Char) :
      Scan.tokensFrom (fuel + 2)
          ⟨⟨22, 1, 5⟩, ['\n', ' ', ' '] ++ ("value".toList ++ ':' :: ' ' :: rest),
            headingTokens.drop 4, 8, [0], none, [], false⟩ =
        _ :=
    Scan.tokensFrom_key hinner hvalue (by decide) rfl rfl (by decide) rfl
  exact (first _).trans ((second _ hdata.atWord).trans ((third _).trans (fourth rest)))

/-- The word is the last scalar, and behind it both mappings end. -/
theorem tokens_layout (hw : IsWord w) :
    Yaml.tokens (layout w) =
      headingTokens.reverse ++
        [.scalar (String.ofList w) true, .blockEnd, .blockEnd, .streamEnd] := by
  have hlength : (layout w).length + 1 = w.length + 25 + 9 := by
    have hheading : heading.length = 32 := by decide
    simp only [layout, List.length_append, List.length_singleton, hheading]
    omega
  have hblank : IsGap [' '] := by simp [IsGap]
  have hvalue :
      Scan.tokensFrom (w.length + 25 + 1 + 1)
          ⟨⟨31, 2, 8⟩, [' '] ++ (w ++ '\n' :: []), headingTokens, 12, [2, 0], none, [], false⟩ =
        _ :=
    Scan.tokensFrom_value hblank (by decide) hw nofun rfl (by decide) (by decide)
  rw [Yaml.tokens, if_pos (all_isAllowed_layout hw.plain), hlength, layout, tokensFrom_heading,
    hvalue]
  exact Scan.tokensFrom_end Scan.fetch_end rfl

end

theorem tokens_layout_nil :
    Yaml.tokens (layout []) = headingTokens.reverse ++ [.blockEnd, .blockEnd, .streamEnd] := by
  decide +kernel

/-! ## Nodes -/

/-- The graph of such a file. -/
def layoutGraph (tag : Tag) (w : String) : Graph :=
  ⟨#[.mapping .mapping [(1, 2), (3, 4)], .scalar .text "encoding", .scalar .text "base64",
    .scalar .text "data", .mapping .mapping [(5, 6)], .scalar .text "value", .scalar tag w], 0⟩

section

attribute [local irreducible] resolve

theorem resolve_keys :
    resolve "encoding" = .text ∧ resolve "base64" = .text ∧ resolve "data" = .text ∧
      resolve "value" = .text := by
  decide +kernel

/-- The same graph, with the tags as they are found. -/
theorem layoutGraph_eq (tag : Tag) (w : String) :
    layoutGraph tag w =
      ⟨#[.mapping .mapping [(1, 2), (3, 4)], .scalar (resolve "encoding") "encoding",
        .scalar (resolve "base64") "base64", .scalar (resolve "data") "data",
        .mapping .mapping [(5, 6)], .scalar (resolve "value") "value", .scalar tag w], 0⟩ := by
  obtain ⟨hencoding, hbase64, hdata, hvalue⟩ := resolve_keys
  rw [hencoding, hbase64, hdata, hvalue, layoutGraph]

theorem ofTokens_layout (w : String) :
    Graph.ofTokens
        (headingTokens.reverse ++ [.scalar w true, .blockEnd, .blockEnd, .streamEnd]) =
      .ok (some (layoutGraph (resolve w) w)) := by
  rw [layoutGraph_eq]
  rfl

/-- Without a value the graph is as if an empty text stood there. -/
theorem ofTokens_layout_nil :
    Graph.ofTokens (headingTokens.reverse ++ [.blockEnd, .blockEnd, .streamEnd]) =
      .ok (some (layoutGraph (resolve "") "")) := by
  have hnull : resolve "" = .null := by decide +kernel
  rw [hnull, layoutGraph_eq]
  rfl

end

/-! ## Values -/

/-- The values of the nodes, given those inside the data. -/
def layoutValues (data key value : Option Value) : Array (Option Value) :=
  #[some (.map [(⟨1, .text "encoding"⟩, 2), (⟨3, .text "data"⟩, 4)]),
    some (.atom (.text "encoding")), some (.atom (.text "base64")), some (.atom (.text "data")),
    data, key, value]

/-- The document whose value is an atom. -/
def layoutDocument (a : Atom) : Document :=
  ⟨layoutValues (some (.map [(⟨5, .text "value"⟩, 6)])) (some (.atom (.text "value")))
    (some (.atom a)), 0⟩

/-- The root has been met, but nothing inside it. -/
def layoutStart (tag : Tag) (w : String) : Found :=
  ⟨layoutGraph tag w, #[some (.map []), none, none, none, none, none, none], #[0]⟩

/-- The data have been met, and something of what is inside them. -/
def layoutFound (tag : Tag) (w : String) (data key value : Option Value) : Found :=
  ⟨layoutGraph tag w, layoutValues data key value, #[0, 4]⟩

/-- Everything has been met. -/
def layoutEnd (tag : Tag) (w : String) (a : Atom) : Found :=
  layoutFound tag w (some (.map [(⟨5, .text "value"⟩, 6)])) (some (.atom (.text "value")))
    (some (.atom a))

theorem complete_root (tag : Tag) (w : String) :
    (layoutStart tag w).complete 0 = .ok (layoutFound tag w (some (.map [])) none none) := by
  have hnode : (layoutStart tag w).graph.node 0 = .mapping .mapping [(1, 2), (3, 4)] := rfl
  have hkeys : (layoutStart tag w).graph.HasTextKeys 0 :=
    List.forall_mem_cons.mpr ⟨rfl, List.forall_mem_cons.mpr ⟨rfl, nofun⟩⟩
  rw [Found.complete_mapping hnode hkeys]
  rfl

theorem complete_data {tag : Tag} (htag : tag.isScalar = true) (w : String) :
    (layoutFound tag w (some (.map [])) none none).complete 4 =
      (Atom.ofText tag w).map (layoutEnd tag w) := by
  have hnode :
      (layoutFound tag w (some (.map [])) none none).graph.node 4 = .mapping .mapping [(5, 6)] := rfl
  have hkeys : (layoutFound tag w (some (.map [])) none none).graph.HasTextKeys 4 :=
    List.forall_mem_cons.mpr ⟨rfl, nofun⟩
  have hentries : (layoutFound tag w (some (.map [])) none none).meetEntries [] [(5, 6)] =
      ((layoutFound tag w (some (.map [])) (some (.atom (.text "value"))) none).meet 6).bind fun f ↦
        .ok ([(⟨5, .text "value"⟩, 6)], f) := rfl
  rw [Found.complete_mapping hnode hkeys, hentries, Found.meet_scalar rfl rfl htag]
  cases Atom.ofText tag w <;> rfl

theorem completeFrom_layout {tag : Tag} (htag : tag.isScalar = true) (w : String) :
    (layoutStart tag w).completeFrom 8 0 = (Atom.ofText tag w).map (layoutEnd tag w) := by
  rw [Found.completeFrom_next (f := layoutStart tag w) (r := 0) rfl, complete_root, Except.bind,
    Found.completeFrom_next (f := layoutFound tag w (some (.map [])) none none) (r := 4) rfl,
    complete_data htag]
  cases Atom.ofText tag w <;> rfl

theorem ofGraph_layout {tag : Tag} (htag : tag.isScalar = true) (w : String) :
    Document.ofGraph (layoutGraph tag w) = (Atom.ofText tag w).map layoutDocument := by
  have hsize : (layoutGraph tag w).nodes.size = 7 := rfl
  have hroot : Found.meet ⟨layoutGraph tag w, Array.replicate 7 none, #[]⟩ (layoutGraph tag w).root =
      .ok (layoutStart tag w) := rfl
  simp only [Document.ofGraph, hsize, hroot, bind, Except.bind, completeFrom_layout htag]
  cases Atom.ofText tag w <;> rfl

/-- Of the document, only the last value depends on the word. -/
theorem read_layout (hw : ∀ c ∈ w, isWordChar c = true)
    (htag : (resolve (String.ofList w)).isScalar = true) :
    Yaml.read (layout w) =
      (Atom.ofText (resolve (String.ofList w)) (String.ofList w)).map layoutDocument := by
  have hgraph : Graph.ofTokens (Yaml.tokens (layout w)) =
      .ok (some (layoutGraph (resolve (String.ofList w)) (String.ofList w))) := by
    cases w with
    | nil => rw [tokens_layout_nil, ofTokens_layout_nil, String.ofList_nil]
    | cons c w => rw [tokens_layout ⟨List.cons_ne_nil c w, hw⟩, ofTokens_layout]
  simp only [Yaml.read, hgraph, bind, Except.bind, ofGraph_layout htag]

/-- The secret of the document has one value, which is decoded from the atom's plain form. -/
theorem ofDocument_layout (path : String) (a : Atom) :
    ofDocument path (layoutDocument a) = do
      let text ← written a.plainForm
      let bytes ← bytesOf path true ⟨5, .text "value"⟩ text
      return [("value", .bytes bytes)] := by
  have hfields : entriesOf (layoutDocument a).content =
      some [(⟨1, .text "encoding"⟩, 2), (⟨3, .text "data"⟩, 4)] := rfl
  have hencoding :
      under "encoding" [(⟨1, .text "encoding"⟩, 2), (⟨3, .text "data"⟩, 4)] = some 2 := by
    simp [under]
  have hdata : under "data" [(⟨1, .text "encoding"⟩, 2), (⟨3, .text "data"⟩, 4)] = some 4 := by
    simp [under]
  have hbase64 : isText "base64" ((layoutDocument a).value 2) = true := beq_self_eq_true "base64"
  have hinner : entriesOf ((layoutDocument a).value 4) = some [(⟨5, .text "value"⟩, 6)] := rfl
  have hform : (layoutDocument a).plainForm 6 = a.plainForm := rfl
  simp only [ofDocument, hfields, Option.getD_some, hencoding, hdata, Option.map_some, hbase64,
    hinner, Option.bind_some, ofEntries, Option.any_some, hform]
  rfl

end VpcMachines.Secret
