import ValueTypes.Proofs.Feature.Storage
import ValueTypes.Proofs.Model.OfSource
import ValueTypes.Proofs.Naming

/-! Names of a declaration that was read, and of the keywords that are made from them. The name of a
case with a body is only known to be a word. -/

namespace ValueTypes

open Objc
open ValueTypes.Parser (Within)
open ValueTypes.Source (IsIdentifier isWordChar)

structure Case.WellNamed (c : Case) : Prop where
  name : Within isWordChar c.name.toList
  attributes : ∀ a ∈ c.attributes, IsIdentifier a.name

structure AlgebraicType.WellNamed (d : AlgebraicType) : Prop where
  name : IsIdentifier d.name
  cases : ∀ c ∈ d.members, c.WellNamed

theorem AlgebraicType.wellNamed_of_read {source : String} {d : AlgebraicType}
    (h : AlgebraicType.read source = .ok d) : d.WellNamed := by
  obtain ⟨hname, hmembers⟩ := exists_readable_of_read h
  refine ⟨hname, fun m hm => ⟨?_, fun a => isIdentifier_of_read h hm⟩⟩
  cases m with
  | single a => exact within_capitalized (isIdentifier_of_single h hm).within
  | collection name comments as =>
    obtain ⟨c, hc, hcase⟩ := hmembers _ hm
    rw [← Case.name_of_ofSource hcase]
    exact hc.within

theorem AlgebraicType.WellNamed.withTagsInForce {d : AlgebraicType} (h : d.WellNamed)
    (defaults : List Tag) (settings : Settings) :
    AlgebraicType.WellNamed (d.withTagsInForce defaults settings) :=
  { h with }

theorem AlgebraicType.exists_of_generate_source {settings : Settings} {source : String}
    {files : List File} (h : ValueTypes.generate .algebraicType settings source = .ok files) :
    ∃ d, AlgebraicType.read source = .ok d ∧ AlgebraicType.generate settings d = .ok files := by
  cases hread : AlgebraicType.read source with
  | error problems =>
    rw [ValueTypes.generate, hread] at h
    cases h
  | ok d =>
    rw [ValueTypes.generate, hread] at h
    exact ⟨d, rfl, h⟩

theorem pairwise_iff_of_distinct {R S : Case → Case → Prop} {cs : List Case}
    (hdistinct : (cs.map Case.name).Nodup)
    (h : ∀ c ∈ cs, ∀ c' ∈ cs, c.name ≠ c'.name → (R c c' ↔ S c c')) :
    cs.Pairwise R ↔ cs.Pairwise S := by
  have hnames := List.pairwise_map.mp hdistinct
  constructor
  · intro hR
    exact (hnames.and hR).imp_of_mem fun hc hc' hand => (h _ hc _ hc' hand.1).mp hand.2
  · intro hS
    exact (hnames.and hS).imp_of_mem fun hc hc' hand => (h _ hc _ hc' hand.1).mpr hand.2

/-! ### Keywords -/

def firstKeyword (name : String) (a : Attribute) : String := name ++ "With" ++ capitalized a.name

theorem names_attributeKeywords (first : String) (argument : Attribute → Argument) (a : Attribute)
    (as : List Attribute) : (attributeKeywords first argument (a :: as)).map (·.name) =
      first :: as.map (·.name) := by
  simp [attributeKeywords]

namespace Case.WellNamed

variable {c : Case}

theorem within_with (h : c.WellNamed) {a : Attribute} (ha : a ∈ c.attributes) :
    Within isWordChar ("With" ++ capitalized a.name).toList := by
  rw [String.toList_append, Parser.within_append]
  exact ⟨by decide, within_capitalized (h.attributes a ha).within⟩

theorem names_factoryKeywords (h : c.WellNamed) : ∃ rest, Within isWordChar rest.toList ∧
    c.factoryKeywords.map (·.name) =
      (uncapitalized c.name ++ rest) :: c.attributes.tail.map (·.name) := by
  cases c with
  | single a =>
    have hlower := uncapitalized_capitalized (h.attributes a List.mem_cons_self).within
    refine ⟨"", by simp, ?_⟩
    rw [Case.name, hlower, String.append_empty]
    rfl
  | collection name comments as =>
    cases as with
    | nil => exact ⟨"", by simp, by simp [factoryKeywords, Case.name, Case.attributes]⟩
    | cons a as =>
      refine ⟨_, h.within_with List.mem_cons_self, ?_⟩
      rw [factoryKeywords, names_attributeKeywords, ← String.append_assoc]
      rfl

theorem names_testKeywords (h : c.WellNamed) (qualified assumed : Bool) :
    ∃ rest, Within isWordChar rest.toList ∧ (c.testKeywords qualified assumed).map (·.name) =
      ("is" ++ c.name ++ rest) :: c.attributes.tail.map (·.name) := by
  unfold testKeywords
  cases hattributes : c.attributes with
  | nil => exact ⟨"", by simp, by simp⟩
  | cons a as =>
    refine ⟨_, h.within_with (a := a) (by simp [hattributes]), ?_⟩
    rw [names_attributeKeywords, ← String.append_assoc]
    rfl

end Case.WellNamed

end ValueTypes
