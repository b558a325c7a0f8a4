import ValueTypes.Proofs.Feature.Selectors

/-! Names in generated files as identifiers. Most of them begin with a word of their own, so that it
does not matter how the name of a case begins; but factories, handlers and the later keywords of a match
method begin with that name, and the name of a case with a body may begin with a digit. -/

namespace ValueTypes

open ValueTypes.Parser (Within)
open ValueTypes.Source (IsIdentifier isWordChar)

namespace Objc

def Keyword.identifiers (k : Keyword) : List String := k.name :: k.argument.toList.map (·.name)

def Method.identifiers (m : Method) : List String := m.keywords.flatMap Keyword.identifiers

def BlockType.identifiers (b : BlockType) : List String := b.name :: b.parameters.map (·.name)

def ClassModel.identifiers (c : ClassModel) : List String :=
  c.instanceVariables.map (·.name) ++ (c.classMethods ++ c.instanceMethods).flatMap Method.identifiers

/-- The values of enumerations and the names of instance variables, block types and their parameters,
keywords and their arguments. -/
def File.identifiers (f : File) : List String :=
  f.enumerations.flatMap (·.values) ++ f.blockTypes.flatMap BlockType.identifiers ++
    f.classes.flatMap ClassModel.identifiers

theorem Method.forall_identifiers {m : Method} {P : String → Prop} :
    (∀ w ∈ m.identifiers, P w) ↔ (∀ name ∈ m.keywords.map (·.name), P name) ∧
      ∀ x, some x ∈ m.keywords.map (·.argument) → P x.name := by
  simp only [Method.identifiers, Keyword.identifiers, List.forall_mem_flatMap, List.forall_mem_cons,
    List.forall_mem_map, Option.mem_toList]
  constructor
  · intro h
    refine ⟨fun k hk => (h k hk).1, fun x hx => ?_⟩
    obtain ⟨k, hk, hargument⟩ := List.mem_map.mp hx
    exact (h k hk).2 x hargument
  · rintro ⟨hnames, harguments⟩ k hk
    exact ⟨hnames k hk, fun x hx => harguments x (List.mem_map.mpr ⟨k, hk, hx⟩)⟩

end Objc

open Objc

namespace Case.WellNamed

variable {c : Case}

theorem isIdentifier_discriminantValue (h : c.WellNamed) {typeName : String}
    (htype : IsIdentifier typeName) : IsIdentifier (c.discriminantValue typeName) := by
  have hunderscore : IsIdentifier "_" := by decide
  have hsubtypes : Within isWordChar "Subtypes".toList := by decide
  exact ((hunderscore.append htype.within).append hsubtypes).append h.name

theorem isIdentifier_slot (h : c.WellNamed) {a : Attribute} (ha : a ∈ c.attributes) :
    IsIdentifier (c.slot a) := by
  have hunderscore : IsIdentifier "_" := by decide
  apply hunderscore.append
  have hname := within_uncapitalized (h.attributes a ha).within
  cases c with
  | single payload => exact hname
  | collection name comments as =>
    simp only [slotName, String.toList_append, Parser.within_append]
    exact ⟨⟨within_uncapitalized h.name, hunderscore.within⟩, hname⟩

theorem isIdentifier_blockType (h : c.WellNamed) {name : String} (hname : IsIdentifier name)
    (result : ReturnType) : ∀ w ∈ (c.blockType name result).identifiers, IsIdentifier w := by
  refine List.forall_mem_cons.mpr ⟨hname, ?_⟩
  simp only [blockType, handlerParameters, List.map_map, List.forall_mem_map]
  exact h.attributes

theorem isIdentifier_handler (h : c.WellNamed) (hname : IsIdentifier c.name) :
    IsIdentifier c.handler :=
  ((isIdentifier_uncapitalized h.name).mpr hname).append (by decide)

theorem isIdentifier_taken (h : c.WellNamed) {argument : Attribute → Argument}
    (hargument : ∀ a, (argument a).name = a.name) {x : Argument} (hx : some x ∈ c.taken argument) :
    IsIdentifier x.name := by
  unfold taken at hx
  split at hx
  · simp at hx
  · obtain ⟨a, ha, hax⟩ := List.mem_map.mp hx
    rw [← Option.some.inj hax, hargument]
    exact h.attributes a ha

theorem isIdentifier_factory (h : c.WellNamed) (hne : c.name ≠ "") (typeName : String) :
    (∀ w ∈ (c.factory typeName).identifiers, IsIdentifier w) ↔ IsIdentifier c.name := by
  obtain ⟨rest, hrest, hnames⟩ := h.names_factoryKeywords
  rw [Method.forall_identifiers, factory, hnames, List.forall_mem_cons, c.arguments_factoryKeywords]
  constructor
  · rintro ⟨⟨hfirst, -⟩, -⟩
    exact (isIdentifier_uncapitalized h.name).mp (hfirst.of_append (uncapitalized_ne_empty h.name hne))
  · intro hname
    refine ⟨⟨?_, ?_⟩, fun x hx => h.isIdentifier_taken (fun _ => rfl) hx⟩
    · exact ((isIdentifier_uncapitalized h.name).mpr hname).append hrest
    · exact List.forall_mem_map.mpr fun a ha => h.attributes a (List.mem_of_mem_tail ha)

theorem isIdentifier_test (h : c.WellNamed) (typeName : String) (qualified assumed : Bool) :
    ∀ w ∈ (c.testMethod typeName qualified assumed).identifiers, IsIdentifier w := by
  obtain ⟨rest, hrest, hnames⟩ := h.names_testKeywords qualified assumed
  have his : IsIdentifier "is" := by decide
  rw [Method.forall_identifiers, testMethod, hnames, List.forall_mem_cons, c.arguments_testKeywords]
  refine ⟨⟨(his.append h.name).append hrest, ?_⟩, fun x hx => h.isIdentifier_taken (fun _ => rfl) hx⟩
  exact List.forall_mem_map.mpr fun a ha => h.attributes a (List.mem_of_mem_tail ha)

end Case.WellNamed

namespace AlgebraicType

variable {d : AlgebraicType}

section

variable (h : d.WellNamed)

include h

theorem WellNamed.isIdentifier_handlerName {mark : String} (hmark : Within isWordChar mark.toList)
    {c : Case} (hc : c ∈ d.members) : IsIdentifier (d.handlerName mark c) :=
  ((h.name.append hmark).append (h.cases c hc).name).append (by decide)

theorem WellNamed.isIdentifier_enumeration : ∀ w ∈ d.enumeration.values, IsIdentifier w :=
  List.forall_mem_map.mpr fun c hc => (h.cases c hc).isIdentifier_discriminantValue h.name

theorem WellNamed.isIdentifier_instanceVariables :
    ∀ w ∈ d.instanceVariables.map (·.name), IsIdentifier w := by
  rw [instanceVariables, List.map_cons, List.forall_mem_cons, List.map_flatMap]
  have hdiscriminant : IsIdentifier discriminant := by decide
  refine ⟨hdiscriminant, List.forall_mem_flatMap.mpr fun c hc => ?_⟩
  rw [List.map_map, List.forall_mem_map]
  exact fun a ha => (h.cases c hc).isIdentifier_slot ha

theorem WellNamed.isIdentifier_blockTypes :
    ∀ w ∈ d.total.blockTypes.flatMap BlockType.identifiers, IsIdentifier w := by
  refine List.forall_mem_flatMap.mpr fun b hb => ?_
  obtain ⟨r, -, c, hc, rfl⟩ := mem_total_blockTypes.mp hb
  have hmark : Within isWordChar r.mark.toList := by cases r <;> decide
  exact (h.cases c hc).isIdentifier_blockType (h.isIdentifier_handlerName hmark hc) _

variable (hcases : ∀ c ∈ d.members, IsIdentifier c.name)

include hcases

theorem WellNamed.isIdentifier_uncapitalized {c : Case} (hc : c ∈ d.members) :
    IsIdentifier (uncapitalized c.name) :=
  (ValueTypes.isIdentifier_uncapitalized (h.cases c hc).name).mpr (hcases c hc)

theorem WellNamed.isIdentifier_matchMethod (r : MatchResult) :
    ∀ w ∈ (d.matchMethod r).identifiers, IsIdentifier w := by
  have hmark : IsIdentifier ("match" ++ r.mark) := by cases r <;> decide
  rw [Method.forall_identifiers, matchMethod, names_matchSignature]
  refine ⟨?_, fun x hx => ?_⟩
  · exact forall_mem_matchParts (fun c hc => hmark.append (h.cases c hc).name)
      fun c hc => h.isIdentifier_uncapitalized hcases hc
  · obtain ⟨k, hk, hargument⟩ := List.mem_map.mp hx
    obtain ⟨c, hc, htaken⟩ := exists_argument_of_mem_matchSignature hk
    obtain rfl := Option.some.inj (hargument.symm.trans htaken)
    exact (h.cases c hc).isIdentifier_handler (hcases c hc)

theorem WellNamed.isIdentifier_matcherMethod :
    ∀ w ∈ d.matcherMethod.identifiers, IsIdentifier w := by
  have hsubject : IsIdentifier (matchSubject d.name) :=
    (ValueTypes.isIdentifier_uncapitalized h.name.withoutClassTag.within).mpr h.name.withoutClassTag
  have hmatch : IsIdentifier "match" := by decide
  simp only [Method.identifiers, matcherMethod, matcherSignature, List.forall_mem_flatMap,
    List.forall_mem_cons, List.forall_mem_map, Keyword.identifiers, Option.toList_some]
  refine ⟨⟨hmatch, hsubject, by simp⟩, fun c hc => ?_⟩
  exact ⟨h.isIdentifier_uncapitalized hcases hc,
    (h.cases c hc).isIdentifier_handler (hcases c hc), by simp⟩

theorem WellNamed.isIdentifier_matcherFile : ∀ w ∈ d.matcherFile.identifiers, IsIdentifier w := by
  have hgeneric : Within isWordChar "Generic".toList := by decide
  have hsplit : d.matcherFile.identifiers =
      d.matcherFile.blockTypes.flatMap BlockType.identifiers ++ d.matcherMethod.identifiers := by
    simp [File.identifiers, ClassModel.identifiers, matcherFile]
  rw [hsplit, List.forall_mem_append, matcherFile, List.forall_mem_flatMap, List.forall_mem_map]
  refine ⟨fun c hc => ?_, h.isIdentifier_matcherMethod hcases⟩
  exact (h.cases c hc).isIdentifier_blockType (h.isIdentifier_handlerName hgeneric hc) _

end

theorem identifiers_mainFile (d : AlgebraicType) : (d.total.mainFile d.name).identifiers =
    d.enumeration.values ++ d.total.blockTypes.flatMap BlockType.identifiers ++
      (d.instanceVariables.map (·.name) ++ (d.members.flatMap fun c => (c.factory d.name).identifiers) ++
        d.total.instanceMethods.flatMap Method.identifiers) := by
  simp [File.identifiers, ClassModel.identifiers, Contribution.mainFile, Contribution.mainClass,
    total_enumerations, total_instanceVariables, total_classMethods, List.flatMap_map]

theorem WellNamed.isIdentifier_mainFile (h : d.WellNamed) (hne : ∀ c ∈ d.members, c.name ≠ "") :
    (∀ w ∈ (d.total.mainFile d.name).identifiers, IsIdentifier w) ↔
      ∀ c ∈ d.members, IsIdentifier c.name := by
  have hfactories : (∀ w ∈ d.members.flatMap fun c => (c.factory d.name).identifiers,
      IsIdentifier w) ↔ ∀ c ∈ d.members, IsIdentifier c.name := by
    rw [List.forall_mem_flatMap]
    exact forall₂_congr fun c hc => (h.cases c hc).isIdentifier_factory (hne c hc) d.name
  have hmethods : (∀ c ∈ d.members, IsIdentifier c.name) →
      ∀ w ∈ d.total.instanceMethods.flatMap Method.identifiers, IsIdentifier w := by
    intro hcases
    refine List.forall_mem_flatMap.mpr fun m hm => ?_
    rw [total_instanceMethods, List.mem_append] at hm
    rcases hm with hmatch | htest
    · obtain ⟨r, -, rfl⟩ := List.mem_map.mp hmatch
      exact h.isIdentifier_matchMethod hcases r
    · split at htest
      · obtain ⟨c, hc, rfl⟩ := List.mem_map.mp htest
        exact (h.cases c hc).isIdentifier_test d.name _ _
      · cases htest
  simp only [identifiers_mainFile, List.forall_mem_append, hfactories]
  constructor
  · rintro ⟨-, ⟨-, hcases⟩, -⟩
    exact hcases
  · intro hcases
    exact ⟨⟨h.isIdentifier_enumeration, h.isIdentifier_blockTypes⟩,
      ⟨h.isIdentifier_instanceVariables, hcases⟩, hmethods hcases⟩

/-- When the generation of a source succeeds, all names in the generated files are identifiers exactly
if no case of the source has a name that begins with a digit. -/
theorem isIdentifier_generated_iff {settings : Settings} {source : String} {files : List File}
    (h : ValueTypes.generate .algebraicType settings source = .ok files) :
    ∃ d, AlgebraicType.read source = .ok d ∧
      ((∀ file ∈ files, ∀ w ∈ file.identifiers, IsIdentifier w) ↔
        ∀ c ∈ d.members, c.name.toList.head?.any Char.isDigit = false) := by
  obtain ⟨d, hread, hgenerate⟩ := exists_of_generate_source h
  obtain ⟨⟨hne, -⟩, rfl⟩ := (generate_eq_ok rfl).mp hgenerate
  have hnamed := (wellNamed_of_read hread).withTagsInForce defaultTags settings
  have hdigits : (∀ c ∈ d.members, IsIdentifier c.name) ↔
      ∀ c ∈ d.members, c.name.toList.head?.any Char.isDigit = false :=
    forall₂_congr fun c hc => isIdentifier_iff_of_within (hnamed.cases c hc).name (hne c hc)
  refine ⟨d, hread, ?_⟩
  rw [List.forall_mem_cons, hnamed.isIdentifier_mainFile hne, ← hdigits]
  apply and_iff_left_of_imp
  intro hcases file hfile
  rw [total_additionalFiles] at hfile
  split at hfile
  · obtain rfl := List.mem_singleton.mp hfile
    exact hnamed.isIdentifier_matcherFile hcases
  · cases hfile

def misspelt (files : List File) : List String :=
  ((files.flatMap (·.identifiers)).filter fun w => ¬ IsIdentifier w).eraseDups

theorem mem_misspelt {files : List File} {w : String} :
    w ∈ misspelt files ↔ (∃ file ∈ files, w ∈ file.identifiers) ∧ ¬ IsIdentifier w := by
  simp [misspelt]

def numberedSource : String :=
  "Shape3 \x7b Box2 \x7b CGFloat x1; CGFloat x2 \x7d _2D\n" ++
  "%singleAttributeSubtype attributeType=CGFloat\n_9 \x7d"

theorem isIdentifier_generated_iff_numberedSource : ∃ files d,
    ValueTypes.generate .algebraicType {} numberedSource = .ok files ∧
      (∀ file ∈ files, ∀ w ∈ file.identifiers, IsIdentifier w) ∧
      AlgebraicType.read numberedSource = .ok d ∧
      ∀ c ∈ d.members, c.name.toList.head?.any Char.isDigit = false := by
  have hnames : (ValueTypes.generate .algebraicType {} numberedSource).toOption.map misspelt =
      some [] := by decide +kernel
  obtain ⟨files, hfiles, hnone⟩ := Checked.exists_of_map_toOption hnames
  obtain ⟨d, hread, hiff⟩ := isIdentifier_generated_iff hfiles
  have hall : ∀ file ∈ files, ∀ w ∈ file.identifiers, IsIdentifier w := by
    intro file hfile w hw
    by_contra hbad
    have hmem : w ∈ misspelt files := mem_misspelt.mpr ⟨⟨file, hfile, hw⟩, hbad⟩
    rw [hnone] at hmem
    cases hmem
  exact ⟨files, d, hfiles, hall, hread, hiff.mp hall⟩

theorem not_isIdentifier_generated_digit : ∃ files,
    ValueTypes.generate .algebraicType {} "Shape \x7b 2D \x7b BOOL flat; \x7d \x7d" = .ok files ∧
      ∃ file ∈ files, ∃ w ∈ file.identifiers, ¬ IsIdentifier w := by
  have hnames : (ValueTypes.generate .algebraicType {}
      "Shape \x7b 2D \x7b BOOL flat; \x7d \x7d").toOption.map misspelt =
        some ["2DWithFlat", "2DMatchHandler"] := by decide +kernel
  obtain ⟨files, hfiles, hbad⟩ := Checked.exists_of_map_toOption hnames
  have hmem : "2DWithFlat" ∈ misspelt files := by
    rw [hbad]
    exact List.mem_cons_self
  obtain ⟨⟨file, hfile, hw⟩, hname⟩ := mem_misspelt.mp hmem
  exact ⟨files, hfiles, file, hfile, _, hw, hname⟩

end AlgebraicType

end ValueTypes
