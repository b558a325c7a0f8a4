import ValueTypes.Proofs.Feature.Names

/-! The names under which an algebraic type stores its values. Names of cases are checked as they are
written, but slots are named with lower first letters, and the name of a case is joined to that of the
attribute by an underscore; so slots can have one name although all checks pass. What has to hold of a
declaration for its slots to be apart is stated here exactly. -/

namespace ValueTypes

open Objc

/-- Two cases store nothing under one name. Of two cases that are named after their attributes this
need not be asked. -/
def Case.Apart : Case → Case → Prop
  | .collection name _ as, .collection name' _ as' =>
    ∀ a ∈ as, ∀ b ∈ as', joinedName name a ≠ joinedName name' b
  | .collection name _ as, .single b => ∀ a ∈ as, joinedName name a ≠ uncapitalized b.name
  | .single a, .collection name _ as => ∀ b ∈ as, uncapitalized a.name ≠ joinedName name b
  | .single _, .single _ => True

structure AlgebraicType.SlotsApart (d : AlgebraicType) : Prop extends d.StoresOnce where
  cases : d.members.Pairwise Case.Apart

namespace Case

theorem disjoint_slotNames {c c' : Case} (hname : c.name ≠ c'.name)
    (hc : ∀ a, c = .single a → Source.IsIdentifier a.name)
    (hc' : ∀ a, c' = .single a → Source.IsIdentifier a.name) :
    c.slotNames.Disjoint c'.slotNames ↔ c.Apart c' := by
  have hdisjoint : c.slotNames.Disjoint c'.slotNames ↔
      ∀ a ∈ c.attributes, ∀ b ∈ c'.attributes, c.slotName a ≠ c'.slotName b := by
    simp only [slotNames, List.disjoint_iff_ne, List.forall_mem_map]
  rw [hdisjoint]
  cases c with
  | collection name comments as =>
    cases c' with
    | collection name' comments' as' => rfl
    | single b => simp [attributes, slotName, Apart, joinedName]
  | single a =>
    cases c' with
    | collection name' comments' as' => simp [attributes, slotName, Apart, joinedName]
    | single b =>
      -- The names were compared with upper first letters, the slots have lower ones.
      have hne : uncapitalized a.name ≠ uncapitalized b.name := fun h =>
        hname (capitalized_eq_of_uncapitalized_eq (hc a rfl) (hc' b rfl) h)
      simpa [attributes, slotName, Apart] using hne

end Case

namespace AlgebraicType

variable {d : AlgebraicType}

theorem names_instanceVariables (d : AlgebraicType) : d.instanceVariables.map (·.name) =
    ("subtype" :: d.members.flatMap Case.slotNames).map ("_" ++ ·) := by
  simp only [instanceVariables, List.map_cons, List.map_flatMap, List.map_map, Case.slotNames]
  rfl

theorem nodup_names_instanceVariables (hdistinct : (d.members.map Case.name).Nodup)
    (hsingle : ∀ a, .single a ∈ d.members → Source.IsIdentifier a.name) :
    (d.instanceVariables.map (·.name)).Nodup ↔ d.SlotsApart := by
  have hcases : d.members.Pairwise (Function.onFun List.Disjoint Case.slotNames) ↔
      d.members.Pairwise Case.Apart :=
    pairwise_iff_of_distinct hdistinct fun c hc c' hc' hne => Case.disjoint_slotNames hne
      (fun a ha => hsingle a (ha ▸ hc)) fun a ha => hsingle a (ha ▸ hc')
  have hdiscriminant : "subtype" ∉ d.members.flatMap Case.slotNames ↔
      ∀ a, .single a ∈ d.members → uncapitalized a.name ≠ "subtype" := by
    simp only [List.mem_flatMap, Case.subtype_mem_slotNames]
    grind
  rw [names_instanceVariables, List.nodup_map_iff (append_injective "_"), List.nodup_cons, hdiscriminant,
    List.nodup_flatMap, hcases]
  simp only [Case.nodup_slotNames]
  exact ⟨fun ⟨h, h', h''⟩ => ⟨⟨h, h'⟩, h''⟩, fun ⟨⟨h, h'⟩, h''⟩ => ⟨h, h', h''⟩⟩

/-- When the generation of a source succeeds, its instance variables have distinct names exactly if
the declaration keeps its slots apart. -/
theorem nodup_slots_iff {settings : Settings} {source : String} {files : List File}
    (h : ValueTypes.generate .algebraicType settings source = .ok files) :
    ∃ d main extra cls, AlgebraicType.read source = .ok d ∧ files = main :: extra ∧
      main.classes = [cls] ∧ ((cls.instanceVariables.map (·.name)).Nodup ↔ d.SlotsApart) := by
  obtain ⟨d, hread, hgenerate⟩ := exists_of_generate_source h
  obtain ⟨⟨-, hdistinct⟩, rfl⟩ := (generate_eq_ok rfl).mp hgenerate
  refine ⟨d, _, _, _, hread, rfl, rfl, ?_⟩
  rw [Contribution.mainClass, total_instanceVariables]
  exact nodup_names_instanceVariables (d := d) hdistinct fun a ha => isIdentifier_of_single hread ha

def storedNames? (source : String) : Option (List (List (List String))) :=
  (ValueTypes.generate .algebraicType {} source).toOption.map fun files =>
    files.map fun file => file.classes.map fun cls => cls.instanceVariables.map (·.name)

theorem exists_of_storedNames? {source : String} {names : List String}
    (h : storedNames? source = some [[names]]) : ∃ main cls,
      ValueTypes.generate .algebraicType {} source = .ok [main] ∧ main.classes = [cls] ∧
        cls.instanceVariables.map (·.name) = names := by
  obtain ⟨files, hfiles, hview⟩ := Checked.exists_of_map_toOption h
  obtain ⟨main, rfl, hmain⟩ := List.map_eq_singleton_iff.mp hview
  obtain ⟨cls, hcls, hnames⟩ := List.map_eq_singleton_iff.mp hmain
  exact ⟨main, cls, hfiles, hcls, hnames⟩

def tidySource : String :=
  "Shape \x7b Box \x7b CGFloat width; CGFloat height \x7d Box_ \x7b CGFloat width \x7d\n" ++
  "%singleAttributeSubtype attributeType=CGFloat\nradius \x7d"

theorem nodup_slots_iff_tidySource : ∃ files d, ValueTypes.generate .algebraicType {} tidySource =
    .ok files ∧ AlgebraicType.read tidySource = .ok d ∧ d.SlotsApart := by
  have hnames : storedNames? tidySource = some [[["_subtype", "_box_width", "_box_height",
      "_box__width", "_radius"]]] := by decide +kernel
  obtain ⟨main, cls, hfiles, hcls, hstored⟩ := exists_of_storedNames? hnames
  obtain ⟨d, main', extra, cls', hread, hmain, hcls', hiff⟩ := nodup_slots_iff hfiles
  obtain ⟨rfl, rfl⟩ := List.cons.inj hmain
  obtain rfl : cls = cls' := List.singleton_inj.mp (hcls.symm.trans hcls')
  exact ⟨_, d, hfiles, hread, hiff.mp (by rw [hstored]; decide)⟩

theorem not_nodup_slots_repeated : ∃ main cls,
    ValueTypes.generate .algebraicType {} "Shape \x7b Box \x7b BOOL full; BOOL full; \x7d \x7d" =
      .ok [main] ∧ main.classes = [cls] ∧ ¬ (cls.instanceVariables.map (·.name)).Nodup := by
  have hnames : storedNames? "Shape \x7b Box \x7b BOOL full; BOOL full; \x7d \x7d" =
      some [[["_subtype", "_box_full", "_box_full"]]] := by decide +kernel
  obtain ⟨main, cls, hfiles, hcls, hstored⟩ := exists_of_storedNames? hnames
  refine ⟨main, cls, hfiles, hcls, ?_⟩
  rw [hstored]
  decide

end AlgebraicType

end ValueTypes
