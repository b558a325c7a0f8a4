import ValueTypes.Generate

/-! What a successful generation holds, part by part: each part of the main file is the list of what
the features in force contribute to it. -/

namespace ValueTypes

open Objc

section

variable {Member : Type} {defaults : List Tag} {features : List (Feature Member)}
  {settings : Settings} {d : Declaration Member} {files : List File}

theorem contributions_eq_flatMap {α : Type} (part : Contribution → List α) (hempty : part {} = [])
    (hmerge : ∀ a b, part (a.merge b) = part a ++ part b) (features : List (Feature Member))
    (d : Declaration Member) :
    part (contributions features d) = features.flatMap fun f => part (f.contribution d) := by
  have hfold : ∀ (fs : List (Feature Member)) (total : Contribution),
      part (fs.foldl (fun total f => Contribution.merge total (f.contribution d)) total) =
        part total ++ fs.flatMap fun f => part (f.contribution d) := by
    intro fs
    induction fs with
    | nil => simp
    | cons f fs ih =>
      intro total
      rw [List.foldl_cons, ih, hmerge, List.flatMap_cons, List.append_assoc]
  rw [contributions, hfold, hempty, List.nil_append]

theorem reworked_eq_self {file : File} (h : ∀ f ∈ features, ∀ file, f.rework d file = file) :
    reworked features d file = file := by
  induction features with
  | nil => rfl
  | cons f fs ih =>
    obtain ⟨hf, hfs⟩ := List.forall_mem_cons.mp h
    rw [reworked, List.foldl_cons, hf]
    exact ih hfs

theorem generateWith_eq_ok {e : Declaration Member} {active : List (Feature Member)}
    (he : e = d.withTagsInForce defaults settings)
    (hactive : active = features.filter (·.takesPart e.includes)) :
    generateWith defaults features settings d = .ok files ↔
      (∀ f ∈ active, f.problems e = []) ∧
        files = reworked active e ((contributions active e).mainFile e.name) ::
          (contributions active e).additionalFiles := by
  rw [← List.flatMap_eq_nil_iff, generateWith, ← he, ← hactive]
  cases active.flatMap (·.problems e) with
  | nil => simp [eq_comm]
  | cons problem problems => simp

theorem generateWith_eq_error {e : Declaration Member} {active : List (Feature Member)}
    {problems : List Problem} (he : e = d.withTagsInForce defaults settings)
    (hactive : active = features.filter (·.takesPart e.includes)) :
    generateWith defaults features settings d = .error problems ↔
      active.flatMap (·.problems e) = problems ∧ problems ≠ [] := by
  rw [generateWith, ← he, ← hactive]
  cases active.flatMap (·.problems e) with
  | nil => simp +contextual [eq_comm]
  | cons problem others => simp +contextual [eq_comm]

end

/-! ### Algebraic types -/

namespace AlgebraicType

def total (d : AlgebraicType) : Contribution :=
  contributions (features.filter (·.takesPart d.includes)) d

theorem takesPart_matchingFeature {tags : List Tag} {r : MatchResult} :
    (matchingFeature r).takesPart tags ↔ r.tag ∈ tags := by
  simp [Feature.takesPart, matchingFeature]

theorem mem_features {f : Feature Case} : f ∈ features ↔ (∃ r, f = matchingFeature r) ∨
    f ∈ [storageFeature, factoryFeature, caseTestFeature, matcherFeature] := by
  constructor
  · simp only [features, List.mem_cons, List.not_mem_nil]
    grind
  · rintro (⟨r, rfl⟩ | h)
    · cases r <;> simp [features]
    · simp only [features, List.mem_cons, List.not_mem_nil] at h ⊢
      grind

theorem flatMap_eq_of_unique {α : Type} {tags : List Tag} (part : Feature Case → List α)
    (before : List (Feature Case)) {f : Feature Case} {after : List (Feature Case)}
    (hf : features = before ++ f :: after) (h : ∀ g ∈ before ++ after, part g = []) :
    (features.filter (·.takesPart tags)).flatMap part = if f.takesPart tags then part f else [] := by
  obtain ⟨hbefore, hafter⟩ := List.forall_mem_append.mp h
  have hnone : ∀ fs : List (Feature Case), (∀ g ∈ fs, part g = []) →
      (fs.filter (·.takesPart tags)).flatMap part = [] := fun fs hfs =>
    List.flatMap_eq_nil_iff.mpr fun g hg => hfs g (List.mem_filter.mp hg).1
  rw [hf, List.filter_append, List.flatMap_append, hnone _ hbefore, List.nil_append,
    List.filter_cons]
  split
  · rw [List.flatMap_cons, hnone _ hafter, List.append_nil]
  · exact hnone _ hafter

theorem flatMap_features {α : Type} (tags : List Tag) (part : Feature Case → List α) :
    (features.filter (·.takesPart tags)).flatMap part =
      part storageFeature ++ part factoryFeature ++
        ([.void, .bool, .integer, .double].filter fun r : MatchResult => r.tag ∈ tags).flatMap
          (fun r => part (matchingFeature r)) ++
        (if "RMCaseMatching" ∈ tags then part caseTestFeature else []) ++
        if matcherFeature.takesPart tags then part matcherFeature else [] := by
  have hfeatures : features = [storageFeature, factoryFeature] ++
      [.void, .bool, .integer, .double].map matchingFeature ++ [caseTestFeature] ++
        [matcherFeature] := rfl
  have hfirst : [storageFeature, factoryFeature].filter (·.takesPart tags) =
      [storageFeature, factoryFeature] := rfl
  have hmatching : (fun r => (matchingFeature r).takesPart tags) = fun r => decide (r.tag ∈ tags) := by
    funext r
    exact Bool.eq_iff_iff.mpr (takesPart_matchingFeature.trans decide_eq_true_iff.symm)
  have htest : caseTestFeature.takesPart tags ↔ "RMCaseMatching" ∈ tags := by
    simp [Feature.takesPart, caseTestFeature]
  have hone : ∀ f : Feature Case, ([f].filter (·.takesPart tags)).flatMap part =
      if f.takesPart tags then part f else [] := by
    intro f
    rw [List.filter_cons]
    split <;> simp
  simp only [hfeatures, List.filter_append, List.flatMap_append, hfirst, hone, htest, List.filter_map,
    Function.comp_def, hmatching, List.flatMap_map, List.flatMap_cons, List.flatMap_nil,
    List.append_nil]

theorem mem_flatMap_matching {α : Type} {tags : List Tag} {b : α} (part : Feature Case → List α)
    (h : ∀ f ∈ [storageFeature, factoryFeature, caseTestFeature, matcherFeature], part f = []) :
    b ∈ (features.filter (·.takesPart tags)).flatMap part ↔
      ∃ r : MatchResult, r.tag ∈ tags ∧ b ∈ part (matchingFeature r) := by
  simp only [List.mem_flatMap, List.mem_filter, mem_features]
  constructor
  · rintro ⟨f, ⟨⟨r, rfl⟩ | hf, htakes⟩, hb⟩
    · exact ⟨r, takesPart_matchingFeature.mp htakes, hb⟩
    · rw [h f hf] at hb
      cases hb
  · rintro ⟨r, htag, hb⟩
    exact ⟨_, ⟨.inl ⟨r, rfl⟩, takesPart_matchingFeature.mpr htag⟩, hb⟩

theorem nameProblems_eq_nil {d : AlgebraicType} :
    d.nameProblems = [] ↔ (∀ c ∈ d.members, c.name ≠ "") ∧ (d.members.map Case.name).Nodup := by
  simp [nameProblems, missingNameProblems, repetitionProblems, repeated_eq_nil]

theorem flatMap_problems (e : AlgebraicType) :
    (features.filter (·.takesPart e.includes)).flatMap (·.problems e) = e.nameProblems :=
  flatMap_eq_of_unique (·.problems e) [] rfl
    (by simp [factoryFeature, matchingFeature, caseTestFeature, matcherFeature])

theorem generate_eq_ok {settings : Settings} {d e : AlgebraicType} {files : List File}
    (he : e = d.withTagsInForce defaultTags settings) :
    generate settings d = .ok files ↔
      ((∀ c ∈ e.members, c.name ≠ "") ∧ (e.members.map Case.name).Nodup) ∧
        files = e.total.mainFile e.name :: e.total.additionalFiles := by
  have hrework : ∀ f ∈ features, ∀ file, f.rework e file = file := by
    simp only [features, List.forall_mem_cons]
    exact ⟨fun _ => rfl, fun _ => rfl, fun _ => rfl, fun _ => rfl, fun _ => rfl, fun _ => rfl,
      fun _ => rfl, fun _ => rfl, by simp⟩
  rw [generate, generateWith_eq_ok he rfl, ← List.flatMap_eq_nil_iff, flatMap_problems,
    nameProblems_eq_nil, reworked_eq_self fun f hf => hrework f (List.mem_filter.mp hf).1]
  rfl

theorem generate_eq_error {settings : Settings} {d e : AlgebraicType} {problems : List Problem}
    (he : e = d.withTagsInForce defaultTags settings) :
    generate settings d = .error problems ↔ e.nameProblems = problems ∧ problems ≠ [] := by
  rw [generate, generateWith_eq_error he rfl, flatMap_problems]

variable {d : AlgebraicType}

theorem total_enumerations : d.total.enumerations = [d.enumeration] := by
  rw [total, contributions_eq_flatMap (·.enumerations) rfl fun _ _ => rfl]
  exact flatMap_eq_of_unique (fun f => (f.contribution d).enumerations) [] rfl
    (by simp [factoryFeature, matchingFeature, caseTestFeature, matcherFeature])

theorem total_instanceVariables : d.total.instanceVariables = d.instanceVariables := by
  rw [total, contributions_eq_flatMap (·.instanceVariables) rfl fun _ _ => rfl]
  exact flatMap_eq_of_unique (fun f => (f.contribution d).instanceVariables) [] rfl
    (by simp [factoryFeature, matchingFeature, caseTestFeature, matcherFeature])

theorem total_additionalFiles : d.total.additionalFiles =
    if matcherFeature.takesPart d.includes ∧ d.members ≠ [] then [d.matcherFile] else [] := by
  rw [total, contributions_eq_flatMap (·.additionalFiles) rfl fun _ _ => rfl,
    flatMap_eq_of_unique (fun f => (f.contribution d).additionalFiles) features.dropLast rfl
      (by simp [features, storageFeature, factoryFeature, matchingFeature, caseTestFeature])]
  by_cases hmembers : d.members = [] <;> simp [hmembers, matcherFeature]

theorem mem_total_blockTypes {b : BlockType} :
    b ∈ d.total.blockTypes ↔ ∃ r : MatchResult, r.tag ∈ d.includes ∧
      ∃ c ∈ d.members, c.blockType (c.handlerType d.name r) r.returnType = b := by
  rw [total, contributions_eq_flatMap (·.blockTypes) rfl fun _ _ => rfl,
    mem_flatMap_matching fun f => (f.contribution d).blockTypes]
  · simp [matchingFeature]
  · simp [storageFeature, factoryFeature, caseTestFeature, matcherFeature]

theorem matchMethod_mem_total {r : MatchResult} (htag : r.tag ∈ d.includes) (hne : d.members ≠ []) :
    d.matchMethod r ∈ d.total.instanceMethods := by
  rw [total, contributions_eq_flatMap (·.instanceMethods) rfl fun _ _ => rfl]
  refine List.mem_flatMap.mpr ⟨matchingFeature r, List.mem_filter.mpr
    ⟨mem_features.mpr (.inl ⟨r, rfl⟩), takesPart_matchingFeature.mpr htag⟩, ?_⟩
  simp [matchingFeature, hne]

end AlgebraicType

/-! ### Value objects -/

namespace ValueObject

def total (d : ValueObject) : Contribution := contributions features d

theorem nameProblems_eq_nil {d : ValueObject} :
    d.nameProblems = [] ↔ (d.members.map (·.name)).Nodup := by
  simp [nameProblems, repeated_eq_nil]

theorem flatMap_problems (e : ValueObject) : features.flatMap (·.problems e) = e.nameProblems := by
  simp [features, propertiesFeature, initializerFeature]

theorem generate_eq_ok {settings : Settings} {d e : ValueObject} {files : List File}
    (he : e = d.withTagsInForce defaultTags settings) :
    generate settings d = .ok files ↔
      (e.members.map (·.name)).Nodup ∧ files = [e.total.mainFile e.name] := by
  have hactive : features = features.filter (·.takesPart e.includes) := rfl
  have hrework : ∀ f ∈ features, ∀ file, f.rework e file = file := by
    simp [features, propertiesFeature, initializerFeature]
  rw [generate, generateWith_eq_ok he hactive, ← List.flatMap_eq_nil_iff, flatMap_problems,
    nameProblems_eq_nil, reworked_eq_self hrework]
  rfl

theorem generate_eq_error {settings : Settings} {d e : ValueObject} {problems : List Problem}
    (he : e = d.withTagsInForce defaultTags settings) :
    generate settings d = .error problems ↔ e.nameProblems = problems ∧ problems ≠ [] := by
  have hactive : features = features.filter (·.takesPart e.includes) := rfl
  rw [generate, generateWith_eq_error he hactive, flatMap_problems]

end ValueObject

end ValueTypes
