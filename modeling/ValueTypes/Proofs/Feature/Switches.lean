import Mathlib.Data.List.Nodup
import ValueTypes.Proofs.Feature.ClosedForm
import ValueTypes.Proofs.Feature.Matcher
import ValueTypes.Proofs.Tags

/-! Matching features are switched off one by one. A tag that is excluded takes the block types and
instance methods of its feature out of the main file, and with the void matching also the matcher that
works through it; everything else stays as it is, in the same order. -/

namespace ValueTypes

open Objc

/-! ### Contributions without block types, instance methods and files -/

namespace Contribution

def frame (c : Contribution) : Contribution :=
  { c with blockTypes := [], instanceMethods := [], additionalFiles := [] }

theorem merge_empty (c : Contribution) : c.merge {} = c := by
  unfold merge
  simp

theorem frame_merge (a b : Contribution) : (a.merge b).frame = a.frame.merge b.frame := rfl

theorem mainFile_eq_of_frame {a b : Contribution} (h : a.frame = b.frame) (name : String) :
    b.mainFile name = { a.mainFile name with
      blockTypes := b.blockTypes
      classes := [{ a.mainClass name with instanceMethods := b.instanceMethods }] } := by
  have hfile : ∀ c : Contribution, c.mainFile name = { c.frame.mainFile name with
      blockTypes := c.blockTypes
      classes := [{ c.frame.mainClass name with instanceMethods := c.instanceMethods }] } :=
    fun _ => rfl
  rw [hfile b, ← h]
  rfl

end Contribution

section

variable {Member : Type} {features : List (Feature Member)} {d : Declaration Member}

theorem frame_contributions (features : List (Feature Member)) (d : Declaration Member) :
    (contributions features d).frame =
      features.foldl (fun total f => total.merge (f.contribution d).frame) {} :=
  (List.foldl_hom Contribution.frame fun total f =>
    (total.frame_merge (f.contribution d)).symm).symm

theorem frame_contributions_filter {p : Feature Member → Bool}
    (h : ∀ f ∈ features, p f = false → (f.contribution d).frame = {}) :
    (contributions (features.filter p) d).frame = (contributions features d).frame := by
  rw [frame_contributions, frame_contributions, List.foldl_filter]
  apply List.foldl_ext
  intro total f hf
  cases hp : p f with
  | true => rfl
  | false =>
    show total = _
    rw [h f hf hp, Contribution.merge_empty]

theorem collected_append {α : Type} (before after : List (Feature Member)) (d : Declaration Member)
    (part : Contribution → List α) :
    collected (before ++ after) d part = collected before d part ++ collected after d part :=
  List.flatMap_append

theorem collected_filter {α : Type} {p : Feature Member → Bool} {part : Contribution → List α}
    (h : ∀ f ∈ features, p f = false → part (f.contribution d) = []) :
    collected (features.filter p) d part = collected features d part := by
  induction features with
  | nil => rfl
  | cons f fs ih =>
    obtain ⟨hf, hfs⟩ := List.forall_mem_cons.mp h
    unfold collected at ih ⊢
    cases hp : p f with
    | true => rw [List.filter_cons_of_pos hp, List.flatMap_cons, List.flatMap_cons, ih hfs]
    | false =>
      rw [List.filter_cons_of_neg (by simp [hp]), List.flatMap_cons, hf hp, ih hfs, List.nil_append]

end

/-! ### Tags that are excluded -/

def Settings.excluding (settings : Settings) (tag : Tag) : Settings :=
  { settings with excludes := settings.excludes ++ [tag] }

theorem mem_tagsInForce_excluding {defaults includes excludes : List Tag} {settings : Settings}
    {tag off : Tag} : tag ∈ tagsInForce defaults (settings.excluding off) includes excludes ↔
      tag ∈ tagsInForce defaults settings includes excludes ∧ tag ≠ off := by
  have hexcluded : tag ∉ (settings.excluding off).excludes ++ excludes ↔
      tag ∉ settings.excludes ++ excludes ∧ tag ≠ off := by
    simp only [Settings.excluding, List.mem_append, List.mem_singleton]
    tauto
  rw [mem_tagsInForce, mem_tagsInForce, hexcluded, and_assoc]
  rfl

theorem takesPart_excluding {Member : Type} {defaults includes excludes : List Tag}
    {settings : Settings} {off : Tag} {f : Feature Member} :
    f.takesPart (tagsInForce defaults (settings.excluding off) includes excludes) =
      (decide (off ∉ f.requires) && f.takesPart (tagsInForce defaults settings includes excludes)) := by
  apply Bool.eq_iff_iff.mpr
  rw [Bool.and_eq_true, decide_eq_true_iff, takesPart_iff, takesPart_iff]
  constructor
  · intro h
    exact ⟨fun hoff => (mem_tagsInForce_excluding.mp (h off hoff)).2 rfl,
      fun tag htag => (mem_tagsInForce_excluding.mp (h tag htag)).1⟩
  · rintro ⟨hoff, h⟩ tag htag
    exact mem_tagsInForce_excluding.mpr ⟨h tag htag, fun heq => hoff (heq ▸ htag)⟩

/-! ### Matching features -/

inductive Matching where
  | handlers (r : MatchResult)
  | caseTests
  deriving DecidableEq

namespace Matching

def tag : Matching → Tag
  | handlers r => r.tag
  | caseTests => "RMCaseMatching"

def feature : Matching → Feature Case
  | handlers r => matchingFeature r
  | caseTests => caseTestFeature

def all : List Matching :=
  [handlers .void, handlers .bool, handlers .integer, handlers .double, caseTests]

theorem mem_all (m : Matching) : m ∈ all := by
  cases m with
  | handlers r => cases r <;> decide
  | caseTests => decide

theorem requires_feature (m : Matching) : m.feature.requires = [m.tag] := by
  cases m <;> rfl

theorem tag_injective {m n : Matching} (h : m.tag = n.tag) : m = n := by
  have hinjOn : ∀ m ∈ all, ∀ n ∈ all, m.tag = n.tag → m = n := by decide
  exact hinjOn m (mem_all m) n (mem_all n) h

theorem tag_mem_requires_feature {m n : Matching} : m.tag ∈ n.feature.requires ↔ m = n := by
  rw [requires_feature, List.mem_singleton]
  exact ⟨tag_injective, congrArg tag⟩

theorem tag_mem_requires_matcherFeature {m : Matching} :
    m.tag ∈ matcherFeature.requires ↔ m = handlers .void := by
  have hiff : ∀ m ∈ all, m.tag ∈ matcherFeature.requires ↔ m = handlers .void := by decide
  exact hiff m (mem_all m)

theorem tag_notMem_consultedTags (m : Matching) : m.tag ∉ consultedTags := by
  cases m with
  | handlers r => cases r <;> decide
  | caseTests => decide

end Matching

namespace AlgebraicType

theorem frame_of_requires {f : Feature Case} (hf : f ∈ features) {tag : Tag} (htag : tag ∈ f.requires)
    (e : AlgebraicType) : (f.contribution e).frame = {} := by
  rcases mem_features.mp hf with ⟨r, rfl⟩ | hf
  · rfl
  · simp only [List.mem_cons, List.not_mem_nil, or_false] at hf
    rcases hf with rfl | rfl | rfl | rfl
    · cases htag
    · cases htag
    · rfl
    · rfl

theorem total_excluding (d : AlgebraicType) (settings : Settings) {off : Tag}
    (hoff : off ∉ consultedTags) :
    total (d.withTagsInForce defaultTags (settings.excluding off)) =
      contributions ((features.filter
        (·.takesPart (d.withTagsInForce defaultTags settings).includes)).filter
          fun f => off ∉ f.requires) (d.withTagsInForce defaultTags settings) := by
  have hactive : features.filter
      (·.takesPart (d.withTagsInForce defaultTags (settings.excluding off)).includes) =
      (features.filter (·.takesPart (d.withTagsInForce defaultTags settings).includes)).filter
        fun f => off ∉ f.requires := by
    rw [List.filter_filter]
    exact List.filter_congr fun f _ => takesPart_excluding
  have hseen : (d.withTagsInForce defaultTags (settings.excluding off)).seen Case.withoutDirectives =
      (d.withTagsInForce defaultTags settings).seen Case.withoutDirectives := by
    refine Declaration.Alike.seen_eq ⟨rfl, rfl, rfl, rfl, rfl⟩ fun tag htag => ?_
    have hne : tag ≠ off := fun heq => hoff (heq ▸ htag)
    exact mem_tagsInForce_excluding.trans (and_iff_left hne)
  rw [total, hactive]
  apply contributions_congr
  intro f hf
  have hmem : f ∈ features := (List.mem_filter.mp (List.mem_filter.mp hf).1).1
  exact (readsSeen_of_mem hmem).contribution_eq hseen

theorem features_eq : features =
    [storageFeature, factoryFeature] ++ (Matching.all.map Matching.feature ++ [matcherFeature]) := rfl

/-- Beside the feature that a tag is made for, only the matcher can require it. -/
theorem exists_features_split (m : Matching) : ∃ before after,
    features = before ++ m.feature :: after ∧
      ∀ g ∈ before ++ after, m.tag ∈ g.requires → g = matcherFeature := by
  obtain ⟨ms, ns, hall⟩ := List.append_of_mem m.mem_all
  have hnodup : (ms ++ m :: ns).Nodup := by
    rw [← hall]
    decide
  have hother : ∀ k ∈ ms ++ ns, k ≠ m := by
    intro k hk heq
    exact (List.nodup_middle.mp hnodup).notMem (heq ▸ hk)
  refine ⟨[storageFeature, factoryFeature] ++ ms.map Matching.feature,
    ns.map Matching.feature ++ [matcherFeature], ?_, ?_⟩
  · rw [features_eq, hall]
    simp
  · intro g hg htag
    have hcases : g ∈ [storageFeature, factoryFeature] ∨ g ∈ (ms ++ ns).map Matching.feature ∨
        g = matcherFeature := by
      simp only [List.mem_append, List.map_append, List.mem_singleton] at hg ⊢
      tauto
    rcases hcases with hfirst | hmatching | hmatcher
    · simp only [List.mem_cons, List.not_mem_nil, or_false] at hfirst
      rcases hfirst with rfl | rfl <;> cases htag
    · obtain ⟨k, hk, rfl⟩ := List.mem_map.mp hmatching
      exact absurd (Matching.tag_mem_requires_feature.mp htag).symm (hother k hk)
    · exact hmatcher

theorem additionalFiles_excluding (m : Matching) (e : AlgebraicType) :
    (contributions ((features.filter (·.takesPart e.includes)).filter
      fun f => m.tag ∉ f.requires) e).additionalFiles =
        if m = .handlers .void then [] else e.total.additionalFiles := by
  have hnone : ∀ f ∈ features, f = matcherFeature ∨ (f.contribution e).additionalFiles = [] := by
    simp [features, storageFeature, factoryFeature, matchingFeature, caseTestFeature]
  rw [total, contributions_eq_collected (·.additionalFiles) rfl fun _ _ => rfl,
    contributions_eq_collected (·.additionalFiles) rfl fun _ _ => rfl]
  split
  · rename_i hvoid
    subst hvoid
    apply List.flatMap_eq_nil_iff.mpr
    intro f hf
    obtain ⟨hf, hrequires⟩ := List.mem_filter.mp hf
    refine (hnone f (List.mem_filter.mp hf).1).resolve_left ?_
    rintro rfl
    exact absurd hrequires (by decide)
  · rename_i hm
    apply collected_filter
    intro f hf hrequires
    refine (hnone f (List.mem_filter.mp hf).1).resolve_left ?_
    rintro rfl
    exact hm (Matching.tag_mem_requires_matcherFeature.mp (by simpa using hrequires))

def contributed {α : Type} (e : AlgebraicType) (fs : List (Feature Case))
    (part : Contribution → List α) : List α :=
  collected (fs.filter (·.takesPart e.includes)) e part

theorem contributed_split {α : Type} {before after : List (Feature Case)} {f : Feature Case}
    (hfeatures : features = before ++ f :: after) (e : AlgebraicType)
    (part : Contribution → List α) : collected (features.filter (·.takesPart e.includes)) e part =
      e.contributed before part ++ e.contributed [f] part ++ e.contributed after part := by
  have happend : before ++ f :: after = before ++ ([f] ++ after) := rfl
  rw [hfeatures, happend, List.filter_append, List.filter_append, collected_append, collected_append,
    ← List.append_assoc]
  rfl

theorem collected_excluding {α : Type} {m : Matching} {before after : List (Feature Case)}
    (hfeatures : features = before ++ m.feature :: after)
    (honly : ∀ g ∈ before ++ after, m.tag ∈ g.requires → g = matcherFeature) (e : AlgebraicType)
    {part : Contribution → List α} (hmatcher : part (matcherFeature.contribution e) = []) :
    collected ((features.filter (·.takesPart e.includes)).filter fun f => m.tag ∉ f.requires) e part =
      e.contributed before part ++ e.contributed after part := by
  have hkept : ∀ fs : List (Feature Case), (∀ g ∈ fs, g ∈ before ++ after) →
      collected ((fs.filter (·.takesPart e.includes)).filter fun f => m.tag ∉ f.requires) e part =
        e.contributed fs part := by
    intro fs hfs
    apply collected_filter
    intro g hg hrequires
    have hg := hfs g (List.mem_filter.mp hg).1
    rw [honly g hg (by simpa using hrequires), hmatcher]
  have hcut : ([m.feature].filter (·.takesPart e.includes)).filter (fun f => m.tag ∉ f.requires) =
      [] := by
    rw [List.filter_eq_nil_iff]
    intro g hg
    obtain rfl := List.mem_singleton.mp (List.mem_filter.mp hg).1
    simp [Matching.requires_feature]
  have happend : before ++ m.feature :: after = before ++ ([m.feature] ++ after) := rfl
  rw [hfeatures, happend, List.filter_append, List.filter_append, List.filter_append,
    List.filter_append, hcut, List.nil_append, collected_append,
    hkept before fun g hg => List.mem_append_left _ hg,
    hkept after fun g hg => List.mem_append_right _ hg]

end AlgebraicType

/-- The second file is the first one without the block types and the instance methods that the feature
contributed to it; they stood between those of the features before and after it. -/
structure CutOut (e : AlgebraicType) (f : Feature Case) (before after : List (Feature Case))
    (cls : ClassModel) (first second : File) : Prop where
  features : AlgebraicType.features = before ++ f :: after
  classes : first.classes = [cls]
  blockTypes : first.blockTypes = e.contributed before (·.blockTypes) ++
    e.contributed [f] (·.blockTypes) ++ e.contributed after (·.blockTypes)
  instanceMethods : cls.instanceMethods = e.contributed before (·.instanceMethods) ++
    e.contributed [f] (·.instanceMethods) ++ e.contributed after (·.instanceMethods)
  rest : second = { first with
    blockTypes := e.contributed before (·.blockTypes) ++ e.contributed after (·.blockTypes)
    classes := [{ cls with
      instanceMethods := e.contributed before (·.instanceMethods) ++
        e.contributed after (·.instanceMethods) }] }

namespace AlgebraicType

theorem exists_cutOut (settings : Settings) (d : AlgebraicType) (m : Matching) :
    ∃ before after cls, CutOut (d.withTagsInForce defaultTags settings) m.feature before after cls
      ((total (d.withTagsInForce defaultTags settings)).mainFile d.name)
      ((total (d.withTagsInForce defaultTags (settings.excluding m.tag))).mainFile d.name) := by
  obtain ⟨before, after, hfeatures, honly⟩ := exists_features_split m
  have htotal := total_excluding d settings m.tag_notMem_consultedTags
  have hframe : (total (d.withTagsInForce defaultTags settings)).frame =
      (total (d.withTagsInForce defaultTags (settings.excluding m.tag))).frame := by
    rw [htotal]
    refine (frame_contributions_filter fun f hf hrequires => ?_).symm
    exact frame_of_requires (List.mem_filter.mp hf).1 (by simpa using hrequires) _
  refine ⟨before, after, _, hfeatures, rfl, ?_, ?_, ?_⟩
  · show (total _).blockTypes = _
    rw [total, contributions_eq_collected (·.blockTypes) rfl fun _ _ => rfl]
    exact contributed_split hfeatures _ _
  · show (total _).instanceMethods = _
    rw [total, contributions_eq_collected (·.instanceMethods) rfl fun _ _ => rfl]
    exact contributed_split hfeatures _ _
  · rw [Contribution.mainFile_eq_of_frame hframe, htotal,
      contributions_eq_collected (·.blockTypes) rfl fun _ _ => rfl,
      contributions_eq_collected (·.instanceMethods) rfl fun _ _ => rfl,
      collected_excluding hfeatures honly _ rfl, collected_excluding hfeatures honly _ rfl]

/-- If the tag of a matching feature is excluded, a declaration has the same problems as before, or
the same files but for what that feature contributed to the main file; the matcher goes with the void
matching. -/
theorem generate_excluding (settings : Settings) (d : AlgebraicType) (m : Matching) :
    (∀ problems, generate settings d = .error problems →
      generate (settings.excluding m.tag) d = .error problems) ∧
    ∀ files, generate settings d = .ok files → ∃ main extra rest before after cls,
      files = main :: extra ∧
      (extra = [] ∨ extra = [matcherFile (d.withTagsInForce defaultTags settings)]) ∧
      generate (settings.excluding m.tag) d =
        .ok (rest :: if m = .handlers .void then [] else extra) ∧
      CutOut (d.withTagsInForce defaultTags settings) m.feature before after cls main rest := by
  constructor
  · intro problems h
    obtain ⟨hproblems, hne⟩ := (generate_eq_error rfl).mp h
    exact (generate_eq_error rfl).mpr ⟨hproblems, hne⟩
  · intro files h
    obtain ⟨hnames, rfl⟩ := (generate_eq_ok rfl).mp h
    obtain ⟨before, after, cls, hcut⟩ := exists_cutOut settings d m
    have hextra : (total (d.withTagsInForce defaultTags (settings.excluding m.tag))).additionalFiles =
        if m = .handlers .void then []
        else (total (d.withTagsInForce defaultTags settings)).additionalFiles := by
      rw [total_excluding d settings m.tag_notMem_consultedTags, additionalFiles_excluding]
    refine ⟨_, _, _, before, after, cls, rfl, ?_, ?_, hcut⟩
    · rw [total_additionalFiles]
      split
      · exact .inr rfl
      · exact .inl rfl
    · rw [← hextra]
      exact (generate_eq_ok rfl).mpr ⟨hnames, rfl⟩

def twoQuits : AlgebraicType :=
  { event with members := [.collection "Quit" [] [], .collection "Quit" [] []] }

theorem generate_excluding_event :
    (∃ main matcher rest before after cls, generate genericSettings event = .ok [main, matcher] ∧
      generate (genericSettings.excluding "RMVoidMatching") event = .ok [rest] ∧
      CutOut (event.withTagsInForce defaultTags genericSettings) (matchingFeature .void) before after
        cls main rest) ∧
    generate genericSettings twoQuits = .error [.repeatedCase "Quit"] ∧
    generate (genericSettings.excluding "RMCaseMatching") twoQuits =
      .error [.repeatedCase "Quit"] := by
  have hfiles : ∃ main, generate genericSettings event =
      .ok [main, matcherFile (event.withTagsInForce defaultTags genericSettings)] := by
    have hextra := total_additionalFiles (d := event.withTagsInForce defaultTags genericSettings)
    rw [if_pos ⟨by decide, by simp [event, Declaration.withTagsInForce]⟩] at hextra
    exact ⟨_, (generate_eq_ok rfl).mpr ⟨by decide, by rw [hextra]⟩⟩
  have htwice : generate genericSettings twoQuits = .error [.repeatedCase "Quit"] :=
    (generate_eq_error rfl).mpr ⟨by decide, by simp⟩
  obtain ⟨main, hfiles⟩ := hfiles
  obtain ⟨main', extra, rest, before, after, cls, hsplit, -, hrest, hcut⟩ :=
    (generate_excluding genericSettings event (.handlers .void)).2 _ hfiles
  obtain ⟨rfl, rfl⟩ := List.cons.inj hsplit
  exact ⟨⟨main, _, rest, before, after, cls, hfiles, hrest, hcut⟩, htwice,
    (generate_excluding genericSettings twoQuits .caseTests).1 _ htwice⟩

end AlgebraicType

end ValueTypes
