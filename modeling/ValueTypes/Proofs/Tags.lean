import ValueTypes.Proofs.Distinct
import ValueTypes.Proofs.Feature.Reads

/-! Tags matter as a set: it is of no importance where a tag comes from, in which place of a list it
stands and how often, as long as the same tags are in force. The tags in force themselves are a list
in the order of first mention, and nothing changes if they are declared as they are. -/

namespace ValueTypes

section

variable {Member : Type}

def SameTags (defaults : List Tag) (settings : Settings) (d : Declaration Member)
    (settings' : Settings) (e : Declaration Member) : Prop :=
  ∀ tag, tag ∈ tagsInForce defaults settings d.includes d.excludes ↔
    tag ∈ tagsInForce defaults settings' e.includes e.excludes

/-- Tags may move between settings and declaration, change their order and be repeated, and tags that
nobody includes may be excluded. -/
structure Rearranged (defaults : List Tag) (settings : Settings) (d : Declaration Member)
    (settings' : Settings) (e : Declaration Member) : Prop where
  included : ∀ tag, tag ∈ settings.includes ++ d.includes ↔ tag ∈ settings'.includes ++ e.includes
  excluded : ∀ tag ∈ defaults ++ (settings.includes ++ d.includes),
    (tag ∈ settings.excludes ++ d.excludes ↔ tag ∈ settings'.excludes ++ e.excludes)

theorem mem_tagsInForce {defaults includes excludes : List Tag} {settings : Settings} {tag : Tag} :
    tag ∈ tagsInForce defaults settings includes excludes ↔
      tag ∈ defaults ++ (settings.includes ++ includes) ∧ tag ∉ settings.excludes ++ excludes := by
  rw [tagsInForce, mem_appendNew, List.mem_filter, List.append_assoc]
  simp

theorem Rearranged.sameTags {defaults : List Tag} {settings settings' : Settings}
    {d e : Declaration Member} (h : Rearranged defaults settings d settings' e) :
    SameTags defaults settings d settings' e := by
  intro tag
  have hincluded : tag ∈ defaults ++ (settings.includes ++ d.includes) ↔
      tag ∈ defaults ++ (settings'.includes ++ e.includes) :=
    List.mem_append.trans ((or_congr_right (h.included tag)).trans List.mem_append.symm)
  rw [mem_tagsInForce, mem_tagsInForce, ← hincluded]
  exact and_congr_right fun htag => not_congr (h.excluded tag htag)

end

/-- Declarations of either kind with the same tags in force have the same files or the same problems,
whatever their directives are; and rearranged tags are the same tags. -/
theorem generate_eq_of_sameTags :
    (∀ (settings settings' : Settings) (d e : AlgebraicType), d.Alike Case.withoutDirectives e →
      SameTags AlgebraicType.defaultTags settings d settings' e →
      AlgebraicType.generate settings d = AlgebraicType.generate settings' e) ∧
    (∀ (settings settings' : Settings) (d e : ValueObject), d.Alike Attribute.withoutDirectives e →
      SameTags ValueObject.defaultTags settings d settings' e →
      ValueObject.generate settings d = ValueObject.generate settings' e) ∧
    (∀ (Member : Type) (defaults : List Tag) (settings settings' : Settings)
      (d e : Declaration Member), Rearranged defaults settings d settings' e →
      SameTags defaults settings d settings' e) := by
  refine ⟨fun settings settings' d e h htags => ?_, fun settings settings' d e h htags => ?_,
    fun Member defaults settings settings' d e h => h.sameTags⟩
  · exact generateWith_congr (fun f hf => AlgebraicType.readsSeen_of_mem hf) h htags
  · refine generateWith_congr (fun f hf => ?_) h htags
    simp only [ValueObject.features, List.mem_cons, List.not_mem_nil, or_false] at hf
    rcases hf with rfl | rfl
    · exact ValueObject.readsSeen_propertiesFeature
    · exact ValueObject.readsSeen_initializerFeature

def tagged {Member : Type} (members : List Member) : Declaration Member :=
  { name := "Page", comments := ["A page."], directives := ∅
    includes := ["RMGenericMatching", assumeNonnullTag], excludes := ["RMBoolMatching"]
    libraryName := none, typeHints := [], members }

def untagged {Member : Type} (members : List Member) : Declaration Member :=
  { tagged members with directives := Directives.add ∅ "note" ∅, includes := [], excludes := [] }

def tagSettings : Settings :=
  ⟨[assumeNonnullTag, "RMGenericMatching", assumeNonnullTag], ["RMUnknown", "RMBoolMatching"]⟩

def textAttribute (directives : Directives) : Attribute :=
  ⟨"text", [], directives, .nullable, ⟨"NSString", "NSString*", none, none, none, none, []⟩⟩

theorem rearranged_tagged {Member : Type} {defaults : List Tag} (hdefaults : "RMUnknown" ∉ defaults)
    (members members' : List Member) :
    Rearranged defaults {} (tagged members) tagSettings (untagged members') where
  included := by simp [tagged, untagged, tagSettings, or_comm]
  excluded := by
    intro tag htag
    have hdeclared : "RMUnknown" ∉ ["RMGenericMatching", assumeNonnullTag] := by decide
    have hknown : tag ≠ "RMUnknown" := by
      rintro rfl
      exact hdeclared ((List.mem_append.mp htag).resolve_left hdefaults)
    simp [tagged, untagged, tagSettings, hknown]

theorem generate_eq_of_sameTags_tagged : ∃ files files',
    AlgebraicType.generate {} (tagged [.single (textAttribute ∅)]) = .ok files ∧
    AlgebraicType.generate tagSettings (untagged [.single (textAttribute (.add ∅ "note" ∅))]) =
      .ok files ∧
    ValueObject.generate {} (tagged [textAttribute ∅]) = .ok files' ∧
    ValueObject.generate tagSettings (untagged [textAttribute (.add ∅ "note" ∅)]) = .ok files' := by
  obtain ⟨halgebraic, hvalue, hsame⟩ := generate_eq_of_sameTags
  have hfiles : ∃ files, AlgebraicType.generate {} (tagged [.single (textAttribute ∅)]) = .ok files :=
    ⟨_, (AlgebraicType.generate_eq_ok rfl).mpr ⟨by decide, rfl⟩⟩
  have hfiles' : ∃ files, ValueObject.generate {} (tagged [textAttribute ∅]) = .ok files :=
    ⟨_, (ValueObject.generate_eq_ok rfl).mpr ⟨by decide, rfl⟩⟩
  obtain ⟨files, hfiles⟩ := hfiles
  obtain ⟨files', hfiles'⟩ := hfiles'
  have heq := halgebraic {} tagSettings (tagged [.single (textAttribute ∅)])
    (untagged [.single (textAttribute (.add ∅ "note" ∅))]) ⟨rfl, rfl, rfl, rfl, rfl⟩
    (hsame _ _ _ _ _ _ (rearranged_tagged (by decide) _ _))
  have heq' := hvalue {} tagSettings (tagged [textAttribute ∅])
    (untagged [textAttribute (.add ∅ "note" ∅)]) ⟨rfl, rfl, rfl, rfl, rfl⟩
    (hsame _ _ _ _ _ _ (rearranged_tagged (by decide) _ _))
  exact ⟨files, files', hfiles, heq.symm.trans hfiles, hfiles', heq'.symm.trans hfiles'⟩

/-! ### The list of tags in force -/

section

variable {defaults includes excludes : List Tag} {settings : Settings}

theorem tagsInForce_eq_filter : tagsInForce defaults settings includes excludes =
    (appendNew [] (defaults ++ settings.includes ++ includes)).filter
      fun tag => tag ∉ settings.excludes ++ excludes := by
  rw [filter_appendNew]
  rfl

theorem pairwise_tagsInForce : (tagsInForce defaults settings includes excludes).Pairwise fun a b =>
    (defaults ++ settings.includes ++ includes).idxOf a <
      (defaults ++ settings.includes ++ includes).idxOf b := by
  rw [tagsInForce_eq_filter]
  refine ((listsAfter_appendNew _).ordered.imp ?_).filter _
  rintro a b ⟨i, j, hi, hj, hij⟩
  rwa [hi.idxOf_eq, hj.idxOf_eq]

theorem tagsInForce_tagsInForce :
    tagsInForce defaults settings (tagsInForce defaults settings includes excludes) excludes =
      tagsInForce defaults settings includes excludes := by
  let allowed : Tag → Bool := fun tag => tag ∉ settings.excludes ++ excludes
  let base : List Tag := appendNew [] ((defaults ++ settings.includes).filter allowed)
  have hsplit : ∀ tags, tagsInForce defaults settings tags excludes =
      appendNew base (tags.filter allowed) := by
    intro tags
    rw [tagsInForce, List.filter_append, appendNew_append]
  have hallowed : (tagsInForce defaults settings includes excludes).filter allowed =
      tagsInForce defaults settings includes excludes := by
    rw [tagsInForce_eq_filter, List.filter_filter]
    simp only [allowed, Bool.and_self]
  rw [hsplit (tagsInForce defaults settings includes excludes), hallowed, hsplit includes]
  exact appendNew_appendNew (nodup_appendNew .nil _) _

end

theorem generateWith_withTagsInForce {Member : Type} (defaults : List Tag)
    (features : List (Feature Member)) (settings : Settings) (d : Declaration Member) :
    generateWith defaults features settings (d.withTagsInForce defaults settings) =
      generateWith defaults features settings d := by
  have hsame : (d.withTagsInForce defaults settings).withTagsInForce defaults settings =
      d.withTagsInForce defaults settings := by
    simp only [Declaration.withTagsInForce, tagsInForce_tagsInForce]
  rw [generateWith, generateWith, hsame]

/-- In force are the tags that are mentioned somewhere and nowhere excluded, each once and in the order
of first mention. Whatever the features are, it makes no difference to declare the tags that are in
force anyway. -/
theorem tagsInForce_exact :
    (∀ (defaults : List Tag) (settings : Settings) (includes excludes : List Tag),
      (∀ tag, tag ∈ tagsInForce defaults settings includes excludes ↔
        (tag ∈ defaults ∨ tag ∈ settings.includes ∨ tag ∈ includes) ∧
          tag ∉ settings.excludes ∧ tag ∉ excludes) ∧
      (tagsInForce defaults settings includes excludes).Nodup ∧
      (tagsInForce defaults settings includes excludes).Pairwise fun a b =>
        (defaults ++ settings.includes ++ includes).idxOf a <
          (defaults ++ settings.includes ++ includes).idxOf b) ∧
    (∀ (Member : Type) (defaults : List Tag) (features : List (Feature Member))
      (settings : Settings) (d : Declaration Member),
      generateWith defaults features settings
          { d with includes := tagsInForce defaults settings d.includes d.excludes } =
        generateWith defaults features settings d) := by
  refine ⟨fun defaults settings includes excludes => ⟨fun tag => ?_, ?_, pairwise_tagsInForce⟩,
    fun Member defaults features settings d => ?_⟩
  · simp only [mem_tagsInForce, List.mem_append, not_or]
  · exact nodup_appendNew .nil _
  · exact generateWith_withTagsInForce defaults features settings d

end ValueTypes
