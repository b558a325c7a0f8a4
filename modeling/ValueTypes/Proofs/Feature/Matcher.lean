import ValueTypes.Proofs.Feature.Matching

/-! The matcher works through a match method that exists: what it sends fits that method, and the
blocks that it passes hand their parameters on to its own handlers. -/

namespace ValueTypes

open Objc

/-- The block that is passed where the match method takes `taken` has the parameters of that block
type and hands them on to `handler`, whose block type has the same parameters. -/
structure ForwardingFits (main matcher : File) (f : Forwarding) (taken handler : Argument)
    (block generic : BlockType) : Prop where
  taken : main.Declares taken.type.name .void block
  parameters : f.parameters = block.parameters
  calls : f.handler = handler.name
  handled : matcher.Declares handler.type.name (.of (.named "id")) generic
  genericParameters : generic.parameters = block.parameters

/-- The matcher's method `forward` sends one message to its first argument, which is an instance of the
class and has the match method `method`. -/
structure MatcherFits (shows : TypeRef → Bool) (main : File) (cls : ClassModel) (matcher : File)
    (method forward : Method) (subject : Argument) (forwardings : List Forwarding) : Prop where
  declared : method ∈ cls.instanceMethods
  result : method.returnType = .void
  classMethods : matcher.classes.map (·.classMethods) = [[forward]]
  code : forward.code = matcherLines shows subject.name forwardings
  receiver : forward.keywords.head?.map (·.argument) = some (some subject)
  receiverType : subject.type.name = cls.name
  names : method.keywords.map (·.name) = forwardings.map (·.keyword)
  handlerCount : forward.keywords.length = forwardings.length + 1
  blocks : ∀ (k : Nat) (f : Forwarding), forwardings[k]? = some f →
    ∃ name taken name' handler block generic, method.keywords[k]? = some ⟨name, some taken⟩ ∧
      forward.keywords[k + 1]? = some ⟨name', some handler⟩ ∧
      ForwardingFits main matcher f taken handler block generic

def MatcherAgrees (shows : TypeRef → Bool) (d : AlgebraicType) (tags : List Tag) (files : List File) :
    Prop :=
  ∃ main extra, files = main :: extra ∧
    (extra ≠ [] ↔ "RMGenericMatching" ∈ tags ∧ MatchResult.tag .void ∈ tags ∧ d.members ≠ []) ∧
    ∀ matcher ∈ extra, extra = [matcher] ∧ matcher.name = matcherClass d.name ∧
      ∃ cls method forward subject forwardings, main.classes = [cls] ∧
        forwardings.length = d.members.length ∧
        MatcherFits shows main cls matcher method forward subject forwardings

namespace Case

theorem genericHandlerType_injective {t : String} {c c' : Case}
    (h : c.genericHandlerType t = c'.genericHandlerType t) : c.name = c'.name :=
  (String.append_right_inj _).mp ((String.append_left_inj _).mp h)

end Case

namespace AlgebraicType

variable {d : AlgebraicType}

theorem declares_genericHandlerType {c : Case} (hdistinct : (d.members.map Case.name).Nodup)
    (hc : c ∈ d.members) :
    d.matcherFile.Declares (c.genericHandlerType d.name) (.of (.named "id"))
      (c.blockType (c.genericHandlerType d.name) (.of (.named "id"))) := by
  intro b
  constructor
  · rintro rfl
    exact ⟨List.mem_map_of_mem hc, rfl, rfl⟩
  · rintro ⟨hb, hname, -⟩
    obtain ⟨c', hc', rfl⟩ := List.mem_map.mp hb
    rw [List.inj_on_of_nodup_map hdistinct hc' hc (Case.genericHandlerType_injective hname)]

theorem forwardingFits {c : Case} (hdistinct : (d.members.map Case.name).Nodup)
    (htag : MatchResult.tag .void ∈ d.includes) (hc : c ∈ d.members) (keyword : String) :
    ForwardingFits (d.total.mainFile d.name) d.matcherFile (c.forwarding keyword)
      (c.handlerArgument d.handlerModifiers (c.handlerType d.name .void))
      (c.handlerArgument d.handlerModifiers (c.genericHandlerType d.name))
      (c.blockType (c.handlerType d.name .void) .void)
      (c.blockType (c.genericHandlerType d.name) (.of (.named "id"))) where
  taken := declares_handlerType hdistinct htag hc d.name
  parameters := rfl
  calls := rfl
  handled := declares_genericHandlerType hdistinct hc
  genericParameters := rfl

theorem length_forwardings (d : AlgebraicType) : d.forwardings.length = d.members.length := by
  rw [forwardings, List.length_zipWith, length_matchParts, Nat.min_self]

theorem matcherFits (hdistinct : (d.members.map Case.name).Nodup)
    (htag : MatchResult.tag .void ∈ d.includes) (hne : d.members ≠ []) :
    ∃ subject, MatcherFits TypeRef.isObject (d.total.mainFile d.name) (d.total.mainClass d.name)
      d.matcherFile (d.matchMethod .void) d.matcherMethod subject d.forwardings := by
  refine ⟨⟨matchSubject d.name, if d.qualifies then [.nonnull] else [], ⟨d.name, d.name ++ "*"⟩⟩,
    matchMethod_mem_total htag hne, rfl, rfl, code_matcherMethod d, rfl, rfl, ?_, ?_, ?_⟩
  · rw [forwardings, map_zipWith_matchParts fun _ _ => rfl]
    exact names_matchSignature d .void
  · rw [length_forwardings, matcherMethod, matcherSignature, List.length_cons, List.length_map]
  · intro k f hf
    obtain ⟨keyword, c, -, hk, rfl⟩ := List.getElem?_zipWith_eq_some.mp hf
    obtain ⟨name, -, hkeyword⟩ := getElem?_matchSignature (r := .void) hk
    have hhandler : d.matcherMethod.keywords[k + 1]? = some ⟨uncapitalized c.name,
        some (c.handlerArgument d.handlerModifiers (c.genericHandlerType d.name))⟩ := by
      rw [matcherMethod, matcherSignature, List.getElem?_cons_succ, List.getElem?_map, hk,
        Option.map_some]
    exact ⟨name, _, _, _, _, _, hkeyword, hhandler,
      forwardingFits hdistinct htag (List.mem_of_getElem? hk) keyword⟩

theorem takesPart_matcherFeature {tags : List Tag} : matcherFeature.takesPart tags ↔
    "RMGenericMatching" ∈ tags ∧ MatchResult.tag .void ∈ tags := by
  simp [Feature.takesPart, matcherFeature]

theorem additionalFiles_ne_nil : d.total.additionalFiles ≠ [] ↔
    "RMGenericMatching" ∈ d.includes ∧ MatchResult.tag .void ∈ d.includes ∧ d.members ≠ [] := by
  rw [← and_assoc, ← takesPart_matcherFeature, total_additionalFiles]
  simp

/-- The parameters of the blocks that the matcher passes are those of the block types; their nullability
is shown for objects. -/
theorem matcherAgrees_of_generate {settings : Settings} {files : List File}
    (h : generate settings d = .ok files) : MatcherAgrees TypeRef.isObject d
      (tagsInForce defaultTags settings d.includes d.excludes) files := by
  obtain ⟨⟨-, hdistinct⟩, rfl⟩ := (generate_eq_ok rfl).mp h
  refine ⟨_, _, rfl, ?_, fun matcher hmatcher => ?_⟩
  · rw [additionalFiles_ne_nil]
    rfl
  · rw [total_additionalFiles] at hmatcher ⊢
    split at hmatcher
    · rename_i hforce
      obtain rfl := List.mem_singleton.mp hmatcher
      obtain ⟨htakes, hne⟩ := hforce
      have htag := (takesPart_matcherFeature.mp htakes).2
      obtain ⟨subject, hfits⟩ := matcherFits hdistinct htag hne
      exact ⟨if_pos ⟨htakes, hne⟩, rfl, _, _, _, subject, _, rfl, length_forwardings _, hfits⟩
    · cases hmatcher

theorem parameters_of_declares {file name : String} {result : ReturnType} {block : BlockType}
    (h : (d.total.mainFile file).Declares name result block) :
    ∃ c ∈ d.members, block.parameters = c.handlerParameters := by
  obtain ⟨hmem, -⟩ := (h block).mp rfl
  obtain ⟨r, -, c, hc, rfl⟩ := mem_total_blockTypes.mp hmem
  exact ⟨c, hc, rfl⟩

theorem eq_matcherFile_of_mem {file : File} (h : file ∈ d.total.additionalFiles) :
    file = d.matcherFile := by
  rw [total_additionalFiles] at h
  split at h
  · exact List.mem_singleton.mp h
  · cases h

theorem exists_forwardings {shows : TypeRef → Bool} {tags : List Tag}
    (h : MatcherAgrees shows d tags (d.total.mainFile d.name :: d.total.additionalFiles))
    (hextra : d.total.additionalFiles ≠ []) : ∃ subject forwardings,
      d.matcherMethod.code = matcherLines shows subject forwardings ∧
      forwardings.length = d.members.length ∧
      ∀ f ∈ forwardings, ∃ c ∈ d.members, f.parameters = c.handlerParameters := by
  obtain ⟨main, extra, hfiles, -, hmatcher⟩ := h
  obtain ⟨rfl, rfl⟩ := List.cons.inj hfiles
  obtain ⟨matcher, hmem⟩ := List.exists_mem_of_ne_nil _ hextra
  obtain ⟨-, -, cls, method, forward, subject, forwardings, -, hlength, hfits⟩ := hmatcher matcher hmem
  obtain rfl := eq_matcherFile_of_mem hmem
  obtain rfl : d.matcherMethod = forward :=
    List.singleton_inj.mp (List.singleton_inj.mp hfits.classMethods)
  refine ⟨subject.name, forwardings, hfits.code, hlength, fun f hf => ?_⟩
  obtain ⟨k, hk⟩ := List.getElem?_of_mem hf
  obtain ⟨name, taken, name', handler, block, generic, -, -, hblock⟩ := hfits.blocks k f hk
  rw [hblock.parameters]
  exact parameters_of_declares hblock.taken

def genericSettings : Settings := ⟨["RMGenericMatching"], ["RMBoolMatching"]⟩

def event : AlgebraicType :=
  { name := "Event", comments := [], directives := ∅, includes := [], excludes := []
    libraryName := none, typeHints := []
    members := [.collection "Quit" [] [], .collection "Move" [] [⟨"speed", [], ∅, .inherited,
      ⟨"CGFloat", "CGFloat", none, none, none, none, []⟩⟩], .single ⟨"key", [], ∅, .nullable,
      ⟨"NSString", "NSString*", none, none, none, none, []⟩⟩] }

theorem matcherAgrees_event : ∃ main matcher, generate genericSettings event = .ok [main, matcher] ∧
    MatcherAgrees TypeRef.isObject event
      (tagsInForce defaultTags genericSettings event.includes event.excludes) [main, matcher] := by
  have h : generate genericSettings event = .ok [_, _] := (generate_eq_ok rfl).mpr ⟨by decide, rfl⟩
  exact ⟨_, _, h, matcherAgrees_of_generate h⟩

def qualifiedNumber : AlgebraicType :=
  { name := "Event", comments := [], directives := ∅, includes := ["RMGenericMatching"], excludes := []
    libraryName := none, typeHints := []
    members := [.collection "Move" [] [⟨"fast", [], ∅, .nullable,
      ⟨"BOOL", "BOOL", none, none, none, none, []⟩⟩]] }

/-- The block types state the nullability of a number, which the block that is passed leaves out. -/
theorem not_matcherAgrees_qualifiedNumber : ∃ files,
    generate {} qualifiedNumber = .ok files ∧ ¬ MatcherAgrees (fun _ => true) qualifiedNumber
      (tagsInForce defaultTags {} qualifiedNumber.includes qualifiedNumber.excludes) files := by
  refine ⟨_, (generate_eq_ok rfl).mpr ⟨by decide, rfl⟩, fun h => ?_⟩
  obtain ⟨subject, forwardings, hcode, hlength, hparameters⟩ :=
    exists_forwardings (d := qualifiedNumber.withTagsInForce defaultTags {}) h
      (additionalFiles_ne_nil.mpr (by decide))
  obtain ⟨f, rfl⟩ := List.length_eq_one_iff.mp hlength
  obtain ⟨c, hc, hf⟩ := hparameters f List.mem_cons_self
  obtain rfl := List.mem_singleton.mp hc
  have htext : String.intercalate ", " (f.parameters.map (·.text fun _ => true)) =
      "BOOL _Nullable fast" := by
    rw [hf]
    decide +kernel
  -- The third line is the one with the parameters of the only block.
  have hline : some "  matchMove:^(BOOL fast) \x7b" = (matcherLines (fun _ => true) subject [f])[2]? :=
    hcode ▸ by decide +kernel
  have hqualified : "  matchMove:^(BOOL fast) \x7b" =
      "  " ++ f.keyword ++ ":^(" ++ "BOOL _Nullable fast" ++ ") \x7b" := by
    rw [← htext]
    exact Option.some.inj hline
  have hsuffix : "BOOL _Nullable fast) \x7b".toList <:+ "  matchMove:^(BOOL fast) \x7b".toList := by
    refine ⟨("  " ++ f.keyword ++ ":^(").toList, ?_⟩
    rw [hqualified]
    simp [String.toList_append]
  exact absurd hsuffix (by decide)

end AlgebraicType

end ValueTypes
