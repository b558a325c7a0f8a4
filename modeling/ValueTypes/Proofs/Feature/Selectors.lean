import ValueTypes.Proofs.Feature.Matcher
import ValueTypes.Proofs.Feature.Names

/-! Names that methods and block types of an algebraic type are called by. They are joined from names
of cases and attributes without a separator, while only the names of the cases are checked; so two of
them can be the same. What has to hold of a declaration for them to be apart is stated here exactly. -/

namespace ValueTypes

open ValueTypes.Parser (Within Stops)
open ValueTypes.Source (isWordChar)

/-! ### Selectors -/

namespace Objc

def selectorParts (keywords : List Keyword) : List (String × Bool) :=
  keywords.map fun k => (k.name, k.argument.isSome)

def spelled (parts : List (String × Bool)) : String :=
  String.join (parts.map fun (name, takes) => if takes then name ++ ":" else name)

inductive SelectorForm : List (String × Bool) → Prop where
  | bare {name : String} (hname : Within isWordChar name.toList) : SelectorForm [(name, false)]
  | taking {names : List String} (hne : names ≠ [])
      (hnames : ∀ name ∈ names, Within isWordChar name.toList) : SelectorForm (names.map (·, true))

theorem selector_eq_spelled (keywords : List Keyword) :
    selector keywords = spelled (selectorParts keywords) := by
  have hkeyword : Keyword.selector =
      fun k => if k.argument.isSome then k.name ++ ":" else k.name := by
    funext k
    unfold Keyword.selector
    cases k.argument with
    | none => rfl
    | some argument => rfl
  rw [selector, spelled, selectorParts, List.map_map, hkeyword]
  rfl

theorem toList_spelled_bare (name : String) : (spelled [(name, false)]).toList = name.toList := by
  simp [spelled]

theorem toList_spelled_taking (names : List String) :
    (spelled (names.map (·, true))).toList = names.flatMap fun name => name.toList ++ [':'] := by
  simp [spelled, String.toList_join, List.flatMap_map]

theorem word_of_append_colon {u v s t : List Char} (hu : Within isWordChar u)
    (hv : Within isWordChar v) (h : u ++ ':' :: s = v ++ ':' :: t) : u = v ∧ s = t := by
  have hcolon : ∀ r, Stops isWordChar (':' :: r) := fun r => Parser.stops_cons.mpr (by decide)
  have hword : u = v := by
    rw [← Parser.takeWhile_within_append hu (hcolon s), h, Parser.takeWhile_within_append hv (hcolon t)]
  subst hword
  exact ⟨rfl, (List.cons.inj (List.append_cancel_left h)).2⟩

theorem names_of_flatMap_colon {names names' : List String}
    (hnames : ∀ name ∈ names, Within isWordChar name.toList)
    (hnames' : ∀ name ∈ names', Within isWordChar name.toList)
    (h : (names.flatMap fun name => name.toList ++ [':']) =
      names'.flatMap fun name => name.toList ++ [':']) : names = names' := by
  induction names generalizing names' with
  | nil =>
    cases names' with
    | nil => rfl
    | cons name' names' => simp at h
  | cons name names ih =>
    cases names' with
    | nil => simp at h
    | cons name' names' =>
      obtain ⟨hname, hnames⟩ := List.forall_mem_cons.mp hnames
      obtain ⟨hname', hnames'⟩ := List.forall_mem_cons.mp hnames'
      simp only [List.flatMap_cons, List.append_assoc, List.singleton_append] at h
      obtain ⟨hword, hrest⟩ := word_of_append_colon hname hname' h
      rw [String.toList_inj.mp hword, ih hnames hnames' hrest]

theorem spelled_bare_ne_taking {name : String} {names : List String}
    (hname : Within isWordChar name.toList) (hne : names ≠ []) :
    spelled [(name, false)] ≠ spelled (names.map (·, true)) := by
  intro h
  obtain ⟨first, others, rfl⟩ := List.exists_cons_of_ne_nil hne
  have hcolon : ':' ∈ (spelled ((first :: others).map (·, true))).toList := by
    rw [toList_spelled_taking]
    simp
  rw [← h, toList_spelled_bare] at hcolon
  exact absurd (hname ':' hcolon) (by decide)

theorem SelectorForm.spelled_inj {parts parts' : List (String × Bool)} (hform : SelectorForm parts)
    (hform' : SelectorForm parts') : spelled parts = spelled parts' ↔ parts = parts' := by
  refine ⟨fun h => ?_, fun h => h ▸ rfl⟩
  cases hform with
  | bare hname =>
    cases hform' with
    | bare hname' =>
      have hlist := congrArg String.toList h
      rw [toList_spelled_bare, toList_spelled_bare, String.toList_inj] at hlist
      rw [hlist]
    | taking hne' hnames' => exact absurd h (spelled_bare_ne_taking hname hne')
  | taking hne hnames =>
    cases hform' with
    | bare hname' => exact absurd h.symm (spelled_bare_ne_taking hname' hne)
    | taking hne' hnames' =>
      have hlist := congrArg String.toList h
      rw [toList_spelled_taking, toList_spelled_taking] at hlist
      rw [names_of_flatMap_colon hnames hnames' hlist]

theorem selector_inj {keywords keywords' : List Keyword}
    (hform : SelectorForm (selectorParts keywords)) (hform' : SelectorForm (selectorParts keywords')) :
    selector keywords = selector keywords' ↔ selectorParts keywords = selectorParts keywords' := by
  rw [selector_eq_spelled, selector_eq_spelled, hform.spelled_inj hform']

theorem selectorParts_eq_map {keywords : List Keyword} (h : ∀ k ∈ keywords, k.argument.isSome) :
    selectorParts keywords = (keywords.map (·.name)).map (·, true) := by
  rw [selectorParts, List.map_map]
  apply List.map_congr_left
  intro k hk
  rw [h k hk, Function.comp_apply]

theorem taking_inj {names names' : List String} :
    names.map (·, true) = names'.map (·, true) ↔ names = names' :=
  List.map_inj_right fun _ _ h => congrArg Prod.fst h

end Objc

open Objc

/-! ### Methods on one case -/

namespace Case

variable {c c' : Case}

/-- The factories of two cases are called differently. Of two cases that are named after their
attributes this need not be asked. -/
def FactoriesApart : Case → Case → Prop
  | collection name _ [], collection name' _ [] => uncapitalized name ≠ uncapitalized name'
  | collection name _ (a :: as), collection name' _ (b :: bs) =>
    firstKeyword (uncapitalized name) a ≠ firstKeyword (uncapitalized name') b ∨
      as.map (·.name) ≠ bs.map (·.name)
  | collection name _ [a], single b => firstKeyword (uncapitalized name) a ≠ uncapitalized b.name
  | single a, collection name _ [b] => uncapitalized a.name ≠ firstKeyword (uncapitalized name) b
  | _, _ => True

def TestsApart (c c' : Case) : Prop :=
  match c.attributes, c'.attributes with
  | a :: as, b :: bs => firstKeyword c.name a ≠ firstKeyword c'.name b ∨
    as.map (·.name) ≠ bs.map (·.name)
  | _, _ => True

theorem selectorForm_of_taken {keywords : List Keyword} {argument : Attribute → Argument}
    (htaken : keywords.map (·.argument) = c.taken argument)
    (hnames : ∀ name ∈ keywords.map (·.name), Within isWordChar name.toList) :
    SelectorForm (selectorParts keywords) := by
  unfold taken at htaken
  split at htaken
  · obtain ⟨k, rfl, hk⟩ := List.map_eq_singleton_iff.mp htaken
    rw [selectorParts, List.map_singleton, hk]
    exact .bare (hnames k.name (by simp))
  · rename_i hne
    have htakes : ∀ k ∈ keywords, k.argument.isSome := by
      intro k hk
      have hargument : k.argument ∈ keywords.map (·.argument) := List.mem_map_of_mem hk
      rw [htaken] at hargument
      obtain ⟨a, -, ha⟩ := List.mem_map.mp hargument
      rw [← ha, Option.isSome_some]
    rw [selectorParts_eq_map htakes]
    refine .taking ?_ hnames
    intro hnone
    rw [List.map_eq_nil_iff.mp hnone] at htaken
    exact hne (List.map_eq_nil_iff.mp htaken.symm)

theorem selectorParts_attributeKeywords (first : String) (argument : Attribute → Argument)
    (a : Attribute) (as : List Attribute) :
    selectorParts (attributeKeywords first argument (a :: as)) =
      (first :: as.map (·.name)).map (·, true) := by
  simp [selectorParts, attributeKeywords]

theorem selectorParts_attributeKeywords_inj {first first' : String}
    {argument argument' : Attribute → Argument} {a b : Attribute} {as bs : List Attribute} :
    selectorParts (attributeKeywords first argument (a :: as)) =
        selectorParts (attributeKeywords first' argument' (b :: bs)) ↔
      first = first' ∧ as.map (·.name) = bs.map (·.name) := by
  rw [selectorParts_attributeKeywords, selectorParts_attributeKeywords, taking_inj, List.cons.injEq]

namespace WellNamed

theorem within_keywords (h : c.WellNamed) {first : String} (hfirst : Within isWordChar first.toList) :
    ∀ name ∈ first :: c.attributes.tail.map (·.name), Within isWordChar name.toList := by
  refine List.forall_mem_cons.mpr ⟨hfirst, List.forall_mem_map.mpr fun a ha => ?_⟩
  exact (h.attributes a (List.mem_of_mem_tail ha)).within

theorem selectorForm_factory (h : c.WellNamed) : SelectorForm (selectorParts c.factoryKeywords) := by
  obtain ⟨rest, hrest, hnames⟩ := h.names_factoryKeywords
  refine selectorForm_of_taken c.arguments_factoryKeywords ?_
  rw [hnames]
  apply h.within_keywords
  rw [String.toList_append]
  exact Parser.within_append.mpr ⟨within_uncapitalized h.name, hrest⟩

theorem selectorForm_test (h : c.WellNamed) (qualified assumed : Bool) :
    SelectorForm (selectorParts (c.testKeywords qualified assumed)) := by
  obtain ⟨rest, hrest, hnames⟩ := h.names_testKeywords qualified assumed
  refine selectorForm_of_taken (c.arguments_testKeywords qualified assumed) ?_
  rw [hnames]
  apply h.within_keywords
  rw [String.toList_append, String.toList_append]
  have his : Within isWordChar "is".toList := by decide
  exact Parser.within_append.mpr ⟨Parser.within_append.mpr ⟨his, h.name⟩, hrest⟩

theorem factoriesApart_iff (h : c.WellNamed) (h' : c'.WellNamed) (hname : c.name ≠ c'.name)
    (typeName : String) :
    (c.factory typeName).selector ≠ (c'.factory typeName).selector ↔ c.FactoriesApart c' := by
  have hparts := selector_inj h.selectorForm_factory h'.selectorForm_factory
  show ¬ selector c.factoryKeywords = selector c'.factoryKeywords ↔ _
  rw [hparts]
  cases c with
  | single a =>
    cases c' with
    | single b =>
      -- The names were compared with upper first letters, the keywords have lower ones.
      have hne : uncapitalized a.name ≠ uncapitalized b.name := fun heq =>
        hname (capitalized_eq_of_uncapitalized_eq (h.attributes a List.mem_cons_self)
          (h'.attributes b List.mem_cons_self) heq)
      simpa [factoryKeywords, selectorParts, FactoriesApart] using hne
    | collection name' comments' bs =>
      -- Only with one attribute has the other factory one keyword that takes an argument.
      rcases bs with _ | ⟨b, _ | ⟨b', bs⟩⟩ <;>
        simp [factoryKeywords, selectorParts, attributeKeywords, FactoriesApart, firstKeyword]
  | collection name comments as =>
    cases c' with
    | single b =>
      rcases as with _ | ⟨a, _ | ⟨a', as⟩⟩ <;>
        simp [factoryKeywords, selectorParts, attributeKeywords, FactoriesApart, firstKeyword]
    | collection name' comments' bs =>
      cases as with
      | nil => cases bs <;> simp [factoryKeywords, selectorParts, attributeKeywords, FactoriesApart]
      | cons a as =>
        cases bs with
        | nil => simp [factoryKeywords, selectorParts, attributeKeywords, FactoriesApart]
        | cons b bs =>
          rw [factoryKeywords, factoryKeywords, selectorParts_attributeKeywords_inj, not_and_or]
          rfl

theorem testsApart_iff (h : c.WellNamed) (h' : c'.WellNamed) (hname : c.name ≠ c'.name)
    (typeName : String) (qualified assumed : Bool) :
    (c.testMethod typeName qualified assumed).selector ≠
      (c'.testMethod typeName qualified assumed).selector ↔ c.TestsApart c' := by
  have hparts := selector_inj (h.selectorForm_test qualified assumed)
    (h'.selectorForm_test qualified assumed)
  show ¬ selector (c.testKeywords qualified assumed) = selector (c'.testKeywords qualified assumed) ↔ _
  rw [hparts]
  unfold testKeywords TestsApart
  cases c.attributes with
  | nil =>
    cases c'.attributes with
    | nil => simpa [selectorParts] using hname
    | cons b bs => simp [selectorParts, attributeKeywords]
  | cons a as =>
    cases c'.attributes with
    | nil => simp [selectorParts, attributeKeywords]
    | cons b bs =>
      have hfirst : "is" ++ c.name ++ "With" ++ capitalized a.name =
          "is" ++ c'.name ++ "With" ++ capitalized b.name ↔
            firstKeyword c.name a = firstKeyword c'.name b := by
        simp only [firstKeyword, String.append_assoc, String.append_right_inj]
      rw [selectorParts_attributeKeywords_inj, hfirst, not_and_or]

end WellNamed

end Case

/-! ### Methods of the class -/

theorem MatchResult.mark_injective {r r' : MatchResult} (h : r.mark = r'.mark) : r = r' := by
  cases r <;> cases r' <;> simp_all [mark]

namespace AlgebraicType

variable {d : AlgebraicType}

theorem selectorParts_matchSignature (d : AlgebraicType) (r : MatchResult) :
    selectorParts (d.matchSignature r) = (d.matchParts r).map (·, true) := by
  have htakes : ∀ k ∈ d.matchSignature r, k.argument.isSome := by
    intro k hk
    obtain ⟨c, -, hargument⟩ := exists_argument_of_mem_matchSignature hk
    rw [hargument, Option.isSome_some]
  rw [selectorParts_eq_map htakes, names_matchSignature]

theorem WellNamed.within_matchParts (h : d.WellNamed) (r : MatchResult) :
    ∀ name ∈ d.matchParts r, Within isWordChar name.toList := by
  have hmark : Within isWordChar ("match" ++ r.mark).toList := by cases r <;> decide
  refine forall_mem_matchParts (fun c hc => ?_) fun c hc => within_uncapitalized (h.cases c hc).name
  rw [String.toList_append, Parser.within_append]
  exact ⟨hmark, (h.cases c hc).name⟩

theorem WellNamed.selectorForm_match (h : d.WellNamed) (hne : d.members ≠ []) (r : MatchResult) :
    SelectorForm (selectorParts (d.matchSignature r)) := by
  rw [selectorParts_matchSignature]
  refine .taking ?_ (h.within_matchParts r)
  rw [← List.length_pos_iff, length_matchParts, List.length_pos_iff]
  exact hne

theorem WellNamed.nodup_matchSelectors (h : d.WellNamed) (tags : List Tag) :
    ((d.matchResults tags).map fun r => (d.matchMethod r).selector).Nodup := by
  unfold matchResults
  split
  · exact List.nodup_nil
  · rename_i hne
    have hresults : [MatchResult.void, .bool, .integer, .double].Nodup := by decide
    refine (hresults.filter _).map_on fun r _ r' _ heq => ?_
    have hparts := (selector_inj (h.selectorForm_match hne r) (h.selectorForm_match hne r')).mp heq
    rw [selectorParts_matchSignature, selectorParts_matchSignature, taking_inj] at hparts
    obtain ⟨c, others, hmembers⟩ := List.exists_cons_of_ne_nil hne
    simp only [matchParts, hmembers, List.cons.injEq, String.append_left_inj,
      String.append_right_inj] at hparts
    exact MatchResult.mark_injective hparts.1

theorem WellNamed.matchSelector_ne_test (h : d.WellNamed) (hne : d.members ≠ []) {c : Case}
    (hc : c.WellNamed) (r : MatchResult) (qualified assumed : Bool) :
    selector (d.matchSignature r) ≠ selector (c.testKeywords qualified assumed) := by
  intro heq
  have hparts := (selector_inj (h.selectorForm_match hne r)
    (hc.selectorForm_test qualified assumed)).mp heq
  have hnames : d.matchParts r = (c.testKeywords qualified assumed).map (·.name) := by
    have hfst := congrArg (List.map Prod.fst) hparts
    rw [selectorParts_matchSignature] at hfst
    simpa [selectorParts, Function.comp_def] using hfst
  obtain ⟨rest, -, hkeywords⟩ := hc.names_testKeywords qualified assumed
  obtain ⟨c', others, hmembers⟩ := List.exists_cons_of_ne_nil hne
  rw [hkeywords, matchParts, hmembers] at hnames
  have hfirst := congrArg (·.toList.head?) (List.cons.inj hnames).1
  simp at hfirst

theorem nodup_classSelectors (h : d.WellNamed) (hdistinct : (d.members.map Case.name).Nodup) :
    (d.total.classMethods.map (·.selector)).Nodup ↔ d.members.Pairwise Case.FactoriesApart := by
  rw [total_classMethods, List.map_map, List.Nodup, List.pairwise_map]
  exact pairwise_iff_of_distinct hdistinct fun c hc c' hc' hne =>
    (h.cases c hc).factoriesApart_iff (h.cases c' hc') hne d.name

theorem nodup_instanceSelectors (h : d.WellNamed) (hdistinct : (d.members.map Case.name).Nodup) :
    (d.total.instanceMethods.map (·.selector)).Nodup ↔
      ("RMCaseMatching" ∈ d.includes → d.members.Pairwise Case.TestsApart) := by
  have htests : ((d.members.map fun c => c.testMethod d.name d.qualifies
      (nonnullByDefault d.includes)).map (·.selector)).Nodup ↔ d.members.Pairwise Case.TestsApart := by
    rw [List.map_map, List.Nodup, List.pairwise_map]
    exact pairwise_iff_of_distinct hdistinct fun c hc c' hc' hne =>
      (h.cases c hc).testsApart_iff (h.cases c' hc') hne d.name _ _
  have hmatchers : (((d.matchResults d.includes).map d.matchMethod).map (·.selector)).Nodup := by
    rw [List.map_map]
    exact h.nodup_matchSelectors d.includes
  have hapart : ∀ s ∈ ((d.matchResults d.includes).map d.matchMethod).map (·.selector),
      ∀ s' ∈ (d.members.map fun c => c.testMethod d.name d.qualifies
        (nonnullByDefault d.includes)).map (·.selector), s ≠ s' := by
    simp only [List.map_map, List.forall_mem_map]
    intro r _ c hc
    exact h.matchSelector_ne_test (List.ne_nil_of_mem hc) (h.cases c hc) r _ _
  rw [total_instanceMethods, List.map_append, List.nodup_append, and_iff_right hmatchers]
  split
  · rename_i htag
    rw [htests, and_iff_left hapart, forall_prop_of_true htag]
  · rename_i htag
    simp [htag]

/-! ### Block types -/

def handlerMarks (tags : List Tag) : List String :=
  ([.bool, .integer, .double].filter fun r : MatchResult => r.tag ∈ tags).map MatchResult.mark ++
    if "RMGenericMatching" ∈ tags ∧ MatchResult.tag .void ∈ tags then ["Generic"] else []

/-- No case is called like another one with a mark in front. This is only a question if there are void
handlers. -/
def HandlersApart (d : AlgebraicType) (tags : List Tag) : Prop :=
  MatchResult.tag .void ∈ tags → ∀ mark ∈ handlerMarks tags, ∀ c ∈ d.members, ∀ c' ∈ d.members,
    c.name ≠ mark ++ c'.name

def handlerName (d : AlgebraicType) (mark : String) (c : Case) : String :=
  d.name ++ mark ++ c.name ++ "MatchHandler"

theorem handlerName_inj {mark mark' : String} {c c' : Case} :
    d.handlerName mark c = d.handlerName mark' c' ↔ mark ++ c.name = mark' ++ c'.name := by
  unfold handlerName
  rw [String.append_left_inj, String.append_assoc, String.append_assoc, String.append_right_inj]

theorem nodup_map_handlerName (hdistinct : (d.members.map Case.name).Nodup) (mark : String) :
    (d.members.map (d.handlerName mark)).Nodup := by
  have hspelled : d.members.map (d.handlerName mark) =
      (d.members.map Case.name).map fun name => d.name ++ mark ++ name ++ "MatchHandler" := by
    rw [List.map_map]
    rfl
  rw [hspelled]
  exact hdistinct.map fun _ _ heq => (String.append_right_inj _).mp ((String.append_left_inj _).mp heq)

theorem pairwise_handlerMarks (tags : List Tag) :
    (handlerMarks tags).Pairwise fun mark mark' => ∀ name name', mark ++ name ≠ mark' ++ name' := by
  have hall : ["Bool", "Integer", "Double", "Generic"].Pairwise fun mark mark' =>
      mark ≠ "" ∧ mark' ≠ "" ∧ mark.toList.head? ≠ mark'.toList.head? := by decide
  have hsublist : (handlerMarks tags).Sublist ["Bool", "Integer", "Double", "Generic"] := by
    refine List.Sublist.append (List.Sublist.map MatchResult.mark List.filter_sublist) ?_
    split
    · exact List.Sublist.refl _
    · exact List.nil_sublist _
  refine (hall.sublist hsublist).imp ?_
  rintro mark mark' ⟨hne, hne', hhead⟩ name name' heq
  obtain ⟨x, xs, hx⟩ := List.exists_cons_of_ne_nil (mt String.toList_eq_nil_iff.mp hne)
  obtain ⟨y, ys, hy⟩ := List.exists_cons_of_ne_nil (mt String.toList_eq_nil_iff.mp hne')
  apply hhead
  have hfirst := congrArg (·.toList.head?) heq
  simpa only [String.toList_append, hx, hy, List.cons_append, List.head?_cons] using hfirst

theorem total_blockTypes (d : AlgebraicType) : d.total.blockTypes =
    ([.void, .bool, .integer, .double].filter fun r : MatchResult => r.tag ∈ d.includes).flatMap
      fun r => d.members.map fun c => c.blockType (c.handlerType d.name r) r.returnType := by
  rw [total, contributions_eq_flatMap (·.blockTypes) rfl fun _ _ => rfl, flatMap_features]
  simp [storageFeature, factoryFeature, matchingFeature, caseTestFeature, matcherFeature]

theorem names_mainBlockTypes (d : AlgebraicType) : d.total.blockTypes.map (·.name) =
    ((if MatchResult.tag .void ∈ d.includes then [""] else []) ++
      ([.bool, .integer, .double].filter fun r : MatchResult => r.tag ∈ d.includes).map
        MatchResult.mark).flatMap fun mark => d.members.map (d.handlerName mark) := by
  have hmarks : ([.void, .bool, .integer, .double].filter fun r : MatchResult =>
      r.tag ∈ d.includes).map MatchResult.mark =
        (if MatchResult.tag .void ∈ d.includes then [""] else []) ++
          ([.bool, .integer, .double].filter fun r : MatchResult => r.tag ∈ d.includes).map
            MatchResult.mark := by
    rw [List.filter_cons]
    by_cases htag : MatchResult.tag .void ∈ d.includes <;> simp [htag, MatchResult.mark]
  rw [← hmarks, total_blockTypes, List.map_flatMap, List.flatMap_map]
  simp only [List.map_map]
  rfl

theorem names_matcherBlockTypes (d : AlgebraicType) :
    (d.total.additionalFiles.flatMap (·.blockTypes)).map (·.name) =
      (if "RMGenericMatching" ∈ d.includes ∧ MatchResult.tag .void ∈ d.includes then ["Generic"]
        else []).flatMap fun mark => d.members.map (d.handlerName mark) := by
  rw [total_additionalFiles]
  simp only [takesPart_matcherFeature]
  by_cases hne : d.members = []
  · simp [hne]
  · simp only [hne, ne_eq, not_false_eq_true, and_true]
    split
    · simp only [List.flatMap_singleton, matcherFile, List.map_map]
      rfl
    · rfl

theorem names_blockTypes (d : AlgebraicType) :
    ((d.total.mainFile d.name :: d.total.additionalFiles).flatMap (·.blockTypes)).map (·.name) =
      ((if MatchResult.tag .void ∈ d.includes then [""] else []) ++ handlerMarks d.includes).flatMap
        fun mark => d.members.map (d.handlerName mark) := by
  rw [List.flatMap_cons, List.map_append, names_matcherBlockTypes, handlerMarks, ← List.append_assoc,
    List.flatMap_append, ← names_mainBlockTypes]
  rfl

theorem nodup_blockTypes (hdistinct : (d.members.map Case.name).Nodup) :
    (((d.total.mainFile d.name :: d.total.additionalFiles).flatMap (·.blockTypes)).map
      (·.name)).Nodup ↔ d.HandlersApart d.includes := by
  have hdisjoint : ∀ mark mark', List.Disjoint (d.members.map (d.handlerName mark))
      (d.members.map (d.handlerName mark')) ↔
        ∀ c ∈ d.members, ∀ c' ∈ d.members, mark ++ c.name ≠ mark' ++ c'.name := by
    intro mark mark'
    simp only [List.disjoint_iff_ne, List.forall_mem_map, ne_eq, handlerName_inj]
  have hmarks : (handlerMarks d.includes).Pairwise
      (Function.onFun List.Disjoint fun mark => d.members.map (d.handlerName mark)) :=
    (pairwise_handlerMarks d.includes).imp fun hapart =>
      (hdisjoint _ _).mpr fun c _ c' _ => hapart c.name c'.name
  rw [names_blockTypes, List.nodup_flatMap,
    and_iff_right fun mark _ => nodup_map_handlerName hdistinct mark, List.pairwise_append]
  unfold HandlersApart
  split
  · rename_i htag
    -- What is left to ask concerns the void handlers, whose mark is empty.
    simp [htag, hmarks, Function.onFun, hdisjoint]
  · rename_i htag
    simp [htag, hmarks]

/-- When the generation of a source succeeds, block types, factories and instance methods have
distinct names exactly if the declaration keeps handlers, factories and tests apart. -/
theorem nodup_names_iff {settings : Settings} {source : String} {files : List File}
    (h : ValueTypes.generate .algebraicType settings source = .ok files) :
    ∃ d main extra cls, AlgebraicType.read source = .ok d ∧ files = main :: extra ∧
      main.classes = [cls] ∧
      (((files.flatMap (·.blockTypes)).map (·.name)).Nodup ↔
        d.HandlersApart (tagsInForce defaultTags settings d.includes d.excludes)) ∧
      ((cls.classMethods.map (·.selector)).Nodup ↔ d.members.Pairwise Case.FactoriesApart) ∧
      ((cls.instanceMethods.map (·.selector)).Nodup ↔
        ("RMCaseMatching" ∈ tagsInForce defaultTags settings d.includes d.excludes →
          d.members.Pairwise Case.TestsApart)) := by
  obtain ⟨d, hread, hgenerate⟩ := exists_of_generate_source h
  obtain ⟨⟨-, hdistinct⟩, rfl⟩ := (generate_eq_ok rfl).mp hgenerate
  have hnamed := (wellNamed_of_read hread).withTagsInForce defaultTags settings
  exact ⟨d, _, _, _, hread, rfl, rfl, nodup_blockTypes hdistinct,
    nodup_classSelectors hnamed hdistinct, nodup_instanceSelectors hnamed hdistinct⟩

def repeatedNames? (source : String) :
    Option (List String × List (List (List String × List String))) :=
  (ValueTypes.generate .algebraicType {} source).toOption.map fun files =>
    (repeated ((files.flatMap (·.blockTypes)).map (·.name)), files.map fun file =>
      file.classes.map fun cls => (repeated (cls.classMethods.map (·.selector)),
        repeated (cls.instanceMethods.map (·.selector))))

theorem exists_of_repeatedNames? {source : String} {blockTypes factories methods : List String}
    (h : repeatedNames? source = some (blockTypes, [[(factories, methods)]])) : ∃ main cls,
      ValueTypes.generate .algebraicType {} source = .ok [main] ∧ main.classes = [cls] ∧
        repeated (([main].flatMap (·.blockTypes)).map (·.name)) = blockTypes ∧
        repeated (cls.classMethods.map (·.selector)) = factories ∧
        repeated (cls.instanceMethods.map (·.selector)) = methods := by
  obtain ⟨files, hfiles, hview⟩ := Checked.exists_of_map_toOption h
  obtain ⟨hblocks, hclasses⟩ := Prod.mk.inj hview
  obtain ⟨main, rfl, hmain⟩ := List.map_eq_singleton_iff.mp hclasses
  obtain ⟨cls, hcls, hmethods⟩ := List.map_eq_singleton_iff.mp hmain
  exact ⟨main, cls, hfiles, hcls, hblocks, Prod.mk.inj hmethods⟩

def apartSource : String :=
  "Event \x7b Move \x7b BOOL fast; BOOL sound \x7d MoveWithFast \x7b BOOL far \x7d BoolQuit\n" ++
  "%singleAttributeSubtype attributeType=BOOL\nmoveWith \x7d"

theorem nodup_names_iff_apartSource : ∃ files d,
    ValueTypes.generate .algebraicType {} apartSource = .ok files ∧
      AlgebraicType.read apartSource = .ok d ∧
      d.HandlersApart (tagsInForce defaultTags {} d.includes d.excludes) ∧
      d.members.Pairwise Case.FactoriesApart ∧
      ("RMCaseMatching" ∈ tagsInForce defaultTags {} d.includes d.excludes →
        d.members.Pairwise Case.TestsApart) := by
  have hnames : repeatedNames? apartSource = some ([], [[([], [])]]) := by decide +kernel
  obtain ⟨main, cls, hfiles, hcls, hblocks, hfactories, hmethods⟩ := exists_of_repeatedNames? hnames
  obtain ⟨d, main', extra, cls', hread, hmain, hcls', hhandlers, hclass, hinstance⟩ :=
    nodup_names_iff hfiles
  obtain ⟨rfl, rfl⟩ := List.cons.inj hmain
  obtain rfl : cls = cls' := List.singleton_inj.mp (hcls.symm.trans hcls')
  exact ⟨_, d, hfiles, hread, hhandlers.mp (repeated_eq_nil.mp hblocks),
    hclass.mp (repeated_eq_nil.mp hfactories), hinstance.mp (repeated_eq_nil.mp hmethods)⟩

theorem not_nodup_names_moves : ∃ main cls, ValueTypes.generate .algebraicType {}
    "Event \x7b Move \x7b BOOL fastWithSound \x7d MoveWithFast \x7b BOOL sound \x7d BoolMove \x7d" =
      .ok [main] ∧ main.classes = [cls] ∧ ¬ (main.blockTypes.map (·.name)).Nodup ∧
      ¬ (cls.classMethods.map (·.selector)).Nodup ∧ ¬ (cls.instanceMethods.map (·.selector)).Nodup := by
  have hnames : repeatedNames?
      "Event \x7b Move \x7b BOOL fastWithSound \x7d MoveWithFast \x7b BOOL sound \x7d BoolMove \x7d" =
        some (["EventBoolMoveMatchHandler"],
          [[(["moveWithFastWithSound:"], ["isMoveWithFastWithSound:"])]]) := by decide +kernel
  obtain ⟨main, cls, hfiles, hcls, hblocks, hfactories, hmethods⟩ := exists_of_repeatedNames? hnames
  refine ⟨main, cls, hfiles, hcls, ?_, ?_, ?_⟩
  · rw [← repeated_eq_nil, ← List.flatMap_singleton (f := File.blockTypes), hblocks]
    exact List.cons_ne_nil _ _
  · rw [← repeated_eq_nil, hfactories]
    exact List.cons_ne_nil _ _
  · rw [← repeated_eq_nil, hmethods]
    exact List.cons_ne_nil _ _

end AlgebraicType

end ValueTypes
