import ValueTypes.Proofs.Feature.Matcher
import ValueTypes.Proofs.Feature.Storage

/-! Which methods are generated, what they take, and what the matcher passes on. -/

namespace ValueTypes

open Objc

namespace Objc

def Method.arguments (m : Method) : List Argument := m.keywords.filterMap (·.argument)

def Statement.blockParameters : Statement → List BlockParameter
  | send _ parts => parts.flatMap (·.parameters)
  | _ => []

def Method.parameters (m : Method) : List BlockParameter := m.body.flatMap Statement.blockParameters

def Method.begins (m : Method) (text : String) : Bool :=
  m.keywords.head?.any fun k => text.toList.isPrefixOf k.name.toList

end Objc

namespace Case

theorem filterMap_taken {α : Type} (c : Case) (f : Attribute → α) :
    (c.taken f).filterMap id = c.attributes.map f := by
  unfold taken
  split
  · rename_i hnone
    simp [hnone]
  · simp [List.filterMap_map]

theorem arguments_of_taken {c : Case} {m : Method} {argument : Attribute → Argument}
    (h : m.keywords.map (·.argument) = c.taken argument) :
    m.arguments = c.attributes.map argument := by
  have htaken := congrArg (List.filterMap id) h
  rw [filterMap_taken, List.filterMap_map] at htaken
  exact htaken

theorem arguments_factory (c : Case) (typeName : String) :
    (c.factory typeName).arguments = c.attributes.map Attribute.argument :=
  arguments_of_taken c.arguments_factoryKeywords

theorem arguments_testMethod (c : Case) (typeName : String) (qualified assumed : Bool) :
    (c.testMethod typeName qualified assumed).arguments =
      c.attributes.map fun a => ⟨a.name, [], a.outType qualified assumed⟩ :=
  arguments_of_taken (c.arguments_testKeywords qualified assumed)

theorem parameters_factory (c : Case) (typeName : String) :
    (c.factory typeName).parameters = [] := by
  simp [Method.parameters, Statement.blockParameters, factory, factoryBody]

theorem parameters_testMethod (c : Case) (typeName : String) (qualified assumed : Bool) :
    (c.testMethod typeName qualified assumed).parameters = [] := by
  unfold Method.parameters testMethod testBody
  cases c.attributes with
  | nil => rfl
  | cons a others => simp [Statement.blockParameters]

theorem begins_testMethod (c : Case) (typeName : String) (qualified assumed : Bool) :
    (c.testMethod typeName qualified assumed).begins "is" = true ∧
      (c.testMethod typeName qualified assumed).begins "match" = false := by
  obtain ⟨keyword, rest, hhead, hname⟩ := c.head?_testKeywords qualified assumed
  simp [Method.begins, testMethod, hhead, hname, List.isPrefixOf]

end Case

namespace AlgebraicType

variable {d : AlgebraicType} {r : MatchResult}

theorem mem_total_instanceMethods {m : Method} : m ∈ d.total.instanceMethods ↔
    (∃ r ∈ d.matchResults d.includes, m = d.matchMethod r) ∨ ∃ c ∈ d.members,
      "RMCaseMatching" ∈ d.includes ∧
        m = c.testMethod d.name d.qualifies (nonnullByDefault d.includes) := by
  rw [total_instanceMethods, List.mem_append, List.mem_map]
  split <;> simp_all [eq_comm]

theorem members_ne_nil_of_mem_matchResults {tags : List Tag} (h : r ∈ d.matchResults tags) :
    d.members ≠ [] := by
  intro hnil
  simp [matchResults, hnil] at h

theorem begins_matchMethod (hne : d.members ≠ []) :
    (d.matchMethod r).begins "match" = true ∧ (d.matchMethod r).begins "is" = false := by
  obtain ⟨c, others, hmembers⟩ := List.exists_cons_of_ne_nil hne
  simp [Method.begins, matchMethod, matchSignature, matchParts, hmembers, List.isPrefixOf]

theorem map_zipWith_members {β γ : Type} {build : String → Case → β} {read : β → γ} (f : Case → γ)
    (h : ∀ name c, read (build name c) = f c) (d : AlgebraicType) (r : MatchResult) :
    (List.zipWith build (d.matchParts r) d.members).map read = d.members.map f := by
  have hread : (fun name c => read (build name c)) = fun _ c => f c := by
    funext name c
    exact h name c
  have hcases : (List.zip (d.matchParts r) d.members).map Prod.snd = d.members :=
    List.map_snd_zip (Nat.le_of_eq (length_matchParts d r).symm)
  rw [List.map_zipWith, hread, ← List.map_uncurry_zip_eq_zipWith]
  conv_rhs => rw [← hcases, List.map_map]
  rfl

theorem arguments_matchMethod (d : AlgebraicType) (r : MatchResult) : (d.matchMethod r).arguments =
    d.members.map fun c => c.handlerArgument d.handlerModifiers (c.handlerType d.name r) := by
  have hkeywords : (d.matchSignature r).map (·.argument) = d.members.map fun c =>
      some (c.handlerArgument d.handlerModifiers (c.handlerType d.name r)) :=
    map_zipWith_members _ (by intros; rfl) d r
  have harguments := congrArg (List.filterMap id) hkeywords
  rw [List.filterMap_map, List.filterMap_map] at harguments
  exact harguments.trans (congrFun List.filterMap_eq_map' _)

theorem arguments_matcherMethod (d : AlgebraicType) : d.matcherMethod.arguments =
    ⟨matchSubject d.name, if d.qualifies then [.nonnull] else [], ⟨d.name, d.name ++ "*"⟩⟩ ::
      d.members.map fun c =>
        c.handlerArgument d.handlerModifiers (c.genericHandlerType d.name) := by
  simp only [Method.arguments, matcherMethod, matcherSignature, List.filterMap_cons,
    List.filterMap_map]
  exact congrArg (List.cons _) (congrFun List.filterMap_eq_map' _)

theorem parameters_matchMethod (d : AlgebraicType) (r : MatchResult) :
    (d.matchMethod r).parameters = [] := by
  cases r <;> rfl

theorem parameters_matcherMethod (d : AlgebraicType) :
    d.matcherMethod.parameters = d.members.flatMap Case.handlerParameters := by
  have hparts : d.matcherMethod.parameters = (List.zipWith (fun keyword c => c.forwardingPart keyword)
      (d.matchParts .void) d.members).flatMap (·.parameters) := List.append_nil _
  rw [hparts, List.flatMap_def, List.flatMap_def]
  exact congrArg List.flatten (map_zipWith_members _ (by intros; rfl) d .void)

end AlgebraicType

end ValueTypes
