import Mathlib.Data.List.Nodup
import ValueTypes.Proofs.Feature.Code
import ValueTypes.Proofs.Feature.Sum

/-! Match methods fit what stands around them: the enumeration of the cases, the instance variables
and the block types of the handlers. -/

namespace ValueTypes

namespace Objc

/-- `block` is the only block type of the file with this name and result. -/
def File.Declares (file : File) (name : String) (result : ReturnType) (block : BlockType) : Prop :=
  ∀ b, b = block ↔ b ∈ file.blockTypes ∧ b.name = name ∧ b.returnType = result

end Objc

open Objc

/-- The arm of a case calls the handler that is taken for it with the stored values of the case, and
they are of the types that the block type of the handler asks for. -/
structure HandlerFits (file : File) (cls : ClassModel) (result : ReturnType) (c : Case)
    (handler : Argument) (arm : Arm) (vars : List InstanceVariable) (block : BlockType) :
    Prop where
  calls : arm.handler = handler.name ∧ arm.values = vars.map (·.name)
  stored : vars.Sublist cls.instanceVariables
  names : vars.map (·.name) = c.attributes.map c.slot
  types : vars.map (·.type) = c.attributes.map (·.type.ref)
  declared : file.Declares handler.type.name result block
  parameters : block.parameters.map (·.type) = vars.map (·.type)

structure MatchFits (d : AlgebraicType) (r : MatchResult) (file : File) (cls : ClassModel)
    (enumeration : Enumeration) (method : Method) (arms : List Arm) : Prop where
  declared : method ∈ cls.instanceMethods
  names : method.keywords.map (·.name) = d.matchParts r
  result : method.returnType = r.returnType
  code : method.code = matchLines discriminant r.typeAndDefault? arms
  subject : ∃ v ∈ cls.instanceVariables, v.name = discriminant ∧ v.type = .named enumeration.name
  labels : arms.map (·.label) = enumeration.values
  distinct : enumeration.values.Nodup
  keywordCount : method.keywords.length = d.members.length
  armCount : arms.length = d.members.length
  handlers : ∀ (k : Nat) (c : Case), d.members[k]? = some c → ∃ name handler arm vars block,
    method.keywords[k]? = some ⟨name, some handler⟩ ∧ arms[k]? = some arm ∧
      HandlerFits file cls r.returnType c handler arm vars block

theorem append_injective (text : String) : Function.Injective (text ++ · : String → String) :=
  fun _ _ => (String.append_right_inj text).mp

namespace MatchResult

theorem returnType_injective {r r' : MatchResult} (h : r.returnType = r'.returnType) : r = r' := by
  cases r <;> cases r' <;> simp_all [returnType, typeAndDefault?, ReturnType.void, ReturnType.of,
    TypeRef.named]

end MatchResult

namespace Case

theorem handlerType_injective {t : String} {r : MatchResult} {c c' : Case}
    (h : c.handlerType t r = c'.handlerType t r) : c.name = c'.name :=
  (String.append_right_inj _).mp ((String.append_left_inj _).mp h)

end Case

namespace AlgebraicType

variable {d : AlgebraicType} {r : MatchResult}

theorem length_matchParts (d : AlgebraicType) (r : MatchResult) :
    (d.matchParts r).length = d.members.length := by
  unfold matchParts
  cases d.members with
  | nil => rfl
  | cons c others => simp

theorem length_matchSignature (d : AlgebraicType) (r : MatchResult) :
    (d.matchSignature r).length = d.members.length := by
  rw [matchSignature, List.length_zipWith, length_matchParts, Nat.min_self]

/-- Whatever is built from a part of the selector and its case, the parts can be read off it. -/
theorem map_zipWith_matchParts {β : Type} {build : String → Case → β} {read : β → String}
    (h : ∀ name c, read (build name c) = name) (d : AlgebraicType) (r : MatchResult) :
    (List.zipWith build (d.matchParts r) d.members).map read = d.matchParts r := by
  have hread : (fun name c => read (build name c)) = fun name _ => name := by
    funext name c
    exact h name c
  rw [List.map_zipWith, hread, ← List.map_uncurry_zip_eq_zipWith]
  exact List.map_fst_zip (Nat.le_of_eq (length_matchParts d r))

theorem names_matchSignature (d : AlgebraicType) (r : MatchResult) :
    (d.matchSignature r).map (·.name) = d.matchParts r :=
  map_zipWith_matchParts (fun _ _ => rfl) d r

theorem forall_mem_matchParts {P : String → Prop}
    (hfirst : ∀ c ∈ d.members, P ("match" ++ r.mark ++ c.name))
    (hother : ∀ c ∈ d.members, P (uncapitalized c.name)) : ∀ name ∈ d.matchParts r, P name := by
  unfold matchParts
  cases hmembers : d.members with
  | nil => simp
  | cons c others =>
    rw [hmembers] at hfirst hother
    refine List.forall_mem_cons.mpr ⟨hfirst c List.mem_cons_self, List.forall_mem_map.mpr ?_⟩
    exact fun o ho => hother o (List.mem_cons_of_mem c ho)

theorem exists_argument_of_mem_matchSignature {keyword : Keyword} (h : keyword ∈ d.matchSignature r) :
    ∃ c ∈ d.members, keyword.argument =
      some (c.handlerArgument d.handlerModifiers (c.handlerType d.name r)) := by
  rw [matchSignature, ← List.map_uncurry_zip_eq_zipWith] at h
  obtain ⟨⟨name, c⟩, hpart, rfl⟩ := List.mem_map.mp h
  exact ⟨c, (List.of_mem_zip hpart).2, rfl⟩

theorem getElem?_matchSignature {k : Nat} {c : Case} (hc : d.members[k]? = some c) :
    ∃ name, (d.matchParts r)[k]? = some name ∧ (d.matchSignature r)[k]? =
      some ⟨name, some (c.handlerArgument d.handlerModifiers (c.handlerType d.name r))⟩ := by
  have hk : k < (d.matchParts r).length := by
    rw [length_matchParts]
    exact (List.getElem?_eq_some_iff.mp hc).1
  refine ⟨_, List.getElem?_eq_getElem hk, ?_⟩
  rw [matchSignature, List.getElem?_zipWith, List.getElem?_eq_getElem hk, hc]

theorem labels_arms (d : AlgebraicType) :
    (d.members.map (·.arm d.name)).map (·.label) = d.enumeration.values := by
  rw [List.map_map]
  rfl

theorem nodup_enumeration (h : (d.members.map Case.name).Nodup) : d.enumeration.values.Nodup := by
  have hvalues : d.enumeration.values =
      (d.members.map Case.name).map (discriminantType d.name ++ ·) := (List.map_map ..).symm
  rw [hvalues]
  exact h.map (append_injective _)

theorem variables_sublist {c : Case} (hc : c ∈ d.members) :
    (c.attributes.map fun a => (⟨c.slot a, a.type.ref, .internal⟩ : InstanceVariable)).Sublist
      d.instanceVariables := by
  obtain ⟨before, after, hmembers⟩ := List.append_of_mem hc
  rw [instanceVariables, hmembers, List.flatMap_append, List.flatMap_cons]
  exact ((List.sublist_append_left _ _).trans (List.sublist_append_right _ _)).cons _

theorem declares_handlerType {c : Case} (hdistinct : (d.members.map Case.name).Nodup)
    (htag : r.tag ∈ d.includes) (hc : c ∈ d.members) (name : String) :
    (d.total.mainFile name).Declares (c.handlerType d.name r) r.returnType
      (c.blockType (c.handlerType d.name r) r.returnType) := by
  intro b
  constructor
  · rintro rfl
    exact ⟨mem_total_blockTypes.mpr ⟨r, htag, c, hc, rfl⟩, rfl, rfl⟩
  · rintro ⟨hb, hname, hresult⟩
    -- Names alone do not tell handlers apart: a bool handler for `X` is called like a void one for
    -- `BoolX`. The result tells the match method, and within it the cases have distinct names.
    obtain ⟨r', -, c', hc', rfl⟩ := mem_total_blockTypes.mp hb
    obtain rfl := MatchResult.returnType_injective hresult
    rw [List.inj_on_of_nodup_map hdistinct hc' hc (Case.handlerType_injective hname)]

theorem handlerFits {c : Case} (hdistinct : (d.members.map Case.name).Nodup)
    (htag : r.tag ∈ d.includes) (hc : c ∈ d.members) :
    HandlerFits (d.total.mainFile d.name) (d.total.mainClass d.name) r.returnType c
      (c.handlerArgument d.handlerModifiers (c.handlerType d.name r)) (c.arm d.name)
      (c.attributes.map fun a => ⟨c.slot a, a.type.ref, .internal⟩)
      (c.blockType (c.handlerType d.name r) r.returnType) where
  calls := by
    refine ⟨rfl, ?_⟩
    rw [List.map_map]
    rfl
  stored := by
    rw [Contribution.mainClass, total_instanceVariables]
    exact variables_sublist hc
  names := by
    rw [List.map_map]
    rfl
  types := by
    rw [List.map_map]
    rfl
  declared := declares_handlerType hdistinct htag hc d.name
  parameters := by
    rw [Case.blockType, Case.handlerParameters, List.map_map, List.map_map]
    rfl

theorem matchFits (hdistinct : (d.members.map Case.name).Nodup) (htag : r.tag ∈ d.includes)
    (hne : d.members ≠ []) :
    MatchFits d r (d.total.mainFile d.name) (d.total.mainClass d.name) d.enumeration
      (d.matchMethod r) (d.members.map (·.arm d.name)) where
  declared := matchMethod_mem_total htag hne
  names := names_matchSignature d r
  result := rfl
  code := code_matchMethod d r
  subject := by
    refine ⟨⟨discriminant, .named d.enumeration.name, .internal⟩, ?_, rfl, rfl⟩
    rw [Contribution.mainClass, total_instanceVariables]
    exact List.mem_cons_self
  labels := labels_arms d
  distinct := nodup_enumeration hdistinct
  keywordCount := length_matchSignature d r
  armCount := List.length_map ..
  handlers := by
    intro k c hk
    obtain ⟨name, -, hkeyword⟩ := getElem?_matchSignature (r := r) hk
    have harm : (d.members.map (·.arm d.name))[k]? = some (c.arm d.name) := by
      rw [List.getElem?_map, hk, Option.map_some]
    exact ⟨name, _, _, _, _, hkeyword, harm,
      handlerFits hdistinct htag (List.mem_of_getElem? hk)⟩

/-- Every match method in force calls, for each case, the handler that it takes for it, with stored
values of the types that the handler's block type asks for. -/
theorem exists_matchFits {settings : Settings} {files : List File}
    (h : generate settings d = .ok files)
    (htag : r.tag ∈ tagsInForce defaultTags settings d.includes d.excludes) (hne : d.members ≠ []) :
    ∃ main extra cls enumeration method arms, files = main :: extra ∧ main.classes = [cls] ∧
      main.enumerations = [enumeration] ∧ MatchFits d r main cls enumeration method arms := by
  obtain ⟨⟨-, hdistinct⟩, rfl⟩ := (generate_eq_ok rfl).mp h
  have hfits := matchFits (d := d.withTagsInForce defaultTags settings) hdistinct htag hne
  exact ⟨_, _, _, _, _, _, rfl, rfl, total_enumerations, { hfits with }⟩

def shape : AlgebraicType :=
  let number : AttributeType := ⟨"CGFloat", "CGFloat", none, none, none, none, []⟩
  let text : AttributeType := ⟨"NSString", "NSString*", none, none, none, none, []⟩
  { name := "Shape", comments := [], directives := ∅, includes := [], excludes := ["RMVoidMatching"]
    libraryName := none, typeHints := []
    members := [.collection "Box" [] [⟨"width", [], ∅, .inherited, number⟩,
      ⟨"title", [], ∅, .nullable, text⟩], .single ⟨"label", [], ∅, .nonnull, text⟩] }

theorem exists_matchFits_shape : ∃ files, generate {} shape = .ok files ∧
    MatchResult.tag .bool ∈ tagsInForce defaultTags {} shape.includes shape.excludes ∧
    shape.members ≠ [] ∧ ∃ main extra cls enumeration method arms, files = main :: extra ∧
      main.classes = [cls] ∧ main.enumerations = [enumeration] ∧
      MatchFits shape .bool main cls enumeration method arms :=
  have h := (generate_eq_ok rfl).mpr ⟨by decide, rfl⟩
  ⟨_, h, by decide, by simp [shape], exists_matchFits h (by decide) (by simp [shape])⟩

end AlgebraicType

end ValueTypes
