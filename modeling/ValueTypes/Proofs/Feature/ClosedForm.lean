import ValueTypes.Proofs.Feature.Sum

/-! Generation in closed form: whatever the features are, the generated files are lists of what the
features in force contribute, field by field, and no state is carried from one feature to the next
but the main file that they rework. -/

namespace ValueTypes

open Objc

variable {Member : Type} {features : List (Feature Member)} {d : Declaration Member}

def collected {α : Type} (features : List (Feature Member)) (d : Declaration Member)
    (part : Contribution → List α) : List α :=
  features.flatMap fun f => part (f.contribution d)

def jointClass (features : List (Feature Member)) (d : Declaration Member) : ClassModel where
  name := d.name
  baseClassName := "NSObject"
  covariantTypes := []
  implementedProtocols := (collected features d (·.implementedProtocols)).eraseDups
  classMethods := collected features d (·.classMethods)
  instanceMethods := collected features d (·.instanceMethods)
  properties := collected features d (·.properties)
  instanceVariables := collected features d (·.instanceVariables)
  pointers := (features.findSome? fun f => (f.contribution d).pointers).getD .unmarked
  subclassingRestricted := features.any fun f => (f.contribution d).subclassingRestricted

def jointFile (features : List (Feature Member)) (d : Declaration Member) : File where
  name := d.name
  comments := collected features d (·.headerComments)
  imports := (collected features d (·.imports)).eraseDups
  forwardDeclarations := (collected features d (·.forwardDeclarations)).eraseDups
  enumerations := collected features d (·.enumerations)
  blockTypes := collected features d (·.blockTypes)
  staticConstants := collected features d (·.staticConstants)
  macros := collected features d (·.macros)
  classes := [jointClass features d]

/-! ### Ways to merge a part -/

theorem contributions_eq_foldl {β : Type} (part : Contribution → β) (add : β → β → β)
    (hmerge : ∀ a b, part (a.merge b) = add (part a) (part b)) :
    part (contributions features d) =
      (features.map fun f => part (f.contribution d)).foldl add (part {}) := by
  rw [List.foldl_map, contributions]
  exact (List.foldl_hom part fun total f => (hmerge total (f.contribution d)).symm).symm

theorem contributions_eq_collected {α : Type} (part : Contribution → List α) (hempty : part {} = [])
    (hmerge : ∀ a b, part (a.merge b) = part a ++ part b) :
    part (contributions features d) = collected features d part :=
  contributions_eq_flatMap part hempty hmerge features d

theorem foldl_appendNew {α : Type} [DecidableEq α] (xs : List α) (lists : List (List α)) :
    lists.foldl appendNew xs = appendNew xs lists.flatten := by
  induction lists generalizing xs with
  | nil => rfl
  | cons ys lists ih => rw [List.foldl_cons, ih, List.flatten_cons, appendNew_append]

/-- Repetitions that are left out one feature at a time are left out of the whole list. -/
theorem contributions_eq_eraseDups {α : Type} [DecidableEq α] (part : Contribution → List α)
    (hempty : part {} = []) (hmerge : ∀ a b, part (a.merge b) = appendNew (part a) (part b)) :
    part (contributions features d) = (collected features d part).eraseDups := by
  rw [contributions_eq_foldl part appendNew hmerge, foldl_appendNew, hempty, appendNew_nil_left,
    collected, List.flatMap_def]

theorem foldl_orElse {α : Type} (first : Option α) (stated : List (Option α)) :
    stated.foldl (· <|> ·) first = (first <|> stated.findSome? id) := by
  induction stated generalizing first with
  | nil => cases first <;> rfl
  | cons o stated ih =>
    rw [List.foldl_cons, ih, List.findSome?_cons]
    cases first <;> cases o <;> rfl

theorem pointers_contributions : (contributions features d).pointers =
    features.findSome? fun f => (f.contribution d).pointers := by
  rw [contributions_eq_foldl (·.pointers) (· <|> ·) fun _ _ => rfl, foldl_orElse, List.findSome?_map]
  rfl

theorem foldl_or (b : Bool) (bs : List Bool) : bs.foldl (· || ·) b = (b || bs.any id) := by
  induction bs generalizing b with
  | nil => simp
  | cons c bs ih => rw [List.foldl_cons, ih, List.any_cons, id, Bool.or_assoc]

theorem subclassingRestricted_contributions : (contributions features d).subclassingRestricted =
    features.any fun f => (f.contribution d).subclassingRestricted := by
  rw [contributions_eq_foldl (·.subclassingRestricted) (· || ·) fun _ _ => rfl, foldl_or,
    List.any_map, Bool.false_or]
  rfl

/-! ### The whole main file -/

theorem mainClass_contributions :
    (contributions features d).mainClass d.name = jointClass features d := by
  unfold Contribution.mainClass jointClass
  rw [contributions_eq_eraseDups (·.implementedProtocols) rfl fun _ _ => rfl,
    contributions_eq_collected (·.classMethods) rfl fun _ _ => rfl,
    contributions_eq_collected (·.instanceMethods) rfl fun _ _ => rfl,
    contributions_eq_collected (·.properties) rfl fun _ _ => rfl,
    contributions_eq_collected (·.instanceVariables) rfl fun _ _ => rfl,
    pointers_contributions, subclassingRestricted_contributions]

theorem mainFile_contributions :
    (contributions features d).mainFile d.name = jointFile features d := by
  unfold Contribution.mainFile jointFile
  rw [contributions_eq_collected (·.headerComments) rfl fun _ _ => rfl,
    contributions_eq_eraseDups (·.imports) rfl fun _ _ => rfl,
    contributions_eq_eraseDups (·.forwardDeclarations) rfl fun _ _ => rfl,
    contributions_eq_collected (·.enumerations) rfl fun _ _ => rfl,
    contributions_eq_collected (·.blockTypes) rfl fun _ _ => rfl,
    contributions_eq_collected (·.staticConstants) rfl fun _ _ => rfl,
    contributions_eq_collected (·.macros) rfl fun _ _ => rfl, mainClass_contributions]

theorem takesPart_iff {tags : List Tag} {f : Feature Member} :
    f.takesPart tags ↔ ∀ tag ∈ f.requires, tag ∈ tags := by
  simp [Feature.takesPart]

/-- The features in force are those whose required tags are all in force. If they find problems,
these are the result, in the order of the features; otherwise the joint file, reworked by one feature
after the other, stands in front of the additional files. -/
theorem generateWith_eq_joint (defaults : List Tag) (features : List (Feature Member))
    (settings : Settings) (declaration : Declaration Member) :
    let d := { declaration with
      includes := tagsInForce defaults settings declaration.includes declaration.excludes }
    let active := features.filter fun f => ∀ tag ∈ f.requires, tag ∈ d.includes
    generateWith defaults features settings declaration =
      if active.flatMap (·.problems d) ≠ [] then .error (active.flatMap (·.problems d))
      else .ok (active.foldl (fun file f => f.rework d file) (jointFile active d) ::
        collected active d (·.additionalFiles)) := by
  intro d active
  have hactive : features.filter (·.takesPart d.includes) = active :=
    List.filter_congr fun f _ => Bool.eq_iff_iff.mpr (by simp [takesPart_iff])
  have hd : declaration.withTagsInForce defaults settings = d := rfl
  rw [generateWith, hd, hactive]
  cases active.flatMap (·.problems d) with
  | nil =>
    show Except.ok (reworked active d ((contributions active d).mainFile d.name) ::
      (contributions active d).additionalFiles) = _
    rw [mainFile_contributions, contributions_eq_collected (·.additionalFiles) rfl fun _ _ => rfl]
    rfl
  | cons problem problems => rfl

end ValueTypes
