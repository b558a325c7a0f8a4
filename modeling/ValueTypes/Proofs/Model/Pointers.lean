import Mathlib
import ValueTypes.Feature.Names
import ValueTypes.Proofs.Model.OfSource

/-! Whether a type is an object pointer is decided three times: by the star that was read, by the last
character of the reference, and by the last character of the reference that is no blank. The three
agree at every depth, since a reference ends in its star whenever there is one and never in a blank. -/

namespace ValueTypes

open Objc

/-- The type at a position: `[2, 0]` is the first generic argument of the third one. -/
def Source.TypeExpr.at? : List Nat → Source.TypeExpr → Option Source.TypeExpr
  | [], t => some t
  | k :: path, t => t.generics[k]?.bind (at? path)

def AttributeType.at? : List Nat → AttributeType → Option AttributeType
  | [], t => some t
  | k :: path, t => t.generics[k]?.bind (at? path)

structure TypeAgrees (e : Source.TypeExpr) (n : AttributeType) : Prop where
  name : n.name = e.name
  reference : n.reference = e.reference
  protocol : n.protocol = e.protocol
  isObject : n.isObject = e.isPointer
  refIsObject : n.ref.isObject = e.isPointer
  underlying : n.underlying = match e.underlying, e.isPointer with
    | some stated, _ => some stated
    | none, true => some "NSObject"
    | none, false => none

/-- What is made of an attribute. Only its outermost type is located, by the last import alone. -/
structure AttributeAgrees (w : Source.Attribute) (a : Attribute) : Prop where
  name : a.name = w.name
  types : ∀ path, Option.Rel TypeAgrees (w.type.at? path) (a.type.at? path)
  arguments : ∀ path n, path ≠ [] → a.type.at? path = some n →
    n.isObject = true ∧ n.file = none ∧ n.library = none
  unlocated : w.directives.occurrences "import" = [] → a.type.file = none ∧ a.type.library = none
  located : ∀ earlier last, w.directives.occurrences "import" = earlier ++ [last] →
    a.type.file = last.get? "file" ∧ a.type.library = last.get? "library"

/-! ### References -/

namespace Source

theorem isBlank_eq_false_of_isWordChar {c : Char} (h : isWordChar c) : Text.isBlank c = false := by
  simp only [isWordChar, Char.isAlphanum, Char.isAlpha, Char.isUpper, Char.isLower, Char.isDigit,
    Bool.or_eq_true, Bool.and_eq_true, decide_eq_true_eq, beq_iff_eq, ge_iff_le,
    UInt32.le_iff_toNat_le] at h
  change (((65 ≤ c.toNat ∧ c.toNat ≤ 90) ∨ (97 ≤ c.toNat ∧ c.toNat ≤ 122)) ∨
    (48 ≤ c.toNat ∧ c.toNat ≤ 57)) ∨ c = '_' at h
  rcases h with h | rfl
  · simp only [Text.isBlank, Bool.or_eq_false_iff, Bool.and_eq_false_iff, beq_eq_false_iff_ne,
      decide_eq_false_iff_not]
    omega
  · decide

theorem NameText.not_isBlank_getLast? {name : String} {u : List Char} (h : NameText name u) :
    ∀ c ∈ name.toList.getLast?, Text.isBlank c = false := by
  cases h with
  | identifier h =>
    exact fun c hc => isBlank_eq_false_of_isWordChar (h.within c (List.mem_of_getLast? hc))
  | scalar h hu =>
    have hphrases : ∀ words ∈ scalarPhrases,
        (String.intercalate " " words).toList.getLast?.all (!Text.isBlank ·) = true := by decide
    intro c hc
    have hlast := hphrases _ h
    rw [Option.mem_def.mp hc] at hlast
    simpa using hlast

theorem BracketText.not_isBlank_getLast? {name brackets : String} (star : Bool)
    {protocol : Option String} {types : List TypeExpr} {n a : List Char} (hname : NameText name n)
    (h : BracketText TypeText protocol types brackets a) :
    ∀ c ∈ (name ++ brackets ++ if star then "*" else "").toList.getLast?, Text.isBlank c = false := by
  cases star with
  | true => simp [Text.isBlank]
  | false =>
    cases h with
    | none => simpa using hname.not_isBlank_getLast?
    | generics | protocol =>
      simp only [String.toList_append, List.getLast?_append]
      simp [Text.isBlank]

theorem TypeText.isPointer_iff {t : TypeExpr} {u : List Char} (h : TypeText t u) :
    t.isPointer ↔ t.reference.toList.getLast? = some '*' ∨ t.name = "id" := by
  cases h with
  | intro hname hbrackets hunderlying hstar hreference hpointer =>
    rw [hpointer, hreference, getLast?_reference hname hbrackets]

theorem TypeText.trimEnd_reference {t : TypeExpr} {u : List Char} (h : TypeText t u) :
    Text.trimEnd t.reference.toList = t.reference.toList := by
  cases h with
  | @intro _ brackets star n a u e hname hbrackets hunderlying hstar hreference hpointer =>
    have hlast := hbrackets.not_isBlank_getLast? star hname
    rw [← hreference] at hlast
    refine List.rdropWhile_eq_self_iff.mpr fun hne => ?_
    rw [hlast _ (List.getLast?_eq_some_getLast hne)]
    simp

/-! ### Generic arguments -/

theorem BracketText.of_mem {type : TypeExpr → List Char → Prop} {protocol : Option String}
    {types : List TypeExpr} {brackets : String} {a : List Char}
    (h : BracketText type protocol types brackets a) {g : TypeExpr} (hg : g ∈ types) :
    g.isPointer ∧ ∃ v, type g v := by
  cases h with
  | none | protocol => cases hg
  | generics hb hw htypes hpointers hw' =>
    have htexts : ∀ t ∈ types, ∃ v, type t v := htypes.forall_mem fun t u ht => ⟨u, ht⟩
    exact ⟨hpointers g hg, htexts g hg⟩

theorem TypeText.of_at? {t e : TypeExpr} {u : List Char} {path : List Nat} (h : TypeText t u)
    (he : t.at? path = some e) : (path ≠ [] → e.isPointer) ∧ ∃ v, TypeText e v := by
  induction path generalizing t u with
  | nil =>
    obtain rfl := Option.some.inj he
    exact ⟨fun hne => absurd rfl hne, u, h⟩
  | cons k path ih =>
    obtain ⟨g, hk, hg⟩ := Option.bind_eq_some_iff.mp he
    cases h with
    | intro hname hbrackets =>
      obtain ⟨hpointer, v, hv⟩ := hbrackets.of_mem (List.mem_of_getElem? hk)
      obtain ⟨hdeep, htext⟩ := ih hv hg
      refine ⟨fun _ => ?_, htext⟩
      cases path with
      | nil =>
        obtain rfl := Option.some.inj hg
        exact hpointer
      | cons k' path => exact hdeep (List.cons_ne_nil k' path)

end Source

namespace AttributeType

open Source (TypeExpr TypeText)

variable {file library : Option String} {t : TypeExpr}

theorem at?_ofSource_cons (k : Nat) (path : List Nat) :
    (ofSource file library t).at? (k :: path) = (t.at? (k :: path)).map (ofSource none none) := by
  induction path generalizing t file library k with
  | nil =>
    simp only [at?, TypeExpr.at?, generics_ofSource, List.getElem?_map]
    cases t.generics[k]? <;> rfl
  | cons k' path ih =>
    rw [at?, TypeExpr.at?, generics_ofSource, List.getElem?_map]
    cases t.generics[k]? with
    | none => rfl
    | some g => exact ih k'

theorem typeAgrees_ofSource {u : List Char} (h : TypeText t u) :
    TypeAgrees t (ofSource file library t) := by
  have hpointer := h.isPointer_iff
  have htrim := h.trimEnd_reference
  cases t with
  | mk name reference underlying protocol generics isPointer =>
    rw [ofSource]
    refine ⟨rfl, rfl, rfl, ?_, ?_, ?_⟩
    · refine Bool.eq_iff_iff.mpr (Iff.trans ?_ hpointer.symm)
      simp [isObject]
    · refine Bool.eq_iff_iff.mpr (Iff.trans ?_ hpointer.symm)
      simp [TypeRef.isObject, TypeRef.isStarred, TypeRef.trimmed, ref, htrim]
    · cases underlying <;> cases isPointer <;> rfl

end AttributeType

/-! ### Attributes -/

theorem attributeAgrees_ofSource {w : Source.Attribute} {u : List Char}
    (h : Source.TypeText w.type u) : AttributeAgrees w (.ofSource w) where
  name := rfl
  types path := by
    cases path with
    | nil => exact .some (AttributeType.typeAgrees_ofSource h)
    | cons k path =>
      rw [Attribute.ofSource, AttributeType.at?_ofSource_cons]
      cases he : w.type.at? (k :: path) with
      | none => exact .none
      | some e =>
        obtain ⟨-, v, hv⟩ := h.of_at? he
        exact .some (AttributeType.typeAgrees_ofSource hv)
  arguments path n hne hn := by
    obtain ⟨k, path, rfl⟩ := List.exists_cons_of_ne_nil hne
    rw [Attribute.ofSource, AttributeType.at?_ofSource_cons] at hn
    obtain ⟨e, he, rfl⟩ := Option.map_eq_some_iff.mp hn
    obtain ⟨hpointer, v, hv⟩ := h.of_at? he
    refine ⟨?_, AttributeType.file_ofSource, AttributeType.library_ofSource⟩
    rw [(AttributeType.typeAgrees_ofSource hv).isObject]
    exact hpointer hne
  unlocated himport := by
    simp [Attribute.ofSource, Directives.last?, himport, AttributeType.file_ofSource,
      AttributeType.library_ofSource]
  located earlier last himport := by
    simp [Attribute.ofSource, Directives.last?, himport, AttributeType.file_ofSource,
      AttributeType.library_ofSource]

theorem forall₂_attributeAgrees {ws : List Source.Attribute}
    (h : ∀ w ∈ ws, ∃ u, Source.TypeText w.type u) :
    List.Forall₂ AttributeAgrees ws (ws.map .ofSource) := by
  rw [List.forall₂_map_right_iff, List.forall₂_same]
  intro w hw
  obtain ⟨u, hu⟩ := h w hw
  exact attributeAgrees_ofSource hu

theorem attributes_agree :
    (∀ source d, AlgebraicType.read source = .ok d → ∃ t, Source.algebraicType.parse source = .ok t ∧
      List.Forall₂ AttributeAgrees (t.members.flatMap Source.Case.written) d.attributes) ∧
    (∀ source d, ValueObject.read source = .ok d → ∃ t, Source.valueObject.parse source = .ok t ∧
      List.Forall₂ AttributeAgrees t.members d.members) := by
  constructor
  · intro source d h
    obtain ⟨t, r, hread, hmodel⟩ := exists_of_readWith h
    have hreadable := Source.declaration_readable (fun _ _ _ => Source.readable_of_caseBlock) hread
    refine ⟨t, Parser.parse_eq_ok.mpr ⟨r, hread⟩, ?_⟩
    rw [AlgebraicType.attributes_of_ofSource hmodel]
    refine forall₂_attributeAgrees fun w hw => ?_
    obtain ⟨c, hc, hw⟩ := List.mem_flatMap.mp hw
    exact (hreadable.members c hc).exists_typeText hw
  · intro source d h
    obtain ⟨t, r, hread, hmodel⟩ := exists_of_readWith h
    have hreadable := Source.declaration_readable (fun _ _ _ => Source.readable_of_attributeBlock) hread
    refine ⟨t, Parser.parse_eq_ok.mpr ⟨r, hread⟩, ?_⟩
    rw [ValueObject.members_of_ofSource hmodel]
    exact forall₂_attributeAgrees fun w hw => (hreadable.members w hw).type

def linkSource : String :=
  "Link \x7b Node \x7b %import file=Old.h\n%import library=Kit\n" ++
  "NSDictionary<id, NSArray<Box(Lid) *> *> *boxes; long  long count \x7d\n" ++
  "%singleAttributeSubtype attributeType=\"id<P>\"\nowner \x7d"

def cardSource : String := "Card \x7b Suit(NSUInteger) suit; NSString *title \x7d"

theorem attributes_agree_link : ∃ d e t u, AlgebraicType.read linkSource = .ok d ∧
    ((d.attributes.map (·.type)).map fun n => (n.underlying, n.file, n.library)) =
      [(some "NSObject", none, some "Kit"), (none, none, none), (some "NSObject", none, none)] ∧
    Source.algebraicType.parse linkSource = .ok t ∧
    List.Forall₂ AttributeAgrees (t.members.flatMap Source.Case.written) d.attributes ∧
    ValueObject.read cardSource = .ok e ∧ e.members.map (·.type.isObject) = [false, true] ∧
    Source.valueObject.parse cardSource = .ok u ∧ List.Forall₂ AttributeAgrees u.members e.members := by
  have hlink : (AlgebraicType.read linkSource).toOption.map (fun d => (d.attributes.map (·.type)).map
      fun n => (n.underlying, n.file, n.library)) = some [(some "NSObject", none, some "Kit"),
        (none, none, none), (some "NSObject", none, none)] := by decide +kernel
  have hcard : (ValueObject.read cardSource).toOption.map (·.members.map (·.type.isObject)) =
      some [false, true] := by decide +kernel
  cases hd : AlgebraicType.read linkSource with
  | error problems => simp [hd, Except.toOption] at hlink
  | ok d =>
    cases he : ValueObject.read cardSource with
    | error problems => simp [he, Except.toOption] at hcard
    | ok e =>
      obtain ⟨t, ht, hagree⟩ := attributes_agree.1 _ d hd
      obtain ⟨u, hu, hagree'⟩ := attributes_agree.2 _ e he
      rw [hd] at hlink
      rw [he] at hcard
      exact ⟨d, e, t, u, rfl, Option.some.inj hlink, ht, hagree, rfl, Option.some.inj hcard, hu,
        hagree'⟩

end ValueTypes
