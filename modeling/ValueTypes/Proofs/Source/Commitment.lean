import ValueTypes.Proofs.Source.SyntaxErrors

/-! Bodies that are opened and cannot be read. The declaration around such a body is refused with the
failure inside the body, however many cases are read before it and whatever stands behind it. -/

namespace ValueTypes.Source

open ValueTypes.Parser

variable {s t : List Char} {why : Mismatch}

/-! ### Bodies -/

theorem exists_attributeBlock_halt (h : ∀ as r, attributeBlock ('\x7b' :: t) ≠ .done as r) :
    ∃ why, (blockAttributes t = .miss why ∨ blockAttributes t = .halt why) ∧
      attributeBlock ('\x7b' :: t) = .halt why := by
  have hopened : attributeBlock ('\x7b' :: t) = commit blockAttributes t :=
    bind_of_done (word_singleton rfl t)
  rw [hopened] at h ⊢
  unfold commit at h ⊢
  cases hread : blockAttributes t with
  | done as r =>
    rw [hread] at h
    exact absurd rfl (h as r)
  | miss why => exact ⟨why, .inl rfl, rfl⟩
  | halt why => exact ⟨why, .inr rfl, rfl⟩

/-! ### Cases -/

def caseHeading : Parser Preamble := do
  caseSeparators
  let p ← preamble
  let _ ← run isWordChar
  let _ ← tagLists
  skip isLayout
  return p

/-- From `s` on any number of cases is read, and then the body of a case is opened in front of `t`.
A case that is declared by its payload has no body. -/
inductive CaseOpens : List Char → List Char → Prop
  | here {s t : List Char} {p : Preamble} (hheading : caseHeading s = .done p ('\x7b' :: t))
      (hp : p.directives.contains payloadDirective = false) : CaseOpens s t
  | next {s t u : List Char} {c : Case}
      (hcase : (do caseSeparators; caseEntry) s = .done c u) (hrest : CaseOpens u t) : CaseOpens s t

theorem caseEntry_halt {p : Preamble} (hheading : caseHeading s = .done p ('\x7b' :: t))
    (hp : p.directives.contains payloadDirective = false)
    (hblock : attributeBlock ('\x7b' :: t) = .halt why) :
    (do caseSeparators; caseEntry) s = .halt why := by
  obtain ⟨_, x, hseparators, hheading⟩ := bind_eq_done.mp hheading
  obtain ⟨p', y, hpreamble, hheading⟩ := bind_eq_done.mp hheading
  obtain ⟨name, z, hname, hheading⟩ := bind_eq_done.mp hheading
  obtain ⟨tags, r, htags, hheading⟩ := bind_eq_done.mp hheading
  obtain ⟨_, _, hskip, hpure⟩ := bind_eq_done.mp hheading
  obtain ⟨rfl, rfl⟩ := pure_eq_done.mp hpure
  have hbrace : braceCase p y = .halt why := by
    rw [braceCase, bind_of_done hname, bind_of_done htags, bind_of_done hskip, bind_of_halt hblock]
  rw [bind_of_done hseparators, caseEntry, bind_of_done hpreamble, if_neg (by simp [hp])]
  exact orElse_of_halt hbrace (bareCase p)

theorem CaseOpens.halt (h : CaseOpens s t) (hblock : attributeBlock ('\x7b' :: t) = .halt why) :
    manyUntil (do caseSeparators; caseEntry) (do commaGap; word "\x7d") s = .halt why := by
  induction h with
  | here hheading hp => exact manyUntil_of_halt (caseEntry_halt hheading hp hblock) _
  | next hcase hrest ih =>
    exact manyUntil_halt_of_done hcase ((reports_caseItem.done hcase).2 rfl) (ih hblock)

theorem CaseOpens.suffix (h : CaseOpens s t) : '\x7b' :: t <:+ s := by
  induction h with
  | here hheading hp =>
    have hreports := reports_caseSeparators.bind fun _ => reports_preamble.bind fun p =>
      (reports_run isWordChar).bind fun _ => reports_tagLists.bind fun _ =>
        (reports_skip isLayout).bind fun _ => reports_pure p
    exact (hreports.done hheading).1
  | next hcase hrest ih => exact ih.trans (reports_caseItem.done hcase).1

/-! ### Declarations -/

def ValueObjectOpens (s t : List Char) : Prop := ∃ head, heading s = .done head ('\x7b' :: t)

def AlgebraicTypeOpens (s t : List Char) : Prop :=
  ∃ head u, heading s = .done head ('\x7b' :: u) ∧ CaseOpens u t

theorem declaration_halt {Member : Type} {body : Parser (List Member)}
    {head : Preamble × String × TagLists} (hhead : heading s = .done head t)
    (hbody : body t = .halt why) : declaration body s = .halt why := by
  rw [declaration_eq, bind_of_done hhead, bind_of_halt hbody]

theorem AlgebraicTypeOpens.halt (h : AlgebraicTypeOpens s t)
    (hblock : attributeBlock ('\x7b' :: t) = .halt why) : algebraicType s = .halt why := by
  obtain ⟨head, u, hhead, hcases⟩ := h
  apply declaration_halt hhead
  rw [caseBlock, bind_of_done (word_singleton rfl u), hcases.halt hblock]

theorem AlgebraicTypeOpens.suffix (h : AlgebraicTypeOpens s t) : '\x7b' :: t <:+ s := by
  obtain ⟨head, u, hhead, hcases⟩ := h
  have hrest := (reports_heading.done hhead).1
  exact hcases.suffix.trans ((List.suffix_cons _ _).trans hrest)

/-- The source is `before`, the brace of a body, what is read of the body, and `after`, in front of
which the body cannot be read on. The failure of the body there is what the source is refused with,
and reading halts with it. -/
structure RefusesInside {α : Type} (p : Parser α) (source : String) (before inside after : List Char)
    (expected : Expected) : Prop where
  source_eq : source.toList = before ++ '\x7b' :: (inside ++ after)
  body : blockAttributes (inside ++ after) = .miss ⟨after, expected⟩ ∨
    blockAttributes (inside ++ after) = .halt ⟨after, expected⟩
  halts : p source.toList = .halt ⟨after, expected⟩
  error : ∃ position, p.parse source = .error ⟨position, expected⟩ ∧
    position.Cuts source.toList (before ++ '\x7b' :: inside) after

theorem exists_refusesInside {α : Type} {p : Parser α} {source : String}
    (hbody : blockAttributes t = .miss why ∨ blockAttributes t = .halt why)
    (hsuffix : '\x7b' :: t <:+ source.toList) (hhalt : p source.toList = .halt why) :
    ∃ before inside after expected, t = inside ++ after ∧
      RefusesInside p source before inside after expected := by
  obtain ⟨after, expected⟩ := why
  have hinside : after <:+ t := by
    rcases hbody with hmiss | hhalt
    · exact (reports_blockAttributes.miss hmiss).1
    · exact (reports_blockAttributes.halt hhalt).1
  obtain ⟨inside, rfl⟩ := hinside
  obtain ⟨before, hsource⟩ := hsuffix
  have hparts : source.toList = (before ++ '\x7b' :: inside) ++ after := by simp [← hsource]
  have herror : p.parse source =
      .error ⟨Position.after (before ++ '\x7b' :: inside), expected⟩ := by
    rw [Parser.parse, hhalt, hparts]
    exact congrArg Except.error (Mismatch.within_append _ after expected)
  refine ⟨before, inside, after, expected, rfl, hsource.symm, hbody, hhalt, _, herror, ?_⟩
  rw [hparts]
  exact Position.cuts_after _ _

theorem refusesInside_of_opens (source : String) {t : List Char}
    (hbody : ∀ as r, attributeBlock ('\x7b' :: t) ≠ .done as r) :
    (AlgebraicTypeOpens source.toList t → ∃ before inside after expected, t = inside ++ after ∧
      RefusesInside algebraicType source before inside after expected) ∧
    (ValueObjectOpens source.toList t → ∃ before inside after expected, t = inside ++ after ∧
      RefusesInside valueObject source before inside after expected) := by
  obtain ⟨why, hfailure, hblock⟩ := exists_attributeBlock_halt hbody
  constructor
  · intro h
    exact exists_refusesInside hfailure h.suffix (h.halt hblock)
  · rintro ⟨head, hhead⟩
    exact exists_refusesInside hfailure (reports_heading.done hhead).1 (declaration_halt hhead hblock)

def brokenBody : String := " int a, int b \x7d Disc \x7d"

def brokenBox : String := ", # box\nBox includes(Solid) \x7b" ++ brokenBody

def brokenCases : String := " Dot \x7b int x \x7d" ++ brokenBox

def brokenShape : String := "Shape \x7b" ++ brokenCases

def brokenPage : String := "Page \x7b" ++ brokenBody

theorem caseOpens_brokenCases : CaseOpens brokenCases.toList brokenBody.toList := by
  have hdot : ((do caseSeparators; caseEntry) brokenCases.toList).map Case.name =
      .done "Dot" brokenBox.toList := by decide +kernel
  have hbox : (caseHeading brokenBox.toList).map (·.directives.contains payloadDirective) =
      .done false ('\x7b' :: brokenBody.toList) := by decide +kernel
  obtain ⟨dot, hdot, -⟩ := map_eq_done.mp hdot
  obtain ⟨p, hp, hpayload⟩ := map_eq_done.mp hbox
  exact .next hdot (.here hp hpayload)

theorem refusesInside_brokenBody :
    AlgebraicTypeOpens brokenShape.toList brokenBody.toList ∧
    ValueObjectOpens brokenPage.toList brokenBody.toList ∧
    (∃ before inside after expected, brokenBody.toList = inside ++ after ∧
      RefusesInside algebraicType brokenShape before inside after expected) ∧
    (∃ before inside after expected, brokenBody.toList = inside ++ after ∧
      RefusesInside valueObject brokenPage before inside after expected) ∧
    algebraicType.parse brokenShape = .error ⟨⟨2, 28⟩, .word "\x7d"⟩ ∧
    valueObject.parse brokenPage = .error ⟨⟨1, 13⟩, .word "\x7d"⟩ := by
  have hshape : (heading brokenShape.toList).map (fun _ => ()) =
      .done () ('\x7b' :: brokenCases.toList) := by decide +kernel
  have hpage : (heading brokenPage.toList).map (fun _ => ()) =
      .done () ('\x7b' :: brokenBody.toList) := by decide +kernel
  have hbody : ∀ as r, attributeBlock ('\x7b' :: brokenBody.toList) ≠ .done as r := by
    have hhalt : (attributeBlock ('\x7b' :: brokenBody.toList)).map (fun _ => ()) =
        .halt ⟨", int b \x7d Disc \x7d".toList, .word "\x7d"⟩ := by decide +kernel
    intro as r h
    rw [h] at hhalt
    cases hhalt
  obtain ⟨head, hhead, -⟩ := map_eq_done.mp hshape
  obtain ⟨head', hhead', -⟩ := map_eq_done.mp hpage
  have hopens : AlgebraicTypeOpens brokenShape.toList brokenBody.toList :=
    ⟨head, _, hhead, caseOpens_brokenCases⟩
  have hopens' : ValueObjectOpens brokenPage.toList brokenBody.toList := ⟨head', hhead'⟩
  exact ⟨hopens, hopens', (refusesInside_of_opens brokenShape hbody).1 hopens,
    (refusesInside_of_opens brokenPage hbody).2 hopens', error?_eq_some.mp (by decide +kernel),
    error?_eq_some.mp (by decide +kernel)⟩

end ValueTypes.Source
