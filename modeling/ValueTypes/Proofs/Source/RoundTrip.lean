import ValueTypes.Proofs.Source.AttributeText

/-! Writing a declaration that was read, and reading it again, gives the same declaration. -/

namespace ValueTypes.Source

open ValueTypes.Parser

variable {s r : List Char}

/-! ### Tags -/

structure TagLists.Readable (tags : TagLists) : Prop where
  includes : ∀ tag ∈ tags.includes, IsIdentifier tag
  excludes : ∀ tag ∈ tags.excludes, IsIdentifier tag

theorem readable_noTags : TagLists.Readable ⟨[], []⟩ := ⟨by simp, by simp⟩

theorem tagList_append {keyword : String} {tags : List Tag} (hne : tags ≠ [])
    (htags : ∀ tag ∈ tags, IsIdentifier tag) (r : List Char) :
    tagList keyword (keyword.toList ++ '(' :: ((String.intercalate ", " tags).toList ++ ')' :: r)) =
      .done tags r := by
  have hlist : CommaSeparated (fun tag u => IsIdentifier tag ∧ u = tag.toList) tags
      (String.intercalate ", " tags).toList := by
    simpa using commaSeparated_intercalate id hne fun tag htag => ⟨htags tag htag, rfl⟩
  have hstart : ∀ (tag : Tag) u t, IsIdentifier tag ∧ u = tag.toList → Stops isLayout (u ++ t) := by
    rintro tag u t ⟨htag, rfl⟩
    exact htag.stops_layout t
  have hitems := sepBy1_comma_append (p := identifier) (r := ')' :: r) hlist hstart
    (fun tag u t hu _ ht => hu.2 ▸ identifier_append hu.1 ht.stops_isWordChar)
    (atBreak_cons (.inr (.inr rfl))) (by simp [isLayout])
  have hsep : sepBy comma identifier ((String.intercalate ", " tags).toList ++ ')' :: r) =
      .done tags (')' :: r) := by
    rw [sepBy, bind_of_done (optional_of_done hitems)]
    rfl
  rw [tagList, bind_of_done (word_append _ _), bind_of_done (skip_of_stops (by simp [isLayout])),
    bind_of_done (word_singleton rfl _), commit_eq_done,
    bind_of_done (skip_of_stops (hlist.stops_layout hstart _)), bind_of_done hsep,
    bind_of_done (skip_of_stops (by simp [isLayout])), bind_of_done (word_singleton rfl _), pure_apply]

theorem isIdentifier_of_tagList {keyword : String} {tags : List Tag}
    (h : tagList keyword s = .done tags r) : ∀ tag ∈ tags, IsIdentifier tag := by
  simp only [tagList, sepBy, bind_eq_done, commit_eq_done, pure_eq_done, optional_eq_done] at h
  obtain ⟨_, _, -, _, _, -, _, _, -, _, _, -, _, _, ⟨_, _, ⟨items, rfl, hitems⟩ | ⟨rfl, -⟩, rfl, rfl⟩,
    _, _, -, _, _, -, rfl, rfl⟩ := h
  · have hread : ∀ tag t t', identifier t = .done tag t' → ∃ u, t = u ++ t' ∧ IsIdentifier tag :=
      fun tag t t' h => ⟨tag.toList, (identifier_eq_done.mp h).2.1, (identifier_eq_done.mp h).1⟩
    obtain ⟨v, -, hlist⟩ := commaSeparated_of_sepBy1 hitems hread
    exact hlist.forall_mem fun tag u h => h
  · simp

theorem toList_writeTags {keyword : String} {tags : List Tag} (hne : tags ≠ []) (r : List Char) :
    (writeTags keyword tags).toList ++ r =
      ' ' :: (keyword.toList ++ '(' :: ((String.intercalate ", " tags).toList ++ ')' :: r)) := by
  simp [writeTags, hne]

theorem misses_tagList {keyword : String} (hkeyword : IsIdentifier keyword)
    (h : Stops isWordChar s) : Misses (tagList keyword) s := by
  refine (misses_word.mpr ?_).bind _
  rintro ⟨t, rfl⟩
  obtain ⟨c, cs, hcs, hc, -⟩ := hkeyword.exists_cons
  simp [hcs, isWordChar_of_isWordStart hc] at h

theorem misses_tagGroup (h : Stops isWordChar (s.dropWhile isLayout)) : Misses tagGroup s :=
  .after rfl (misses_orElse.mpr ⟨(misses_tagList (by decide) h).bind _,
    (misses_tagList (by decide) h).bind _⟩)

theorem tagGroup_includes {tags : List Tag} (hne : tags ≠ [])
    (htags : ∀ tag ∈ tags, IsIdentifier tag) (r : List Char) :
    tagGroup ((writeTags "includes" tags).toList ++ r) = .done ⟨tags, []⟩ r := by
  rw [toList_writeTags hne, tagGroup, bind_of_done (skip_cons rfl (by simp [isLayout]))]
  refine orElse_of_done ?_
  rw [bind_of_done (tagList_append hne htags r), pure_apply]

theorem tagGroup_excludes {tags : List Tag} (hne : tags ≠ [])
    (htags : ∀ tag ∈ tags, IsIdentifier tag) (r : List Char) :
    tagGroup ((writeTags "excludes" tags).toList ++ r) = .done ⟨[], tags⟩ r := by
  rw [toList_writeTags hne, tagGroup, bind_of_done (skip_cons rfl (by simp [isLayout]))]
  refine orElse_of_misses (((misses_word.mpr ?_).bind _).bind _) ?_
  · simp
  · rw [bind_of_done (tagList_append hne htags r), pure_apply]

theorem rounds_writeTags {keyword : String} {group : TagLists} {groups : List TagLists}
    {tags : List Tag}
    (hread : tags ≠ [] → tagGroup ((writeTags keyword tags).toList ++ s) = .done group s)
    (hrest : Rounds tagGroup groups s r) :
    Rounds tagGroup ((if tags = [] then [] else [group]) ++ groups)
      ((writeTags keyword tags).toList ++ s) r := by
  by_cases hne : tags = []
  · simpa [hne, writeTags] using hrest
  · rw [if_neg hne]
    refine .next (hread hne) ?_ hrest
    simp only [toList_writeTags hne, List.length_cons, List.length_append]
    omega

theorem tagLists_append {tags : TagLists} (h : tags.Readable) (hr : Misses tagGroup r) :
    tagLists ((writeTags "includes" tags.includes).toList ++
      ((writeTags "excludes" tags.excludes).toList ++ r)) = .done tags r := by
  have hexcludes := rounds_writeTags (fun hne => tagGroup_excludes hne h.excludes r) (.stop hr)
  have hrounds := rounds_writeTags (fun hne => tagGroup_includes hne h.includes _) hexcludes
  rw [tagLists, bind_of_done (many_eq_done.mpr hrounds), pure_apply]
  obtain ⟨includes, excludes⟩ := tags
  cases includes <;> cases excludes <;> simp [TagLists.append]

theorem readable_of_tagGroup {tags : TagLists} (h : tagGroup s = .done tags r) :
    tags.Readable := by
  simp only [tagGroup, bind_eq_done, orElse_eq_done, pure_eq_done] at h
  obtain ⟨_, _, -, ⟨includes, _, hread, rfl, rfl⟩ | ⟨-, excludes, _, hread, rfl, rfl⟩⟩ := h
  · exact ⟨isIdentifier_of_tagList hread, by simp⟩
  · exact ⟨by simp, isIdentifier_of_tagList hread⟩

theorem TagLists.Readable.append {a b : TagLists} (ha : a.Readable) (hb : b.Readable) :
    (a.append b).Readable :=
  ⟨List.forall_mem_append.mpr ⟨ha.includes, hb.includes⟩,
    List.forall_mem_append.mpr ⟨ha.excludes, hb.excludes⟩⟩

theorem readable_of_tagLists {tags : TagLists} (h : tagLists s = .done tags r) :
    tags.Readable := by
  simp only [tagLists, bind_eq_done, many_eq_done, pure_eq_done] at h
  obtain ⟨lists, _, hrounds, rfl, rfl⟩ := h
  have hlists := hrounds.forall_mem fun tags s t => readable_of_tagGroup
  exact List.foldlRecOn lists TagLists.append readable_noTags fun a ha b hb => ha.append (hlists b hb)

theorem tagLists_of_misses {tags : TagLists} (hs : Misses tagGroup s)
    (h : tagLists s = .done tags r) : tags = ⟨[], []⟩ := by
  rw [tagLists, bind_of_done (many_eq_done.mpr (.stop hs)), pure_eq_done] at h
  exact h.1

/-! ### Headings -/

theorem stops_writeTags {cls : Char → Bool} {keyword : String} {tags : List Tag}
    (hspace : cls ' ' = false) (hr : Stops cls r) :
    Stops cls ((writeTags keyword tags).toList ++ r) := by
  by_cases hne : tags = []
  · simpa [hne, writeTags] using hr
  · simpa [toList_writeTags hne] using hspace

theorem heading_append (name : String) {tags : TagLists} (htags : tags.Readable) (r : List Char) :
    ∃ t t', (writeHeading name tags.includes tags.excludes).toList ++ '\x7b' :: r = name.toList ++ t ∧
      Stops isWordChar t ∧ tagLists t = .done tags t' ∧ skip isLayout t' = .done () ('\x7b' :: r) := by
  have hbrace : Stops isLayout ('\x7b' :: r) := by simp [isLayout]
  have hblank : Within isLayout (if name.isEmpty then "" else " ").toList := by
    split <;> simp [isLayout]
  have hstops : Stops isWordChar ((if name.isEmpty then "" else " ").toList ++ '\x7b' :: r) := by
    split <;> simp [isWordChar]
  have hmiss : Misses tagGroup ((if name.isEmpty then "" else " ").toList ++ '\x7b' :: r) := by
    refine misses_tagGroup ?_
    rw [dropWhile_within_append hblank hbrace]
    simp [isWordChar]
  refine ⟨_, _, ?_, stops_writeTags rfl (stops_writeTags rfl hstops), tagLists_append htags hmiss,
    skip_append hblank hbrace⟩
  simp [writeHeading]

/-! ### Cases -/

def Preamble.HasPayload (p : Preamble) (name : String) (payload : Option Attribute) : Prop :=
  match p.payloadType? with
  | none => payload = none
  | some text => ∃ type, TypeExpr.parse text = .ok type ∧ payload = some { p with name, type }

inductive Case.Readable : Case → Prop where
  | payload {p : Preamble} {name : String} {payload : Option Attribute} (hp : p.Readable)
      (hdirective : p.directives.contains payloadDirective = true) (hname : IsIdentifier name)
      (hpayload : p.HasPayload name payload) :
      Readable { p with name, includes := [], excludes := [], attributes := [], payload }
  | block {p : Preamble} {name : String} {tags : TagLists} {attributes : List Attribute}
      (hp : p.Readable) (hdirective : p.directives.contains payloadDirective = false)
      (hname : Within isWordChar name.toList) (htags : tags.Readable)
      (hempty : name = "" → tags = ⟨[], []⟩) (hattributes : ∀ a ∈ attributes, a.Readable) :
      Readable { p, tags with name, attributes, payload := none }

theorem payloadCase_eq_done {p : Preamble} {c : Case} :
    payloadCase p s = .done c r ↔ ∃ name payload t o, identifier s = .done name t ∧
      optional (inline (word ";")) t = .done o r ∧ p.HasPayload name payload ∧
      c = { p with name, includes := [], excludes := [], attributes := [], payload } := by
  simp only [payloadCase, bind_eq_done, commit_eq_done, Preamble.HasPayload]
  cases p.payloadType? with
  | none =>
    simp only [pure_eq_done]
    grind
  | some text =>
    cases hparse : TypeExpr.parse text with
    | ok type =>
      simp only [hparse, pure_eq_done, Except.ok.injEq]
      grind
    | error why => simp [hparse]

theorem readable_of_braceCase {p : Preamble} {c : Case} (hp : p.Readable)
    (hdirective : p.directives.contains payloadDirective = false) (hs : Stops isLayout s)
    (h : braceCase p s = .done c r) : c.Readable := by
  simp only [braceCase, bind_eq_done, run_eq_done, pure_eq_done] at h
  obtain ⟨name, t, ⟨rfl, hname, ht⟩, tags, _, htags, _, _, -, attributes, _, hattributes, rfl, rfl⟩ := h
  refine .block hp hdirective (by simpa using hname) (readable_of_tagLists htags) (fun hempty => ?_)
    (readable_of_attributeBlock hattributes)
  -- Tags that follow no name would be read as the name.
  have hnil : name = [] := by simpa [← String.toList_eq_nil_iff] using hempty
  rw [hnil, List.nil_append] at hs
  have hdrop : t.dropWhile isLayout = t := dropWhile_within_append (within_nil isLayout) hs
  exact tagLists_of_misses (misses_tagGroup (by rwa [hdrop])) htags

theorem readable_of_bareCase {p : Preamble} {c : Case} (hp : p.Readable)
    (hdirective : p.directives.contains payloadDirective = false)
    (h : bareCase p s = .done c r) : c.Readable := by
  simp only [bareCase, bind_eq_done, pure_eq_done] at h
  obtain ⟨name, _, hread, tags, _, htags, rfl, rfl⟩ := h
  have hname := (identifier_eq_done.mp hread).1
  refine .block hp hdirective hname.within (readable_of_tagLists htags) ?_ (by simp)
  rintro rfl
  exact absurd hname (by decide)

theorem readable_of_caseEntry {c : Case} (hs : Stops isLayout s) (h : caseEntry s = .done c r) :
    c.Readable := by
  obtain ⟨p, t, hpreamble, hentry⟩ := bind_eq_done.mp h
  have hp := readable_of_preamble hpreamble
  have ht := stops_layout_of_preamble hpreamble hs
  cases hdirective : p.directives.contains payloadDirective with
  | true =>
    rw [if_pos hdirective] at hentry
    obtain ⟨name, payload, _, _, hname, -, hpayload, rfl⟩ := payloadCase_eq_done.mp hentry
    exact .payload hp hdirective (identifier_eq_done.mp hname).1 hpayload
  | false =>
    rw [if_neg (by simp [hdirective]), orElse_eq_done] at hentry
    obtain hbrace | ⟨-, hbare⟩ := hentry
    · exact readable_of_braceCase hp hdirective ht hbrace
    · exact readable_of_bareCase hp hdirective hbare

theorem content_heading {name : String} {tags : TagLists} (hname : Within isWordChar name.toList)
    (hempty : name = "" → tags = ⟨[], []⟩) (r : List Char) :
    Content ((writeHeading name tags.includes tags.excludes).toList ++ '\x7b' :: r) := by
  cases hcs : name.toList with
  | nil =>
    have hnil := String.toList_eq_nil_iff.mp hcs
    rw [hempty hnil, hnil]
    exact ⟨by simp [writeHeading, writeTags, isSeparator, isLayout], by simp [writeHeading, writeTags],
      by simp [writeHeading, writeTags]⟩
  | cons c cs =>
    rw [hcs] at hname
    simp only [writeHeading, String.toList_append, hcs, List.cons_append]
    exact content_of_isWordChar (within_cons.mp hname).1

theorem caseEntry_append {c : Case} (h : c.Readable) (r : List Char) :
    caseEntry (c.write.toList ++ '\n' :: r) = .done c ('\n' :: r) := by
  cases h with
  | @payload p name payload hp hdirective hname hpayload =>
    -- The line ends behind the name, so no semicolon of the next line is read.
    have hsemicolon : Misses (inline (word ";")) ('\n' :: r) :=
      (misses_inline_word (c := ';') rfl).mpr ((nextIsNot_cons rfl).mpr (by decide))
    simp only [Case.write, hdirective, if_true, String.toList_append, List.append_assoc]
    rw [caseEntry, bind_of_done (preamble_append hp (hname.content _)), if_pos hdirective,
      payloadCase_eq_done]
    exact ⟨name, payload, _, _, identifier_append hname (by simp [isWordChar]),
      optional_of_misses hsemicolon, hpayload, rfl⟩
  | @block p name tags attributes hp hdirective hname htags hempty hattributes =>
    simp only [Case.write, hdirective, Bool.false_eq_true, if_false, String.toList_append,
      List.append_assoc]
    have hblock := attributeBlock_append hattributes ('\n' :: r)
    rw [toList_writeBlock] at hblock ⊢
    obtain ⟨t, t', hheading, ht, htagLists, hskip⟩ := heading_append name htags _
    have hcontent := content_heading hname hempty
    rw [caseEntry, bind_of_done (preamble_append hp (hcontent _)), if_neg (by simp [hdirective]),
      hheading]
    refine orElse_of_done ?_
    rw [braceCase, bind_of_done (run_append hname ht), bind_of_done htagLists, bind_of_done hskip,
      bind_of_done hblock, pure_apply, String.ofList_toList]

/-! ### Blocks of cases -/

theorem misses_comma_word (hr : Stops isSeparator r) : Misses (word ",") r := by
  rw [misses_word]
  rintro ⟨t, rfl⟩
  simp [isSeparator] at hr

theorem caseSeparators_newline (hr : Stops isSeparator r) :
    caseSeparators ('\n' :: r) = .done () r :=
  many_newline (stops_isLayout hr) (misses_comma_word hr)

theorem commaGap_newline (hr : Content r) : commaGap ('\n' :: r) = .done () r :=
  many_newline hr.layout
    (misses_orElse.mpr ⟨misses_comma_word hr.separator, (misses_comment hr).bind _⟩)

theorem stops_layout_of_caseSeparators {u : Unit} (h : caseSeparators s = .done u r) :
    Stops isLayout r := by
  simp only [caseSeparators, bind_eq_done, many_eq_done, pure_eq_done] at h
  obtain ⟨_, _, hrounds, -, rfl⟩ := h
  exact misses_skipSome.mp (misses_orElse.mp hrounds.misses).1

theorem Case.Readable.stops_separator {c : Case} (h : c.Readable) (r : List Char) :
    Stops isSeparator (c.write.toList ++ r) := by
  cases h with
  | payload hp hdirective hname hpayload =>
    simp only [Case.write, hdirective, if_true, String.toList_append, List.append_assoc]
    exact stops_writePreamble rfl rfl (hname.content _).separator
  | block hp hdirective hname htags hempty hattributes =>
    simp only [Case.write, hdirective, Bool.false_eq_true, if_false, String.toList_append,
      List.append_assoc]
    rw [toList_writeBlock]
    exact stops_writePreamble rfl rfl (content_heading hname hempty _).separator

theorem tagLists_none (h : Misses tagGroup r) : tagLists r = .done ⟨[], []⟩ r :=
  tagLists_append readable_noTags h

theorem misses_case_sign {c : Char} (p : Preamble) (hword : isWordChar c = false)
    (hlayout : isLayout c = false) (hbrace : c ≠ '\x7b') (r : List Char) :
    Misses (orElse (braceCase p) (bareCase p)) (c :: r) := by
  have hstart : isWordStart c = false := by
    by_contra hstart
    simp [isWordChar_of_isWordStart (by simpa using hstart)] at hword
  have hrun : run isWordChar (c :: r) = .done [] (c :: r) :=
    run_append (within_nil _) (by simpa using hword)
  have htags := tagLists_none (misses_tagGroup (s := c :: r) (by simpa [hlayout] using hword))
  have hblock : Misses (word "\x7b") (c :: r) := misses_word.mpr (by simpa using hbrace.symm)
  have hbraced : Misses (braceCase p) (c :: r) :=
    .after hrun (.after htags (.after (skip_of_stops (by simpa using hlayout)) ((hblock.bind _).bind _)))
  exact misses_orElse.mpr ⟨hbraced, (misses_identifier.mpr (by simpa using hstart)).bind _⟩

theorem misses_caseEntry_close (r : List Char) : Misses caseEntry ('\x7d' :: r) :=
  .after (preamble_of_content (content_close r)) (misses_case_sign .empty rfl rfl (by decide) r)

theorem caseBlock_append {cs : List Case} (h : ∀ c ∈ cs, c.Readable) (r : List Char) :
    caseBlock ((writeBlock (cs.map Case.write)).toList ++ r) = .done cs r := by
  have hmiss : Misses (do caseSeparators; caseEntry) ('\n' :: '\x7d' :: r) :=
    .after (caseSeparators_newline (content_close r).separator) (misses_caseEntry_close r)
  have hread : ∀ c ∈ cs, ∀ t, t.head? = some '\n' →
      (do caseSeparators; caseEntry) ('\n' :: c.write.toList ++ t) = .done c t := by
    intro c hc t ht
    obtain ⟨t, rfl⟩ := List.head?_eq_some_iff.mp ht
    rw [List.cons_append, bind_of_done (caseSeparators_newline ((h c hc).stops_separator _)),
      caseEntry_append (h c hc)]
  have hrounds := Rounds.of_texts (fun c : Case => '\n' :: c.write.toList) (·.head? = some '\n')
    hread (by simp) (by simp) rfl hmiss
  have hclose : (do commaGap; word "\x7d") ('\n' :: '\x7d' :: r) = .done () r := by
    rw [bind_of_done (commaGap_newline (content_close r)), word_singleton rfl]
  rw [toList_writeBlock, caseBlock, bind_of_done (word_singleton rfl _), manyUntil_eq_done]
  exact ⟨_, (), hrounds, hclose⟩

theorem readable_of_caseBlock {cs : List Case} (h : caseBlock s = .done cs r) :
    ∀ c ∈ cs, c.Readable := by
  simp only [caseBlock, bind_eq_done, manyUntil_eq_done] at h
  obtain ⟨_, _, -, _, _, hrounds, -⟩ := h
  refine hrounds.forall_mem fun c s t hread => ?_
  obtain ⟨_, _, hseparators, hentry⟩ := bind_eq_done.mp hread
  exact readable_of_caseEntry (stops_layout_of_caseSeparators hseparators) hentry

/-! ### Declarations -/

structure Declaration.Readable {Member : Type} (P : Member → Prop) (d : Declaration Member) :
    Prop where
  preamble : Preamble.Readable ⟨d.comments, d.directives⟩
  name : IsIdentifier d.name
  tags : TagLists.Readable ⟨d.includes, d.excludes⟩
  members : ∀ m ∈ d.members, P m

variable {Member : Type} {P : Member → Prop} {body : Parser (List Member)} {d : Declaration Member}

theorem declaration_readable (hbody : ∀ s ms r, body s = .done ms r → ∀ m ∈ ms, P m)
    (h : declaration body s = .done d r) : d.Readable P := by
  simp only [declaration, bind_eq_done, pure_eq_done] at h
  obtain ⟨_, _, -, p, _, hpreamble, name, _, hname, tags, _, htags, _, _, -, members, _, hmembers, _, _,
    -, _, _, -, rfl, rfl⟩ := h
  exact ⟨readable_of_preamble hpreamble, (identifier_eq_done.mp hname).1, readable_of_tagLists htags,
    hbody _ _ _ hmembers⟩

theorem declaration_write {member : Member → String}
    (hbody : ∀ ms, (∀ m ∈ ms, P m) → ∀ r,
      body ((writeBlock (ms.map member)).toList ++ r) = .done ms r) (h : d.Readable P) :
    declaration body (d.write member).toList = .done d [] := by
  have hblock := hbody d.members h.members ['\n']
  rw [toList_writeBlock] at hblock
  obtain ⟨t, t', hheading, ht, htagLists, hskip⟩ := heading_append d.name h.tags
    (d.members.flatMap (fun m => '\n' :: (member m).toList) ++ '\n' :: '\x7d' :: ['\n'])
  have htext : (d.write member).toList =
      (writePreamble d.comments d.directives).toList ++ (d.name.toList ++ t) := by
    rw [← hheading, ← toList_writeBlock]
    simp [Declaration.write]
  have hcontent := h.name.content t
  have hgap : gap ['\n'] = .done () [] := gap_newline ⟨by simp, by simp, by simp⟩
  rw [htext, declaration,
    bind_of_done (skip_of_stops (stops_writePreamble rfl rfl hcontent.layout)),
    bind_of_done (preamble_append h.preamble hcontent), bind_of_done (identifier_append h.name ht),
    bind_of_done htagLists, bind_of_done hskip, bind_of_done hblock, bind_of_done hgap,
    bind_of_done (endOfInput_eq_done (u := ()).mpr ⟨rfl, rfl⟩), pure_apply]

theorem parse_write_of_parse {member : Member → String}
    (hread : ∀ s ms r, body s = .done ms r → ∀ m ∈ ms, P m)
    (hwrite : ∀ ms, (∀ m ∈ ms, P m) → ∀ r,
      body ((writeBlock (ms.map member)).toList ++ r) = .done ms r) {source : String}
    (h : (declaration body).parse source = .ok d) :
    (declaration body).parse (d.write member) = .ok d := by
  obtain ⟨r, hdone⟩ := parse_eq_ok.mp h
  exact parse_eq_ok.mpr ⟨[], declaration_write hwrite (declaration_readable hread hdone)⟩

theorem parse_write_eq_ok :
    (∀ source d, algebraicType.parse source = .ok d →
      algebraicType.parse (d.write Case.write) = .ok d) ∧
    (∀ source d, valueObject.parse source = .ok d →
      valueObject.parse (d.write Attribute.write) = .ok d) :=
  ⟨fun _ _ => parse_write_of_parse (fun _ _ _ => readable_of_caseBlock)
      (fun _ => caseBlock_append),
    fun _ _ => parse_write_of_parse (fun _ _ _ => readable_of_attributeBlock)
      (fun _ => attributeBlock_append)⟩

def shapeSource : String :=
  "# shapes\n%kind of=a\"b\nShape excludes(Big)\x7bCircle \x7b unsigned  int r \x7d, Dot includes(A,B)\n" ++
  "\x7b id<P> p; NSArray<id , Box(I) *>* q \x7d %singleAttributeSubtype attributeType=\"long\"\nSize;\x7d"

def pageSource : String := "Page \x7b # the title\n%nullable\nNSString\t*title long long views \x7d # end"

theorem parse_write_shape : ∃ d e,
    algebraicType.parse shapeSource = .ok d ∧ d.members.map (·.name) = ["Circle", "Dot", "Size"] ∧
    algebraicType.parse (d.write Case.write) = .ok d ∧
    valueObject.parse pageSource = .ok e ∧ e.members.map (·.name) = ["title", "views"] ∧
    valueObject.parse (e.write Attribute.write) = .ok e := by
  have hcases : (algebraicType.parse shapeSource).toOption.map (·.members.map (·.name)) =
      some ["Circle", "Dot", "Size"] := by decide +kernel
  have hattributes : (valueObject.parse pageSource).toOption.map (·.members.map (·.name)) =
      some ["title", "views"] := by decide +kernel
  cases hd : algebraicType.parse shapeSource with
  | error why => simp [hd, Except.toOption] at hcases
  | ok d =>
    cases he : valueObject.parse pageSource with
    | error why => simp [he, Except.toOption] at hattributes
    | ok e =>
      exact ⟨d, e, rfl, by simpa [hd, Except.toOption] using hcases, parse_write_eq_ok.1 _ d hd, rfl,
        by simpa [he, Except.toOption] using hattributes, parse_write_eq_ok.2 _ e he⟩

end ValueTypes.Source
