import ValueTypes.Proofs.Source.Extension

/-! Cases with any separators around them: the block is read if and only if no comma stands behind a
comment in front of a case. -/

namespace ValueTypes.Source

open ValueTypes.Parser

variable {s t y : List Char} {ps : List Piece}

/-! ### Separators -/

def Orderly (ps : List Piece) : Prop := ps.Pairwise fun p q => ¬ (p.isComment ∧ q.isComma)

instance (ps : List Piece) : Decidable (Orderly ps) := inferInstanceAs (Decidable (List.Pairwise _ ps))

/-- What stays of a separator in front of a case: the first comma behind a comment, and the rest. -/
def unread (ps : List Piece) : List Piece :=
  (ps.dropWhile (! ·.isComment)).dropWhile (! ·.isComma)

theorem orderly_iff : Orderly ps ↔ unread ps = [] := by
  induction ps with
  | nil => simp [Orderly, unread]
  | cons p ps ih =>
    have hcons : Orderly (p :: ps) ↔ (∀ q ∈ ps, ¬ (p.isComment ∧ q.isComma)) ∧ Orderly ps :=
      List.pairwise_cons
    cases hp : p.isComment with
    | false =>
      have hunread : unread (p :: ps) = unread ps := by
        rw [unread, List.dropWhile_cons_of_pos (by simpa using hp)]
        rfl
      rw [hcons, hunread, ih]
      simp [hp]
    | true =>
      -- Behind a comment every comma counts, so the rest need not be asked about.
      have hunread : unread (p :: ps) = [] ↔ ∀ q ∈ ps, q.isComma = false := by
        have hcomma : p.isComma = false := by cases p <;> simp_all [Piece.isComment, Piece.isComma]
        rw [unread, List.dropWhile_cons_of_neg (by simpa using hp), List.dropWhile_eq_nil_iff]
        simp [hcomma]
      rw [hcons, hunread]
      simp only [hp, true_and, Bool.not_eq_true, and_iff_left_iff_imp]
      exact fun h => List.pairwise_of_forall_mem_list fun q hq q' hq' => by simp [h q' hq']

theorem unread_eq (ps : List Piece) : unread ps = [] ∨ ∃ qs, unread ps = .comma :: qs := by
  cases h : unread ps with
  | nil => exact .inl rfl
  | cons q qs =>
    have hq := List.head?_dropWhile_not (! ·.isComma) (ps.dropWhile (! ·.isComment))
    rw [← unread, h] at hq
    cases q <;> simp_all [Piece.isComma]

theorem stops_isSeparator_dropWhile (ps : List Piece) (hy : Stops isSeparator y) :
    Stops isSeparator (spelled (ps.dropWhile (! ·.isComment)) ++ y) := by
  cases h : ps.dropWhile (! ·.isComment) with
  | nil => exact hy
  | cons q qs =>
    have hq := List.head?_dropWhile_not (! ·.isComment) ps
    rw [h] at hq
    cases q <;> simp_all [Piece.isComment, Piece.text, isSeparator, isLayout]

theorem filterMap_comment?_of_orderly (h : Orderly ps) :
    ((ps.dropWhile (! ·.isComment)).takeWhile (! ·.isComma)).filterMap Piece.comment? =
      ps.filterMap Piece.comment? := by
  have hsplit := List.takeWhile_append_dropWhile (p := (! ·.isComment)) (l := ps)
  have hback := List.takeWhile_append_dropWhile (p := (! ·.isComma)) (l := ps.dropWhile (! ·.isComment))
  have hfront : (ps.takeWhile (! ·.isComment)).filterMap Piece.comment? = [] := by
    refine List.filterMap_eq_nil_iff.mpr fun p hp => ?_
    have hcomment := List.mem_takeWhile_imp hp
    cases p <;> simp_all [Piece.isComment, Piece.comment?]
  rw [← unread, orderly_iff.mp h, List.append_nil] at hback
  rw [hback]
  conv_rhs => rw [← hsplit, List.filterMap_append, hfront, List.nil_append]

theorem caseItem_spelled (ps : List Piece) (hy : Content y) : ∃ comments,
    (Orderly ps → comments = ps.filterMap Piece.comment?) ∧
    (do caseSeparators; caseEntry) (spelled ps ++ y) =
      orElse (braceCase ⟨comments, ∅⟩) (bareCase ⟨comments, ∅⟩) (spelled (unread ps) ++ y) := by
  have hseparator := stops_isSeparator_dropWhile ps hy.separator
  have hskipped : caseSeparators (spelled ps ++ y) =
      .done () (spelled (ps.dropWhile (! ·.isComment)) ++ y) := by
    conv_lhs => rw [← List.takeWhile_append_dropWhile (p := (! ·.isComment)) (l := ps)]
    rw [spelled_append, List.append_assoc]
    exact caseSeparators_spelled (fun p hp => by simpa using List.mem_takeWhile_imp hp) hseparator
  have hrest : Stops isLayout (spelled (unread ps) ++ y) ∧
      (spelled (unread ps) ++ y).head? ≠ some '#' ∧ (spelled (unread ps) ++ y).head? ≠ some '%' := by
    obtain h | ⟨qs, h⟩ := unread_eq ps
    · simpa [h] using ⟨hy.layout, hy.comment, hy.directive⟩
    · simp [h, Piece.text, isLayout]
  have hcommas : ∀ p ∈ (ps.dropWhile (! ·.isComment)).takeWhile (! ·.isComma), p.isComma = false :=
    fun p hp => by simpa using List.mem_takeWhile_imp hp
  obtain ⟨z, hskip, hpreamble⟩ :=
    exists_preamble_spelled hcommas hrest.1 hrest.2.1 hrest.2.2
  rw [← List.append_assoc, ← spelled_append, unread, List.takeWhile_append_dropWhile,
    skip_of_stops (stops_isLayout hseparator)] at hskip
  cases hskip
  refine ⟨_, filterMap_comment?_of_orderly, ?_⟩
  rw [bind_of_done hskipped, caseEntry, bind_of_done hpreamble]
  rfl

/-! ### Entries -/

/-- A case without tags: a name alone, or with a body that is read. -/
inductive Entry where
  | bare (name : String) (hname : IsIdentifier name)
  | braced (name : String) (hname : IsIdentifier name) (layout body : List Char)
      (attributes : List Attribute) (hlayout : Within isLayout layout)
      (hbody : attributeBlock body = .done attributes [])

namespace Entry

def name : Entry → String
  | bare name _ => name
  | braced name _ _ _ _ _ _ => name

def attributes : Entry → List Attribute
  | bare _ _ => []
  | braced _ _ _ _ attributes _ _ => attributes

def text : Entry → List Char
  | bare name _ => name.toList
  | braced name _ layout body _ _ _ => name.toList ++ (layout ++ body)

def toCase (e : Entry) (ps : List Piece) : Case where
  comments := ps.filterMap Piece.comment?
  directives := ∅
  name := e.name
  includes := []
  excludes := []
  attributes := e.attributes
  payload := none

theorem isIdentifier_name (e : Entry) : IsIdentifier e.name := by
  cases e with
  | bare _ hname => exact hname
  | braced _ hname => exact hname

theorem text_ne_nil (e : Entry) : e.text ≠ [] := by
  cases e with
  | bare _ hname => exact hname.toList_ne_nil
  | braced _ hname => exact List.append_ne_nil_of_left_ne_nil hname.toList_ne_nil _

end Entry

structure EntryEnds (t : List Char) : Prop where
  word : Stops isWordChar t
  body : (t.dropWhile isLayout).head? ≠ some '\x7b'
  list : (t.dropWhile isLayout).head? ≠ some '('
  tags : Misses tagGroup t

theorem dropWhile_spelled (ps : List Piece) (hy : Stops isLayout y) :
    (spelled ps ++ y).dropWhile isLayout = y ∨
      ∃ c x, (spelled ps ++ y).dropWhile isLayout = c :: x ∧ (c = ',' ∨ c = '#') := by
  induction ps with
  | nil => exact .inl (dropWhile_within_append (within_nil _) hy)
  | cons p ps ih =>
    cases p with
    | blank c hc => simpa [Piece.text, hc] using ih
    | comma => exact .inr ⟨',', _, rfl, .inl rfl⟩
    | comment line hline => exact .inr ⟨'#', _, rfl, .inr rfl⟩

theorem misses_tagList_name {keyword name : String} (hkeyword : IsIdentifier keyword)
    (hname : IsIdentifier name) (ht : Stops isWordChar t)
    (hnext : (t.dropWhile isLayout).head? ≠ some '(') :
    Misses (tagList keyword) (name.toList ++ t) := by
  by_cases hword : Misses (word keyword) (name.toList ++ t)
  · exact hword.bind _
  · obtain ⟨z, hz⟩ : keyword.toList <+: name.toList ++ t := by simpa [misses_word] using hword
    have hrest : (z.dropWhile isLayout).head? ≠ some '(' := by
      obtain ⟨x, hx, rfl⟩ | ⟨x, hx, rfl⟩ := List.append_eq_append_iff.mp hz
      · cases x with
        | nil => exact hnext
        | cons c x =>
          have hc : isWordChar c := hname.within c (by simp [hx])
          rw [List.cons_append, List.dropWhile_cons_of_neg (by simp [isLayout_eq_false_of_isWordChar hc])]
          rintro ⟨⟩
          exact absurd hc (by decide)
      · cases x with
        | nil => exact hnext
        | cons c x =>
          have hc : isWordChar c := hkeyword.within c (by simp [hx])
          simp [hc] at ht
    rw [← hz]
    refine .after (word_append _ _) (.after rfl ((misses_word.mpr ?_).bind _))
    rintro ⟨u, hu⟩
    exact hrest (by simp [← hu])

theorem exists_brace_of_attributeBlock {as : List Attribute} (h : attributeBlock s = .done as t) :
    ∃ x, s = '\x7b' :: x := by
  obtain ⟨_, x, hword, -⟩ := bind_eq_done.mp h
  exact ⟨x, word_eq_done.mp hword⟩

theorem Entry.exists_text (e : Entry) (ht : EntryEnds t) :
    ∃ z, e.text ++ t = e.name.toList ++ z ∧ Stops isWordChar z ∧
      (z.dropWhile isLayout).head? ≠ some '(' := by
  cases e with
  | bare name hname => exact ⟨t, rfl, ht.word, ht.list⟩
  | braced name hname w body attributes hw hbody =>
    obtain ⟨x, rfl⟩ := exists_brace_of_attributeBlock hbody
    have hbrace : Stops isLayout ('\x7b' :: (x ++ t)) := by simp [isLayout]
    refine ⟨w ++ '\x7b' :: (x ++ t), by simp [Entry.text, Entry.name],
      stops_isWordChar_append hw (by simp [isWordChar]), ?_⟩
    rw [dropWhile_within_append hw hbrace]
    simp

theorem Entry.content (e : Entry) (ht : EntryEnds t) : Content (e.text ++ t) := by
  obtain ⟨z, hz, -, -⟩ := e.exists_text ht
  exact hz ▸ e.isIdentifier_name.content z

theorem stops_isWordChar_spelled (hps : ps ≠ []) (y : List Char) :
    Stops isWordChar (spelled ps ++ y) := by
  obtain ⟨p, ps, rfl⟩ := List.exists_cons_of_ne_nil hps
  cases p with
  | blank c hc => simpa [Piece.text] using isWordChar_eq_false_of_isLayout hc
  | comma => simp [Piece.text, isWordChar]
  | comment line hline => simp [Piece.text, isWordChar]

theorem entryEnds_spelled (hy : Stops isLayout y) (hword : Stops isWordChar (spelled ps ++ y))
    (hbody : y.head? ≠ some '\x7b') (hlist : y.head? ≠ some '(')
    (htags : Misses (orElse (do return (⟨← tagList "includes", []⟩ : TagLists))
      (do return ⟨[], ← tagList "excludes"⟩)) y) : EntryEnds (spelled ps ++ y) := by
  obtain h | ⟨c, x, h, hc⟩ := dropWhile_spelled ps hy
  · exact ⟨hword, by rwa [h], by rwa [h], .after rfl (by rwa [h])⟩
  · have hsign : Stops isWordChar (c :: x) := by rcases hc with rfl | rfl <;> simp [isWordChar]
    refine ⟨hword, ?_, ?_, misses_tagGroup (by rwa [h])⟩ <;>
      rcases hc with rfl | rfl <;> simp [h]

theorem entryEnds_entry (e : Entry) (hps : ps ≠ []) (ht : EntryEnds t) :
    EntryEnds (spelled ps ++ (e.text ++ t)) := by
  obtain ⟨z, hz, hword, hnext⟩ := e.exists_text ht
  have htags : ∀ {keyword : String}, IsIdentifier keyword → Misses (tagList keyword) (e.text ++ t) :=
    fun hkeyword => hz ▸ misses_tagList_name hkeyword e.isIdentifier_name hword hnext
  obtain ⟨c, cs, hcs, hc, -⟩ := e.isIdentifier_name.exists_cons
  have hhead : ∀ d, isWordStart d = false → (e.text ++ t).head? ≠ some d := by
    rintro d hd
    rw [hz, hcs]
    rintro ⟨⟩
    simp [hc] at hd
  exact entryEnds_spelled (e.content ht).layout (stops_isWordChar_spelled hps _) (hhead _ rfl)
    (hhead _ rfl) (misses_orElse.mpr ⟨(htags (by decide)).bind _, (htags (by decide)).bind _⟩)

theorem entryEnds_close (ps : List Piece) (r : List Char) : EntryEnds (spelled ps ++ '\x7d' :: r) := by
  have hsign : Stops isWordChar ('\x7d' :: r) := by simp [isWordChar]
  have hword : Stops isWordChar (spelled ps ++ '\x7d' :: r) := by
    cases ps with
    | nil => exact hsign
    | cons p ps => exact stops_isWordChar_spelled (by simp) _
  exact entryEnds_spelled (content_close r).layout hword (by simp) (by simp)
    (misses_orElse.mpr ⟨(misses_tagList (by decide) hsign).bind _,
      (misses_tagList (by decide) hsign).bind _⟩)

theorem Entry.read (e : Entry) (p : Preamble) (ht : EntryEnds t) :
    orElse (braceCase p) (bareCase p) (e.text ++ t) =
      .done { p with name := e.name, includes := [], excludes := [], attributes := e.attributes,
                     payload := none } t := by
  cases e with
  | bare name hname =>
    have hbrace : Misses (word "\x7b") (t.dropWhile isLayout) := by
      rw [misses_word]
      rintro ⟨x, hx⟩
      exact ht.body (by simp [← hx])
    have hbraced : Misses (braceCase p) (name.toList ++ t) :=
      .after (run_append hname.within ht.word) (.after (tagLists_none ht.tags)
        (.after rfl ((hbrace.bind _).bind _)))
    refine orElse_of_misses hbraced ?_
    rw [Entry.text, bareCase, bind_of_done (identifier_append hname ht.word),
      bind_of_done (tagLists_none ht.tags)]
    rfl
  | braced name hname w body attributes hw hbody =>
    obtain ⟨x, rfl⟩ := exists_brace_of_attributeBlock hbody
    have hbrace : Stops isLayout ('\x7b' :: x ++ t) := by simp [isLayout]
    have hword : Stops isWordChar (w ++ ('\x7b' :: x ++ t)) :=
      stops_isWordChar_append hw (by simp [isWordChar])
    have htags : Misses tagGroup (w ++ ('\x7b' :: x ++ t)) := by
      refine misses_tagGroup ?_
      rw [dropWhile_within_append hw hbrace]
      simp [isWordChar]
    refine orElse_of_done ?_
    rw [Entry.text, List.append_assoc, List.append_assoc, braceCase,
      bind_of_done (run_append hname.within hword), bind_of_done (tagLists_none htags),
      bind_of_done (skip_append hw hbrace), bind_of_done ((endsAtBrace_attributeBlock hbody).2 t), pure_apply,
      String.ofList_toList]
    rfl

/-! ### Blocks -/

theorem caseItem_entry (e : Entry) (hps : Orderly ps) (ht : EntryEnds t) :
    (do caseSeparators; caseEntry) (spelled ps ++ (e.text ++ t)) = .done (e.toCase ps) t := by
  obtain ⟨comments, hcomments, hitem⟩ := caseItem_spelled ps (e.content ht)
  rw [hitem, orderly_iff.mp hps, hcomments hps]
  exact e.read _ ht

theorem misses_caseItem (hps : ¬ Orderly ps) (hy : Content y) :
    Misses (do caseSeparators; caseEntry) (spelled ps ++ y) := by
  obtain ⟨comments, -, hitem⟩ := caseItem_spelled ps hy
  obtain hnil | ⟨qs, hcomma⟩ := unread_eq ps
  · exact absurd (orderly_iff.mpr hnil) hps
  · rw [Misses, hitem, hcomma]
    exact misses_case_sign _ rfl rfl (by decide) _

theorem misses_caseItem_close (ps : List Piece) (r : List Char) :
    Misses (do caseSeparators; caseEntry) (spelled ps ++ '\x7d' :: r) := by
  by_cases hps : Orderly ps
  · obtain ⟨comments, -, hitem⟩ := caseItem_spelled ps (content_close r)
    rw [Misses, hitem, orderly_iff.mp hps]
    exact misses_case_sign _ rfl rfl (by decide) r
  · exact misses_caseItem hps (content_close r)

def blockText (parts : List (List Piece × Entry)) (last : List Piece) : List Char :=
  parts.flatMap (fun part => spelled part.1 ++ part.2.text) ++ (spelled last ++ ['\x7d'])

theorem blockText_cons (part : List Piece × Entry) (parts : List (List Piece × Entry))
    (last : List Piece) :
    blockText (part :: parts) last = spelled part.1 ++ (part.2.text ++ blockText parts last) := by
  simp [blockText]

theorem entryEnds_blockText {parts : List (List Piece × Entry)} (hparts : ∀ part ∈ parts, part.1 ≠ [])
    (last : List Piece) : EntryEnds (blockText parts last) := by
  induction parts with
  | nil => exact entryEnds_close last []
  | cons part parts ih =>
    obtain ⟨hpart, hrest⟩ := List.forall_mem_cons.mp hparts
    rw [blockText_cons]
    exact entryEnds_entry part.2 hpart (ih hrest)

theorem close_ne_done (e : Entry) (ps : List Piece) (ht : EntryEnds t) (u : Unit) (r : List Char) :
    (do commaGap; word "\x7d") (spelled ps ++ (e.text ++ t)) ≠ .done u r := by
  obtain ⟨z, hz, -, -⟩ := e.exists_text ht
  obtain ⟨c, cs, hcs, hc, -⟩ := e.isIdentifier_name.exists_cons
  rw [bind_of_done (commaGap_spelled ps (e.content ht)), hz, hcs]
  intro hclose
  obtain ⟨rfl, -⟩ : c = '\x7d' ∧ cs ++ z = r := by simpa using word_eq_done.mp hclose
  simp [isWordStart] at hc

theorem manyUntil_blockText_eq_done {parts : List (List Piece × Entry)} {last : List Piece}
    {cases : List Case} {r : List Char} (hparts : ∀ part ∈ parts.tail, part.1 ≠ []) :
    manyUntil (do caseSeparators; caseEntry) (do commaGap; word "\x7d") (blockText parts last) =
        .done cases r ↔
      (∀ part ∈ parts, Orderly part.1) ∧ cases = parts.map (fun part => part.2.toCase part.1) ∧
        r = [] := by
  induction parts generalizing cases with
  | nil =>
    have hclose : (do commaGap; word "\x7d") (spelled last ++ ['\x7d']) = .done () [] := by
      rw [bind_of_done (commaGap_spelled last (content_close [])), word_singleton rfl]
    rw [blockText, List.flatMap_nil, List.nil_append,
      manyUntil_of_misses (misses_caseItem_close last []), hclose]
    simp [eq_comm]
  | cons part parts ih =>
    rw [List.tail_cons] at hparts
    have hends := entryEnds_blockText hparts last
    have htail : ∀ part ∈ parts.tail, part.1 ≠ [] :=
      fun part hpart => hparts part (List.mem_of_mem_tail hpart)
    rw [blockText_cons, List.forall_mem_cons]
    by_cases hpart : Orderly part.1
    · have hlt : (blockText parts last).length <
          (spelled part.1 ++ (part.2.text ++ blockText parts last)).length := by
        have hpos := List.length_pos_iff.mpr part.2.text_ne_nil
        simp only [List.length_append]
        omega
      rw [manyUntil_of_done (caseItem_entry part.2 hpart hends) hlt]
      simp only [ih htail, hpart, true_and, List.map_cons]
      constructor
      · rintro ⟨_, rfl, horderly, rfl, rfl⟩
        exact ⟨horderly, rfl, rfl⟩
      · rintro ⟨horderly, rfl, rfl⟩
        exact ⟨_, rfl, horderly, rfl, rfl⟩
    · have hclose : ∀ b, _ ≠ Reading.done b r := fun b => close_ne_done part.2 part.1 hends b r
      rw [manyUntil_of_misses (misses_caseItem hpart (part.2.content hends))]
      simp [hpart, hclose]

/-! ### Declarations -/

def entriesText (name : String) (layout : List Char) (parts : List (List Piece × Entry))
    (last : List Piece) : String :=
  String.ofList (name.toList ++ (layout ++ '\x7b' :: blockText parts last))

/-- Separators are read in any mixture behind the last entry. In front of an entry they are read
unless a comma stands behind a comment, and then the whole declaration is not. -/
theorem parse_entriesText_eq_ok_iff {name : String} (hname : IsIdentifier name) {w : List Char}
    (hw : Within isLayout w) {parts : List (List Piece × Entry)}
    (hparts : ∀ part ∈ parts.tail, part.1 ≠ []) (last : List Piece) (d : Declaration Case) :
    algebraicType.parse (entriesText name w parts last) = .ok d ↔
      (∀ part ∈ parts, Orderly part.1) ∧
        d = { comments := [], directives := ∅, name, includes := [], excludes := [],
              members := parts.map fun part => part.2.toCase part.1 } := by
  have hbrace : Stops isLayout ('\x7b' :: blockText parts last) := by simp [isLayout]
  have hword : Stops isWordChar (w ++ '\x7b' :: blockText parts last) :=
    stops_isWordChar_append hw (by simp [isWordChar])
  have htags : Misses tagGroup (w ++ '\x7b' :: blockText parts last) := by
    refine misses_tagGroup ?_
    rw [dropWhile_within_append hw hbrace]
    simp [isWordChar]
  have hcontent := hname.content (w ++ '\x7b' :: blockText parts last)
  have hgap : gap [] = .done () [] := gap_spelled (List.forall_mem_nil _) ⟨by simp, by simp, by simp⟩
  rw [parse_eq_ok, entriesText, String.toList_ofList, algebraicType, declaration,
    bind_of_done (skip_of_stops hcontent.layout), bind_of_done (preamble_of_content hcontent),
    bind_of_done (identifier_append hname hword), bind_of_done (tagLists_none htags),
    bind_of_done (skip_append hw hbrace)]
  have hblock : ∀ cases r, caseBlock ('\x7b' :: blockText parts last) = .done cases r ↔
      (∀ part ∈ parts, Orderly part.1) ∧ cases = parts.map (fun part => part.2.toCase part.1) ∧
        r = [] := by
    intro cases r
    rw [caseBlock, bind_of_done (word_singleton rfl _), manyUntil_blockText_eq_done hparts]
  constructor
  · rintro ⟨r, hread⟩
    obtain ⟨members, x, hmembers, hrest⟩ := bind_eq_done.mp hread
    obtain ⟨horderly, rfl, rfl⟩ := (hblock _ _).mp hmembers
    rw [bind_of_done hgap, bind_of_done (endOfInput_eq_done (u := ()).mpr ⟨rfl, rfl⟩),
      pure_eq_done] at hrest
    exact ⟨horderly, hrest.1⟩
  · rintro ⟨horderly, rfl⟩
    refine ⟨[], ?_⟩
    rw [bind_of_done ((hblock _ _).mpr ⟨horderly, rfl, rfl⟩), bind_of_done hgap,
      bind_of_done (endOfInput_eq_done (u := ()).mpr ⟨rfl, rfl⟩), pure_apply]
    rfl

def space : Piece := .blank ' ' rfl

def boxBody : List Char := "\x7b BOOL full; \x7d".toList

theorem exists_boxBody : ∃ attributes, attributeBlock boxBody = .done attributes [] ∧
    attributes.map (·.name) = ["full"] := by
  have hview : (attributeBlock boxBody).map (·.map (·.name)) = .done ["full"] [] := by
    decide +kernel
  cases hread : attributeBlock boxBody with
  | done attributes rest =>
    obtain ⟨hnames, rfl⟩ : attributes.map (·.name) = ["full"] ∧ rest = [] := by
      simpa [hread, Reading.map] using hview
    exact ⟨attributes, rfl, hnames⟩
  | miss why => simp [hread, Reading.map] at hview
  | halt why => simp [hread, Reading.map] at hview

def boxParts (attributes : List Attribute) (hbody : attributeBlock boxBody = .done attributes []) :
    List (List Piece × Entry) :=
  [([space, .comma], .bare "Dot" (by decide)),
    ([.comma, .comment " round".toList (by decide), space],
      .braced "Box" (by decide) [' '] boxBody attributes (by decide) hbody)]

def boxLast : List Piece := [.comment [] (by decide), .comma]

theorem parse_entriesText_boxParts : ∃ attributes hbody d,
    entriesText "Shape" [' '] (boxParts attributes hbody) boxLast =
      "Shape \x7b ,Dot,# round\n Box \x7b BOOL full; \x7d#\n,\x7d" ∧
    algebraicType.parse (entriesText "Shape" [' '] (boxParts attributes hbody) boxLast) = .ok d ∧
    d.members.map (·.name) = ["Dot", "Box"] ∧ attributes.map (·.name) = ["full"] ∧
    d.members.map (·.attributes) = [[], attributes] := by
  obtain ⟨attributes, hbody, hnames⟩ := exists_boxBody
  have hname : IsIdentifier "Shape" := by decide
  have hblank : Within isLayout [' '] := by decide
  have hparts : ∀ part ∈ (boxParts attributes hbody).tail, part.1 ≠ [] := by simp [boxParts]
  have horderly : ∀ part ∈ boxParts attributes hbody, Orderly part.1 := by
    simp only [boxParts, List.forall_mem_cons]
    exact ⟨by decide, by decide, by simp⟩
  have hparse := (parse_entriesText_eq_ok_iff hname hblank hparts boxLast _).mpr ⟨horderly, rfl⟩
  have htext : entriesText "Shape" [' '] (boxParts attributes hbody) boxLast =
      "Shape \x7b ,Dot,# round\n Box \x7b BOOL full; \x7d#\n,\x7d" := by
    simp only [entriesText, blockText, boxParts, List.flatMap_cons, List.flatMap_nil, Entry.text]
    decide +kernel
  exact ⟨attributes, hbody, _, htext, hparse, rfl, hnames, rfl⟩

theorem not_parse_comma_behind_comment :
    entriesText "Shape" [' '] [([space], .bare "Dot" (by decide)),
        ([space, .comment " round".toList (by decide), .comma, space], .bare "Box" (by decide))] [space] =
      "Shape \x7b Dot # round\n, Box \x7d" ∧
    ¬ ∃ d, algebraicType.parse "Shape \x7b Dot # round\n, Box \x7d" = .ok d := by
  refine ⟨by decide +kernel, ?_⟩
  rintro ⟨d, hd⟩
  have hnone : (algebraicType.parse "Shape \x7b Dot # round\n, Box \x7d").toOption.isNone = true := by
    decide +kernel
  simp [hd, Except.toOption] at hnone

end ValueTypes.Source
