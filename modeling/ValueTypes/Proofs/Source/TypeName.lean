import ValueTypes.Proofs.Source.Words
import ValueTypes.Source.TypeExpr

/-! Names of types. A name is an identifier or a scalar name of several words, and the longest name
that stands in the text is read. -/

namespace ValueTypes.Source

open ValueTypes.Parser

variable {s t r : List Char}

inductive Spaced : List String → List Char → Prop where
  | one {w : String} : Spaced [w] w.toList
  | more {w : String} {ws : List String} {b u : List Char} (hb : Within isInlineBlank b)
      (hne : b ≠ []) (h : Spaced ws u) : Spaced (w :: ws) (w.toList ++ b ++ u)

/-- The texts of a type name: a scalar name may have any spaces and tabs between its words. -/
inductive NameText : String → List Char → Prop where
  | identifier {name : String} (h : IsIdentifier name) : NameText name name.toList
  | scalar {words : List String} {u : List Char} (h : words ∈ scalarPhrases)
      (hu : Spaced words u) : NameText (String.intercalate " " words) u

def NextWord (w : String) (r : List Char) : Prop :=
  ∃ b t, r = b ++ w.toList ++ t ∧ Within isInlineBlank b ∧ b ≠ [] ∧ IsIdentifier w ∧
    Stops isWordChar t

def NameEnds (name : String) (r : List Char) : Prop :=
  Stops isWordChar r ∧
    ∀ w, NextWord w r → name ++ " " ++ w ∉ scalarPhrases.map (String.intercalate " ")

theorem not_nextWord {w : String} (h : Stops isWordStart (r.dropWhile isInlineBlank)) :
    ¬ NextWord w r := by
  rintro ⟨b, t, rfl, hb, -, hw, -⟩
  have hstops := stops_isInlineBlank (hw.stops_layout t)
  obtain ⟨c, cs, hcs, hc, -⟩ := hw.exists_cons
  rw [List.append_assoc, dropWhile_within_append hb hstops, hcs] at h
  simp [hc] at h

/-! ### Words with blanks between them -/

theorem Spaced.exists_cons {ws : List String} {u : List Char} (h : Spaced ws u)
    (hids : ∀ w ∈ ws, IsIdentifier w) (t : List Char) :
    ∃ w ws' t', ws = w :: ws' ∧ u ++ t = w.toList ++ t' ∧ IsIdentifier w := by
  cases h with
  | one => exact ⟨_, _, t, rfl, rfl, hids _ (by simp)⟩
  | @more w ws b u hb hne h =>
    exact ⟨w, ws, b ++ (u ++ t), rfl, by simp, hids w (by simp)⟩

theorem Spaced.stops_layout {ws : List String} {u : List Char} (h : Spaced ws u)
    (hids : ∀ w ∈ ws, IsIdentifier w) (t : List Char) : Stops isLayout (u ++ t) := by
  obtain ⟨w, ws', t', -, hu, hw⟩ := h.exists_cons hids t
  rw [hu]
  exact hw.stops_layout t'

theorem spaced_intercalate {ws : List String} (hne : ws ≠ []) :
    Spaced ws (String.intercalate " " ws).toList := by
  induction ws with
  | nil => exact absurd rfl hne
  | cons w ws ih =>
    cases ws with
    | nil => simpa using Spaced.one
    | cons w' ws =>
      rw [String.intercalate_cons_cons, String.toList_append, String.toList_append]
      exact .more within_space (by simp) (ih (by simp))

theorem Spaced.append_word {ws : List String} {w : String} {u b : List Char} (h : Spaced ws u)
    (hb : Within isInlineBlank b) (hne : b ≠ []) : Spaced (ws ++ [w]) (u ++ b ++ w.toList) := by
  induction h with
  | one => exact .more hb hne .one
  | @more v ws b' u hb' hne' h ih =>
    have hmore : Spaced (v :: (ws ++ [w])) (v.toList ++ b' ++ (u ++ b ++ w.toList)) :=
      .more hb' hne' ih
    simpa using hmore

theorem stops_isWordChar_blank {b : List Char} (hb : Within isInlineBlank b) (hne : b ≠ [])
    (t : List Char) : Stops isWordChar (b ++ t) := by
  cases b with
  | nil => exact absurd rfl hne
  | cons c b =>
    have hc := isLayout_of_isInlineBlank (within_cons.mp hb).1
    rw [List.cons_append, stops_cons]
    by_contra hword
    simp [isLayout_eq_false_of_isWordChar (by simpa using hword)] at hc

theorem phrase_cons_eq_done {w : String} {ws : List String} :
    phrase (w :: ws) s = .done () r ↔ ∃ t, identifier s = .done w t ∧
      ((ws = [] ∧ t = r) ∨
        ws ≠ [] ∧ ∃ t', skipSome isInlineBlank t = .done () t' ∧ phrase ws t' = .done () r) := by
  cases ws with
  | nil =>
    simp only [phrase, bind_eq_done, ensuring_eq_done, pure_eq_done, beq_iff_eq]
    grind
  | cons w' ws =>
    rw [phrase.eq_3 _ _ (by simp)]
    simp only [bind_eq_done, ensuring_eq_done, beq_iff_eq]
    grind

theorem phrase_append {ws : List String} {u : List Char} (h : Spaced ws u)
    (hids : ∀ w ∈ ws, IsIdentifier w) (hr : Stops isWordChar r) :
    phrase ws (u ++ r) = .done () r := by
  induction h with
  | one => exact phrase_cons_eq_done.mpr ⟨r, identifier_append (hids _ (by simp)) hr, .inl ⟨rfl, rfl⟩⟩
  | @more w ws b u hb hne h ih =>
    obtain ⟨hw, hws⟩ := List.forall_mem_cons.mp hids
    have hblank := skipSome_append hb hne (stops_isInlineBlank (h.stops_layout hws r))
    have hne' : ws ≠ [] := by
      rintro rfl
      cases h
    rw [List.append_assoc, List.append_assoc, phrase_cons_eq_done]
    exact ⟨_, identifier_append hw (stops_isWordChar_blank hb hne (u ++ r)),
      .inr ⟨hne', u ++ r, hblank, ih hws⟩⟩

theorem spaced_of_phrase {w : String} {ws : List String} (h : phrase (w :: ws) s = .done () r) :
    ∃ u, s = u ++ r ∧ Spaced (w :: ws) u ∧ (∀ v ∈ w :: ws, IsIdentifier v) ∧ Stops isWordChar r := by
  induction ws generalizing w s with
  | nil =>
    obtain ⟨t, hid, ⟨-, rfl⟩ | ⟨hne, -⟩⟩ := phrase_cons_eq_done.mp h
    · obtain ⟨hw, rfl, hr⟩ := identifier_eq_done.mp hid
      exact ⟨_, rfl, .one, by simpa using hw, hr⟩
    · exact absurd rfl hne
  | cons w' ws ih =>
    obtain ⟨t, hid, ⟨hnil, -⟩ | ⟨-, t', hblank, hphrase⟩⟩ := phrase_cons_eq_done.mp h
    · cases hnil
    · obtain ⟨hw, rfl, -⟩ := identifier_eq_done.mp hid
      obtain ⟨b, rfl, hne, hb, -⟩ := skipSome_eq_done.mp hblank
      obtain ⟨u, rfl, hu, hws, hr⟩ := ih hphrase
      exact ⟨_, by simp, .more hb hne hu, List.forall_mem_cons.mpr ⟨hw, hws⟩, hr⟩

theorem tentative_phrase (ws : List String) : Tentative (phrase ws) := by
  fun_induction phrase ws with
  | case1 => exact tentative_pure ()
  | case2 w => exact tentative_identifier.ensuring.bind fun _ => tentative_pure ()
  | case3 w ws hne ih =>
    exact tentative_identifier.ensuring.bind fun _ => (tentative_skipSome _).bind fun _ => ih

theorem phrase_comparable {ws q : List String} {u : List Char} (h : Spaced ws u)
    (hids : ∀ w ∈ ws, IsIdentifier w) (hr : Stops isWordChar r)
    (hphrase : phrase q (u ++ r) = .done () t) (hq : q ≠ []) :
    q <+: ws ∨ ∃ w rest, q = ws ++ w :: rest ∧ NextWord w r := by
  induction h generalizing q with
  | @one w =>
    obtain ⟨q₀, qs, rfl⟩ := List.exists_cons_of_ne_nil hq
    obtain ⟨r', hid, hqs⟩ := phrase_cons_eq_done.mp hphrase
    rw [identifier_append (hids w (by simp)) hr] at hid
    cases hid
    obtain ⟨rfl, -⟩ | ⟨hne, t', hblank, hphrase⟩ := hqs
    · exact .inl List.prefix_rfl
    -- Words of `q` are left, so the next one stands behind the text of `ws`.
    · obtain ⟨q₁, qs, rfl⟩ := List.exists_cons_of_ne_nil hne
      obtain ⟨t'', hid, -⟩ := phrase_cons_eq_done.mp hphrase
      obtain ⟨hq₁, rfl, ht''⟩ := identifier_eq_done.mp hid
      obtain ⟨b, rfl, hb, hne, -⟩ := skipSome_eq_done.mp hblank
      exact .inr ⟨q₁, qs, rfl, b, t'', by simp, hne, hb, hq₁, ht''⟩
  | @more w ws b u hb hne h ih =>
    obtain ⟨hw, hws⟩ := List.forall_mem_cons.mp hids
    obtain ⟨q₀, qs, rfl⟩ := List.exists_cons_of_ne_nil hq
    obtain ⟨r', hid, hqs⟩ := phrase_cons_eq_done.mp hphrase
    rw [List.append_assoc, List.append_assoc,
      identifier_append hw (stops_isWordChar_blank hb hne (u ++ r))] at hid
    cases hid
    obtain ⟨rfl, -⟩ | ⟨hne', t', hblank, hphrase⟩ := hqs
    · exact .inl (by simp)
    · rw [skipSome_append hb hne (stops_isInlineBlank (h.stops_layout hws r))] at hblank
      cases hblank
      obtain hpre | ⟨v, rest, rfl, hnext⟩ := ih hws hphrase hne'
      · exact .inl (List.cons_prefix_cons.mpr ⟨rfl, hpre⟩)
      · exact .inr ⟨v, rest, rfl, hnext⟩

theorem Spaced.unique {ws ws' : List String} {u : List Char} (h : Spaced ws u) (h' : Spaced ws' u)
    (hids : ∀ w ∈ ws, IsIdentifier w) (hids' : ∀ w ∈ ws', IsIdentifier w) : ws = ws' := by
  have hinit : ∀ {ws ws' : List String}, Spaced ws u → Spaced ws' u →
      (∀ w ∈ ws, IsIdentifier w) → (∀ w ∈ ws', IsIdentifier w) → ws' <+: ws := by
    intro ws ws' h h' hids hids'
    have hphrase := phrase_append h' hids' (stops_nil isWordChar)
    have hne : ws' ≠ [] := by
      rintro rfl
      cases h'
    obtain hpre | ⟨w, rest, -, hnext⟩ := phrase_comparable h hids (stops_nil _) hphrase hne
    · exact hpre
    · exact absurd hnext (not_nextWord (by simp))
  exact (hinit h' h hids' hids).eq_of_length_le (hinit h h' hids hids').length_le

/-! ### The scalar names -/

theorem isIdentifier_of_mem_scalarPhrases :
    ∀ ws ∈ scalarPhrases, ∀ w ∈ ws, IsIdentifier w := by decide

theorem two_le_length_of_mem_scalarPhrases : ∀ ws ∈ scalarPhrases, 2 ≤ ws.length := by decide

theorem scalarPhrases_pairwise : scalarPhrases.Pairwise fun q ws => ¬ q <+: ws := by decide

theorem take_mem_scalarPhrases :
    ∀ ws ∈ scalarPhrases, ∀ k < ws.length, 2 ≤ k → ws.take k ∈ scalarPhrases := by decide

theorem append_mem_scalarPhrases {ws rest : List String} {w : String} (hne : ws ≠ [])
    (h : ws ++ w :: rest ∈ scalarPhrases) : ws ++ [w] ∈ scalarPhrases := by
  cases rest with
  | nil => exact h
  | cons v rest =>
    have hpos := List.length_pos_iff.mpr hne
    have htake := take_mem_scalarPhrases _ h (ws.length + 1) (by simp) (by omega)
    rwa [List.take_length_add_append, List.take_succ_cons, List.take_zero] at htake

theorem NameText.exists_words {name : String} {u : List Char} (h : NameText name u) :
    ∃ ws, Spaced ws u ∧ name = String.intercalate " " ws ∧ (∀ w ∈ ws, IsIdentifier w) ∧
      (ws = [name] ∨ ws ∈ scalarPhrases) := by
  cases h with
  | identifier h => exact ⟨[name], .one, by simp, by simpa using h, .inl rfl⟩
  | @scalar words u h hu =>
    exact ⟨words, hu, rfl, isIdentifier_of_mem_scalarPhrases words h, .inr h⟩

theorem NameText.stops_layout {name : String} {u : List Char} (h : NameText name u)
    (t : List Char) : Stops isLayout (u ++ t) := by
  obtain ⟨ws, hu, -, hids, -⟩ := h.exists_words
  exact hu.stops_layout hids t

theorem intercalate_append_word {ws : List String} (hne : ws ≠ []) (w : String) :
    String.intercalate " " (ws ++ [w]) = String.intercalate " " ws ++ " " ++ w := by
  rw [String.intercalate_append_of_ne_nil hne (by simp), String.intercalate_singleton]

theorem NameEnds.not_longer {ws q : List String} {w : String} {rest : List String}
    (h : NameEnds (String.intercalate " " ws) r) (hne : ws ≠ []) (hq : q ∈ scalarPhrases)
    (heq : q = ws ++ w :: rest) : ¬ NextWord w r := by
  intro hnext
  refine h.2 w hnext (List.mem_map.mpr ⟨ws ++ [w], ?_, intercalate_append_word hne w⟩)
  exact append_mem_scalarPhrases hne (heq ▸ hq)

theorem scalarName_eq_done {words : List String} {name : String} :
    scalarName words s = .done name r ↔
      phrase words s = .done () r ∧ name = String.intercalate " " words := by
  simp only [scalarName, bind_eq_done, expecting_eq_done, pure_eq_done]
  grind

theorem tentative_scalarName (words : List String) : Tentative (scalarName words) :=
  (tentative_phrase words).expecting.bind fun _ => tentative_pure _

theorem firstPhrase_eq_done {phrases : List (List String)} {other : Parser String} {name : String} :
    phrases.foldr (fun words others => orElse (scalarName words) others) other s = .done name r ↔
      (∃ before words after, phrases = before ++ words :: after ∧
        (∀ q ∈ before, Misses (scalarName q) s) ∧ scalarName words s = .done name r) ∨
      ((∀ q ∈ phrases, Misses (scalarName q) s) ∧ other s = .done name r) := by
  induction phrases with
  | nil => simp
  | cons words phrases ih =>
    rw [List.foldr_cons, orElse_eq_done, ih]
    constructor
    · rintro (h | ⟨hmiss, ⟨before, q, after, rfl, hbefore, hq⟩ | ⟨hall, hother⟩⟩)
      · exact .inl ⟨[], words, phrases, rfl, by simp, h⟩
      · exact .inl ⟨words :: before, q, after, rfl,
          List.forall_mem_cons.mpr ⟨hmiss, hbefore⟩, hq⟩
      · exact .inr ⟨List.forall_mem_cons.mpr ⟨hmiss, hall⟩, hother⟩
    · rintro (⟨before, q, after, heq, hbefore, hq⟩ | ⟨hall, hother⟩)
      · cases before with
        | nil =>
          cases heq
          exact .inl hq
        | cons q' before =>
          cases heq
          obtain ⟨hmiss, hbefore⟩ := List.forall_mem_cons.mp hbefore
          exact .inr ⟨hmiss, .inl ⟨before, q, after, rfl, hbefore, hq⟩⟩
      · obtain ⟨hmiss, hall⟩ := List.forall_mem_cons.mp hall
        exact .inr ⟨hmiss, .inr ⟨hall, hother⟩⟩

theorem misses_scalarName {ws q : List String} {u : List Char} (h : Spaced ws u)
    (hids : ∀ w ∈ ws, IsIdentifier w) (hr : NameEnds (String.intercalate " " ws) r)
    (hq : q ∈ scalarPhrases) (hnot : ¬ q <+: ws) : Misses (scalarName q) (u ++ r) := by
  refine (tentative_scalarName q).misses fun name t hdone => ?_
  have hphrase := (scalarName_eq_done.mp hdone).1
  have hqne : q ≠ [] := by
    rintro rfl
    exact hnot List.nil_prefix
  have hne : ws ≠ [] := by
    rintro rfl
    cases h
  obtain hpre | ⟨w, rest, heq, hnext⟩ := phrase_comparable h hids hr.1 hphrase hqne
  · exact hnot hpre
  · exact hr.not_longer hne hq heq hnext

theorem typeName_append {name : String} {u : List Char} (h : NameText name u)
    (hr : NameEnds name r) : typeName (u ++ r) = .done name r := by
  rw [typeName, firstPhrase_eq_done]
  cases h with
  | identifier h =>
    refine .inr ⟨fun q hq => ?_, identifier_append h hr.1⟩
    have hlong := two_le_length_of_mem_scalarPhrases q hq
    refine misses_scalarName .one (by simpa using h) (by simpa using hr) hq fun hpre => ?_
    have hle := hpre.length_le
    simp only [List.length_cons, List.length_nil] at hle
    omega
  | @scalar words u h hu =>
    have hids := isIdentifier_of_mem_scalarPhrases words h
    obtain ⟨before, after, heq⟩ := List.append_of_mem h
    have hpairs := scalarPhrases_pairwise
    rw [heq, List.pairwise_append] at hpairs
    refine .inl ⟨before, words, after, heq, fun q hq => ?_,
      scalarName_eq_done.mpr ⟨phrase_append hu hids hr.1, rfl⟩⟩
    exact misses_scalarName hu hids hr (heq ▸ List.mem_append_left _ hq)
      (hpairs.2.2 q hq words List.mem_cons_self)

theorem tentative_typeName : Tentative typeName :=
  List.foldrRecOn scalarPhrases _ tentative_identifier fun _ hothers words _ =>
    (tentative_scalarName words).orElse hothers

/-- A name that was read is not continued by the text behind it: otherwise the longer scalar name
would have been read, since it comes first. -/
theorem nameEnds_of_misses {ws : List String} {u : List Char} (h : Spaced ws u)
    (hids : ∀ w ∈ ws, IsIdentifier w) (hr : Stops isWordChar r)
    (hmiss : ∀ w, ws ++ [w] ∈ scalarPhrases → Misses (scalarName (ws ++ [w])) (u ++ r)) :
    NameEnds (String.intercalate " " ws) r := by
  refine ⟨hr, fun w hnext hmem => ?_⟩
  obtain ⟨q, hq, heq⟩ := List.mem_map.mp hmem
  obtain ⟨b, t, rfl, hb, hne, hw, ht⟩ := hnext
  have hws : ws ≠ [] := by
    rintro rfl
    cases h
  have hqids := isIdentifier_of_mem_scalarPhrases q hq
  have hids' : ∀ v ∈ ws ++ [w], IsIdentifier v := by
    simpa [or_imp, forall_and] using ⟨hids, hw⟩
  have hqne : q ≠ [] := by
    rintro rfl
    exact absurd (two_le_length_of_mem_scalarPhrases [] hq) (by simp)
  have hq_eq : q = ws ++ [w] := by
    have hspaced := spaced_intercalate hqne
    rw [heq, ← intercalate_append_word hws] at hspaced
    exact hspaced.unique (spaced_intercalate (by simp)) hqids hids'
  subst hq_eq
  have hphrase := phrase_append (h.append_word hb hne) hids' ht
  rw [List.append_assoc, List.append_assoc, ← List.append_assoc b] at hphrase
  exact (hmiss w hq).ne_done _ t (scalarName_eq_done.mpr ⟨hphrase, rfl⟩)

theorem typeName_eq_done {name : String} :
    typeName s = .done name r ↔ ∃ u, s = u ++ r ∧ NameText name u ∧ NameEnds name r := by
  constructor
  · intro h
    rw [typeName, firstPhrase_eq_done] at h
    obtain ⟨before, words, after, heq, hbefore, hdone⟩ | ⟨hall, hid⟩ := h
    · obtain ⟨hphrase, rfl⟩ := scalarName_eq_done.mp hdone
      have hmem : words ∈ scalarPhrases := heq ▸ List.mem_append_right _ List.mem_cons_self
      obtain ⟨w, ws, rfl⟩ := List.exists_cons_of_ne_nil (l := words) (by
        rintro rfl
        exact absurd (two_le_length_of_mem_scalarPhrases [] hmem) (by simp))
      obtain ⟨u, rfl, hu, hids, hr⟩ := spaced_of_phrase hphrase
      refine ⟨u, rfl, .scalar hmem hu, nameEnds_of_misses hu hids hr fun v hv => hbefore _ ?_⟩
      have hpairs := scalarPhrases_pairwise
      rw [heq, List.pairwise_append, List.pairwise_cons] at hpairs
      rw [heq, List.mem_append, List.mem_cons] at hv
      obtain hv | hv | hv := hv
      · exact hv
      · simp at hv
      · exact absurd (List.prefix_append _ _) (hpairs.2.1.1 _ hv)
    · obtain ⟨hname, rfl, hr⟩ := identifier_eq_done.mp hid
      refine ⟨name.toList, rfl, .identifier hname, ?_⟩
      have hends := nameEnds_of_misses .one (by simpa using hname) hr fun w hw => hall _ hw
      simpa using hends
  · rintro ⟨u, rfl, hu, hr⟩
    exact typeName_append hu hr

theorem misses_typeName (h : Stops isWordStart s) : Misses typeName s := by
  refine tentative_typeName.misses fun name r hdone => ?_
  obtain ⟨u, rfl, hname, -⟩ := typeName_eq_done.mp hdone
  obtain ⟨ws, hspaced, -, hids, -⟩ := hname.exists_words
  obtain ⟨w, -, t, -, htext, hw⟩ := hspaced.exists_cons hids r
  obtain ⟨c, cs, hcs, hc, -⟩ := hw.exists_cons
  simp [htext, hcs, hc] at h

end ValueTypes.Source
