import ValueTypes.Proofs.Source.Preamble
import ValueTypes.Proofs.Source.TypeText

/-! Written types and attributes are read back, in front of any text. -/

namespace ValueTypes.Source

open ValueTypes.Parser

variable {s r : List Char}

/-! ### Types -/

theorem commaSeparated_intercalate {α : Type} {item : α → List Char → Prop} (text : α → String)
    {as : List α} (hne : as ≠ []) (h : ∀ a ∈ as, item a (text a).toList) :
    CommaSeparated item as (String.intercalate ", " (as.map text)).toList := by
  induction as with
  | nil => exact absurd rfl hne
  | cons a as ih =>
    obtain ⟨ha, has⟩ := List.forall_mem_cons.mp h
    cases as with
    | nil => simpa using CommaSeparated.one ha
    | cons b bs =>
      have hmore := CommaSeparated.more ha (within_nil _) (Within.layout within_space) (ih (by simp) has)
      simpa [String.intercalate_cons_cons] using hmore

theorem TypeExpr.writeAll_eq_map (types : List TypeExpr) :
    TypeExpr.writeAll types = types.map TypeExpr.write := by
  induction types with
  | nil => rw [TypeExpr.writeAll, List.map_nil]
  | cons t ts ih => rw [TypeExpr.writeAll, ih, List.map_cons]

theorem TypeExpr.write_eq (t : TypeExpr) :
    t.write = t.name ++ writeBrackets t.protocol (t.generics.map TypeExpr.write) ++
      writeUnderlying t.underlying ++ if t.reference.toList.getLast? = some '*' then "*" else "" := by
  cases t with
  | mk => rw [TypeExpr.write, TypeExpr.writeAll_eq_map]

theorem NameText.self {name : String} {u : List Char} (h : NameText name u) :
    NameText name name.toList := by
  cases h with
  | identifier h => exact .identifier h
  | scalar h hu =>
    refine .scalar h (spaced_intercalate ?_)
    rintro rfl
    exact absurd h (by decide)

theorem NameText.star_notMem {name : String} {u : List Char} (h : NameText name u) :
    '*' ∉ name.toList := by
  cases h with
  | identifier h => exact fun hmem => absurd (h.within _ hmem) (by decide)
  | scalar h hu =>
    have hphrases : ∀ words ∈ scalarPhrases, '*' ∉ (String.intercalate " " words).toList := by
      decide
    exact hphrases _ h

theorem getLast?_reference {name brackets : String} {star : Bool} {protocol : Option String}
    {types : List TypeExpr} {n a : List Char} (hname : NameText name n)
    (hbrackets : BracketText TypeText protocol types brackets a) :
    (name ++ brackets ++ if star then "*" else "").toList.getLast? = some '*' ↔ star = true := by
  cases star with
  | true => simp
  | false =>
    have hlast : name.toList.getLast? ≠ some '*' := fun h =>
      hname.star_notMem (List.mem_of_getLast? h)
    cases hbrackets with
    | none => simp [hlast]
    | generics | protocol =>
      simp only [String.toList_append, List.getLast?_append]
      simp

theorem underlyingText_write {o : Option String} {u : List Char} (h : UnderlyingText o u) :
    UnderlyingText o (writeUnderlying o).toList := by
  cases h with
  | none => exact .none
  | some hb hw hname hw' =>
    simpa [writeUnderlying] using UnderlyingText.some (within_nil _) (within_nil _) hname (within_nil _)

theorem bracketText_respelled {protocol : Option String} {types : List TypeExpr} {brackets : String}
    {a : List Char} (h : BracketText TypeText protocol types brackets a) (change : TypeExpr → TypeExpr)
    (text : TypeExpr → String) (hreference : ∀ t, (change t).reference = t.reference)
    (hpointer : ∀ t, (change t).isPointer = t.isPointer)
    (htypes : ∀ t u, u.length < a.length → TypeText t u → TypeText (change t) (text t).toList) :
    BracketText TypeText protocol (types.map change) brackets
      (writeBrackets protocol (types.map text)).toList := by
  cases h with
  | none => exact .none
  | @generics _ b w v w' hb hw hlist hpointers hw' =>
    have hspelled : ∀ t ∈ types, TypeText (change t) (text t).toList := by
      have himp : CommaSeparated (fun t _ => TypeText (change t) (text t).toList) types v :=
        hlist.imp fun t _ u hu hut => htypes t u (by simp; omega) hut
      exact himp.forall_mem fun t u h => h
    have hpointers' : ∀ t ∈ types.map change, t.isPointer := by
      simpa [hpointer] using hpointers
    cases types with
    | nil => cases hlist
    | cons t ts =>
      have hlist' := (commaSeparated_intercalate text (List.cons_ne_nil t ts) hspelled).map change
      simpa [writeBrackets, Function.comp_def, hreference] using
        BracketText.generics (within_nil _) (within_nil _) hlist' hpointers' (within_nil _)
  | protocol hb hw hname hid hw' =>
    simpa [writeBrackets] using
      BracketText.protocol (within_nil _) (within_nil _) hname hid (within_nil _)

theorem TypeText.write {t : TypeExpr} {u : List Char} (h : TypeText t u) :
    TypeText t t.write.toList := by
  -- The texts of the generic arguments stand inside the brackets, so they are shorter.
  induction hn : u.length using Nat.strong_induction_on generalizing t u with
  | _ n ih =>
    subst hn
    cases h with
    | @intro _ brackets star n a u e hname hbrackets hunderlying hstar hreference hpointer =>
      have hstar' : StarText star
          (if t.reference.toList.getLast? = some '*' then "*" else "").toList := by
        simp only [hreference, getLast?_reference hname hbrackets]
        cases star with
        | true => exact .some (within_nil _)
        | false => exact .none
      have hbrackets' := bracketText_respelled hbrackets id TypeExpr.write (fun _ => rfl) (fun _ => rfl)
        fun t' u' hlt h => ih _ (by simp; omega) h rfl
      rw [List.map_id] at hbrackets'
      rw [TypeExpr.write_eq, String.toList_append, String.toList_append, String.toList_append]
      exact .intro hname.self hbrackets' (underlyingText_write hunderlying) hstar' hreference hpointer

/-! ### Attributes -/

structure Attribute.Readable (a : Attribute) : Prop where
  preamble : Preamble.Readable ⟨a.comments, a.directives⟩
  name : IsIdentifier a.name
  type : ∃ u, TypeText a.type u
  /-- The name of a bare type does not run into the name of the attribute. -/
  apart : a.type.reference = a.type.name → a.type.underlying = none →
    a.type.name ++ " " ++ a.name ∉ scalarPhrases.map (String.intercalate " ")

theorem attributeEntry_eq_done {a : Attribute} :
    attributeEntry s = .done a r ↔ ∃ t t' t'' o, preamble s = .done ⟨a.comments, a.directives⟩ t ∧
      typeExpr t = .done a.type t' ∧ inline identifier t' = .done a.name t'' ∧
      optional (inline (word ";")) t'' = .done o r := by
  simp only [attributeEntry, bind_eq_done, commit_eq_done, pure_eq_done]
  constructor
  · rintro ⟨⟨comments, directives⟩, t, hpreamble, type, t', htype, name, t'', hname, o, _, hend, rfl,
      rfl⟩
    exact ⟨t, t', t'', o, hpreamble, htype, hname, hend⟩
  · rintro ⟨t, t', t'', o, hpreamble, htype, hname, hend⟩
    exact ⟨_, t, hpreamble, _, t', htype, _, t'', hname, o, r, hend, rfl, rfl⟩

theorem readable_of_attributeEntry {a : Attribute} (h : attributeEntry s = .done a r) :
    a.Readable := by
  obtain ⟨t, t', t'', o, hpreamble, htype, hinline, -⟩ := attributeEntry_eq_done.mp h
  obtain ⟨u, -, htext, hends⟩ := typeText_of_typeExpr htype
  obtain ⟨b, x, rfl, hb, -, hread⟩ := inline_eq_done.mp hinline
  obtain ⟨hname, rfl, hx⟩ := identifier_eq_done.mp hread
  refine ⟨readable_of_preamble hpreamble, hname, ⟨u, htext⟩, fun hreference hunderlying => ?_⟩
  obtain ⟨hword, hphrase⟩ := hends hreference hunderlying
  refine hphrase a.name ⟨b, t'', by simp, hb, ?_, hname, hx⟩
  -- Without a blank the attribute's name would be a part of the type's.
  rintro rfl
  obtain ⟨c, cs, hcs, hc, -⟩ := hname.exists_cons
  simp [hcs, isWordChar_of_isWordStart hc] at hword

theorem eq_of_nextWord {name w : String} {b : List Char} (h : NextWord w (b ++ (name.toList ++ r)))
    (hb : Within isInlineBlank b) (hname : IsIdentifier name) (hr : Stops isWordChar r) : w = name := by
  obtain ⟨b', t, hsplit, hb', -, hw, ht⟩ := h
  rw [List.append_assoc] at hsplit
  have hdrop : name.toList ++ r = w.toList ++ t := by
    rw [← dropWhile_within_append hb (stops_isInlineBlank (hname.stops_layout r)),
      ← dropWhile_within_append hb' (stops_isInlineBlank (hw.stops_layout t)), ← hsplit]
  rw [← String.toList_inj, ← takeWhile_within_append hw.within ht, ← hdrop,
    takeWhile_within_append hname.within hr]

theorem Attribute.Readable.typeEnds {a : Attribute} (h : a.Readable) {b : List Char}
    (hb : Within isInlineBlank b) (hr : Stops isWordChar r)
    (htouch : a.type.reference = a.type.name → a.type.underlying = none → b ≠ []) :
    TypeEnds a.type (b ++ (a.name.toList ++ r)) := by
  have hnext : ∀ c, isWordChar c = false → NextIsNot c (b ++ (a.name.toList ++ r)) := by
    intro c hc
    obtain ⟨d, ds, hname, hd, -⟩ := h.name.exists_cons
    have hword := isWordChar_of_isWordStart hd
    have hblank : Stops isInlineBlank (d :: (ds ++ r)) :=
      stops_isInlineBlank (by simpa using isLayout_eq_false_of_isWordChar hword)
    rw [hname, List.cons_append, nextIsNot_append hb, nextIsNot_cons (by simpa using hblank)]
    rintro rfl
    simp [hword] at hc
  refine ⟨fun hreference hunderlying => ⟨?_, fun w hw => ?_⟩, hnext _ rfl, hnext _ rfl, hnext _ rfl⟩
  · obtain ⟨c, b, rfl⟩ := List.exists_cons_of_ne_nil (htouch hreference hunderlying)
    have hc := isLayout_of_isInlineBlank (within_cons.mp hb).1
    simpa using isWordChar_eq_false_of_isLayout hc
  · rw [eq_of_nextWord hw hb h.name hr]
    exact h.apart hreference hunderlying

theorem TypeText.content {t : TypeExpr} {u : List Char} (h : TypeText t u) (r : List Char) :
    Content (u ++ r) := by
  cases h with
  | intro hname =>
    obtain ⟨ws, hspaced, -, hids, -⟩ := hname.exists_words
    obtain ⟨w, -, t, -, htext, hw⟩ := hspaced.exists_cons hids (_ ++ (_ ++ (_ ++ r)))
    simp only [List.append_assoc]
    exact htext ▸ hw.content t

theorem toList_writeAttribute (a : Attribute) (r : List Char) :
    a.write.toList ++ r = (writePreamble a.comments a.directives).toList ++
      (a.type.write.toList ++ ' ' :: (a.name.toList ++ ';' :: r)) := by
  simp [Attribute.write]

theorem attributeEntry_append {a : Attribute} (h : a.Readable) (r : List Char) :
    attributeEntry (a.write.toList ++ r) = .done a r := by
  obtain ⟨u, hu⟩ := h.type
  have hname : inline identifier (' ' :: (a.name.toList ++ ';' :: r)) = .done a.name (';' :: r) := by
    rw [← List.singleton_append, inline_append within_space (stops_isInlineBlank (h.name.stops_layout _)),
      identifier_append h.name (by simp [isWordChar])]
  have hend : inline (word ";") (';' :: r) = .done () r := by
    rw [inline_of_stops (by simp [isInlineBlank]), word_singleton rfl]
  have hends : TypeEnds a.type (' ' :: (a.name.toList ++ ';' :: r)) :=
    h.typeEnds within_space (by simp [isWordChar]) (by simp)
  rw [toList_writeAttribute, attributeEntry_eq_done]
  exact ⟨_, _, _, _, preamble_append h.preamble (hu.write.content _),
    typeExpr_append hu.write hends, hname, optional_of_done hend⟩

/-! ### Blocks -/

theorem toList_writeBlock {α : Type} (write : α → String) (as : List α) (r : List Char) :
    (writeBlock (as.map write)).toList ++ r =
      '\x7b' :: (as.flatMap (fun a => '\n' :: (write a).toList) ++ '\n' :: '\x7d' :: r) := by
  simp [writeBlock, String.toList_join, List.flatMap_map]

theorem content_close (r : List Char) : Content ('\x7d' :: r) :=
  ⟨by simp [isSeparator, isLayout], by simp, by simp⟩

theorem many_newline {p : Parser Unit} (hr : Stops isLayout r) (hmiss : Misses p r) :
    (do let _ ← many (orElse (skipSome isLayout) p)) ('\n' :: r) = .done () r := by
  have hskip : skipSome isLayout ('\n' :: r) = .done () r :=
    skipSome_append (s := ['\n']) (by simp [isLayout]) (by simp) hr
  have hend : Misses (orElse (skipSome isLayout) p) r :=
    misses_orElse.mpr ⟨misses_skipSome.mpr hr, hmiss⟩
  rw [bind_of_done (many_eq_done.mpr (.next (orElse_of_done hskip) (by simp) (.stop hend))),
    pure_apply]

theorem gap_newline (hr : Content r) : gap ('\n' :: r) = .done () r :=
  many_newline hr.layout ((misses_comment hr).bind _)

theorem misses_typeExpr (h : Stops isWordStart s) : Misses typeExpr s := by
  obtain ⟨why, hmiss⟩ := (misses_typeName h).bind _
  refine ⟨why, ?_⟩
  rw [typeExpr, nested_eq]
  exact hmiss

theorem attributeBlock_append {as : List Attribute} (h : ∀ a ∈ as, a.Readable) (r : List Char) :
    attributeBlock ((writeBlock (as.map Attribute.write)).toList ++ r) = .done as r := by
  have hmiss : Misses (do skip isLayout; attributeEntry) ('\n' :: '\x7d' :: r) :=
    .after (skip_cons rfl (content_close r).layout) (.after (preamble_of_content (content_close r))
      ((misses_typeExpr (by simp [isWordStart])).bind _))
  have hread : ∀ a ∈ as, ∀ t, (do skip isLayout; attributeEntry) ('\n' :: a.write.toList ++ t) =
      .done a t := by
    intro a ha t
    obtain ⟨u, hu⟩ := (h a ha).type
    have hstart : Stops isLayout (a.write.toList ++ t) := by
      rw [toList_writeAttribute]
      exact stops_writePreamble rfl rfl (hu.write.content _).layout
    rw [List.cons_append, bind_of_done (skip_cons rfl hstart), attributeEntry_append (h a ha)]
  have hrounds := Rounds.of_texts (fun a : Attribute => '\n' :: a.write.toList) (fun _ => True)
    (fun a ha t _ => hread a ha t) (by simp) (by simp) trivial hmiss
  have hclose : (do gap; word "\x7d") ('\n' :: '\x7d' :: r) = .done () r := by
    rw [bind_of_done (gap_newline (content_close r)), word_singleton rfl]
  rw [toList_writeBlock, attributeBlock, bind_of_done (word_singleton rfl _), commit_eq_done,
    manyUntil_eq_done]
  exact ⟨_, (), hrounds, hclose⟩

theorem readable_of_attributeBlock {as : List Attribute} (h : attributeBlock s = .done as r) :
    ∀ a ∈ as, a.Readable := by
  simp only [attributeBlock, bind_eq_done, commit_eq_done, manyUntil_eq_done] at h
  obtain ⟨_, _, -, _, _, hrounds, -⟩ := h
  refine hrounds.forall_mem fun a s t hread => ?_
  obtain ⟨_, _, -, hentry⟩ := bind_eq_done.mp hread
  exact readable_of_attributeEntry hentry

end ValueTypes.Source
