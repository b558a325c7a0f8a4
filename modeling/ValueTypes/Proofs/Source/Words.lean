import ValueTypes.Proofs.Parser.Rounds
import ValueTypes.Source.Lexical

/-! Identifiers, blanks and lists with commas: which texts are read as what. -/

namespace ValueTypes.Source

open ValueTypes.Parser

variable {α : Type} {s t r : List Char}

theorem isWordChar_of_isWordStart {c : Char} (h : isWordStart c) : isWordChar c := by
  simp only [isWordStart, isWordChar, Char.isAlphanum, Bool.or_eq_true] at h ⊢
  exact h.imp_left .inl

theorem isLayout_of_isInlineBlank {c : Char} (h : isInlineBlank c) : isLayout c := by
  simp only [isInlineBlank, isLayout, Bool.or_eq_true] at h ⊢
  exact .inl (.inl h)

theorem isLayout_eq_false_of_isWordChar {c : Char} (h : isWordChar c) : isLayout c = false := by
  by_contra hc
  simp only [isLayout, Bool.not_eq_false, Bool.or_eq_true, beq_iff_eq] at hc
  rcases hc with ((rfl | rfl) | rfl) | rfl <;> simp [isWordChar] at h

theorem isWordChar_eq_false_of_isLayout {c : Char} (h : isLayout c) : isWordChar c = false := by
  by_contra hword
  simp [isLayout_eq_false_of_isWordChar (by simpa using hword)] at h

theorem Within.layout {w : List Char} (h : Within isInlineBlank w) : Within isLayout w :=
  fun c hc => isLayout_of_isInlineBlank (h c hc)

theorem stops_isWordChar_append {w : List Char} (hw : Within isLayout w) (hs : Stops isWordChar s) :
    Stops isWordChar (w ++ s) := by
  cases w with
  | nil => exact hs
  | cons c w => simpa using isWordChar_eq_false_of_isLayout (within_cons.mp hw).1

theorem stops_isInlineBlank (h : Stops isLayout s) : Stops isInlineBlank s :=
  h.mono fun _ => isLayout_of_isInlineBlank

/-! ### Identifiers -/

def IsIdentifier (w : String) : Prop :=
  w.toList.head?.any isWordStart = true ∧ w.toList.all isWordChar = true

instance (w : String) : Decidable (IsIdentifier w) := inferInstanceAs (Decidable (_ ∧ _))

theorem IsIdentifier.exists_cons {w : String} (h : IsIdentifier w) :
    ∃ c cs, w.toList = c :: cs ∧ isWordStart c ∧ Within isWordChar cs := by
  obtain ⟨hhead, hall⟩ := h
  cases hw : w.toList with
  | nil => simp [hw] at hhead
  | cons c cs =>
    simp only [hw, List.head?_cons, Option.any_some, List.all_cons, Bool.and_eq_true,
      List.all_eq_true] at hhead hall
    exact ⟨c, cs, rfl, hhead, hall.2⟩

theorem IsIdentifier.within {w : String} (h : IsIdentifier w) : Within isWordChar w.toList :=
  List.all_eq_true.mp h.2

theorem IsIdentifier.toList_ne_nil {w : String} (h : IsIdentifier w) : w.toList ≠ [] := by
  obtain ⟨c, cs, hw, -, -⟩ := h.exists_cons
  simp [hw]

theorem IsIdentifier.stops_layout {w : String} (h : IsIdentifier w) (r : List Char) :
    Stops isLayout (w.toList ++ r) := by
  obtain ⟨c, cs, hw, hc, -⟩ := h.exists_cons
  simpa [hw] using isLayout_eq_false_of_isWordChar (isWordChar_of_isWordStart hc)

theorem identifier_append {w : String} (hw : IsIdentifier w) (hr : Stops isWordChar r) :
    identifier (w.toList ++ r) = .done w r := by
  obtain ⟨c, cs, hcs, hc, hall⟩ := hw.exists_cons
  rw [hcs, List.cons_append, identifier, if_pos hc, takeWhile_within_append hall hr,
    dropWhile_within_append hall hr, ← hcs, String.ofList_toList]

theorem identifier_eq_done {w : String} :
    identifier s = .done w r ↔ IsIdentifier w ∧ s = w.toList ++ r ∧ Stops isWordChar r := by
  constructor
  · intro h
    cases s with
    | nil => simp [identifier] at h
    | cons c s =>
      cases hc : isWordStart c with
      | false => simp [identifier, hc] at h
      | true =>
        rw [identifier, if_pos hc] at h
        cases h
        refine ⟨⟨by simp [hc], ?_⟩, by simp, stops_dropWhile isWordChar s⟩
        simp [isWordChar_of_isWordStart hc]
  · rintro ⟨hw, rfl, hr⟩
    exact identifier_append hw hr

theorem misses_identifier : Misses identifier s ↔ Stops isWordStart s := by
  unfold Misses
  cases s with
  | nil => simp [identifier]
  | cons c s => cases h : isWordStart c <;> simp [identifier, h]

theorem tentative_identifier : Tentative identifier := by
  intro s why
  cases s with
  | nil => simp [identifier]
  | cons c s => cases h : isWordStart c <;> simp [identifier, h]

/-! ### Blanks -/

theorem within_space : Within isInlineBlank [' '] := by simp [isInlineBlank]

theorem inline_append {p : Parser α} {w : List Char} (hw : Within isInlineBlank w)
    (hs : Stops isInlineBlank s) : inline p (w ++ s) = p s := by
  rw [inline, bind_of_done (skip_append hw hs)]

theorem inline_of_stops {p : Parser α} (hs : Stops isInlineBlank s) : inline p s = p s :=
  inline_append (within_nil _) hs

theorem misses_inline_bind {β : Type} {p : Parser α} {f : α → Parser β} (h : Misses (inline p) s) :
    Misses (inline (p >>= f)) s := by
  simp only [inline, misses_bind, not_misses_skip, false_or] at h ⊢
  obtain ⟨u, t, hskip, hmiss⟩ := h
  exact ⟨u, t, hskip, .inl hmiss⟩

theorem inline_eq_done {p : Parser α} {a : α} :
    inline p s = .done a r ↔
      ∃ w t, s = w ++ t ∧ Within isInlineBlank w ∧ Stops isInlineBlank t ∧ p t = .done a r := by
  simp only [inline, bind_eq_done, skip_eq_done]
  grind

def NextIsNot (c : Char) (s : List Char) : Prop := (s.dropWhile isInlineBlank).head? ≠ some c

theorem nextIsNot_append {c : Char} {w : List Char} (hw : Within isInlineBlank w) :
    NextIsNot c (w ++ s) ↔ NextIsNot c s := by
  rw [NextIsNot, NextIsNot, List.dropWhile_append_of_pos hw]

theorem nextIsNot_cons {c d : Char} (hd : isInlineBlank d = false) :
    NextIsNot c (d :: s) ↔ d ≠ c := by
  simp [NextIsNot, hd]

theorem misses_inline_word {c : Char} {w : String} (hw : w.toList = [c]) :
    Misses (inline (word w)) s ↔ NextIsNot c s := by
  simp only [inline, misses_bind, not_misses_skip, false_or, skip, misses_word, hw, NextIsNot]
  cases s.dropWhile isInlineBlank <;> simp [eq_comm]

/-! ### Lists with commas -/

/-- Behind the layout stands the end of the text or a sign that ends an item of a list. -/
def AtBreak (r : List Char) : Prop :=
  ∀ c ∈ (r.dropWhile isLayout).head?, c = ',' ∨ c = '>' ∨ c = ')'

theorem atBreak_append {w : List Char} (hw : Within isLayout w) : AtBreak (w ++ r) ↔ AtBreak r := by
  rw [AtBreak, AtBreak, List.dropWhile_append_of_pos hw]

theorem atBreak_cons {c : Char} (hc : c = ',' ∨ c = '>' ∨ c = ')') : AtBreak (c :: r) := by
  rcases hc with rfl | rfl | rfl <;> simp [AtBreak, isLayout]

theorem atBreak_nil : AtBreak [] := by simp [AtBreak]

theorem AtBreak.stops {cls : Char → Bool} (h : AtBreak r) (hlayout : ∀ c, isLayout c → cls c = false)
    (hsigns : cls ',' = false ∧ cls '>' = false ∧ cls ')' = false) : Stops cls r := by
  cases r with
  | nil => simp
  | cons c r =>
    rw [stops_cons]
    cases hc : isLayout c with
    | true => exact hlayout c hc
    | false =>
      rcases h c (by simp [hc]) with rfl | rfl | rfl
      exacts [hsigns.1, hsigns.2.1, hsigns.2.2]

theorem AtBreak.stops_isWordChar (h : AtBreak r) : Stops isWordChar r :=
  h.stops (fun _ => isWordChar_eq_false_of_isLayout) (by decide)

theorem AtBreak.next {c : Char} (h : AtBreak r) (hc : c ∈ (r.dropWhile isInlineBlank).head?) :
    isLayout c ∨ c = ',' ∨ c = '>' ∨ c = ')' := by
  cases hlayout : isLayout c with
  | true => exact .inl rfl
  | false =>
    obtain ⟨t, ht⟩ := List.head?_eq_some_iff.mp hc
    have hsplit : r = r.takeWhile isInlineBlank ++ c :: t := by
      rw [← ht, List.takeWhile_append_dropWhile]
    refine .inr (h c ?_)
    rw [hsplit, dropWhile_within_append (Within.layout (within_takeWhile _ _)) (by simpa using hlayout)]
    simp

/-- One or more items with commas between them; around a comma there may be layout. -/
inductive CommaSeparated (item : α → List Char → Prop) : List α → List Char → Prop where
  | one {a : α} {u : List Char} (h : item a u) : CommaSeparated item [a] u
  | more {a : α} {as : List α} {u w w' v : List Char} (h : item a u) (hw : Within isLayout w)
      (hw' : Within isLayout w') (hrest : CommaSeparated item as v) :
      CommaSeparated item (a :: as) (u ++ w ++ ',' :: w' ++ v)

theorem CommaSeparated.imp {item item' : α → List Char → Prop} {as : List α} {v : List Char}
    (h : CommaSeparated item as v)
    (himp : ∀ a ∈ as, ∀ u, u.length ≤ v.length → item a u → item' a u) :
    CommaSeparated item' as v := by
  induction h with
  | one h => exact .one (himp _ (by simp) _ le_rfl h)
  | more h hw hw' hrest ih =>
    obtain ⟨hhead, htail⟩ := List.forall_mem_cons.mp himp
    refine .more (hhead _ (by simp [Nat.add_assoc]) h) hw hw' (ih fun a ha u hu => htail a ha u ?_)
    simp only [List.length_append, List.length_cons]
    omega

theorem CommaSeparated.map {β : Type} {item : β → List Char → Prop} (f : α → β) {as : List α}
    {v : List Char} (h : CommaSeparated (fun a => item (f a)) as v) :
    CommaSeparated item (as.map f) v := by
  induction h with
  | one h => exact .one h
  | more h hw hw' hrest ih => exact .more h hw hw' ih

theorem CommaSeparated.forall_mem {item : α → List Char → Prop} {P : α → Prop} {as : List α}
    {v : List Char} (h : CommaSeparated item as v) (hitem : ∀ a u, item a u → P a) :
    ∀ a ∈ as, P a := by
  induction h with
  | one h => simpa using hitem _ _ h
  | more h hw hw' hrest ih => exact List.forall_mem_cons.mpr ⟨hitem _ _ h, ih⟩

theorem CommaSeparated.stops_layout {item : α → List Char → Prop} {as : List α} {v : List Char}
    (h : CommaSeparated item as v) (hitem : ∀ a u t, item a u → Stops isLayout (u ++ t))
    (t : List Char) : Stops isLayout (v ++ t) := by
  cases h with
  | one h => exact hitem _ _ t h
  | more h hw hw' hrest =>
    simp only [List.append_assoc]
    exact hitem _ _ _ h

theorem comma_append {w w' : List Char} (hw : Within isLayout w) (hw' : Within isLayout w')
    (hs : Stops isLayout s) : comma (w ++ ',' :: w' ++ s) = .done () s := by
  have hcomma : Stops isLayout (',' :: (w' ++ s)) := by simp [isLayout]
  rw [comma, List.append_assoc, List.cons_append, bind_of_done (skip_append hw hcomma),
    bind_of_done (word_singleton rfl (w' ++ s)), skip_append hw' hs]

theorem comma_eq_done {u : Unit} : comma s = .done u r ↔
    ∃ w w', s = w ++ ',' :: w' ++ r ∧ Within isLayout w ∧ Within isLayout w' ∧ Stops isLayout r := by
  constructor
  · intro h
    simp only [comma, bind_eq_done, skip_eq_done, word_eq_done] at h
    obtain ⟨_, t, ⟨w, rfl, hw, -⟩, _, t', rfl, w', rfl, hw', hr⟩ := h
    exact ⟨w, w', by simp, hw, hw', hr⟩
  · rintro ⟨w, w', rfl, hw, hw', hr⟩
    exact comma_append hw hw' hr

theorem misses_comma (h : (s.dropWhile isLayout).head? ≠ some ',') : Misses comma s := by
  rw [comma]
  refine .after rfl (.bind (misses_word.mpr ?_) _)
  rintro ⟨t, ht⟩
  exact h (by simp [← ht])

theorem sepBy1_comma_append {item : α → List Char → Prop} {p : Parser α} {as : List α}
    {v : List Char} (h : CommaSeparated item as v)
    (hstart : ∀ a u t, item a u → Stops isLayout (u ++ t))
    (hread : ∀ a u t, item a u → (u ++ t).length ≤ (v ++ r).length → AtBreak t →
      p (u ++ t) = .done a t) (hr : AtBreak r)
    (hend : (r.dropWhile isLayout).head? ≠ some ',') : sepBy1 comma p (v ++ r) = .done as r := by
  -- The first item is read on its own, every other one in a round together with its comma.
  have hrounds : ∀ a as' u, CommaSeparated item (a :: as') u → u.length ≤ v.length →
      ∃ t, p (u ++ r) = .done a t ∧ t.length ≤ (u ++ r).length ∧ Rounds (do comma; p) as' t r := by
    intro a as'
    induction as' generalizing a with
    | nil =>
      intro u h hle
      cases h with
      | one h =>
        exact ⟨r, hread a u r h (by simpa using hle) hr, by simp, .stop ((misses_comma hend).bind _)⟩
      | more h hw hw' hrest => cases hrest
    | cons b bs ih =>
      intro u h hle
      cases h with
      | @more _ _ u w w' x h hw hw' hrest =>
        simp only [List.length_append, List.length_cons] at hle
        obtain ⟨t, ht, htle, hrounds⟩ := ih b x hrest (by omega)
        have hcomma : AtBreak (w ++ ',' :: w' ++ (x ++ r)) := by
          rw [List.append_assoc, atBreak_append hw]
          exact atBreak_cons (.inl rfl)
        have hsep := comma_append hw hw' (hrest.stops_layout hstart r)
        have hitem := hread a u _ h (by simp only [List.length_append, List.length_cons]; omega) hcomma
        refine ⟨w ++ ',' :: w' ++ (x ++ r), by simpa using hitem, by simp, .next ?_ ?_ hrounds⟩
        · rw [bind_of_done hsep, ht]
        · simp only [List.length_append, List.length_cons] at htle ⊢
          omega
  cases as with
  | nil => cases h
  | cons a as =>
    obtain ⟨t, ht, -, hmany⟩ := hrounds a as v h le_rfl
    rw [sepBy1, bind_of_done ht, bind_of_done (many_eq_done.mpr hmany), pure_apply]

theorem commaSeparated_of_sepBy1 {item : α → List Char → Prop} {p : Parser α} {as : List α}
    (h : sepBy1 comma p s = .done as r)
    (hread : ∀ a t t', p t = .done a t' → ∃ u, t = u ++ t' ∧ item a u) :
    ∃ v, s = v ++ r ∧ CommaSeparated item as v := by
  simp only [sepBy1, bind_eq_done, pure_eq_done, many_eq_done] at h
  obtain ⟨a, t, ha, bs, r', hrounds, rfl, rfl⟩ := h
  induction hrounds generalizing s a with
  | stop hmiss =>
    obtain ⟨u, rfl, hu⟩ := hread a _ _ ha
    exact ⟨u, rfl, .one hu⟩
  | next hb hlt hrest ih =>
    obtain ⟨u, rfl, hu⟩ := hread a _ _ ha
    obtain ⟨_, t', hsep, hitem⟩ := bind_eq_done.mp hb
    obtain ⟨w, w', rfl, hw, hw', -⟩ := comma_eq_done.mp hsep
    obtain ⟨v, rfl, hv⟩ := ih _ hitem
    exact ⟨u ++ w ++ ',' :: w' ++ v, by simp, .more hu hw hw' hv⟩

end ValueTypes.Source
