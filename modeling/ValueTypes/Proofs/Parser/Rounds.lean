import ValueTypes.Proofs.Parser.Outcome

/-! Repetition as a sequence of rounds: each round reads one item and leaves a shorter text, and the
last text is one where the item misses. -/

namespace ValueTypes.Parser

variable {α β : Type} {s t r : List Char}

inductive Rounds (p : Parser α) : List α → List Char → List Char → Prop where
  | stop {s : List Char} (h : Misses p s) : Rounds p [] s s
  | next {a : α} {as : List α} {s t r : List Char} (h : p s = .done a t)
      (hlt : t.length < s.length) (hrest : Rounds p as t r) : Rounds p (a :: as) s r

theorem map_eq_done {f : α → β} {x : Reading α} {b : β} :
    x.map f = .done b r ↔ ∃ a, x = .done a r ∧ f a = b := by
  cases x <;> simp [Reading.map]
  grind

theorem many_eq_done {p : Parser α} {as : List α} : many p s = .done as r ↔ Rounds p as s r := by
  constructor
  · intro h
    fun_induction many p s generalizing as r with
    | case1 s why hp =>
      cases h
      exact .stop ⟨why, hp⟩
    | case2 s why hp => cases h
    | case3 s a t hp hlt ih =>
      obtain ⟨bs, hbs, rfl⟩ := map_eq_done.mp h
      exact .next hp hlt (ih hbs)
    | case4 s a t hp hnlt => cases h
  · intro h
    induction h with
    | stop h =>
      obtain ⟨why, hp⟩ := h
      simp [many, hp]
    | next h hlt _ ih =>
      rw [many, h]
      simp [hlt, ih, Reading.map]

theorem manyUntil_eq_done {item : Parser α} {close : Parser β} {as : List α} :
    manyUntil item close s = .done as r ↔ ∃ t b, Rounds item as s t ∧ close t = .done b r := by
  constructor
  · intro h
    fun_induction manyUntil item close s generalizing as r with
    | case1 s a t hitem hlt ih =>
      obtain ⟨bs, hbs, rfl⟩ := map_eq_done.mp h
      obtain ⟨u, b, hrounds, hclose⟩ := ih hbs
      exact ⟨u, b, .next hitem hlt hrounds, hclose⟩
    | case2 s a t hitem hnlt => cases h
    | case3 s why hitem => cases h
    | case4 s why hitem b t hclose =>
      cases h
      exact ⟨s, b, .stop ⟨why, hitem⟩, hclose⟩
    | case5 s why hitem why' hclose => cases h
    | case6 s why hitem why' hclose => cases h
  · rintro ⟨t, b, hrounds, hclose⟩
    induction hrounds with
    | stop h =>
      obtain ⟨why, hitem⟩ := h
      simp [manyUntil, hitem, hclose]
    | next h hlt _ ih =>
      rw [manyUntil, h]
      simp [hlt, ih hclose, Reading.map]

theorem manyUntil_of_done {item : Parser α} {close : Parser β} {a : α} {as : List α}
    (h : item s = .done a t) (hlt : t.length < s.length) :
    manyUntil item close s = .done as r ↔ ∃ bs, as = a :: bs ∧ manyUntil item close t = .done bs r := by
  simp only [manyUntil_eq_done]
  constructor
  · rintro ⟨x, b, hrounds, hclose⟩
    cases hrounds with
    | stop hmiss => exact absurd h (hmiss.ne_done a t)
    | next hread _ hrest =>
      cases h.symm.trans hread
      exact ⟨_, rfl, x, b, hrest, hclose⟩
  · rintro ⟨bs, rfl, x, b, hrest, hclose⟩
    exact ⟨x, b, .next h hlt hrest, hclose⟩

theorem manyUntil_of_misses {item : Parser α} {close : Parser β} {as : List α} (h : Misses item s) :
    manyUntil item close s = .done as r ↔ as = [] ∧ ∃ b, close s = .done b r := by
  rw [manyUntil_eq_done]
  constructor
  · rintro ⟨x, b, hrounds, hclose⟩
    cases hrounds with
    | stop hmiss => exact ⟨rfl, b, hclose⟩
    | next hread _ hrest => exact absurd hread (h.ne_done _ _)
  · rintro ⟨rfl, b, hclose⟩
    exact ⟨s, b, .stop h, hclose⟩

theorem manyUntil_of_halt {item : Parser α} {why : Mismatch} (h : item s = .halt why)
    (close : Parser β) : manyUntil item close s = .halt why := by
  rw [manyUntil, h]

theorem manyUntil_halt_of_done {item : Parser α} {close : Parser β} {a : α} {why : Mismatch}
    (h : item s = .done a t) (hlt : t.length < s.length)
    (hrest : manyUntil item close t = .halt why) : manyUntil item close s = .halt why := by
  rw [manyUntil, h]
  simp [hlt, hrest, Reading.map]

theorem Rounds.forall_mem {p : Parser α} {as : List α} {P : α → Prop} (h : Rounds p as s r)
    (hp : ∀ a s t, p s = .done a t → P a) : ∀ a ∈ as, P a := by
  induction h with
  | stop h => simp
  | next h hlt hrest ih => exact List.forall_mem_cons.mpr ⟨hp _ _ _ h, ih⟩

theorem Rounds.misses {p : Parser α} {as : List α} (h : Rounds p as s r) : Misses p r := by
  induction h with
  | stop h => exact h
  | next h hlt hrest ih => exact ih

theorem Rounds.invariant {p : Parser α} {as : List α} {P : List Char → Prop} (h : Rounds p as s r)
    (hp : ∀ a s t, p s = .done a t → P s → P t) (hs : P s) : P r := by
  induction h with
  | stop h => exact hs
  | next h hlt hrest ih => exact ih (hp _ _ _ h hs)

/-- Written items are read one after the other if each of them is read in front of every text of a
kind, and a written item makes a text of that kind again. -/
theorem Rounds.of_values {p : Parser α} {bs : List β} (value : β → α) (text : β → List Char)
    (kind : List Char → Prop) (hread : ∀ b ∈ bs, ∀ t, kind t → p (text b ++ t) = .done (value b) t)
    (hkind : ∀ b ∈ bs, ∀ t, kind (text b ++ t)) (hne : ∀ b ∈ bs, text b ≠ []) (hr : kind r)
    (hmiss : Misses p r) : Rounds p (bs.map value) (bs.flatMap text ++ r) r := by
  induction bs with
  | nil => exact .stop hmiss
  | cons b bs ih =>
    obtain ⟨hb, hbs⟩ := List.forall_mem_cons.mp hread
    have hrest : kind (bs.flatMap text ++ r) := by
      cases bs with
      | nil => exact hr
      | cons c cs => simpa using hkind c (by simp) (cs.flatMap text ++ r)
    rw [List.map_cons, List.flatMap_cons, List.append_assoc]
    refine .next (hb _ hrest) ?_ (ih hbs (fun c hc => hkind c (List.mem_cons_of_mem b hc))
      (fun c hc => hne c (List.mem_cons_of_mem b hc)))
    have hpos := List.length_pos_iff.mpr (hne b List.mem_cons_self)
    simpa using hpos

theorem Rounds.of_texts {p : Parser α} {as : List α} (text : α → List Char)
    (kind : List Char → Prop) (hread : ∀ a ∈ as, ∀ t, kind t → p (text a ++ t) = .done a t)
    (hkind : ∀ a ∈ as, ∀ t, kind (text a ++ t)) (hne : ∀ a ∈ as, text a ≠ []) (hr : kind r)
    (hmiss : Misses p r) : Rounds p as (as.flatMap text ++ r) r := by
  have hrounds := Rounds.of_values id text kind hread hkind hne hr hmiss
  rwa [List.map_id] at hrounds

theorem nested_eq (rule : Parser α → Parser α) (s : List Char) :
    nested rule s =
      rule (fun t => if t.length < s.length then nested rule t else .miss ⟨t, .progress⟩) s := by
  rw [nested]

end ValueTypes.Parser
