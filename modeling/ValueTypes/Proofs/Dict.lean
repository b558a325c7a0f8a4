import Mathlib.Data.List.Induction
import Mathlib.Tactic.SplitIfs
import ValueTypes.Source.Preamble

/-! Dictionaries are known by what is found in them, and are rebuilt from their entries in key
order. -/

namespace ValueTypes

namespace Dict

variable {α : Type}

theorem ext_entries {d d' : Dict α} (h : d.entries = d'.entries) : d = d' := by
  cases d
  cases d'
  simpa using h

theorem insertEntry_append {key : String} (value : α) {entries : List (String × α)}
    (h : ∀ e ∈ entries, e.1 < key) (rest : List (String × α)) :
    insertEntry key value (entries ++ rest) = entries ++ insertEntry key value rest := by
  induction entries with
  | nil => rfl
  | cons e es ih =>
    obtain ⟨he, hes⟩ := List.forall_mem_cons.mp h
    rw [List.cons_append, insertEntry, if_neg (String.lt_asymm he), if_neg (String.ne_of_lt he).symm,
      ih hes, List.cons_append]

theorem insertEntry_of_lt {key : String} (value : α) {entries : List (String × α)}
    (h : ∀ e ∈ entries, e.1 < key) : insertEntry key value entries = entries ++ [(key, value)] := by
  have happend := insertEntry_append value h []
  rwa [List.append_nil] at happend

theorem lookup_of_lt {key : String} {entries : List (String × α)} (h : ∀ e ∈ entries, e.1 < key)
    (rest : List (String × α)) : (entries ++ rest).lookup key = rest.lookup key := by
  have hnone : entries.lookup key = none := by
    rw [List.lookup_eq_none_iff]
    exact fun e he => by simpa using (String.ne_of_lt (h e he)).symm
  rw [List.lookup_append, hnone, Option.none_or]

theorem mem_of_get? {d : Dict α} {key : String} {value : α} (h : d.get? key = some value) :
    (key, value) ∈ d.entries := by
  obtain ⟨before, after, heq, -⟩ := List.lookup_eq_some_iff.mp h
  simp [heq]

theorem get?_eq_some_iff {d : Dict α} {key : String} {value : α} :
    d.get? key = some value ↔ (key, value) ∈ d.entries := by
  refine ⟨mem_of_get?, fun hmem => ?_⟩
  obtain ⟨before, after, heq⟩ := List.append_of_mem hmem
  have hsorted := d.sorted
  rw [heq, List.pairwise_append] at hsorted
  have hbefore : ∀ e ∈ before, e.1 < key := fun e he => hsorted.2.2 e he _ List.mem_cons_self
  unfold get?
  rw [heq, lookup_of_lt hbefore]
  simp

theorem ext_get? {d d' : Dict α} (h : ∀ key, d.get? key = d'.get? key) : d = d' := by
  have hmem : ∀ e, e ∈ d.entries ↔ e ∈ d'.entries := by
    intro e
    have hd : d.get? e.1 = some e.2 ↔ e ∈ d.entries := get?_eq_some_iff
    have hd' : d'.get? e.1 = some e.2 ↔ e ∈ d'.entries := get?_eq_some_iff
    rw [← hd, ← hd', h]
  have hnodup : ∀ d : Dict α, d.entries.Nodup := by
    intro d
    apply d.sorted.imp
    intro a b hlt heq
    exact String.ne_of_lt hlt (congrArg Prod.fst heq)
  have hperm := (List.perm_ext_iff_of_nodup (hnodup d) (hnodup d')).mpr hmem
  apply ext_entries
  apply hperm.eq_of_pairwise _ d.sorted d'.sorted
  intro a b _ _ hab hba
  exact absurd hba (String.lt_asymm hab)

theorem lookup_cons_eq_ite (key : String) (e : String × α) (entries : List (String × α)) :
    (e :: entries).lookup key = if key = e.1 then some e.2 else entries.lookup key := by
  rw [List.lookup_cons]
  split
  · rename_i hkey
    rw [if_pos (eq_of_beq hkey)]
  · rename_i hkey
    rw [if_neg (ne_of_beq_false hkey)]

theorem get?_insert (d : Dict α) (key : String) (value : α) (key' : String) :
    (d.insert key value).get? key' = if key' = key then some value else d.get? key' := by
  have hlookup : ∀ entries : List (String × α), (insertEntry key value entries).lookup key' =
      if key' = key then some value else entries.lookup key' := by
    intro entries
    induction entries with
    | nil => exact lookup_cons_eq_ite key' (key, value) []
    | cons e es ih =>
      rw [insertEntry]
      by_cases hlt : key < e.1
      · rw [if_pos hlt]
        exact lookup_cons_eq_ite key' (key, value) (e :: es)
      · rw [if_neg hlt]
        by_cases heq : key = e.1
        · rw [if_pos heq, lookup_cons_eq_ite, lookup_cons_eq_ite, ← heq]
          split_ifs <;> rfl
        · rw [if_neg heq, lookup_cons_eq_ite, lookup_cons_eq_ite, ih]
          split_ifs with he hkey
          · exact absurd (hkey.symm.trans he) heq
          all_goals rfl
  exact hlookup d.entries

theorem insert_comm (d : Dict α) {key key' : String} (hne : key ≠ key') (value value' : α) :
    (d.insert key value).insert key' value' = (d.insert key' value').insert key value := by
  apply ext_get?
  intro k
  simp only [get?_insert]
  split_ifs <;> simp_all

theorem ofList_concat (entries : List (String × α)) (e : String × α) :
    ofList (entries ++ [e]) = (ofList entries).insert e.1 e.2 := by
  rw [ofList, List.foldl_append]
  rfl

theorem get?_ofList (entries : List (String × α)) (key : String) : (ofList entries).get? key =
    (entries.filterMap fun e => if e.1 = key then some e.2 else none).getLast? := by
  induction entries using List.reverseRecOn with
  | nil => rfl
  | append_singleton entries e ih =>
    rw [ofList_concat, get?_insert, List.filterMap_append, ih]
    by_cases hkey : e.1 = key
    · simp [hkey]
    · simp [hkey, Ne.symm hkey]

theorem mem_of_mem_ofList {entries : List (String × α)} {e : String × α}
    (h : e ∈ (ofList entries).entries) : e ∈ entries := by
  have hfold : ∀ (entries : List (String × α)) (d : Dict α),
      e ∈ (entries.foldl (fun d entry => d.insert entry.1 entry.2) d).entries →
        e ∈ d.entries ∨ e ∈ entries := by
    intro entries
    induction entries with
    | nil => simp
    | cons e' es ih =>
      intro d hmem
      obtain hmem | hmem := ih _ hmem
      · exact (mem_insertEntry hmem).elim (fun h => .inr (by simp [h])) .inl
      · exact .inr (List.mem_cons_of_mem e' hmem)
  exact (hfold entries empty h).resolve_left (by simp [empty])

theorem foldl_insert_entries (entries : List (String × α)) (d : Dict α)
    (h : (d.entries ++ entries).Pairwise fun a b => a.1 < b.1) :
    (entries.foldl (fun d entry => d.insert entry.1 entry.2) d).entries = d.entries ++ entries := by
  induction entries generalizing d with
  | nil => simp
  | cons e es ih =>
    have hlt : ∀ a ∈ d.entries, a.1 < e.1 := fun a ha =>
      (List.pairwise_append.mp h).2.2 a ha e List.mem_cons_self
    have hinsert : (d.insert e.1 e.2).entries = d.entries ++ [e] := insertEntry_of_lt e.2 hlt
    rw [List.foldl_cons, ih _ (by simpa [hinsert] using h), hinsert, List.append_assoc,
      List.singleton_append]

theorem ofList_toList (d : Dict α) : ofList d.toList = d :=
  ext_entries (foldl_insert_entries d.entries empty (by simpa [empty] using d.sorted))

end Dict

namespace Directives

theorem get?_add (ds : Directives) (name : String) (properties : Properties) (name' : String) :
    (ds.add name properties).get? name' =
      if name' = name then some (ds.occurrences name ++ [properties]) else ds.get? name' :=
  Dict.get?_insert ds name _ name'

theorem occurrences_add (ds : Directives) (name : String) (properties : Properties) (name' : String) :
    (ds.add name properties).occurrences name' =
      ds.occurrences name' ++ if name' = name then [properties] else [] := by
  rw [occurrences, get?_add]
  by_cases hname : name' = name
  · simp [hname]
  · simp [hname, occurrences]

theorem contains_add (ds : Directives) (name : String) (properties : Properties) (name' : String) :
    (ds.add name properties).contains name' = true ↔ name' = name ∨ ds.contains name' = true := by
  rw [Dict.contains, get?_add]
  by_cases hname : name' = name
  · simp [hname]
  · simp [hname, Dict.contains]

theorem add_comm (ds : Directives) {name name' : String} (hne : name ≠ name')
    (properties properties' : Properties) :
    (ds.add name properties).add name' properties' =
      (ds.add name' properties').add name properties := by
  have hfirst := occurrences_add ds name properties name'
  have hsecond := occurrences_add ds name' properties' name
  rw [if_neg hne.symm, List.append_nil] at hfirst
  rw [if_neg hne, List.append_nil] at hsecond
  unfold add at hfirst hsecond ⊢
  rw [hfirst, hsecond]
  exact Dict.insert_comm ds hne _ _

theorem add_entries_of_lt {ds : Directives} {name : String} (properties : Properties)
    (h : ∀ e ∈ ds.entries, e.1 < name) :
    (ds.add name properties).entries = ds.entries ++ [(name, [properties])] := by
  have hnone : ds.occurrences name = [] := by
    have hlookup := Dict.lookup_of_lt h []
    rw [List.append_nil] at hlookup
    simp [occurrences, Dict.get?, hlookup]
  rw [add, hnone]
  exact Dict.insertEntry_of_lt _ h

theorem add_entries_of_last {ds : Directives} {name : String} {before : List (String × List Properties)}
    {earlier : List Properties} (properties : Properties) (h : ∀ e ∈ before, e.1 < name)
    (hds : ds.entries = before ++ [(name, earlier)]) :
    (ds.add name properties).entries = before ++ [(name, earlier ++ [properties])] := by
  have hearlier : ds.occurrences name = earlier := by
    simp [occurrences, Dict.get?, hds, Dict.lookup_of_lt h]
  have hinsert := Dict.insertEntry_append (earlier ++ [properties]) h [(name, earlier)]
  rw [← hds, Dict.insertEntry, if_neg (String.lt_irrefl name), if_pos rfl] at hinsert
  rw [add, hearlier]
  exact hinsert

theorem foldl_add_entries {name : String} (occurrences : List Properties) {ds : Directives}
    {before : List (String × List Properties)} {earlier : List Properties}
    (h : ∀ e ∈ before, e.1 < name) (hds : ds.entries = before ++ [(name, earlier)]) :
    (occurrences.foldl (·.add name ·) ds).entries = before ++ [(name, earlier ++ occurrences)] := by
  induction occurrences generalizing ds earlier with
  | nil => simpa using hds
  | cons p ps ih =>
    rw [List.foldl_cons, ih (add_entries_of_last p h hds), List.append_assoc, List.singleton_append]

end Directives
end ValueTypes
