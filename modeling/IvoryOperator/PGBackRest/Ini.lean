import Mathlib.Data.List.Nodup

/-!
# INI sections

pgBackRest reads its options from an INI file whose sections may repeat a key. The operator
builds each section as an `iniMultiSet`, from option name to values, and a file as an
`iniSectionSet`, from section name to section. Both types are declared outside src/. Following
the spec, a section is an ordered list of keys, each held once with its values, and `Set`
replaces every value of a key with one value ("last write replaces"), appending a key the
section lacks. The lemmas say what `values` returns after a `set`, and that `set`s of distinct
keys on an empty section leave exactly those keys, in order, each with its one value.
-/

namespace IvoryOperator.PGBackRest

/-- The entries after setting `key` to the one value `value`: the key's entry replaced in
place, or appended. -/
def setEntry (key value : String) : List (String × List String) → List (String × List String)
  | [] => [(key, [value])]
  | (k, vs) :: rest => if k = key then (key, [value]) :: rest else (k, vs) :: setEntry key value rest

/-- Setting a key keeps the keys in order, and appends the key when it is new. -/
theorem map_fst_setEntry (key value : String) (entries : List (String × List String)) :
    (setEntry key value entries).map Prod.fst =
      if key ∈ entries.map Prod.fst then entries.map Prod.fst
      else entries.map Prod.fst ++ [key] := by
  induction entries with
  | nil => rfl
  | cons entry rest ih =>
      obtain ⟨k, vs⟩ := entry
      by_cases hk : k = key
      · subst hk
        simp [setEntry]
      · simp only [setEntry, hk, if_false, List.map_cons, ih, List.mem_cons, Ne.symm hk,
          false_or]
        split <;> rfl

/-- Setting a key the entries lack appends it with its one value. -/
theorem setEntry_of_not_mem {key : String} (value : String) {entries : List (String × List String)}
    (h : key ∉ entries.map Prod.fst) : setEntry key value entries = entries ++ [(key, [value])] := by
  induction entries with
  | nil => rfl
  | cons entry rest ih =>
      obtain ⟨k, vs⟩ := entry
      have hk : k ≠ key := fun hk => h (hk ▸ List.mem_cons_self _ _)
      simp only [setEntry, hk, if_false, List.cons_append,
        ih (fun hmem => h (List.mem_cons_of_mem _ hmem))]

/-- Modelled from the spec: an `iniMultiSet`, the options of one section in order, each with
its values. A section holds each key once. -/
structure IniMultiSet where
  entries : List (String × List String)
  keys_nodup : (entries.map Prod.fst).Nodup

/-- The section with no option. -/
def IniMultiSet.empty : IniMultiSet := ⟨[], List.nodup_nil⟩

@[simp] theorem IniMultiSet.empty_entries : IniMultiSet.empty.entries = [] := rfl

/-- The keys of a section, in order. -/
def IniMultiSet.keys (ms : IniMultiSet) : List String := ms.entries.map Prod.fst

/-- The values of a key, `[]` when the section lacks it. -/
def IniMultiSet.values (ms : IniMultiSet) (key : String) : List String :=
  (ms.entries.lookup key).getD []

/-- Modelled from the spec: `iniMultiSet.Set(key, value)`, after which `key` has the one
value `value`. -/
def IniMultiSet.set (ms : IniMultiSet) (key value : String) : IniMultiSet where
  entries := setEntry key value ms.entries
  keys_nodup := by
    rw [map_fst_setEntry]
    split
    · exact ms.keys_nodup
    · rw [← List.concat_eq_append]
      exact ms.keys_nodup.concat ‹_›

/-- A run of `Set` calls, in order. -/
def IniMultiSet.setAll (ms : IniMultiSet) (options : List (String × String)) : IniMultiSet :=
  options.foldl (fun ms option => ms.set option.1 option.2) ms

/-- The `Set`s of two lists in turn are those of their concatenation. -/
theorem IniMultiSet.setAll_append (ms : IniMultiSet) (first second : List (String × String)) :
    ms.setAll (first ++ second) = (ms.setAll first).setAll second :=
  List.foldl_append _ _ _ _

/-- `Set`s of distinct keys that a section lacks append those keys, each with its one value. -/
theorem IniMultiSet.setAll_entries {ms : IniMultiSet} {options : List (String × String)}
    (hnodup : (options.map Prod.fst).Nodup) (hfresh : ∀ o ∈ options, o.1 ∉ ms.keys) :
    (ms.setAll options).entries = ms.entries ++ options.map fun o => (o.1, [o.2]) := by
  induction options generalizing ms with
  | nil => simp [IniMultiSet.setAll]
  | cons o rest ih =>
      rw [List.map_cons, List.nodup_cons] at hnodup
      have hset : (ms.set o.1 o.2).entries = ms.entries ++ [(o.1, [o.2])] :=
        setEntry_of_not_mem o.2 (hfresh o (List.mem_cons_self _ _))
      have hrest : ∀ o' ∈ rest, o'.1 ∉ (ms.set o.1 o.2).keys := by
        intro o' ho' hmem
        rw [IniMultiSet.keys, hset, List.map_append, List.mem_append] at hmem
        rcases hmem with hmem | hmem
        · exact hfresh o' (List.mem_cons_of_mem _ ho') hmem
        · rw [List.map_singleton, List.mem_singleton] at hmem
          exact hnodup.1 (hmem ▸ List.mem_map_of_mem _ ho')
      show ((ms.set o.1 o.2).setAll rest).entries = _
      rw [ih hnodup.2 hrest, hset, List.map_cons, List.append_assoc, List.singleton_append]

/-- In entries that hold each key once, a key's lookup is the value listed with it. -/
theorem lookup_eq_some_of_mem {β : Type} {options : List (String × β)}
    (hnodup : (options.map Prod.fst).Nodup) {key : String} {value : β}
    (hmem : (key, value) ∈ options) : options.lookup key = some value := by
  induction options with
  | nil => cases hmem
  | cons o rest ih =>
      rw [List.map_cons, List.nodup_cons] at hnodup
      rcases List.mem_cons.mp hmem with rfl | hrest
      · simp [List.lookup_cons]
      · have hne : o.1 ≠ key := fun h => hnodup.1 (h ▸ List.mem_map_of_mem Prod.fst hrest)
        obtain ⟨k, v⟩ := o
        simp only [List.lookup_cons, beq_false_of_ne (Ne.symm hne), ih hnodup.2 hrest]

/-- The values of a key in entries holding each key once, each with one value. -/
theorem lookup_map_singleton {options : List (String × String)}
    (hnodup : (options.map Prod.fst).Nodup) {key value : String} (hmem : (key, value) ∈ options) :
    (options.map fun o => (o.1, [o.2])).lookup key = some [value] :=
  lookup_eq_some_of_mem (by simpa [Function.comp_def] using hnodup) (List.mem_map_of_mem _ hmem)

/-- On an empty section, `Set`s of distinct keys leave exactly those keys, in order, each with
its one value. -/
theorem IniMultiSet.empty_setAll {options : List (String × String)}
    (hnodup : (options.map Prod.fst).Nodup) :
    (IniMultiSet.empty.setAll options).keys = options.map Prod.fst ∧
      ∀ key value, (key, value) ∈ options →
        (IniMultiSet.empty.setAll options).values key = [value] := by
  have hentries : (IniMultiSet.empty.setAll options).entries =
      IniMultiSet.empty.entries ++ options.map fun o => (o.1, [o.2]) :=
    IniMultiSet.setAll_entries hnodup fun _ _ h => List.not_mem_nil _ h
  refine ⟨by simp [IniMultiSet.keys, hentries, Function.comp_def], fun key value hmem => ?_⟩
  rw [IniMultiSet.values, hentries, IniMultiSet.empty_entries, List.nil_append,
    lookup_map_singleton hnodup hmem]
  rfl

/-! ### What a `Set` changes and what it leaves alone -/

/-- After setting `key`, its lookup is its one value; other keys keep theirs. -/
theorem lookup_setEntry (key value k : String) (entries : List (String × List String)) :
    (setEntry key value entries).lookup k = if k = key then some [value] else entries.lookup k := by
  induction entries with
  | nil => by_cases h : k = key <;> simp [setEntry, List.lookup_cons, h, beq_false_of_ne]
  | cons entry rest ih =>
      obtain ⟨k', vs⟩ := entry
      by_cases hk' : k' = key
      · subst hk'
        by_cases h : k = k' <;> simp [setEntry, List.lookup_cons, h, beq_false_of_ne]
      · by_cases h : k = k'
        · subst h
          simp [setEntry, List.lookup_cons, hk']
        · simp [setEntry, List.lookup_cons, hk', h, ih, beq_false_of_ne]

/-- The values of every key after `Set(option.1, option.2)`, from the values before. -/
def setValue (values : String → List String) (option : String × String) : String → List String :=
  fun k => if k = option.1 then [option.2] else values k

@[simp] theorem IniMultiSet.values_empty (key : String) : IniMultiSet.empty.values key = [] := rfl

/-- `Set(key, value)` changes only the values of `key`, to the one value `value`. -/
theorem IniMultiSet.values_set (ms : IniMultiSet) (key value : String) :
    (ms.set key value).values = setValue ms.values (key, value) := by
  funext k
  simp only [IniMultiSet.values, IniMultiSet.set, lookup_setEntry, setValue]
  split <;> rfl

/-- The values after a run of `Set`s: each one updates the values of its key. -/
theorem IniMultiSet.values_setAll (ms : IniMultiSet) (options : List (String × String)) :
    (ms.setAll options).values = options.foldl setValue ms.values := by
  induction options generalizing ms with
  | nil => rfl
  | cons option rest ih => exact (ih _).trans (by rw [IniMultiSet.values_set]; rfl)

/-- `Set`s of other keys leave a key's values alone. -/
theorem foldl_setValue_of_not_mem {key : String} {options : List (String × String)}
    (h : key ∉ options.map Prod.fst) (values : String → List String) :
    options.foldl setValue values key = values key := by
  induction options generalizing values with
  | nil => rfl
  | cons option rest ih =>
      rw [List.map_cons, List.mem_cons, not_or] at h
      rw [List.foldl_cons, ih h.2, setValue, if_neg h.1]

/-- After `Set`s of distinct keys, a key among them has the one value it was set to. -/
theorem foldl_setValue_of_mem {key value : String} {options : List (String × String)}
    (hnodup : (options.map Prod.fst).Nodup) (hmem : (key, value) ∈ options)
    (values : String → List String) : options.foldl setValue values key = [value] := by
  induction options generalizing values with
  | nil => cases hmem
  | cons option rest ih =>
      rw [List.map_cons, List.nodup_cons] at hnodup
      rw [List.foldl_cons]
      rcases List.mem_cons.mp hmem with rfl | hmem
      · rw [foldl_setValue_of_not_mem hnodup.1, setValue, if_pos rfl]
      · exact ih hnodup.2 hmem _

/-- A run of `Set`s that never names a key leaves its values as they were. -/
theorem IniMultiSet.values_setAll_of_not_mem (ms : IniMultiSet) {key : String}
    {options : List (String × String)} (h : key ∉ options.map Prod.fst) :
    (ms.setAll options).values key = ms.values key := by
  rw [IniMultiSet.values_setAll, foldl_setValue_of_not_mem h]

/-- After a run of `Set`s of distinct keys, a key among them holds the one value it was set to. -/
theorem IniMultiSet.values_setAll_of_mem (ms : IniMultiSet) {key value : String}
    {options : List (String × String)} (hnodup : (options.map Prod.fst).Nodup)
    (hmem : (key, value) ∈ options) : (ms.setAll options).values key = [value] := by
  rw [IniMultiSet.values_setAll, foldl_setValue_of_mem hnodup hmem]

/-- The values after a run of `Set`s depend on the section before only through its values. -/
theorem IniMultiSet.values_setAll_congr {ms ms' : IniMultiSet} (h : ms.values = ms'.values)
    (options : List (String × String)) : (ms.setAll options).values = (ms'.setAll options).values := by
  rw [IniMultiSet.values_setAll, IniMultiSet.values_setAll, h]

/-- `Set`s of distinct keys leave the same values in every order. -/
theorem IniMultiSet.values_setAll_perm (ms : IniMultiSet) {options options' : List (String × String)}
    (hperm : options.Perm options') (hnodup : (options.map Prod.fst).Nodup) :
    (ms.setAll options).values = (ms.setAll options').values := by
  rw [IniMultiSet.values_setAll, IniMultiSet.values_setAll]
  refine hperm.foldl_eq' (fun x hx y hy values => funext fun k => ?_) _
  by_cases hxy : x.1 = y.1
  · rw [List.inj_on_of_nodup_map hnodup hx hy hxy]
  · simp only [setValue]
    split_ifs with hy' hx' <;> first | rfl | exact absurd (hx'.symm.trans hy') hxy

/-- A loop whose iterations each run a list of `Set`s runs their concatenation. -/
theorem IniMultiSet.foldl_setAll {α : Type} (sets : α → List (String × String)) (items : List α)
    (ms : IniMultiSet) :
    items.foldl (fun ms item => ms.setAll (sets item)) ms = ms.setAll (items.flatMap sets) := by
  induction items generalizing ms with
  | nil => rfl
  | cons item items ih => rw [List.foldl_cons, ih, List.flatMap_cons, IniMultiSet.setAll_append]

/-- A `Set` adds its own key to the keys, and no other. -/
theorem IniMultiSet.mem_keys_set (ms : IniMultiSet) (key value k : String) :
    k ∈ (ms.set key value).keys ↔ k ∈ ms.keys ∨ k = key := by
  simp only [IniMultiSet.keys, IniMultiSet.set, map_fst_setEntry]
  split
  · exact ⟨Or.inl, fun h => h.elim id fun hk => hk ▸ ‹_›⟩
  · simp

/-- After a run of `Set`s, the keys are those before and those the run set. -/
theorem IniMultiSet.mem_keys_setAll (ms : IniMultiSet) (options : List (String × String))
    (k : String) : k ∈ (ms.setAll options).keys ↔ k ∈ ms.keys ∨ k ∈ options.map Prod.fst := by
  induction options generalizing ms with
  | nil => simp [IniMultiSet.setAll]
  | cons option rest ih =>
      show k ∈ ((ms.set option.1 option.2).setAll rest).keys ↔ _
      rw [ih, IniMultiSet.mem_keys_set, List.map_cons, List.mem_cons]
      tauto

/-- A key missing from the entries has no lookup. -/
theorem lookup_eq_none_of_not_mem {options : List (String × String)} {key : String}
    (h : key ∉ options.map Prod.fst) : options.lookup key = none := by
  induction options with
  | nil => rfl
  | cons o rest ih =>
      rw [List.map_cons, List.mem_cons, not_or] at h
      obtain ⟨k, v⟩ := o
      simp only [List.lookup_cons, beq_false_of_ne h.1, ih h.2]

/-- A Go `map[string]string` listed in the order one `range` loop visits it. A map holds
each key once. -/
structure GoMap where
  entries : List (String × String)
  keys_nodup : (entries.map Prod.fst).Nodup

/-- Modelled from the spec: an `iniSectionSet`, sections by name. -/
abbrev IniSectionSet := List (String × IniMultiSet)

/-- The section of a name, empty when there is none. -/
def IniSectionSet.section (sections : IniSectionSet) (name : String) : IniMultiSet :=
  (sections.lookup name).getD .empty

end IvoryOperator.PGBackRest
