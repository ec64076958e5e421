/-!
# Tables

Named entries in the order in which the names first came. Writing to a name that is there keeps its
place.

* `Table`, the entries; `Table.get?`, `Table.put`, `Table.merge`;
* `get?_put`, `map_fst_put`: what a written table holds and how its names are ordered;
* `mem_merge`, `get?_merge_of_not_mem`, `get?_merge_of_forall`: what a merged table holds;
* `put_of_notMem`, `merge_of_nodup`: tables that are written and merged with new names.
-/

namespace Backtest

/-- Named entries in insertion order. -/
abbrev Table (β : Type) := List (String × β)

namespace Table

variable {β : Type}

/-- The entry of a name. -/
def get? (t : Table β) (name : String) : Option β := (t.find? (·.1 == name)).map (·.2)

/-- Whether a name has an entry. -/
def has (t : Table β) (name : String) : Bool := t.any (·.1 == name)

/-- The table with the entry of a name replaced in place, or added at the end. -/
def put : Table β → String → β → Table β
  | [], name, value => [(name, value)]
  | (n, v) :: t, name, value => if n == name then (n, value) :: t else (n, v) :: put t name value

/-- The first table with every entry of the second put into it, in order. -/
def merge (t u : Table β) : Table β := u.foldl (fun t e => t.put e.1 e.2) t

@[simp] theorem put_nil (name : String) (value : β) : put [] name value = [(name, value)] := rfl

@[simp] theorem merge_nil (t : Table β) : merge t [] = t := rfl

@[simp] theorem merge_cons (t : Table β) (e : String × β) (u : Table β) :
    merge t (e :: u) = merge (t.put e.1 e.2) u := rfl

theorem get?_cons (n : String) (v : β) (t : Table β) (m : String) :
    get? ((n, v) :: t) m = if n = m then some v else t.get? m := by
  by_cases h : n = m
  · simp [get?, h]
  · have : (n == m) = false := by simpa using h
    simp [get?, List.find?, h, this]

theorem get?_put (t : Table β) (name m : String) (value : β) :
    (t.put name value).get? m = if name = m then some value else t.get? m := by
  induction t with
  | nil => exact get?_cons name value [] m
  | cons e t ih =>
    obtain ⟨n, v⟩ := e
    unfold put
    by_cases hn : n = name
    · subst hn
      simp only [beq_self_eq_true, if_true, get?_cons]
      by_cases h : n = m <;> simp [h]
    · have hb : (n == name) = false := by simpa using hn
      simp only [hb, Bool.false_eq_true, if_false, get?_cons, ih]
      by_cases h : n = m
      · have : ¬name = m := fun e => hn (h.trans e.symm)
        simp [h, this]
      · simp [h]

/-- The entries of a table whose name does not occur in another are as they were after a merge. -/
theorem get?_merge_of_not_mem (t : Table β) {u : Table β} {m : String} (h : m ∉ u.map (·.1)) :
    (t.merge u).get? m = t.get? m := by
  induction u generalizing t with
  | nil => rfl
  | cons e u ih =>
    rw [List.map_cons, List.mem_cons, not_or] at h
    rw [merge_cons, ih _ h.2, get?_put, if_neg (Ne.symm h.1)]

theorem mem_of_get? {t : Table β} {m : String} {x : β} (h : t.get? m = some x) : (m, x) ∈ t := by
  obtain ⟨e, he, rfl⟩ := Option.map_eq_some_iff.mp h
  have hname := List.find?_some he
  rw [← eq_of_beq hname]
  exact List.mem_of_find?_eq_some he

theorem mem_put {t : Table β} {name : String} {value : β} {e : String × β}
    (h : e ∈ t.put name value) : e ∈ t ∨ e = (name, value) := by
  induction t with
  | nil => exact .inr (List.mem_singleton.mp h)
  | cons d t ih =>
    obtain ⟨n, v⟩ := d
    unfold put at h
    by_cases hn : n = name
    · subst hn
      simp only [beq_self_eq_true, if_true, List.mem_cons] at h
      rcases h with h | h
      · exact .inr h
      · exact .inl (List.mem_cons_of_mem _ h)
    · have hb : (n == name) = false := by simpa using hn
      simp only [hb, Bool.false_eq_true, if_false, List.mem_cons] at h
      rcases h with rfl | h
      · exact .inl List.mem_cons_self
      · exact (ih h).imp_left (List.mem_cons_of_mem _)

/-- What stands in a table after a merge comes from one of the two. -/
theorem mem_merge {t u : Table β} {e : String × β} (h : e ∈ t.merge u) : e ∈ t ∨ e ∈ u := by
  induction u generalizing t with
  | nil => exact .inl h
  | cons d u ih =>
    rcases ih h with h | h
    · rcases mem_put h with h | rfl
      · exact .inl h
      · exact .inr List.mem_cons_self
    · exact .inr (List.mem_cons_of_mem _ h)

/-- A name whose entries all say the same has what they say after a merge. -/
theorem get?_merge_of_forall (t : Table β) {u : Table β} {m : String} {x : β}
    (h : ∀ e ∈ u, e.1 = m → e.2 = x) (hm : m ∈ u.map (·.1)) : (t.merge u).get? m = some x := by
  induction u generalizing t with
  | nil => simp at hm
  | cons e u ih =>
    rw [merge_cons]
    by_cases hu : m ∈ u.map (·.1)
    · exact ih _ (fun d hd => h d (List.mem_cons_of_mem e hd)) hu
    · rw [List.map_cons, List.mem_cons] at hm
      have he : m = e.1 := hm.resolve_right hu
      rw [get?_merge_of_not_mem _ hu, get?_put, if_pos he.symm, h e List.mem_cons_self he.symm]

/-- Putting an entry keeps the order of the names and adds at most its own at the end. -/
theorem map_fst_put (t : Table β) (name : String) (value : β) :
    (t.put name value).map (·.1) =
      if t.has name then t.map (·.1) else t.map (·.1) ++ [name] := by
  induction t with
  | nil => simp [has]
  | cons e t ih =>
    obtain ⟨n, v⟩ := e
    unfold put
    by_cases hn : n = name
    · subst hn
      simp [has]
    · simp only [has] at ih
      simp only [hn, has, List.map_cons, ih, List.any_cons, beq_iff_eq, Bool.or_eq_true, if_false]
      by_cases h : t.any (fun x => x.1 == name) = true <;> simp [h]

/-- A new name comes last. -/
theorem put_of_notMem {t : Table β} {name : String} (h : name ∉ t.map (·.1)) (value : β) :
    t.put name value = t ++ [(name, value)] := by
  induction t with
  | nil => rfl
  | cons e t ih =>
    obtain ⟨n, v⟩ := e
    rw [List.map_cons, List.mem_cons, not_or] at h
    have hn : (n == name) = false := beq_eq_false_iff_ne.mpr (Ne.symm h.1)
    rw [put, hn, ih h.2]
    rfl

/-- New names come behind the others. -/
theorem merge_of_nodup {t u : Table β} (h : ((t ++ u).map (·.1)).Nodup) : t.merge u = t ++ u := by
  induction u generalizing t with
  | nil => exact (List.append_nil t).symm
  | cons e u ih =>
    have hnew : e.1 ∉ t.map (·.1) := by
      rw [List.map_append, List.map_cons] at h
      exact fun hmem => (List.nodup_append.mp h).2.2 _ hmem _ List.mem_cons_self rfl
    have happend : t ++ e :: u = t ++ [e] ++ u := by simp
    rw [happend] at h ⊢
    rw [merge_cons, put_of_notMem hnew, ih h]

end Table

end Backtest
