import Mathlib.Data.List.Sort
import Mathlib.Data.List.Nodup

namespace AdkGateway.Foundation

variable {ρ κ : Type}

@[ext]
structure Table (key : ρ → κ) where
  rows : List ρ
  nodup : (rows.map key).Nodup

namespace Table

variable {key : ρ → κ}

/-- `CREATE TABLE`. -/
def empty : Table key := ⟨[], List.nodup_nil⟩

/-- `DELETE FROM .. WHERE p`. -/
def deleteWhere (p : ρ → Bool) (t : Table key) : Table key where
  rows := t.rows.filter fun x ↦ !p x
  nodup := (List.filter_sublist.map key).nodup t.nodup

/-- `SELECT .. WHERE p`. -/
def select (p : ρ → Bool) (t : Table key) : List ρ := t.rows.filter p

/-- `UPDATE .. WHERE p`, with an assignment that keeps the key. -/
def updateWhere (p : ρ → Bool) (f : ρ → ρ) (hf : ∀ x, key (f x) = key x) (t : Table key) :
    Table key where
  rows := t.rows.map fun x ↦ if p x then f x else x
  nodup := by
    have hkey : (fun x ↦ key (if p x then f x else x)) = key := by
      funext x
      split
      · exact hf x
      · rfl
    simpa only [List.map_map, Function.comp_def, hkey] using t.nodup

theorem foldl_deleteWhere [DecidableEq κ] (ks : List κ) (t : Table key) :
    ks.foldl (fun t k ↦ t.deleteWhere fun x ↦ key x = k) t =
      t.deleteWhere fun x ↦ key x ∈ ks := by
  induction ks generalizing t with
  | nil =>
    ext1
    simp [deleteWhere]
  | cons k ks ih =>
    rw [List.foldl_cons, ih]
    ext1
    simp only [deleteWhere, List.filter_filter]
    apply List.filter_congr
    intro x _
    by_cases h : key x = k <;> by_cases h' : key x ∈ ks <;> simp [h, h']

theorem key_inj (t : Table key) {x y : ρ} (hx : x ∈ t.rows) (hy : y ∈ t.rows)
    (h : key x = key y) : x = y :=
  List.inj_on_of_nodup_map t.nodup hx hy h

theorem rows_updateWhere (p : ρ → Bool) (f : ρ → ρ) (hf : ∀ x, key (f x) = key x)
    (t : Table key) : (t.updateWhere p f hf).rows = t.rows.map fun x ↦ if p x then f x else x := rfl

@[simp] theorem mem_rows_deleteWhere {p : ρ → Bool} {t : Table key} {x : ρ} :
    x ∈ (t.deleteWhere p).rows ↔ x ∈ t.rows ∧ p x = false := by
  simp [deleteWhere]

@[simp] theorem mem_select {p : ρ → Bool} {t : Table key} {x : ρ} :
    x ∈ t.select p ↔ x ∈ t.rows ∧ p x = true := List.mem_filter

theorem select_deleteWhere_of {p q : ρ → Bool} {t : Table key}
    (h : ∀ x ∈ t.rows, q x = true → p x = false) :
    (t.deleteWhere p).select q = t.select q := by
  simp only [select, deleteWhere, List.filter_filter]
  apply List.filter_congr
  intro x hx
  cases hq : q x
  · simp
  · simp [h x hx hq]

variable [DecidableEq κ]

/-- `INSERT OR REPLACE`: the row takes the place of the one with its key. -/
def insertOrReplace (r : ρ) (t : Table key) : Table key where
  rows := t.rows.filter (fun x ↦ key x ≠ key r) ++ [r]
  nodup := by
    simp only [List.map_append, List.map_cons, List.map_nil]
    rw [List.nodup_append]
    refine ⟨(List.filter_sublist.map key).nodup t.nodup, List.nodup_singleton _, ?_⟩
    intro a ha b hb
    obtain ⟨x, hx, rfl⟩ := List.mem_map.mp ha
    rw [List.mem_singleton.mp hb]
    simpa using (List.mem_filter.mp hx).2

/-- `INSERT`: refused if a row has the key. -/
def insert? (r : ρ) (t : Table key) : Option (Table key) :=
  if h : key r ∈ t.rows.map key then none
  else some
    { rows := t.rows ++ [r]
      nodup := by
        rw [List.map_append, List.nodup_append]
        refine ⟨t.nodup, List.nodup_singleton _, fun a ha b hb hab ↦ h ?_⟩
        rw [← List.mem_singleton.mp hb, ← hab]
        exact ha }

def find (k : κ) (t : Table key) : Option ρ := t.rows.find? fun x ↦ key x = k

@[simp] theorem mem_rows_insertOrReplace {r : ρ} {t : Table key} {x : ρ} :
    x ∈ (t.insertOrReplace r).rows ↔ (x ∈ t.rows ∧ key x ≠ key r) ∨ x = r := by
  simp [insertOrReplace]

theorem rows_insert_fresh {r : ρ} {t : Table key} (h : ∀ x ∈ t.rows, key x ≠ key r) :
    (t.insertOrReplace r).rows = t.rows ++ [r] := by
  simp only [insertOrReplace]
  rw [List.filter_eq_self.mpr]
  intro x hx
  simpa using h x hx

theorem find_eq_some_iff {t : Table key} {k : κ} {r : ρ} :
    t.find k = some r ↔ r ∈ t.rows ∧ key r = k := by
  constructor
  · intro h
    exact ⟨List.mem_of_find?_eq_some h, by simpa using List.find?_some h⟩
  · rintro ⟨hr, rfl⟩
    cases hf : t.find (key r) with
    | none =>
      have h := List.find?_eq_none.mp hf r hr
      simp at h
    | some y =>
      have hy := List.mem_of_find?_eq_some hf
      have hk : key y = key r := by simpa using List.find?_some hf
      rw [t.key_inj hy hr hk]

theorem find_eq_none_iff {t : Table key} {k : κ} : t.find k = none ↔ k ∉ t.rows.map key := by
  simp only [find, List.find?_eq_none, decide_eq_true_eq, List.mem_map, not_exists, not_and]

theorem insert?_eq_some {r : ρ} {t t' : Table key} (h : t.insert? r = some t') :
    t.find (key r) = none ∧ t'.rows = t.rows ++ [r] := by
  unfold insert? at h
  split at h
  · cases h
  · next hnew =>
    cases h
    exact ⟨find_eq_none_iff.mpr hnew, rfl⟩

theorem insert?_eq_none_iff {r : ρ} {t : Table key} :
    t.insert? r = none ↔ (t.find (key r)).isSome := by
  unfold insert?
  rw [← Option.ne_none_iff_isSome, Ne, find_eq_none_iff, not_not]
  split
  · next h => exact iff_of_true rfl h
  · next h => exact iff_of_false (Option.some_ne_none _) h

theorem find_updateWhere (k' : κ) (f : ρ → ρ) (hf : ∀ x, key (f x) = key x) (t : Table key)
    (k : κ) : (t.updateWhere (fun x ↦ key x = k') f hf).find k =
      if k = k' then (t.find k).map f else t.find k := by
  have hkey (x : ρ) : key (if key x = k' then f x else x) = key x := by
    split
    · exact hf x
    · rfl
  simp only [find, updateWhere, List.find?_map, Function.comp_def, decide_eq_true_eq, hkey]
  cases hfind : t.rows.find? (fun x ↦ decide (key x = k)) with
  | none => split <;> rfl
  | some x =>
    have hx : key x = k := by simpa using List.find?_some hfind
    subst hx
    rw [Option.map_some]
    split <;> rfl

theorem updateWhere_congr {f g : ρ → ρ} {hf : ∀ x, key (f x) = key x}
    {hg : ∀ x, key (g x) = key x} {t : Table key} {k : κ} {r : ρ} (hr : t.find k = some r)
    (hfg : f r = g r) :
    t.updateWhere (fun x ↦ key x = k) f hf = t.updateWhere (fun x ↦ key x = k) g hg := by
  ext1
  refine List.map_congr_left fun x hx ↦ ?_
  by_cases hk : key x = k
  · rw [Option.some_inj.mp ((find_eq_some_iff.mpr ⟨hx, hk⟩).symm.trans hr), hfg]
  · simp only [hk, decide_false, Bool.false_eq_true, if_false]

theorem find_insertOrReplace (r : ρ) (t : Table key) (k : κ) :
    (t.insertOrReplace r).find k = if k = key r then some r else t.find k := by
  apply Option.ext
  intro y
  rw [find_eq_some_iff, mem_rows_insertOrReplace]
  split
  · rename_i h
    subst h
    simp only [Option.some_inj]
    constructor
    · rintro ⟨⟨_, hne⟩ | rfl, hk⟩
      · exact absurd hk hne
      · rfl
    · rintro rfl
      exact ⟨.inr rfl, rfl⟩
  · rename_i h
    rw [find_eq_some_iff]
    constructor
    · rintro ⟨⟨hy, _⟩ | rfl, hk⟩
      · exact ⟨hy, hk⟩
      · exact absurd hk.symm h
    · rintro ⟨hy, rfl⟩
      exact ⟨.inl ⟨hy, h⟩, rfl⟩

theorem find_deleteWhere (p : ρ → Bool) (t : Table key) (k : κ) :
    (t.deleteWhere p).find k = (t.find k).filter fun x ↦ !p x := by
  apply Option.ext
  intro y
  rw [find_eq_some_iff, Option.filter_eq_some_iff, find_eq_some_iff, mem_rows_deleteWhere]
  simp only [Bool.not_eq_true']
  tauto

/-- An insert is invisible to a query that neither the new row nor the row
it replaces answers. -/
theorem select_insertOrReplace_of {q : ρ → Bool} {r : ρ} {t : Table key} (hr : q r = false)
    (h : ∀ x ∈ t.rows, key x = key r → q x = false) :
    (t.insertOrReplace r).select q = t.select q := by
  simp only [select, insertOrReplace, List.filter_append, List.filter_filter, List.filter_cons, hr,
    Bool.false_eq_true, if_false, List.filter_nil, List.append_nil]
  apply List.filter_congr
  intro x hx
  by_cases hk : key x = key r
  · simp [hk, h x hx hk]
  · simp [hk]

def insertAll (rs : List ρ) (t : Table key) : Table key :=
  rs.foldl (fun t r ↦ t.insertOrReplace r) t

theorem mem_rows_insertAll {rs : List ρ} {t : Table key} {x : ρ}
    (h : x ∈ (t.insertAll rs).rows) : x ∈ t.rows ∨ x ∈ rs := by
  induction rs generalizing t with
  | nil => exact .inl h
  | cons r rs ih =>
    rcases ih h with h | h
    · rcases mem_rows_insertOrReplace.mp h with ⟨h, _⟩ | rfl
      · exact .inl h
      · exact .inr List.mem_cons_self
    · exact .inr (List.mem_cons_of_mem r h)

theorem select_insertAll_of {q : ρ → Bool} {rs : List ρ} {t : Table key}
    (hr : ∀ r ∈ rs, q r = false) (h : ∀ r ∈ rs, ∀ x ∈ t.rows, key x = key r → q x = false) :
    (t.insertAll rs).select q = t.select q := by
  induction rs generalizing t with
  | nil => rfl
  | cons r rs ih =>
    have hhead := hr r List.mem_cons_self
    have htail : ∀ r' ∈ rs, ∀ x ∈ (t.insertOrReplace r).rows, key x = key r' → q x = false := by
      intro r' hr' x hx hk
      rcases mem_rows_insertOrReplace.mp hx with ⟨hx, _⟩ | rfl
      · exact h r' (List.mem_cons_of_mem r hr') x hx hk
      · exact hhead
    have hrest := ih (fun r' hr' ↦ hr r' (List.mem_cons_of_mem r hr')) htail
    exact hrest.trans (select_insertOrReplace_of hhead (h r List.mem_cons_self))

end Table

namespace Table

variable {key : ρ → κ} [LinearOrder κ]

/-- `SELECT .. ORDER BY` the primary key. -/
def orderByKey (t : Table key) : List ρ := t.rows.insertionSort fun x y ↦ key x ≤ key y

@[simp] theorem mem_orderByKey {t : Table key} {x : ρ} : x ∈ t.orderByKey ↔ x ∈ t.rows :=
  List.mem_insertionSort _

theorem perm_orderByKey (t : Table key) : t.orderByKey.Perm t.rows := List.perm_insertionSort _ _

theorem pairwise_orderByKey (t : Table key) :
    t.orderByKey.Pairwise fun x y ↦ key x ≤ key y := by
  have : Std.Total fun x y : ρ ↦ key x ≤ key y := ⟨fun x y ↦ le_total (key x) (key y)⟩
  have : IsTrans ρ fun x y ↦ key x ≤ key y := ⟨fun _ _ _ h h' ↦ h.trans h'⟩
  exact List.pairwise_insertionSort _ _

/-- Distinct keys leave only one sorted order. -/
theorem eq_orderByKey {t : Table key} {l : List ρ} (hp : l.Perm t.rows)
    (hs : l.Pairwise fun x y ↦ key x ≤ key y) : l = t.orderByKey := by
  apply List.Perm.eq_of_pairwise _ hs t.pairwise_orderByKey (hp.trans t.perm_orderByKey.symm)
  intro x y hx hy hxy hyx
  exact t.key_inj (hp.subset hx) (mem_orderByKey.mp hy) (le_antisymm hxy hyx)

theorem orderByKey_deleteWhere (p : ρ → Bool) (t : Table key) :
    (t.deleteWhere p).orderByKey = t.orderByKey.filter fun x ↦ !p x :=
  (eq_orderByKey (t.perm_orderByKey.filter _) (t.pairwise_orderByKey.filter _)).symm

theorem orderByKey_insert_above {r : ρ} {t : Table key} (h : ∀ x ∈ t.rows, key x < key r) :
    (t.insertOrReplace r).orderByKey = t.orderByKey ++ [r] := by
  symm
  apply eq_orderByKey
  · rw [rows_insert_fresh fun x hx ↦ (h x hx).ne]
    exact t.perm_orderByKey.append_right [r]
  · rw [List.pairwise_append]
    refine ⟨t.pairwise_orderByKey, List.pairwise_singleton _ _, ?_⟩
    intro x hx y hy
    rw [List.mem_singleton.mp hy]
    exact (h x (mem_orderByKey.mp hx)).le

/-- Rows with increasing keys above all others come last, in their order. -/
theorem orderByKey_insertAll_above {rs : List ρ} {t : Table key}
    (hs : rs.Pairwise fun x y ↦ key x < key y) (h : ∀ r ∈ rs, ∀ x ∈ t.rows, key x < key r) :
    (t.insertAll rs).orderByKey = t.orderByKey ++ rs := by
  induction rs generalizing t with
  | nil => simp [insertAll]
  | cons r rs ih =>
    obtain ⟨hfirst, hs⟩ := List.pairwise_cons.mp hs
    have habove : ∀ r' ∈ rs, ∀ x ∈ (t.insertOrReplace r).rows, key x < key r' := by
      intro r' hr' x hx
      rcases mem_rows_insertOrReplace.mp hx with ⟨hx, _⟩ | rfl
      · exact h r' (List.mem_cons_of_mem r hr') x hx
      · exact hfirst r' hr'
    have hrest := ih hs habove
    rw [orderByKey_insert_above (h r List.mem_cons_self), List.append_assoc] at hrest
    exact hrest

end Table

end AdkGateway.Foundation
