import Mathlib.Order.Basic
import Mathlib.Algebra.Order.BigOperators.Group.List
import Mathlib.Algebra.Order.Group.Int
import Mathlib.Algebra.Ring.Int.Defs
import Mathlib.Logic.Relation
import Mathlib.Data.List.Perm.Basic

/-!
The containers of the validator core: `std::map<K, V>` and `std::set<K>` as lists
strictly ascending by key.

* `StdMap`: the entry list together with its sortedness, so a map with a repeated key cannot
  be built and every iteration (`for (auto& [k, v] : m)`) visits the keys in order;
* `find?`, `insert` (`m[k] = v`, which also stands for an in-place update `it->second.f = x`
  after a successful `find`), `erase`, `mapVals` (a loop that rewrites every value in place);
* `find?_insert`, `find?_insert_ne`, `find?_mapVals`: the lookup laws;
* `sumBy_insert`, `sumBy_mapVals`: how a finite sum over the stored values changes, the
  delta law every aggregate invariant of the ledger is built from.
-/

namespace WattxCore

/-- A `std::map<K, V>`: its entries in ascending key order, each key once. -/
structure StdMap (K : Type) [LinearOrder K] (V : Type) where
  entries : List (K × V)
  sorted : entries.Pairwise (fun a b => a.1 < b.1)

namespace StdMap

variable {K V W : Type} [LinearOrder K]

/-! ### The entry-list operations -/

/-- Lookup in an entry list: the value at the first entry with key `k`. -/
def lookupList (k : K) : List (K × V) → Option V
  | [] => none
  | p :: rest => if p.1 = k then some p.2 else lookupList k rest

/-- Ordered insertion that replaces the value of an existing key. -/
def insertList (k : K) (v : V) : List (K × V) → List (K × V)
  | [] => [(k, v)]
  | p :: rest =>
      if k < p.1 then (k, v) :: p :: rest
      else if k = p.1 then (k, v) :: rest
      else p :: insertList k v rest

lemma mem_insertList {k : K} {v : V} {a : K × V} :
    ∀ {l : List (K × V)}, a ∈ insertList k v l → a = (k, v) ∨ a ∈ l
  | [], h => by simpa [insertList] using h
  | p :: rest, h => by
      unfold insertList at h
      split_ifs at h
      · simpa using h
      · rcases List.mem_cons.mp h with h | h <;> simp [h]
      · rcases List.mem_cons.mp h with h | h
        · simp [h]
        · rcases mem_insertList h with h | h <;> simp [h]

lemma pairwise_insertList (k : K) (v : V) :
    ∀ {l : List (K × V)}, l.Pairwise (fun a b => a.1 < b.1) →
      (insertList k v l).Pairwise (fun a b => a.1 < b.1)
  | [], _ => by simp [insertList]
  | p :: rest, h => by
      have hp := List.pairwise_cons.mp h
      unfold insertList
      split_ifs with hlt heq
      · exact List.Pairwise.cons (fun a ha => by
          rcases List.mem_cons.mp ha with rfl | ha
          · exact hlt
          · exact hlt.trans (hp.1 a ha)) h
      · exact List.Pairwise.cons (fun a ha => heq ▸ hp.1 a ha) hp.2
      · refine List.Pairwise.cons (fun a ha => ?_) (pairwise_insertList k v hp.2)
        rcases mem_insertList ha with rfl | ha
        · exact lt_of_le_of_ne (not_lt.mp hlt) (Ne.symm heq)
        · exact hp.1 a ha

/-- A key below every key of a list is not found in it. -/
lemma lookupList_of_forall_lt {k : K} : ∀ {l : List (K × V)}, (∀ a ∈ l, k < a.1) →
    lookupList k l = none
  | [], _ => rfl
  | q :: l, hl => by
      simp only [lookupList, (hl q (by simp)).ne', if_false]
      exact lookupList_of_forall_lt fun a ha => hl a (by simp [ha])

/-- In a sorted list no entry below the head carries a key smaller than the head's. -/
lemma lookupList_of_lt {k : K} {p : K × V} {rest : List (K × V)}
    (h : (p :: rest).Pairwise (fun a b => a.1 < b.1)) (hk : k < p.1) :
    lookupList k (p :: rest) = none :=
  lookupList_of_forall_lt fun a ha => by
    rcases List.mem_cons.mp ha with rfl | ha
    · exact hk
    · exact hk.trans ((List.pairwise_cons.mp h).1 a ha)

/-- Two sorted entry lists with the same lookups are equal. -/
lemma eq_of_lookupList : ∀ {l₁ l₂ : List (K × V)}, l₁.Pairwise (fun a b => a.1 < b.1) →
    l₂.Pairwise (fun a b => a.1 < b.1) → (∀ k, lookupList k l₁ = lookupList k l₂) → l₁ = l₂
  | [], [], _, _, _ => rfl
  | [], q :: _, _, _, h => by simpa [lookupList] using (h q.1).symm
  | p :: _, [], _, _, h => by simpa [lookupList] using h p.1
  | p :: r₁, q :: r₂, h₁, h₂, h => by
      have hk : p.1 = q.1 := by
        rcases lt_trichotomy p.1 q.1 with hlt | heq | hgt
        · have := h p.1
          rw [lookupList_of_lt h₂ hlt] at this
          simp [lookupList] at this
        · exact heq
        · have := h q.1
          rw [lookupList_of_lt h₁ hgt] at this
          simp [lookupList] at this
      have hv : p.2 = q.2 := by simpa [lookupList, hk] using h p.1
      have hp₁ := List.pairwise_cons.mp h₁
      have hp₂ := List.pairwise_cons.mp h₂
      have hrest : r₁ = r₂ := eq_of_lookupList hp₁.2 hp₂.2 fun k => by
        by_cases hkp : p.1 = k
        · subst hkp
          rw [lookupList_of_forall_lt hp₁.1, lookupList_of_forall_lt (hk ▸ hp₂.1)]
        · simpa [lookupList, hkp, hk ▸ hkp] using h k
      rw [Prod.ext hk hv, hrest]

/-! ### The map interface -/

/-- The empty map. -/
def empty : StdMap K V := ⟨[], List.Pairwise.nil⟩

/-- `m.find(k)`: the value stored at `k`, if any. -/
def find? (m : StdMap K V) (k : K) : Option V := lookupList k m.entries

/-- `m[k] = v`: store `v` at `k`, replacing an existing value. -/
def insert (m : StdMap K V) (k : K) (v : V) : StdMap K V :=
  ⟨insertList k v m.entries, pairwise_insertList k v m.sorted⟩

/-- `m.erase(k)`. -/
def erase (m : StdMap K V) (k : K) : StdMap K V :=
  ⟨m.entries.filter (fun p => p.1 ≠ k), m.sorted.sublist (List.filter_sublist _)⟩

/-- A loop `for (auto& [k, v] : m)` that rewrites every value in place. -/
def mapVals (f : K → V → V) (m : StdMap K V) : StdMap K V :=
  ⟨m.entries.map (fun p => (p.1, f p.1 p.2)),
    List.Pairwise.map _ (fun _ _ h => h) m.sorted⟩

/-- `m.size()`. -/
def size (m : StdMap K V) : Nat := m.entries.length

/-- The keys in iteration order. -/
def keys (m : StdMap K V) : List K := m.entries.map Prod.fst

/-- The sum of `f` over the stored entries. -/
def sumBy (f : K → V → Int) (m : StdMap K V) : Int :=
  (m.entries.map (fun p => f p.1 p.2)).sum

/-- Maps are determined by their lookups. -/
lemma ext_find? {m m' : StdMap K V} (h : ∀ k, m.find? k = m'.find? k) : m = m' := by
  obtain ⟨l, hl⟩ := m
  obtain ⟨l', hl'⟩ := m'
  have : l = l' := eq_of_lookupList hl hl' h
  subst this
  rfl

/-- Two sets (maps to `Unit`) with the same members are equal. -/
lemma ext_isSome {m m' : StdMap K Unit} (h : ∀ k, (m.find? k).isSome ↔ (m'.find? k).isSome) : m = m' :=
  ext_find? fun k => by
    have hk := h k
    revert hk
    cases m.find? k <;> cases m'.find? k <;> simp

@[simp] lemma find?_empty (k : K) : (empty : StdMap K V).find? k = none := rfl

@[simp] lemma sumBy_empty (f : K → V → Int) : (empty : StdMap K V).sumBy f = 0 := rfl

@[simp] lemma find?_insert (m : StdMap K V) (k : K) (v : V) : (m.insert k v).find? k = some v := by
  obtain ⟨l, _⟩ := m
  simp only [find?, insert]
  induction l with
  | nil => simp [insertList, lookupList]
  | cons p rest ih =>
      unfold insertList
      split_ifs with h1 h2
      · simp [lookupList]
      · simp [lookupList]
      · simp [lookupList, Ne.symm h2, ih (List.pairwise_cons.mp ‹_›).2]

lemma find?_insert_ne (m : StdMap K V) {k k' : K} (v : V) (h : k ≠ k') :
    (m.insert k v).find? k' = m.find? k' := by
  obtain ⟨l, _⟩ := m
  simp only [find?, insert]
  induction l with
  | nil => simp [insertList, lookupList, h]
  | cons p rest ih =>
      unfold insertList
      split_ifs with h1 h2
      · simp [lookupList, h]
      · subst h2; simp [lookupList, h]
      · by_cases hp : p.1 = k' <;> simp [lookupList, hp, ih (List.pairwise_cons.mp ‹_›).2]

lemma find?_insert_eq (m : StdMap K V) (k k' : K) (v : V) :
    (m.insert k v).find? k' = if k = k' then some v else m.find? k' := by
  split_ifs with h
  · subst h; exact find?_insert m k v
  · exact find?_insert_ne m v h

@[simp] lemma find?_mapVals (f : K → V → V) (m : StdMap K V) (k : K) :
    (m.mapVals f).find? k = (m.find? k).map (f k) := by
  obtain ⟨l, _⟩ := m
  simp only [find?, mapVals]
  induction l with
  | nil => rfl
  | cons p rest ih =>
      by_cases hp : p.1 = k
      · subst hp; simp [lookupList]
      · simp [lookupList, hp, ih (List.pairwise_cons.mp ‹_›).2]

lemma find?_erase (m : StdMap K V) (k k' : K) :
    (m.erase k).find? k' = if k = k' then none else m.find? k' := by
  obtain ⟨l, _⟩ := m
  simp only [find?, erase]
  induction l with
  | nil => simp [lookupList]
  | cons p rest ih =>
      have ih := ih (List.pairwise_cons.mp ‹_›).2
      by_cases hp : p.1 = k
      · subst hp
        split_ifs with h
        · subst h; simpa [lookupList] using ih
        · simpa [lookupList, h] using ih
      · by_cases hp' : p.1 = k'
        · have hne : k ≠ k' := fun e => hp (hp'.trans e.symm)
          simp [lookupList, List.filter_cons, hp, hp', hne, Ne.symm hne]
        · simpa [lookupList, List.filter_cons, hp, hp'] using ih

@[simp] lemma size_mapVals (f : K → V → V) (m : StdMap K V) : (m.mapVals f).size = m.size := by
  simp [size, mapVals]

/-- A map's membership is its lookup: `(k, v)` is an entry exactly when `find? k = some v`. -/
lemma mem_entries_iff (m : StdMap K V) (k : K) (v : V) :
    (k, v) ∈ m.entries ↔ m.find? k = some v := by
  obtain ⟨l, hl⟩ := m
  simp only [find?]
  induction l with
  | nil => simp [lookupList]
  | cons p rest ih =>
      have hp := List.pairwise_cons.mp hl
      by_cases h : p.1 = k
      · subst h
        have hnot : (p.1, v) ∉ rest := fun hm => lt_irrefl p.1 (hp.1 (p.1, v) hm)
        obtain ⟨a, b⟩ := p
        simp [lookupList, hnot, eq_comm]
      · simp [lookupList, h, ih hp.2, Prod.ext_iff, Ne.symm h]

/-- A key is found exactly when it is among the keys. -/
lemma isSome_find?_iff_mem_keys (m : StdMap K V) (k : K) : (m.find? k).isSome ↔ k ∈ m.keys := by
  simp only [keys, List.mem_map, Option.isSome_iff_exists, ← mem_entries_iff]
  exact ⟨fun ⟨v, hv⟩ => ⟨(k, v), hv, rfl⟩, fun ⟨⟨k', v⟩, hv, hk⟩ => ⟨v, hk ▸ hv⟩⟩

/-! ### Sums over the stored values -/

/-- **The delta law**: storing `v` at `k` changes a sum over the map by `f k v`, less the
contribution of the value it replaces. -/
lemma sumBy_insert (f : K → V → Int) (m : StdMap K V) (k : K) (v : V) :
    (m.insert k v).sumBy f + (m.find? k).elim 0 (f k) = m.sumBy f + f k v := by
  obtain ⟨l, hl⟩ := m
  simp only [sumBy, insert, find?]
  induction l with
  | nil => simp [insertList, lookupList]
  | cons p rest ih =>
      have hp := List.pairwise_cons.mp hl
      unfold insertList
      split_ifs with h1 h2
      · rw [lookupList_of_lt hl h1]; simp; omega
      · subst h2; simp [lookupList]; omega
      · have hne : p.1 ≠ k := Ne.symm h2
        simp only [List.map_cons, List.sum_cons, lookupList, hne, if_false]
        have := ih hp.2
        omega

lemma sumBy_insert_of_find? (f : K → V → Int) {m : StdMap K V} {k : K} {v₀ : V}
    (h : m.find? k = some v₀) (v : V) :
    (m.insert k v).sumBy f = m.sumBy f - f k v₀ + f k v := by
  have := sumBy_insert f m k v
  rw [h] at this
  simp only [Option.elim] at this
  omega

lemma sumBy_insert_of_find?_none (f : K → V → Int) {m : StdMap K V} {k : K}
    (h : m.find? k = none) (v : V) :
    (m.insert k v).sumBy f = m.sumBy f + f k v := by
  have := sumBy_insert f m k v
  rw [h] at this
  simpa using this

lemma size_eq_sumBy (m : StdMap K V) : (m.size : Int) = m.sumBy fun _ _ => 1 := by
  simp only [size, sumBy]
  induction m.entries with
  | nil => rfl
  | cons p rest ih => simp only [List.length_cons, List.map_cons, List.sum_cons, ← ih]; omega

lemma size_insert_of_find?_none {m : StdMap K V} {k : K} (h : m.find? k = none) (v : V) :
    (m.insert k v).size = m.size + 1 := by
  have := sumBy_insert_of_find?_none (fun _ _ => 1) h v
  have := size_eq_sumBy (m.insert k v)
  have := size_eq_sumBy m
  omega

lemma sumBy_add (f g : K → V → Int) (m : StdMap K V) :
    m.sumBy (fun k v => f k v + g k v) = m.sumBy f + m.sumBy g := by
  simp [sumBy, List.sum_map_add]

@[simp] lemma sumBy_zero (m : StdMap K V) : m.sumBy (fun _ _ => 0) = 0 := by
  simp only [sumBy]
  induction m.entries with
  | nil => rfl
  | cons p rest ih => rw [List.map_cons, List.sum_cons, ih]; rfl

lemma size_insert_of_find? {m : StdMap K V} {k : K} {v₀ : V} (h : m.find? k = some v₀) (v : V) :
    (m.insert k v).size = m.size := by
  have := sumBy_insert_of_find? (fun _ _ => 1) h v
  have := size_eq_sumBy (m.insert k v)
  have := size_eq_sumBy m
  omega

lemma sumBy_mapVals (f : K → V → Int) (g : K → V → V) (m : StdMap K V) :
    (m.mapVals g).sumBy f = m.sumBy (fun k v => f k (g k v)) := by
  simp [sumBy, mapVals, Function.comp_def]

lemma sumBy_congr {f g : K → V → Int} (m : StdMap K V)
    (h : ∀ k v, m.find? k = some v → f k v = g k v) : m.sumBy f = m.sumBy g := by
  simp only [sumBy]
  congr 1
  exact List.map_congr_left fun p hp => h p.1 p.2 ((mem_entries_iff m _ _).mp hp)

lemma sumBy_nonneg {f : K → V → Int} (m : StdMap K V)
    (h : ∀ k v, m.find? k = some v → 0 ≤ f k v) : 0 ≤ m.sumBy f := by
  simp only [sumBy]
  exact List.sum_nonneg fun x hx => by
    obtain ⟨p, hp, rfl⟩ := List.mem_map.mp hx
    exact h p.1 p.2 ((mem_entries_iff m _ _).mp hp)

/-- One stored value bounds the sum from below when every summand is nonnegative. -/
lemma le_sumBy {f : K → V → Int} (m : StdMap K V) {k : K} {v : V} (hk : m.find? k = some v)
    (h : ∀ k v, m.find? k = some v → 0 ≤ f k v) : f k v ≤ m.sumBy f :=
  List.single_le_sum (M := Int) (fun x hx => by
      obtain ⟨p, hp, rfl⟩ := List.mem_map.mp hx
      exact h p.1 p.2 ((mem_entries_iff m _ _).mp hp))
    _ (List.mem_map.mpr ⟨(k, v), (mem_entries_iff m k v).mpr hk, rfl⟩)

/-- A sum that only counts key `k` reads the value stored at `k`. -/
lemma sumBy_key (m : StdMap K V) (k : K) (g : V → Int) :
    m.sumBy (fun k' v => if k' = k then g v else 0) = (m.find? k).elim 0 g := by
  have hzero : ∀ m' : StdMap K V, m'.find? k = none →
      m'.sumBy (fun k' v => if k' = k then g v else 0) = 0 := fun m' h => by
    rw [sumBy_congr m' (g := fun _ _ => 0) fun k' v hk' => if_neg (by rintro rfl; simp [h] at hk'),
      sumBy_zero]
  cases hk : m.find? k with
  | none => exact hzero m hk
  | some v =>
      have herase : (m.erase k).find? k = none := by rw [find?_erase, if_pos rfl]
      have hm : m = (m.erase k).insert k v := ext_find? fun k' => by
        rw [find?_insert_eq, find?_erase]
        split_ifs with h
        · exact h ▸ hk
        · rfl
      rw [hm, sumBy_insert_of_find?_none _ herase, hzero _ herase]
      simp

/-- Two finite sums over maps commute. -/
lemma sumBy_comm {K' V' : Type} [LinearOrder K'] (m : StdMap K V) (m' : StdMap K' V')
    (f : K → V → K' → V' → Int) :
    m.sumBy (fun k v => m'.sumBy fun k' v' => f k v k' v') =
      m'.sumBy (fun k' v' => m.sumBy fun k v => f k v k' v') := by
  simp only [sumBy]
  induction m.entries with
  | nil => exact (sumBy_zero m').symm
  | cons a rest ih => simp only [List.map_cons, List.sum_cons, ih, ← List.sum_map_add]

/-- The keys of the entries whose value satisfies `P`, each once. -/
lemma nodup_keys (m : StdMap K V) (P : V → Prop) [DecidablePred P] :
    ((m.entries.filter fun p => P p.2).map Prod.fst).Nodup :=
  (m.sorted.filter _).map Prod.fst fun _ _ h => ne_of_lt h

/-- A sum over the values found at a list of keys, each key once, that lists exactly the
entries satisfying `P`, is the sum over the map restricted to `P`. -/
lemma sum_filterMap_find? (m : StdMap K V) {ids : List K} (hnd : ids.Nodup)
    (P : V → Prop) [DecidablePred P] (hmem : ∀ k, k ∈ ids ↔ ∃ v, m.find? k = some v ∧ P v)
    (g : V → Int) :
    ((ids.filterMap m.find?).map g).sum = m.sumBy fun _ v => if P v then g v else 0 := by
  have hperm : ids.Perm ((m.entries.filter fun p => P p.2).map Prod.fst) :=
    (List.perm_ext_iff_of_nodup hnd (m.nodup_keys P)).mpr fun k => by
      simp [hmem, mem_entries_iff]
  rw [(hperm.filterMap _).map g |>.sum_eq, List.filterMap_map]
  have hfound : ∀ p ∈ m.entries.filter (fun p => P p.2), (m.find? ∘ Prod.fst) p = some p.2 :=
    fun p hp => (mem_entries_iff m p.1 p.2).mp (List.mem_filter.mp hp).1
  rw [List.filterMap_congr (g := fun p => some p.2) hfound, sumBy]
  clear hfound hperm hmem
  induction m.entries with
  | nil => rfl
  | cons p rest ih => by_cases hp : P p.2 <;> simp [List.filter_cons, hp, ih]

/-! ### In-place updates

The loops of the ledger rewrite entries they found, one at a time. `Updates R m m'` says
that `m'` arises from `m` so, each rewrite relating the old and the new value by `R`. -/

/-- `m'` arises from `m` by rewriting found entries, each rewrite in `R`. -/
inductive Updates (R : K → V → V → Prop) : StdMap K V → StdMap K V → Prop
  | refl (m : StdMap K V) : Updates R m m
  | insert {m m' : StdMap K V} {k : K} {v v' : V} :
      Updates R m m' → m'.find? k = some v → R k v v' → Updates R m (m'.insert k v')

namespace Updates

variable {R R' : K → V → V → Prop} {m m' m'' : StdMap K V}

lemma trans (h₁ : Updates R m m') (h₂ : Updates R m' m'') : Updates R m m'' := by
  induction h₂ with
  | refl => exact h₁
  | insert _ hk hr ih => exact .insert ih hk hr

lemma mono (hR : ∀ k v v', R k v v' → R' k v v') (h : Updates R m m') : Updates R' m m' := by
  induction h with
  | refl => exact .refl _
  | insert _ hk hr ih => exact .insert ih hk (hR _ _ _ hr)

lemma single {k : K} {v v' : V} (hk : m.find? k = some v) (hr : R k v v') :
    Updates R m (m.insert k v') :=
  .insert (.refl m) hk hr

/-- Rewrites keep the key set. -/
lemma isSome_find? (h : Updates R m m') (k : K) : (m'.find? k).isSome = (m.find? k).isSome := by
  induction h with
  | refl => rfl
  | insert _ hk _ ih =>
      rw [find?_insert_eq]
      split_ifs with he
      · subst he; simp [hk] at ih ⊢; exact ih
      · exact ih

/-- A property of the values that every rewrite keeps holds after the rewrites. -/
lemma forall_find? {P : K → V → Prop} (hR : ∀ k v v', R k v v' → P k v → P k v')
    (h : Updates R m m') (hm : ∀ k v, m.find? k = some v → P k v) :
    ∀ k v, m'.find? k = some v → P k v := by
  induction h with
  | refl => exact hm
  | insert _ hk hr ih =>
      intro k' v' hv'
      rw [find?_insert_eq] at hv'
      split_ifs at hv' with he
      · cases hv'; subst he; exact hR _ _ _ hr (ih _ _ hk)
      · exact ih _ _ hv'

/-- Each value after the rewrites is related to the value before by the reflexive-transitive
closure of the rewrites. -/
lemma find?_rel (h : Updates R m m') {k : K} {v' : V} (hk : m'.find? k = some v') :
    ∃ v, m.find? k = some v ∧ Relation.ReflTransGen (R k) v v' := by
  induction h generalizing v' with
  | refl => exact ⟨v', hk, .refl⟩
  | insert _ hk' hr ih =>
      rw [find?_insert_eq] at hk
      split_ifs at hk with he
      · cases hk; subst he
        obtain ⟨v₀, h₀, hrel⟩ := ih hk'
        exact ⟨v₀, h₀, hrel.tail hr⟩
      · exact ih hk

/-- A view of the values that every rewrite keeps is kept. -/
lemma map_find? {W : Type} {g : V → W} (hR : ∀ k v v', R k v v' → g v' = g v)
    (h : Updates R m m') (k : K) : (m'.find? k).map g = (m.find? k).map g := by
  induction h with
  | refl => rfl
  | insert _ hk hr ih =>
      rw [find?_insert_eq]
      split_ifs with he
      · subst he; rw [← ih, hk]; simp [hR _ _ _ hr]
      · exact ih

/-- A sum whose summands every rewrite keeps is kept. -/
lemma sumBy_eq {f : K → V → Int} (hR : ∀ k v v', R k v v' → f k v' = f k v)
    (h : Updates R m m') : m'.sumBy f = m.sumBy f := by
  induction h with
  | refl => rfl
  | insert _ hk hr ih => rw [sumBy_insert_of_find? f hk, hR _ _ _ hr, ih]; omega

/-- Rewrites keep the size. -/
lemma size_eq (h : Updates R m m') : m'.size = m.size := by
  have := h.sumBy_eq (f := fun _ _ => 1) fun _ _ _ _ => rfl
  have := size_eq_sumBy m
  have := size_eq_sumBy m'
  omega

end Updates

end StdMap

end WattxCore
