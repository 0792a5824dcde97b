import Mathlib.Data.String.Basic

/-!
# `BTreeMap`: an ordered map

The manifest keeps its permissions and permission sets in
`std::collections::BTreeMap<String, _>`.  What the code relies on is the map's meaning, not
its tree: a list of entries with strictly increasing keys, where `insert` overwrites the value
of an equal key.  The invariant is a field of the structure, so every map the model builds is
canonical, and two maps with the same lookups are equal (`BTreeMap.ext`).

Three operations of the standard library appear in the source:

* `insert`, which `Extend` applies to each pair in turn (`BTreeMap.extend`);
* `collect::<BTreeMap<_, _>>()`, the `FromIterator` impl (`BTreeMap.fromIter`).  The standard
  library sorts the pairs stably and keeps the last of equal keys, which is the map the
  pairs give when inserted one after the other; the model inserts them;
* iteration in key order (`BTreeMap.entries`), which serialization walks.

The lookup lemmas all say the same thing: a key maps to the value of its **last** pair
(`get?_extend`, `get?_fromIter`).  On a list of entries that is `getEntry?` of the reversed
list.
-/

namespace Tauri

/-! ### Entry lists -/

section Entries

variable {κ α : Type} [LinearOrder κ]

/-- The value of the first entry with key `k`. -/
def getEntry? (k : κ) : List (κ × α) → Option α
  | [] => none
  | (k', v) :: rest => if k' = k then some v else getEntry? k rest

/-- Insertion into a list sorted by key: overwrite an equal key, else insert in place. -/
def insertEntry (k : κ) (v : α) : List (κ × α) → List (κ × α)
  | [] => [(k, v)]
  | (k', v') :: rest =>
    if k < k' then (k, v) :: (k', v') :: rest
    else if k' = k then (k, v) :: rest
    else (k', v') :: insertEntry k v rest

@[simp] theorem getEntry?_nil (k : κ) : getEntry? k ([] : List (κ × α)) = none := rfl

theorem getEntry?_cons (k k' : κ) (v : α) (rest : List (κ × α)) :
    getEntry? k ((k', v) :: rest) = if k' = k then some v else getEntry? k rest := rfl

theorem getEntry?_append (k : κ) (l₁ l₂ : List (κ × α)) :
    getEntry? k (l₁ ++ l₂) = (getEntry? k l₁).or (getEntry? k l₂) := by
  induction l₁ with
  | nil => rfl
  | cons e rest ih => by_cases h : e.1 = k <;> simp [getEntry?, h, ih]

theorem getEntry?_eq_none {k : κ} {l : List (κ × α)} (h : ∀ e ∈ l, e.1 ≠ k) :
    getEntry? k l = none := by
  induction l with
  | nil => rfl
  | cons e rest ih =>
    simp only [List.mem_cons, forall_eq_or_imp] at h
    simp [getEntry?, h.1, ih h.2]

theorem isSome_getEntry? (k : κ) (l : List (κ × α)) :
    (getEntry? k l).isSome ↔ ∃ e ∈ l, e.1 = k := by
  induction l with
  | nil => simp
  | cons e rest ih => by_cases h : e.1 = k <;> simp [getEntry?, h, ih]

/-- **Insertion changes exactly one key.**  No sortedness is needed. -/
theorem getEntry?_insertEntry (k k' : κ) (v : α) (l : List (κ × α)) :
    getEntry? k' (insertEntry k v l) = if k = k' then some v else getEntry? k' l := by
  induction l with
  | nil => rfl
  | cons e rest ih =>
    obtain ⟨k₀, v₀⟩ := e
    by_cases hlt : k < k₀
    · simp [insertEntry, hlt, getEntry?]
    · by_cases heq : k₀ = k
      · subst heq; by_cases h : k₀ = k' <;> simp [insertEntry, getEntry?, h]
      · simp only [insertEntry, hlt, heq, if_false, getEntry?, ih]
        by_cases h : k₀ = k' <;> by_cases h' : k = k' <;> simp_all

theorem mem_insertEntry {k : κ} {v : α} {l : List (κ × α)} {e : κ × α}
    (he : e ∈ insertEntry k v l) : e.1 = k ∨ e ∈ l := by
  induction l with
  | nil => simp_all [insertEntry]
  | cons d rest ih =>
    obtain ⟨k₀, v₀⟩ := d
    unfold insertEntry at he
    split_ifs at he <;> simp only [List.mem_cons] at he ⊢
    · rcases he with rfl | he <;> simp_all
    · rcases he with rfl | he <;> simp_all
    · rcases he with rfl | he
      · simp
      · rcases ih he with h | h <;> simp_all

/-- Keys strictly increase along the list. -/
def KeysSorted (l : List (κ × α)) : Prop := l.Pairwise (fun a b => a.1 < b.1)

theorem KeysSorted.insertEntry {l : List (κ × α)} (h : KeysSorted l) (k : κ) (v : α) :
    KeysSorted (insertEntry k v l) := by
  induction l with
  | nil => simp [KeysSorted, Tauri.insertEntry]
  | cons d rest ih =>
    obtain ⟨k₀, v₀⟩ := d
    simp only [KeysSorted, List.pairwise_cons] at h
    unfold Tauri.insertEntry
    split_ifs with hlt heq
    · simp only [KeysSorted, List.pairwise_cons, List.mem_cons, forall_eq_or_imp]
      exact ⟨⟨hlt, fun e he => hlt.trans (h.1 e he)⟩, h.1, h.2⟩
    · subst heq; simpa [KeysSorted] using h
    · have hgt : k₀ < k := lt_of_le_of_ne (not_lt.mp hlt) heq
      refine List.pairwise_cons.mpr ⟨fun e he => ?_, ih h.2⟩
      rcases mem_insertEntry he with h' | h'
      · exact h' ▸ hgt
      · exact h.1 e h'

/-- In a sorted list no key occurs twice, so the first entry of a key is also its last. -/
theorem KeysSorted.getEntry?_reverse {l : List (κ × α)} (h : KeysSorted l) (k : κ) :
    getEntry? k l.reverse = getEntry? k l := by
  induction l with
  | nil => rfl
  | cons e rest ih =>
    simp only [KeysSorted, List.pairwise_cons] at h
    rw [List.reverse_cons, getEntry?_append, ih h.2]
    by_cases he : e.1 = k
    · have : getEntry? k rest = none :=
        getEntry?_eq_none fun d hd => he ▸ (ne_of_lt (h.1 d hd)).symm
      simp [this, getEntry?, he]
    · simp [getEntry?, he, Option.or_none]

/-- **Sorted entry lists are determined by their lookups.** -/
theorem KeysSorted.eq_of_getEntry? {l₁ l₂ : List (κ × α)} (h₁ : KeysSorted l₁)
    (h₂ : KeysSorted l₂) (h : ∀ k, getEntry? k l₁ = getEntry? k l₂) : l₁ = l₂ := by
  induction l₁ generalizing l₂ with
  | nil =>
    cases l₂ with
    | nil => rfl
    | cons e _ => simpa [getEntry?] using (h e.1).symm
  | cons e₁ r₁ ih =>
    cases l₂ with
    | nil => simpa [getEntry?] using h e₁.1
    | cons e₂ r₂ =>
      simp only [KeysSorted, List.pairwise_cons] at h₁ h₂
      have hk : e₁.1 = e₂.1 := by
        by_contra hne
        rcases lt_or_gt_of_ne hne with hlt | hlt
        · have := h e₁.1
          rw [getEntry?_cons, getEntry?_cons, if_neg (Ne.symm hne),
            getEntry?_eq_none fun d hd => (hlt.trans (h₂.1 d hd)).ne'] at this
          simp at this
        · have := h e₂.1
          rw [getEntry?_cons, getEntry?_cons, if_neg hne,
            getEntry?_eq_none fun d hd => (hlt.trans (h₁.1 d hd)).ne'] at this
          simp at this
      have hv : e₁.2 = e₂.2 := by simpa [getEntry?, hk] using h e₁.1
      have hr : ∀ k, getEntry? k r₁ = getEntry? k r₂ := by
        intro k
        by_cases hke : e₁.1 = k
        · rw [getEntry?_eq_none fun d hd => hke ▸ (h₁.1 d hd).ne',
            getEntry?_eq_none fun d hd => hke ▸ hk ▸ (h₂.1 d hd).ne']
        · simpa [getEntry?, hke, ← hk] using h k
      rw [Prod.ext hk hv, ih h₁.2 h₂.2 hr]

end Entries

/-! ### The map -/

/-- `BTreeMap<K, V>`: entries in strictly increasing key order. -/
structure BTreeMap (κ α : Type) [LinearOrder κ] where
  entries : List (κ × α)
  sorted : KeysSorted entries

namespace BTreeMap

variable {κ α : Type} [LinearOrder κ]

/-- `BTreeMap::new`. -/
def new : BTreeMap κ α := ⟨[], List.Pairwise.nil⟩

/-- `BTreeMap::get`. -/
def get? (m : BTreeMap κ α) (k : κ) : Option α := getEntry? k m.entries

/-- `BTreeMap::insert`: the value of an equal key is overwritten. -/
def insert (m : BTreeMap κ α) (k : κ) (v : α) : BTreeMap κ α :=
  ⟨insertEntry k v m.entries, m.sorted.insertEntry k v⟩

/-- `Extend<(K, V)>`: insert each pair, in order. -/
def extend (m : BTreeMap κ α) (l : List (κ × α)) : BTreeMap κ α :=
  l.foldl (fun m e => m.insert e.1 e.2) m

/-- `FromIterator<(K, V)>`, that is `collect::<BTreeMap<_, _>>()`. -/
def fromIter (l : List (κ × α)) : BTreeMap κ α := new.extend l

/-- The keys, in order. -/
def keys (m : BTreeMap κ α) : List κ := m.entries.map Prod.fst

instance [DecidableEq κ] [DecidableEq α] : DecidableEq (BTreeMap κ α) := fun a b =>
  decidable_of_iff (a.entries = b.entries) (by cases a; cases b; simp)

@[simp] theorem get?_new (k : κ) : (new : BTreeMap κ α).get? k = none := rfl

@[simp] theorem get?_insert (m : BTreeMap κ α) (k k' : κ) (v : α) :
    (m.insert k v).get? k' = if k = k' then some v else m.get? k' :=
  getEntry?_insertEntry k k' v m.entries

@[simp] theorem extend_nil (m : BTreeMap κ α) : m.extend [] = m := rfl

@[simp] theorem extend_cons (m : BTreeMap κ α) (e : κ × α) (l : List (κ × α)) :
    m.extend (e :: l) = (m.insert e.1 e.2).extend l := rfl

theorem extend_append (m : BTreeMap κ α) (l₁ l₂ : List (κ × α)) :
    m.extend (l₁ ++ l₂) = (m.extend l₁).extend l₂ := List.foldl_append _ _ _ _

/-- **Maps with the same lookups are equal.** -/
@[ext] theorem ext {m₁ m₂ : BTreeMap κ α} (h : ∀ k, m₁.get? k = m₂.get? k) : m₁ = m₂ := by
  cases m₁; cases m₂
  simp only [mk.injEq]
  exact KeysSorted.eq_of_getEntry? ‹_› ‹_› h

/-- **Last pair wins**: after `extend`, a key maps to the value of its last pair, and keys
the pairs do not mention keep their value. -/
theorem get?_extend (m : BTreeMap κ α) (l : List (κ × α)) (k : κ) :
    (m.extend l).get? k = (getEntry? k l.reverse).or (m.get? k) := by
  induction l generalizing m with
  | nil => rfl
  | cons e rest ih =>
    rw [extend_cons, ih, get?_insert, List.reverse_cons, getEntry?_append, Option.or_assoc]
    by_cases h : e.1 = k <;> simp [getEntry?, h]

theorem get?_fromIter (l : List (κ × α)) (k : κ) :
    (fromIter l).get? k = getEntry? k l.reverse := by
  simp [fromIter, get?_extend, Option.or_none]

theorem mem_keys (m : BTreeMap κ α) (k : κ) : k ∈ m.keys ↔ (m.get? k).isSome := by
  simp [keys, get?, isSome_getEntry?]

/-- **Extending by a collected map is extending by its pairs**: the duplicates `collect`
drops are the ones `extend` would have overwritten. -/
theorem extend_fromIter (m : BTreeMap κ α) (l : List (κ × α)) :
    m.extend (fromIter l).entries = m.extend l := by
  refine ext fun k => ?_
  rw [get?_extend, get?_extend, (fromIter l).sorted.getEntry?_reverse]
  exact congrArg (Option.or · _) (get?_fromIter l k)

/-- Collecting a map's own entries gives the map back. -/
theorem fromIter_entries (m : BTreeMap κ α) : fromIter m.entries = m :=
  ext fun k => by rw [get?_fromIter, m.sorted.getEntry?_reverse]; rfl

end BTreeMap

end Tauri
