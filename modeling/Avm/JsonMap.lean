import Avm.Bytes

/-! # JSON objects of the state context

    The state context keeps its maps in `nlohmann::json` objects, whose
    entries a `std::map<std::string, json>` holds: one entry per key, in
    increasing key order, which is also the order `items()` visits them in.
    A `JsonMap` is that list of entries, with the order as a field, so that
    a map with a repeated or misplaced key cannot be built.  `find?` is
    `m.find(k)`, `set` is `m[k] = v` and `erase` is `m.erase(k)`.

    Two maps with the same lookups are equal (`ext_find?`): a statement
    about every lookup of a map is a statement about the map.
-/

namespace Avm

/-! ## Section 1: the key order -/

/-- `operator<` of `std::string`: lexicographic order of the characters. -/
def charsLt : List Char → List Char → Bool
  | [], [] => false
  | [], _ :: _ => true
  | _ :: _, [] => false
  | a :: as, b :: bs => a.toNat < b.toNat || (a = b && charsLt as bs)

/-- The order of the keys of a JSON object. -/
def keyLt (a b : String) : Bool := charsLt a.data b.data

theorem char_eq_of_toNat_eq {a b : Char} (h : a.toNat = b.toNat) : a = b :=
  Char.ext (UInt32.toNat.inj h)

theorem charsLt_irrefl (l : List Char) : charsLt l l = false := by
  induction l with
  | nil => rfl
  | cons a l ih => simp [charsLt, ih]

theorem charsLt_trans {l₁ l₂ l₃ : List Char} (h₁ : charsLt l₁ l₂ = true)
    (h₂ : charsLt l₂ l₃ = true) : charsLt l₁ l₃ = true := by
  induction l₁ generalizing l₂ l₃ with
  | nil => cases l₂ <;> cases l₃ <;> simp_all [charsLt]
  | cons a l₁ ih =>
    cases l₂ with
    | nil => simp [charsLt] at h₁
    | cons b l₂ =>
      cases l₃ with
      | nil => simp [charsLt] at h₂
      | cons c l₃ =>
        simp only [charsLt, Bool.or_eq_true, decide_eq_true_eq, Bool.and_eq_true] at h₁ h₂ ⊢
        rcases h₁ with h₁ | ⟨rfl, h₁⟩ <;> rcases h₂ with h₂ | ⟨rfl, h₂⟩
        · exact .inl (by omega)
        · exact .inl h₁
        · exact .inl h₂
        · exact .inr ⟨rfl, ih h₁ h₂⟩

theorem charsLt_total {l₁ l₂ : List Char} (hne : l₁ ≠ l₂) (h : charsLt l₁ l₂ = false) :
    charsLt l₂ l₁ = true := by
  induction l₁ generalizing l₂ with
  | nil => cases l₂ <;> simp_all [charsLt]
  | cons a l₁ ih =>
    cases l₂ with
    | nil => rfl
    | cons b l₂ =>
      simp only [charsLt, Bool.or_eq_false_iff, decide_eq_false_iff_not, Bool.and_eq_false_iff,
        Bool.or_eq_true, decide_eq_true_eq, Bool.and_eq_true] at h ⊢
      by_cases hab : a = b
      · subst hab
        have hl : l₁ ≠ l₂ := fun e => hne (by rw [e])
        rcases h.2 with h | h
        · exact absurd rfl h
        · exact .inr ⟨rfl, ih hl (by simpa using h)⟩
      · exact .inl (by
          have : a.toNat ≠ b.toNat := fun e => hab (char_eq_of_toNat_eq e)
          omega)

theorem keyLt_irrefl (a : String) : keyLt a a = false := charsLt_irrefl _

theorem keyLt_trans {a b c : String} (h₁ : keyLt a b = true) (h₂ : keyLt b c = true) :
    keyLt a c = true := charsLt_trans h₁ h₂

theorem keyLt_total {a b : String} (hne : a ≠ b) (h : keyLt a b = false) : keyLt b a = true :=
  charsLt_total (fun e => hne (String.ext e)) h

theorem ne_of_keyLt {a b : String} (h : keyLt a b = true) : a ≠ b := by
  rintro rfl; simp [keyLt_irrefl] at h

/-! ## Section 2: maps -/

/-- The entries of a list, each key before every larger one. -/
def KeysSorted {α : Type} (l : List (String × α)) : Prop :=
  l.Pairwise fun a b => keyLt a.1 b.1 = true

/-- A JSON object whose values have type `α`. -/
structure JsonMap (α : Type) where
  /-- The entries, in key order. -/
  entries : List (String × α)
  /-- Keys increase strictly along the entries. -/
  sorted : KeysSorted entries

namespace JsonMap

variable {α : Type}

instance [DecidableEq α] : DecidableEq (JsonMap α) := fun a b =>
  decidable_of_iff (a.entries = b.entries) (by cases a; cases b; simp)

/-- The empty object `json({})`. -/
def empty : JsonMap α := ⟨[], List.Pairwise.nil⟩

/-- `m.find(k)` over the entries. -/
def findEntries : List (String × α) → String → Option α
  | [], _ => none
  | (k', v) :: m, k => if k = k' then some v else findEntries m k

/-- `m[k] = v` over the entries: the entry of `k` is overwritten, or a new one
    is put in key order. -/
def setEntries : List (String × α) → String → α → List (String × α)
  | [], k, v => [(k, v)]
  | (k', v') :: m, k, v =>
    if k = k' then (k, v) :: m
    else if keyLt k k' then (k, v) :: (k', v') :: m
    else (k', v') :: setEntries m k v

theorem mem_setEntries {m : List (String × α)} {k : String} {v : α} {e : String × α}
    (h : e ∈ setEntries m k v) : e = (k, v) ∨ e ∈ m := by
  induction m with
  | nil => simp_all [setEntries]
  | cons e' m ih =>
    obtain ⟨k₀, v₀⟩ := e'
    simp only [setEntries] at h
    split_ifs at h <;> simp only [List.mem_cons] at h
    · rcases h with h | h <;> simp_all
    · rcases h with h | h | h <;> simp_all
    · rcases h with h | h
      · simp_all
      · rcases ih h with h | h <;> simp_all

theorem keysSorted_setEntries {m : List (String × α)} (hm : KeysSorted m) (k : String) (v : α) :
    KeysSorted (setEntries m k v) := by
  induction m with
  | nil => exact List.pairwise_singleton _ _
  | cons e m ih =>
    obtain ⟨k₀, v₀⟩ := e
    rw [KeysSorted, List.pairwise_cons] at hm
    simp only [setEntries]
    split_ifs with h₁ h₂
    · subst h₁; exact List.pairwise_cons.mpr hm
    · refine List.pairwise_cons.mpr ⟨fun e he => ?_, List.pairwise_cons.mpr hm⟩
      rcases List.mem_cons.mp he with rfl | he
      · exact h₂
      · exact keyLt_trans h₂ (hm.1 e he)
    · refine List.pairwise_cons.mpr ⟨fun e he => ?_, ih hm.2⟩
      rcases mem_setEntries he with rfl | he
      · exact keyLt_total h₁ (by simpa using h₂)
      · exact hm.1 e he

/-- `m.find(k)`. -/
def find? (m : JsonMap α) (k : String) : Option α := findEntries m.entries k

/-- `m.contains(k)`. -/
def contains (m : JsonMap α) (k : String) : Bool := (m.find? k).isSome

/-- `m[k] = v`. -/
def set (m : JsonMap α) (k : String) (v : α) : JsonMap α :=
  ⟨setEntries m.entries k v, keysSorted_setEntries m.sorted k v⟩

/-- The entries `p` keeps, in their order. -/
def filter (m : JsonMap α) (p : String × α → Bool) : JsonMap α :=
  ⟨m.entries.filter p, m.sorted.sublist (List.filter_sublist _)⟩

/-- `m.erase(k)`. -/
def erase (m : JsonMap α) (k : String) : JsonMap α := m.filter fun e => e.1 != k

/-- `m.empty()`. -/
def isEmpty (m : JsonMap α) : Bool := m.entries.isEmpty

/-! ## Section 3: lookups -/

@[simp] theorem find?_empty (k : String) : (empty : JsonMap α).find? k = none := rfl

theorem findEntries_cons (k k' : String) (v : α) (m : List (String × α)) :
    findEntries ((k', v) :: m) k = if k = k' then some v else findEntries m k := rfl

@[simp] theorem find?_set (m : JsonMap α) (k k' : String) (v : α) :
    (m.set k v).find? k' = if k' = k then some v else m.find? k' := by
  obtain ⟨m, hm⟩ := m
  simp only [find?, set]
  clear hm
  induction m with
  | nil => rfl
  | cons e m ih =>
    obtain ⟨k₀, v₀⟩ := e
    simp only [setEntries]
    split_ifs <;> simp_all [findEntries_cons]

theorem findEntries_filter_of_key {m : List (String × α)} {p : String × α → Bool}
    {k : String} (hp : ∀ v, p (k, v) = true) :
    findEntries (m.filter p) k = findEntries m k := by
  induction m with
  | nil => rfl
  | cons e m ih =>
    obtain ⟨k₀, v₀⟩ := e
    by_cases hk : k = k₀
    · subst hk; simp [List.filter_cons, hp, findEntries_cons]
    · by_cases hq : p (k₀, v₀) = true <;> simp [List.filter_cons, hq, hk, findEntries_cons, ih]

theorem findEntries_eq_none {m : List (String × α)} {k : String}
    (h : ∀ e ∈ m, e.1 ≠ k) : findEntries m k = none := by
  induction m with
  | nil => rfl
  | cons e m ih =>
    obtain ⟨k₀, v₀⟩ := e
    have hk : k ≠ k₀ := fun e' => h _ (List.mem_cons_self _ _) e'.symm
    simp [findEntries_cons, hk, ih (fun x hx => h x (List.mem_cons_of_mem _ hx))]

@[simp] theorem find?_erase (m : JsonMap α) (k k' : String) :
    (m.erase k).find? k' = if k' = k then none else m.find? k' := by
  split_ifs with h
  · subst h
    exact findEntries_eq_none fun e he => by simpa using (List.mem_filter.mp he).2
  · exact findEntries_filter_of_key fun v => by simpa using h

@[simp] theorem contains_iff (m : JsonMap α) (k : String) :
    m.contains k = true ↔ ∃ v, m.find? k = some v := by
  simp [contains, Option.isSome_iff_exists]

theorem mem_of_findEntries {m : List (String × α)} {k : String} {v : α}
    (h : findEntries m k = some v) : (k, v) ∈ m := by
  induction m with
  | nil => simp [findEntries] at h
  | cons e m ih =>
    obtain ⟨k₀, v₀⟩ := e
    simp only [findEntries_cons] at h
    split_ifs at h with hk
    · simp_all
    · exact List.mem_cons_of_mem _ (ih h)

theorem mem_of_find? {m : JsonMap α} {k : String} {v : α} (h : m.find? k = some v) :
    (k, v) ∈ m.entries := mem_of_findEntries h

theorem findEntries_of_mem {l : List (String × α)} (hl : KeysSorted l) {e : String × α}
    (h : e ∈ l) : findEntries l e.1 = some e.2 := by
  induction l with
  | nil => simp at h
  | cons x l ih =>
    obtain ⟨k₀, v₀⟩ := x
    rw [KeysSorted, List.pairwise_cons] at hl
    rcases List.mem_cons.mp h with rfl | hmem
    · simp [findEntries_cons]
    · have hne : e.1 ≠ k₀ := Ne.symm (ne_of_keyLt (hl.1 e hmem))
      simpa [findEntries_cons, hne] using ih hl.2 hmem

/-- In a sorted map, every entry is what its key finds. -/
theorem find?_of_mem {m : JsonMap α} {e : String × α} (h : e ∈ m.entries) :
    m.find? e.1 = some e.2 := findEntries_of_mem m.sorted h

theorem mem_iff_find? {m : JsonMap α} {k : String} {v : α} :
    (k, v) ∈ m.entries ↔ m.find? k = some v :=
  ⟨find?_of_mem, mem_of_find?⟩

theorem eq_of_mem_iff {l₁ l₂ : List (String × α)} (h₁ : KeysSorted l₁) (h₂ : KeysSorted l₂)
    (h : ∀ e, e ∈ l₁ ↔ e ∈ l₂) : l₁ = l₂ := by
  have hirr : ∀ x : String × α, keyLt x.1 x.1 = true → False := fun x hx => by
    simp [keyLt_irrefl] at hx
  induction l₁ generalizing l₂ with
  | nil =>
    cases l₂ with
    | nil => rfl
    | cons b l₂ => exact absurd ((h b).mpr (List.mem_cons_self _ _)) (List.not_mem_nil _)
  | cons a l₁ ih =>
    cases l₂ with
    | nil => exact absurd ((h a).mp (List.mem_cons_self _ _)) (List.not_mem_nil _)
    | cons b l₂ =>
      rw [KeysSorted, List.pairwise_cons] at h₁ h₂
      have hab : a = b := by
        rcases List.mem_cons.mp ((h a).mp (List.mem_cons_self _ _)) with hab | ha
        · exact hab
        · rcases List.mem_cons.mp ((h b).mpr (List.mem_cons_self _ _)) with hba | hb
          · exact hba.symm
          · exact (hirr a (keyLt_trans (h₁.1 b hb) (h₂.1 a ha))).elim
      subst hab
      congr 1
      refine ih h₁.2 h₂.2 fun e => ⟨fun he => ?_, fun he => ?_⟩
      · rcases List.mem_cons.mp ((h e).mp (List.mem_cons_of_mem _ he)) with rfl | he'
        · exact (hirr e (h₁.1 e he)).elim
        · exact he'
      · rcases List.mem_cons.mp ((h e).mpr (List.mem_cons_of_mem _ he)) with rfl | he'
        · exact (hirr e (h₂.1 e he)).elim
        · exact he'

/-- Maps with the same lookups are equal. -/
theorem ext_find? {m₁ m₂ : JsonMap α} (h : ∀ k, m₁.find? k = m₂.find? k) : m₁ = m₂ := by
  obtain ⟨l₁, h₁⟩ := m₁
  obtain ⟨l₂, h₂⟩ := m₂
  have hl : l₁ = l₂ := eq_of_mem_iff h₁ h₂ fun ⟨k, v⟩ =>
    (@mem_iff_find? α ⟨l₁, h₁⟩ k v).trans ((h k).symm ▸ (@mem_iff_find? α ⟨l₂, h₂⟩ k v).symm)
  subst hl; rfl

/-- What holds of every entry and of the new one holds of every entry after
    `set`. -/
theorem forall_set {P : String → α → Prop} {m : JsonMap α} {k : String} {v : α}
    (hm : ∀ e ∈ m.entries, P e.1 e.2) (hv : P k v) : ∀ e ∈ (m.set k v).entries, P e.1 e.2 := by
  intro e he
  rcases mem_setEntries he with rfl | he
  · exact hv
  · exact hm e he

@[simp] theorem mem_filter {m : JsonMap α} {p : String × α → Bool} {e : String × α} :
    e ∈ (m.filter p).entries ↔ e ∈ m.entries ∧ p e = true := List.mem_filter

theorem filter_eq_self {m : JsonMap α} {p : String × α → Bool} (h : ∀ e ∈ m.entries, p e = true) :
    m.filter p = m := by
  obtain ⟨l, hl⟩ := m
  simp only [filter, List.filter_eq_self.mpr h]

@[simp] theorem mem_erase {m : JsonMap α} {k : String} {e : String × α} :
    e ∈ (m.erase k).entries ↔ e ∈ m.entries ∧ e.1 ≠ k := by
  simp [erase]

theorem find?_filter (m : JsonMap α) (p : String × α → Bool) (k : String) :
    (m.filter p).find? k = (m.find? k).filter fun v => p (k, v) := by
  obtain ⟨l, hl⟩ := m
  simp only [find?, filter]
  induction l with
  | nil => rfl
  | cons e l ih =>
    obtain ⟨k₀, v₀⟩ := e
    rw [KeysSorted, List.pairwise_cons] at hl
    have hrest : findEntries (l.filter p) k₀ = none := findEntries_eq_none fun e he =>
      Ne.symm (ne_of_keyLt (hl.1 e (List.mem_filter.mp he).1))
    by_cases hk : k = k₀
    · subst hk
      by_cases hp : p (k, v₀) = true <;>
        simp [List.filter_cons, hp, findEntries_cons, hrest, Option.filter]
    · by_cases hp : p (k₀, v₀) = true <;>
        simp [List.filter_cons, hp, findEntries_cons, hk, ih hl.2]

theorem findEntries_eq_none_of_sorted {k : String} {v : α} {l : List (String × α)}
    (h : KeysSorted ((k, v) :: l)) : findEntries l k = none := by
  rw [KeysSorted, List.pairwise_cons] at h
  exact findEntries_eq_none fun e he => Ne.symm (ne_of_keyLt (h.1 e he))

/-- `base` with every entry of `updates` written over it. -/
def override (base updates : JsonMap α) : JsonMap α :=
  updates.entries.foldl (fun m e => m.set e.1 e.2) base

theorem find?_foldl_set (l : List (String × α)) (hl : KeysSorted l) (base : JsonMap α)
    (k : String) :
    (l.foldl (fun m e => m.set e.1 e.2) base).find? k = (findEntries l k).or (base.find? k) := by
  induction l generalizing base with
  | nil => rfl
  | cons e l ih =>
    obtain ⟨k₀, v₀⟩ := e
    have hrest := findEntries_eq_none_of_sorted hl
    rw [List.foldl_cons, ih hl.of_cons, find?_set, findEntries_cons]
    by_cases hk : k = k₀
    · subst hk; simp [hrest]
    · simp [hk]

theorem find?_override (base updates : JsonMap α) (k : String) :
    (base.override updates).find? k = (updates.find? k).or (base.find? k) :=
  find?_foldl_set _ updates.sorted _ _

end JsonMap

end Avm
