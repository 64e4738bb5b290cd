/-!
Finite maps, kept as a list of entries in strictly ascending order of their keys. The order makes
a map's list of entries canonical: two maps that answer every lookup alike are equal (`ext_get?`).
All else about a map is said through `get?`, with one equation per operation.
-/

namespace EvmBank

/-- Pairs are compared by their first parts, and then by their second parts. -/
instance pairOrd {α β : Type} [Ord α] [Ord β] : Ord (α × β) := lexOrd

/-- A finite map from `κ` to `ν`. -/
structure SortedMap (κ ν : Type) [Ord κ] where
  entries : List (κ × ν)
  sorted : entries.Pairwise fun a b => compare a.1 b.1 = .lt
deriving DecidableEq

namespace SortedMap

variable {κ ν : Type} [Ord κ]

/-- The value beside the first entry with key `k`. -/
def lookupEntry (k : κ) : List (κ × ν) → Option ν
  | [] => none
  | (k₁, v₁) :: rest => if compare k k₁ = .eq then some v₁ else lookupEntry k rest

/-- Puts an entry at its place, instead of one with the same key. -/
def insertEntry (k : κ) (v : ν) : List (κ × ν) → List (κ × ν)
  | [] => [(k, v)]
  | (k₁, v₁) :: rest =>
    match compare k k₁ with
    | .lt => (k, v) :: (k₁, v₁) :: rest
    | .eq => (k, v) :: rest
    | .gt => (k₁, v₁) :: insertEntry k v rest

theorem mem_insertEntry {k : κ} {v : ν} {e : κ × ν} {l : List (κ × ν)}
    (h : e ∈ insertEntry k v l) : e = (k, v) ∨ e ∈ l := by
  induction l with
  | nil => simpa [insertEntry] using h
  | cons d rest ih =>
    obtain ⟨k₁, v₁⟩ := d
    simp only [insertEntry] at h
    split at h <;> grind

def empty : SortedMap κ ν := ⟨[], List.Pairwise.nil⟩

instance : EmptyCollection (SortedMap κ ν) := ⟨empty⟩
instance : Inhabited (SortedMap κ ν) := ⟨empty⟩

def get? (m : SortedMap κ ν) (k : κ) : Option ν := lookupEntry k m.entries

@[simp] theorem get?_empty (k : κ) : (empty : SortedMap κ ν).get? k = none := rfl

def getD (m : SortedMap κ ν) (k : κ) (fallback : ν) : ν := (m.get? k).getD fallback

def contains (m : SortedMap κ ν) (k : κ) : Bool := (m.get? k).isSome

variable [Std.TransOrd κ]

theorem pairwise_insertEntry (k : κ) (v : ν) {l : List (κ × ν)}
    (h : l.Pairwise fun a b => compare a.1 b.1 = .lt) :
    (insertEntry k v l).Pairwise fun a b => compare a.1 b.1 = .lt := by
  induction l with
  | nil => simp [insertEntry]
  | cons d rest ih =>
    obtain ⟨k₁, v₁⟩ := d
    obtain ⟨hd, hrest⟩ := List.pairwise_cons.1 h
    simp only [insertEntry]
    split
    · rename_i hk
      refine List.pairwise_cons.2 ⟨fun e he => ?_, h⟩
      rcases List.mem_cons.1 he with rfl | he
      · exact hk
      · exact Std.TransCmp.lt_trans hk (hd e he)
    · rename_i hk
      refine List.pairwise_cons.2 ⟨fun e he => ?_, hrest⟩
      exact Std.TransCmp.lt_of_eq_of_lt hk (hd e he)
    · rename_i hk
      refine List.pairwise_cons.2 ⟨fun e he => ?_, ih hrest⟩
      rcases mem_insertEntry he with rfl | he
      · exact Std.OrientedCmp.lt_of_gt hk
      · exact hd e he

/-- Stores `v` under `k`, instead of what is there. -/
def insert (m : SortedMap κ ν) (k : κ) (v : ν) : SortedMap κ ν :=
  ⟨insertEntry k v m.entries, pairwise_insertEntry k v m.sorted⟩

/-- Drops the entry with key `k`, if there is one. -/
def erase (m : SortedMap κ ν) (k : κ) : SortedMap κ ν :=
  ⟨m.entries.filter fun e => compare k e.1 != .eq, m.sorted.filter _⟩

/-- Stores `v?` under `k`, or drops the entry where it is `none`. -/
def alter (m : SortedMap κ ν) (k : κ) (v? : Option ν) : SortedMap κ ν :=
  match v? with
  | some v => m.insert k v
  | none => m.erase k

def keys (m : SortedMap κ ν) : List κ := m.entries.map (·.1)

/-- The values in ascending order of their keys. -/
def values (m : SortedMap κ ν) : List ν := m.entries.map (·.2)

def size (m : SortedMap κ ν) : Nat := m.entries.length

def isEmpty (m : SortedMap κ ν) : Bool := m.entries.isEmpty

def filter (m : SortedMap κ ν) (p : κ → ν → Bool) : SortedMap κ ν :=
  ⟨m.entries.filter fun e => p e.1 e.2, m.sorted.filter _⟩

/-- A map of the given entries. Of several with one key, the last counts. -/
def ofList (l : List (κ × ν)) : SortedMap κ ν := l.foldl (fun m e => m.insert e.1 e.2) empty

variable [Std.LawfulEqOrd κ] [DecidableEq κ]

omit [Std.TransOrd κ] in
theorem lookupEntry_insertEntry (k k' : κ) (v : ν) (l : List (κ × ν)) :
    lookupEntry k' (insertEntry k v l) = if k' = k then some v else lookupEntry k' l := by
  induction l with
  | nil => simp [insertEntry, lookupEntry]
  | cons d rest ih =>
    obtain ⟨k₁, v₁⟩ := d
    simp only [insertEntry]
    split
    · simp [lookupEntry]
    · rename_i hk
      obtain rfl := Std.LawfulEqCmp.eq_of_compare hk
      by_cases h : k' = k <;> simp [lookupEntry, h]
    · rename_i hk
      have hne : k ≠ k₁ := by rintro rfl; simp at hk
      by_cases h : k' = k₁ <;> simp_all [lookupEntry, Ne.symm]

omit [Std.TransOrd κ] in
theorem lookupEntry_eq_some {k : κ} {v : ν} {l : List (κ × ν)}
    (h : l.Pairwise fun a b => compare a.1 b.1 = .lt) :
    lookupEntry k l = some v ↔ (k, v) ∈ l := by
  induction l with
  | nil => simp [lookupEntry]
  | cons d rest ih =>
    obtain ⟨k₁, v₁⟩ := d
    obtain ⟨hd, hrest⟩ := List.pairwise_cons.1 h
    by_cases hk : k = k₁
    · subst hk
      have : (k, v) ∉ rest := fun hm => by simpa using hd _ hm
      simp [lookupEntry, this, eq_comm]
    · simp [lookupEntry, hk, ih hrest]

omit [Std.TransOrd κ] in
/-- A lookup finds exactly the entries of the list. -/
theorem get?_eq_some {m : SortedMap κ ν} {k : κ} {v : ν} :
    m.get? k = some v ↔ (k, v) ∈ m.entries :=
  lookupEntry_eq_some m.sorted

theorem get?_insert (m : SortedMap κ ν) (k k' : κ) (v : ν) :
    (m.insert k v).get? k' = if k' = k then some v else m.get? k' :=
  lookupEntry_insertEntry k k' v m.entries

@[simp] theorem get?_insert_self (m : SortedMap κ ν) (k : κ) (v : ν) :
    (m.insert k v).get? k = some v := by
  simp [get?_insert]

omit [Std.TransOrd κ] in
theorem get?_erase (m : SortedMap κ ν) (k k' : κ) :
    (m.erase k).get? k' = if k' = k then none else m.get? k' := by
  refine Option.ext fun v => ?_
  rw [get?_eq_some]
  by_cases h : k' = k
  · simp [erase, h]
  · simp [erase, h, get?_eq_some, Ne.symm h]

omit [Std.TransOrd κ] in
theorem get?_filter (m : SortedMap κ ν) (p : κ → ν → Bool) (k : κ) :
    (m.filter p).get? k = (m.get? k).filter (p k) := by
  refine Option.ext fun v => ?_
  rw [get?_eq_some, Option.filter_eq_some_iff, get?_eq_some]
  exact List.mem_filter

theorem get?_alter (m : SortedMap κ ν) (k k' : κ) (v? : Option ν) :
    (m.alter k v?).get? k' = if k' = k then v? else m.get? k' := by
  cases v? <;> simp [alter, get?_insert, get?_erase]

theorem getD_insert (m : SortedMap κ ν) (k k' : κ) (v fallback : ν) :
    (m.insert k v).getD k' fallback = if k' = k then v else m.getD k' fallback := by
  by_cases h : k' = k <;> simp [getD, get?_insert, h]

theorem contains_insert (m : SortedMap κ ν) (k k' : κ) (v : ν) :
    (m.insert k v).contains k' = (decide (k' = k) || m.contains k') := by
  by_cases h : k' = k <;> simp [contains, get?_insert, h]

/-- Maps that answer every lookup alike are equal. -/
theorem ext_get? {m m' : SortedMap κ ν} (h : ∀ k, m.get? k = m'.get? k) : m = m' := by
  obtain ⟨l, hl⟩ := m
  obtain ⟨l', hl'⟩ := m'
  have mem : ∀ e : κ × ν, e ∈ l ↔ e ∈ l' := fun e => by
    have := h e.1
    rw [← lookupEntry_eq_some hl, ← lookupEntry_eq_some hl']
    exact iff_of_eq (congrArg (· = some e.2) this)
  have nodup : ∀ {l : List (κ × ν)}, (l.Pairwise fun a b => compare a.1 b.1 = .lt) → l.Nodup :=
    fun hl => hl.imp fun {a b} hab e => by simp [e] at hab
  have perm : l.Perm l' := (List.perm_ext_iff_of_nodup (nodup hl) (nodup hl')).2 mem
  obtain rfl : l = l' := perm.eq_of_pairwise
    (fun a b _ _ hab hba => by simp [Std.OrientedCmp.gt_of_lt hab] at hba) hl hl'
  rfl

end SortedMap

end EvmBank
