/-!
# MarkupActions.Dict

**Text-keyed maps, kept in key order.** Everything the program stores under a name — variables,
the members of an object, diagnostic data, event schemas, store entries, registered vocabularies —
is listed in ascending order of its keys, and that order shows in the output. The order is by code
point, which is also the order of the keys' UTF-8 bytes.

Two layers:

* `Entries α` is a bare list of pairs with `find?`, `insert` and `replace`. Objects nest inside
  values, where a list is all that the type can hold, so the operations and their lookup laws live
  here. The laws need no ordering hypothesis: `insert` replaces the first entry of its key or puts
  the new one in front of the first greater key, and neither can change what another key finds.
* `Dict α` bundles a list with the proof that its keys strictly increase.

Main statements: `find?_insert_self`, `find?_insert_of_ne` and their counterparts for `replace`, and
`Ascending.insert`, by which the invariant of `Dict` holds after every insertion.
-/

namespace MarkupActions

/-- Key–value pairs, in the order in which they are listed. -/
abbrev Entries (α : Type) := List (String × α)

namespace Entries

variable {α β : Type}

/-- The value of the first entry with the key. -/
def find? (key : String) : Entries α → Option α
  | [] => none
  | (k, v) :: rest => if k = key then some v else find? key rest

/-- Bind `key` to `value`: replace its entry, or add one in front of the first greater key. -/
def insert (key : String) (value : α) : Entries α → Entries α
  | [] => [(key, value)]
  | (k, v) :: rest =>
      if k = key then (key, value) :: rest
      else if key < k then (key, value) :: (k, v) :: rest
      else (k, v) :: insert key value rest

/-- Put `value` in the place of the value of the first entry with the key; without such an entry
nothing changes. -/
def replace (key : String) (value : α) : Entries α → Entries α
  | [] => []
  | (k, v) :: rest => if k = key then (k, value) :: rest else (k, v) :: replace key value rest

/-- The keys in the order of their entries. -/
def keys (entries : Entries α) : List String := entries.map Prod.fst

/-- Every entry in turn is inserted, so a later one wins over an earlier one of the same key. -/
def insertAll (entries : Entries α) (new : List (String × α)) : Entries α :=
  new.foldl (fun acc entry => acc.insert entry.1 entry.2) entries

/-- The keys strictly increase, so none occurs twice. -/
def Ascending (entries : Entries α) : Prop := entries.keys.Pairwise (· < ·)

/-! ### Lookup after insertion -/

@[simp] theorem find?_nil (key : String) : find? key ([] : Entries α) = none := rfl

theorem find?_cons (key k : String) (v : α) (rest : Entries α) :
    find? key ((k, v) :: rest) = if k = key then some v else find? key rest := rfl

theorem find?_append (key : String) (a b : Entries α) :
    find? key (a ++ b) = (find? key a).or (find? key b) := by
  induction a with
  | nil => rfl
  | cons entry rest ih =>
    obtain ⟨k, v⟩ := entry
    rw [List.cons_append, find?_cons, find?_cons]
    split
    · rfl
    · exact ih

theorem find?_eq_none_iff (key : String) (entries : Entries α) :
    find? key entries = none ↔ key ∉ keys entries := by
  induction entries with
  | nil => simp [keys]
  | cons entry rest ih =>
    obtain ⟨k, v⟩ := entry
    simp only [keys, List.map_cons, List.mem_cons, not_or] at ih ⊢
    rw [find?_cons, ← ih]
    by_cases h : k = key
    · simp [h]
    · simp [h, Ne.symm h]

@[simp] theorem find?_insert_self (key : String) (value : α) (entries : Entries α) :
    find? key (insert key value entries) = some value := by
  induction entries with
  | nil => simp [insert, find?]
  | cons entry rest ih =>
    obtain ⟨k, v⟩ := entry
    simp only [insert]
    split
    · simp [find?]
    · split
      · simp [find?]
      · simp [find?, *]

theorem find?_insert_of_ne {key other : String} (h : other ≠ key) (value : α)
    (entries : Entries α) : find? other (insert key value entries) = find? other entries := by
  have h' : ¬ key = other := fun e => h e.symm
  induction entries with
  | nil => simp [insert, find?, h']
  | cons entry rest ih =>
    obtain ⟨k, v⟩ := entry
    simp only [insert]
    split
    · next e => simp [find?, h', e]
    · split
      · simp [find?, h']
      · simp [find?, ih]

/-! ### Lookup after a replacement -/

@[simp] theorem find?_replace_self {key : String} {old : α} {entries : Entries α}
    (h : find? key entries = some old) (value : α) :
    find? key (replace key value entries) = some value := by
  induction entries with
  | nil => simp at h
  | cons entry rest ih =>
    obtain ⟨k, v⟩ := entry
    by_cases hk : k = key
    · simp [replace, find?, hk]
    · simp only [find?_cons, if_neg hk] at h
      simp [replace, find?, hk, ih h]

theorem find?_replace_of_ne {key other : String} (h : other ≠ key) (value : α)
    (entries : Entries α) : find? other (replace key value entries) = find? other entries := by
  induction entries with
  | nil => rfl
  | cons entry rest ih =>
    obtain ⟨k, v⟩ := entry
    simp only [replace]
    split
    · next hk => simp [find?, show ¬ k = other from fun e => h (e.symm.trans hk)]
    · simp [find?, ih]

theorem replace_of_find? {key : String} {value : α} {entries : Entries α}
    (h : find? key entries = some value) : replace key value entries = entries := by
  induction entries with
  | nil => rfl
  | cons entry rest ih =>
    obtain ⟨k, v⟩ := entry
    by_cases hk : k = key
    · simp only [find?_cons, if_pos hk, Option.some.injEq] at h
      simp [replace, hk, h]
    · simp only [find?_cons, if_neg hk] at h
      simp [replace, hk, ih h]

/-! ### Two changes in a row

At one key the later change decides. At different keys the order of the changes does not count,
wherever the keys stand: what is looked for under a key depends on the keys alone. -/

theorem replace_insert (key : String) (value old : α) (entries : Entries α) :
    replace key value (insert key old entries) = insert key value entries := by
  induction entries with
  | nil => simp [insert, replace]
  | cons entry rest ih =>
    obtain ⟨k, v⟩ := entry
    simp only [insert]
    split
    · simp [replace]
    · next hne =>
      split
      · simp [replace]
      · simp [replace, hne, ih]

theorem replace_replace (key : String) (value old : α) (entries : Entries α) :
    replace key value (replace key old entries) = replace key value entries := by
  induction entries with
  | nil => rfl
  | cons entry rest ih =>
    obtain ⟨k, v⟩ := entry
    by_cases hk : k = key
    · simp [replace, hk]
    · simp [replace, hk, ih]

theorem replace_comm {key other : String} (h : key ≠ other) (value new : α)
    (entries : Entries α) :
    replace key value (replace other new entries) = replace other new (replace key value entries) := by
  induction entries with
  | nil => rfl
  | cons entry rest ih => grind [replace]

theorem insert_replace_comm {key other : String} (h : key ≠ other) (value new : α)
    (entries : Entries α) :
    insert key value (replace other new entries) = replace other new (insert key value entries) := by
  induction entries with
  | nil => simp [insert, replace, h]
  | cons entry rest ih => grind [insert, replace]

theorem insert_comm {key other : String} (h : key ≠ other) (value new : α) (entries : Entries α) :
    insert key value (insert other new entries) = insert other new (insert key value entries) := by
  -- Where the search for the smaller key stops, the one for the greater stops there or goes on.
  have htotal : key < other ∨ other < key := by
    by_cases hlt : key < other
    · exact .inl hlt
    · refine .inr (Decidable.byContradiction fun hge => h ?_)
      exact String.le_antisymm (String.not_lt.1 hge) (String.not_lt.1 hlt)
  have htrans : ∀ a b c : String, a < b → b < c → a < c := fun _ _ _ => String.lt_trans
  have hirrefl : ∀ a : String, ¬ a < a := String.lt_irrefl
  induction entries with
  | nil => grind [insert]
  | cons entry rest ih => grind [insert]

/-! ### The ordering invariant -/

theorem mem_keys_insert {key k : String} {value : α} {entries : Entries α}
    (h : k ∈ keys (insert key value entries)) : k = key ∨ k ∈ keys entries := by
  induction entries with
  | nil => simpa [insert, keys] using h
  | cons entry rest ih =>
    obtain ⟨k', v⟩ := entry
    simp only [insert] at h
    split at h
    · next e =>
      simp only [keys, List.map_cons, List.mem_cons] at h ⊢
      rcases h with h | h
      · exact Or.inl h
      · exact Or.inr (Or.inr h)
    · split at h
      · simpa [keys] using h
      · simp only [keys, List.map_cons, List.mem_cons] at h ⊢
        rcases h with h | h
        · exact Or.inr (Or.inl h)
        · exact (ih h).imp id Or.inr

theorem Ascending.nil : Ascending ([] : Entries α) := List.Pairwise.nil

theorem Ascending.insert {entries : Entries α} (h : entries.Ascending) (key : String)
    (value : α) : (Entries.insert key value entries).Ascending := by
  induction entries with
  | nil => simp [Ascending, Entries.insert, keys]
  | cons entry rest ih =>
    obtain ⟨k, v⟩ := entry
    have hk : ∀ x ∈ keys rest, k < x := (List.pairwise_cons.1 h).1
    have hrest : Ascending rest := (List.pairwise_cons.1 h).2
    simp only [Entries.insert]
    split
    · next e => subst e; exact h
    · next hne =>
      split
      · next hlt =>
        refine List.pairwise_cons.2 ⟨fun x hx => ?_, h⟩
        rcases List.mem_cons.1 hx with rfl | hx
        · exact hlt
        · exact String.lt_trans hlt (hk x hx)
      · next hle =>
        refine List.pairwise_cons.2 ⟨fun x hx => ?_, ih hrest⟩
        rcases mem_keys_insert hx with rfl | hx
        · exact Decidable.byContradiction fun hkx =>
            hne (String.le_antisymm (String.not_lt.1 hle) (String.not_lt.1 hkx))
        · exact hk x hx

/-- A key above all others is put at the end. -/
theorem insert_of_lt {entries : Entries α} {key : String} (h : ∀ k ∈ keys entries, k < key)
    (value : α) : insert key value entries = entries ++ [(key, value)] := by
  induction entries with
  | nil => rfl
  | cons entry rest ih =>
    obtain ⟨k, v⟩ := entry
    have hlt : k < key := h k List.mem_cons_self
    have hne : k ≠ key := fun heq => String.lt_irrefl key (heq ▸ hlt)
    have hnotlt : ¬ key < k := fun hgt => String.lt_irrefl k (String.lt_trans hlt hgt)
    rw [insert, if_neg hne, if_neg hnotlt, ih fun k' hk' => h k' (List.mem_cons_of_mem k hk'),
      List.cons_append]

/-- Entries that are inserted in ascending order follow one another. -/
theorem Ascending.insert_next {entries more : Entries α} {key : String} {value : α}
    (h : Ascending (entries ++ (key, value) :: more)) :
    Entries.insert key value entries = entries ++ [(key, value)] := by
  rw [Ascending, keys, List.map_append, List.pairwise_append] at h
  exact insert_of_lt (fun k hk => h.2.2 k hk key List.mem_cons_self) value

@[simp] theorem keys_replace (key : String) (value : α) (entries : Entries α) :
    (entries.replace key value).keys = entries.keys := by
  induction entries with
  | nil => rfl
  | cons entry rest ih =>
    obtain ⟨k, v⟩ := entry
    simp only [replace]
    split
    · simp [keys]
    · simpa [keys] using ih

/-- A replacement keeps the keys strictly increasing. -/
theorem Ascending.replace {entries : Entries α} (h : entries.Ascending) (key : String)
    (value : α) : (Entries.replace key value entries).Ascending := by
  simpa [Ascending] using h

/-- Where keys are listed once, a listed value is the one that is found. -/
theorem find?_of_mem {entries : Entries α} (h : entries.Ascending) {key : String} {value : α}
    (hmem : (key, value) ∈ entries) : entries.find? key = some value := by
  induction entries with
  | nil => cases hmem
  | cons entry rest ih =>
    obtain ⟨k, v⟩ := entry
    have hk : ∀ x ∈ keys rest, k < x := (List.pairwise_cons.1 h).1
    rw [find?_cons]
    rcases List.mem_cons.1 hmem with heq | hrest
    · cases heq
      exact if_pos rfl
    · have hne : k ≠ key := by
        rintro rfl
        exact String.lt_irrefl k (hk k (List.mem_map_of_mem hrest))
      rw [if_neg hne, ih (List.pairwise_cons.1 h).2 hrest]

theorem mem_of_find? {entries : Entries α} {key : String} {value : α}
    (h : entries.find? key = some value) : (key, value) ∈ entries := by
  induction entries with
  | nil => cases h
  | cons entry rest ih =>
    obtain ⟨k, v⟩ := entry
    rw [find?_cons] at h
    split at h
    · next hk =>
      cases h
      exact hk ▸ List.mem_cons_self
    · exact List.mem_cons_of_mem _ (ih h)

/-- A key is listed once, if at all. -/
theorem keys_filter_of_ascending {entries : Entries α} (h : entries.Ascending) (key : String) :
    (entries.filter fun entry => entry.1 = key).map Prod.fst =
      if (entries.find? key).isSome then [key] else [] := by
  induction entries with
  | nil => rfl
  | cons entry rest ih =>
    obtain ⟨k, v⟩ := entry
    have hk : ∀ x ∈ keys rest, k < x := (List.pairwise_cons.1 h).1
    rw [List.filter_cons, find?_cons]
    by_cases hkey : k = key
    · subst hkey
      have hnone : rest.filter (fun entry => entry.1 = k) = [] := by
        refine List.filter_eq_nil_iff.2 fun entry hentry heq => ?_
        have hlt := hk entry.1 (List.mem_map_of_mem hentry)
        rw [of_decide_eq_true heq] at hlt
        exact String.lt_irrefl k hlt
      simp [hnone]
    · simpa [hkey] using ih (List.pairwise_cons.1 h).2

/-- A key is listed once, if at all: what is counted under it is counted of its value. -/
theorem countP_of_ascending {entries : Entries α} (h : entries.Ascending) (key : String)
    (p : α → Bool) : entries.countP (fun entry => entry.1 = key && p entry.2) =
      if (entries.find? key).any p then 1 else 0 := by
  induction entries with
  | nil => rfl
  | cons entry rest ih =>
    obtain ⟨k, v⟩ := entry
    have hk : ∀ x ∈ keys rest, k < x := (List.pairwise_cons.1 h).1
    rw [List.countP_cons, find?_cons]
    by_cases hkey : k = key
    · have hzero : rest.countP (fun entry => entry.1 = key && p entry.2) = 0 := by
        refine List.countP_eq_zero.2 fun entry hentry hcounted => ?_
        have heq : entry.1 = key := by simp_all
        have hlt := hk entry.1 (List.mem_map_of_mem hentry)
        rw [hkey, heq] at hlt
        exact String.lt_irrefl key hlt
      simp [hzero, hkey]
    · simpa [hkey] using ih (List.pairwise_cons.1 h).2

/-- Key by key, apply `f` to the values. -/
def mapValues (f : α → β) (entries : Entries α) : Entries β :=
  entries.map fun (k, v) => (k, f v)

@[simp] theorem keys_mapValues (f : α → β) (entries : Entries α) :
    (entries.mapValues f).keys = entries.keys := by
  simp [mapValues, keys, Function.comp_def]

end Entries

/-- A map from text to `α` whose entries are listed in strictly ascending key order. -/
structure Dict (α : Type) where
  entries : Entries α
  /-- No key is listed twice, and the order is that of the keys. -/
  ascending : entries.Ascending

namespace Dict

variable {α : Type}

/-- The map without entries. -/
def empty : Dict α := ⟨[], Entries.Ascending.nil⟩

instance : Inhabited (Dict α) := ⟨empty⟩

instance : EmptyCollection (Dict α) := ⟨empty⟩

instance [BEq α] : BEq (Dict α) := ⟨fun a b => a.entries == b.entries⟩

@[ext] theorem ext {a b : Dict α} (h : a.entries = b.entries) : a = b := by
  cases a; cases b; cases h; rfl

/-- The value under a key. -/
def find? (dict : Dict α) (key : String) : Option α := dict.entries.find? key

/-- Whether there is a value under the key. -/
def contains (dict : Dict α) (key : String) : Bool := (dict.find? key).isSome

/-- Bind `key` to `value`, in place of an earlier value. -/
def insert (dict : Dict α) (key : String) (value : α) : Dict α :=
  ⟨dict.entries.insert key value, dict.ascending.insert key value⟩

/-- Apply `f` to the value bound to `key`; an unbound key stays unbound. -/
def modify (dict : Dict α) (key : String) (f : α → α) : Dict α :=
  match dict.find? key with
  | some value => dict.insert key (f value)
  | none => dict

/-- The bound keys, ascending. -/
def keys (dict : Dict α) : List String := dict.entries.keys

/-- The bound values, in key order. -/
def values (dict : Dict α) : List α := dict.entries.map Prod.snd

/-- The number of entries. -/
def size (dict : Dict α) : Nat := dict.entries.length

/-- Whether there are no entries. -/
def isEmpty (dict : Dict α) : Bool := dict.entries.isEmpty

/-- Bind every pair in turn; of two pairs with one key the later counts. -/
def insertAll (dict : Dict α) (new : List (String × α)) : Dict α :=
  new.foldl (fun acc entry => acc.insert entry.1 entry.2) dict

/-- The map that binds every pair in turn. -/
def ofList (pairs : List (String × α)) : Dict α := empty.insertAll pairs

@[simp] theorem find?_empty (key : String) : (empty : Dict α).find? key = none := rfl

@[simp] theorem find?_insert_self (dict : Dict α) (key : String) (value : α) :
    (dict.insert key value).find? key = some value :=
  Entries.find?_insert_self key value dict.entries

theorem find?_insert_of_ne (dict : Dict α) {key other : String} (h : other ≠ key) (value : α) :
    (dict.insert key value).find? other = dict.find? other :=
  Entries.find?_insert_of_ne h value dict.entries

theorem find?_insert (dict : Dict α) (key other : String) (value : α) :
    (dict.insert key value).find? other = if other = key then some value else dict.find? other := by
  split
  · next h => subst h; simp
  · next h => exact find?_insert_of_ne dict h value

theorem find?_modify_self (dict : Dict α) (key : String) (f : α → α) :
    (dict.modify key f).find? key = (dict.find? key).map f := by
  simp only [modify]
  split
  · next value h => simp [h]
  · next h => simp [h]

theorem find?_modify_of_ne (dict : Dict α) {key other : String} (h : other ≠ key) (f : α → α) :
    (dict.modify key f).find? other = dict.find? other := by
  simp only [modify]
  split
  · exact find?_insert_of_ne dict h _
  · rfl

theorem find?_eq_some_iff_mem (dict : Dict α) (key : String) (value : α) :
    dict.find? key = some value ↔ (key, value) ∈ dict.entries :=
  ⟨Entries.mem_of_find?, Entries.find?_of_mem dict.ascending⟩

theorem mem_keys_iff (dict : Dict α) (key : String) :
    key ∈ dict.keys ↔ ∃ value, dict.find? key = some value := by
  rw [keys, Entries.keys, List.mem_map]
  constructor
  · rintro ⟨⟨k, value⟩, hmem, rfl⟩
    exact ⟨value, (dict.find?_eq_some_iff_mem k value).2 hmem⟩
  · rintro ⟨value, h⟩
    exact ⟨(key, value), (dict.find?_eq_some_iff_mem key value).1 h, rfl⟩

/-- A map is what is found in it. -/
theorem eq_of_find? {a b : Dict α} (h : ∀ key, a.find? key = b.find? key) : a = b := by
  have hpairs : ∀ dict : Dict α, dict.entries.Pairwise fun x y => x.1 < y.1 := fun dict =>
    List.pairwise_map.1 dict.ascending
  have hnodup : ∀ dict : Dict α, dict.entries.Nodup := by
    intro dict
    refine (hpairs dict).imp ?_
    rintro x y hlt rfl
    exact String.lt_irrefl _ hlt
  have hperm : a.entries.Perm b.entries := by
    refine (List.perm_ext_iff_of_nodup (hnodup a) (hnodup b)).2 ?_
    rintro ⟨key, value⟩
    rw [← find?_eq_some_iff_mem, ← find?_eq_some_iff_mem, h]
  refine ext (hperm.eq_of_pairwise ?_ (hpairs a) (hpairs b))
  intro x y _ _ hxy hyx
  exact absurd (String.lt_trans hxy hyx) (String.lt_irrefl _)

/-! ### Lookup after many insertions -/

theorem insertAll_append (dict : Dict α) (new more : List (String × α)) :
    dict.insertAll (new ++ more) = (dict.insertAll new).insertAll more :=
  List.foldl_append

/-- What is found afterwards is one of the new values, or what was found before. -/
theorem find?_insertAll (dict : Dict α) (new : List (String × α)) (key : String) :
    (∃ value, (key, value) ∈ new ∧ (dict.insertAll new).find? key = some value) ∨
      (∀ value, (key, value) ∉ new) ∧ (dict.insertAll new).find? key = dict.find? key := by
  induction new generalizing dict with
  | nil => exact .inr ⟨nofun, rfl⟩
  | cons entry rest ih =>
    obtain ⟨k, v⟩ := entry
    rcases ih (dict.insert k v) with ⟨value, hmem, hfind⟩ | ⟨hnone, hfind⟩
    · exact .inl ⟨value, List.mem_cons_of_mem _ hmem, hfind⟩
    · rw [find?_insert] at hfind
      by_cases hkey : key = k
      · subst hkey
        rw [if_pos rfl] at hfind
        exact .inl ⟨v, List.mem_cons_self, hfind⟩
      · rw [if_neg hkey] at hfind
        refine .inr ⟨fun value hmem => ?_, hfind⟩
        rcases List.mem_cons.1 hmem with heq | hrest
        · cases heq
          exact hkey rfl
        · exact hnone value hrest

theorem mem_of_find?_ofList {pairs : List (String × α)} {key : String} {value : α}
    (h : (ofList pairs).find? key = some value) : (key, value) ∈ pairs := by
  rcases find?_insertAll empty pairs key with ⟨v, hmem, hfind⟩ | ⟨-, hfind⟩
  · cases hfind.symm.trans h
    exact hmem
  · cases hfind.symm.trans h

theorem mem_keys_ofList (pairs : List (String × α)) (key : String) :
    key ∈ (ofList pairs).keys ↔ ∃ value, (key, value) ∈ pairs := by
  rw [mem_keys_iff]
  constructor
  · rintro ⟨value, h⟩
    exact ⟨value, mem_of_find?_ofList h⟩
  · rintro ⟨value, hmem⟩
    rcases find?_insertAll empty pairs key with ⟨v, -, hfind⟩ | ⟨hnone, -⟩
    · exact ⟨v, hfind⟩
    · exact absurd hmem (hnone value)

/-- Where no key has two values, neither the order of the pairs counts nor how often each is there. -/
theorem ofList_eq_of_mem_iff {pairs others : List (String × α)}
    (hone : ∀ key v w, (key, v) ∈ pairs → (key, w) ∈ pairs → v = w)
    (hsame : ∀ entry, entry ∈ pairs ↔ entry ∈ others) : ofList pairs = ofList others := by
  refine eq_of_find? fun key => ?_
  rcases find?_insertAll empty pairs key with ⟨v, hmem, hfind⟩ | ⟨hnone, hfind⟩
  · rcases find?_insertAll empty others key with ⟨w, hmem', hfind'⟩ | ⟨hnone', -⟩
    · rw [ofList, ofList, hfind, hfind', hone key v w hmem ((hsame _).2 hmem')]
    · exact absurd ((hsame _).1 hmem) (hnone' v)
  · rcases find?_insertAll empty others key with ⟨w, hmem', -⟩ | ⟨-, hfind'⟩
    · exact absurd ((hsame _).2 hmem') (hnone w)
    · rw [ofList, ofList, hfind, hfind']

/-- A map is made of its own entries. -/
theorem ofList_entries (dict : Dict α) : ofList dict.entries = dict := by
  refine eq_of_find? fun key => ?_
  rcases find?_insertAll empty dict.entries key with ⟨v, hmem, hfind⟩ | ⟨hnone, hfind⟩
  · rw [ofList, hfind, (dict.find?_eq_some_iff_mem key v).2 hmem]
  · rw [ofList, hfind, find?_empty, eq_comm, Option.eq_none_iff_forall_ne_some]
    intro v hv
    exact hnone v ((dict.find?_eq_some_iff_mem key v).1 hv)

theorem keys_ascending (dict : Dict α) : dict.keys.Pairwise (· < ·) := dict.ascending

end Dict

end MarkupActions
