/-!
# Tables in insertion order

A table maps names to values and remembers the order in which the names were first inserted.
Inserting a name again replaces its value in place. No name occurs twice.
-/

namespace Xib

set_option autoImplicit false

/-- Replaces the value of a key where it stands, or puts a new key at the end. -/
def upsert {α : Type} (key : String) (value : α) : List (String × α) → List (String × α)
  | [] => [(key, value)]
  | entry :: rest =>
      if entry.1 = key then (key, value) :: rest else entry :: upsert key value rest

theorem upsert_keys_of_mem {α : Type} {key : String} (value : α) {entries : List (String × α)}
    (present : key ∈ entries.map Prod.fst) :
    (upsert key value entries).map Prod.fst = entries.map Prod.fst := by
  induction entries with
  | nil => simp at present
  | cons entry rest ih =>
      by_cases same : entry.1 = key
      · simp [upsert, same]
      · have later : key ∈ rest.map Prod.fst := by
          simpa [Ne.symm same] using present
        simp [upsert, same, ih later]

theorem upsert_of_not_mem {α : Type} {key : String} (value : α) {entries : List (String × α)}
    (absent : key ∉ entries.map Prod.fst) :
    upsert key value entries = entries ++ [(key, value)] := by
  induction entries with
  | nil => rfl
  | cons entry rest ih =>
      have different : ¬entry.1 = key := by
        intro same
        exact absent (by simp [same])
      have later : key ∉ rest.map Prod.fst := by
        intro member
        exact absent (List.mem_cons_of_mem _ member)
      simp [upsert, different, ih later]

theorem upsert_distinct {α : Type} (key : String) (value : α) {entries : List (String × α)}
    (distinct : (entries.map Prod.fst).Nodup) :
    ((upsert key value entries).map Prod.fst).Nodup := by
  by_cases present : key ∈ entries.map Prod.fst
  · rw [upsert_keys_of_mem value present]
    exact distinct
  · rw [upsert_of_not_mem value present, List.map_append, List.nodup_append]
    refine ⟨distinct, by simp, ?_⟩
    intro name member other single same
    simp only [List.map_cons, List.map_nil, List.mem_singleton] at single
    exact present (single ▸ same ▸ member)

theorem mem_upsert {α : Type} {key : String} {value : α} {entries : List (String × α)}
    {entry : String × α} (member : entry ∈ upsert key value entries) :
    entry = (key, value) ∨ entry ∈ entries := by
  induction entries with
  | nil => exact .inl (List.mem_singleton.mp member)
  | cons first rest ih =>
      simp only [upsert] at member
      split at member
      · rcases List.mem_cons.mp member with same | later
        · exact .inl same
        · exact .inr (List.mem_cons_of_mem first later)
      · rcases List.mem_cons.mp member with same | later
        · exact .inr (same ▸ List.mem_cons_self)
        · exact (ih later).imp id (List.mem_cons_of_mem first)

theorem lookup_upsert {α : Type} (key other : String) (value : α) (entries : List (String × α)) :
    (upsert key value entries).lookup other =
      if other = key then some value else entries.lookup other := by
  induction entries with
  | nil =>
      simp only [upsert, List.lookup_cons, List.lookup_nil]
      by_cases same : other = key
      · simp [same]
      · simp [same, beq_eq_false_iff_ne.mpr same]
  | cons entry rest ih =>
      obtain ⟨name, old⟩ := entry
      by_cases found : name = key
      · subst found
        simp only [upsert, if_true, List.lookup_cons]
        by_cases same : other = name
        · simp [same]
        · simp [same, beq_eq_false_iff_ne.mpr same]
      · simp only [upsert, found, if_false, List.lookup_cons, ih]
        by_cases same : other = name
        · simp [same, found]
        · simp [beq_eq_false_iff_ne.mpr same]

/-- Values under distinct names, in the order of first insertion. -/
structure Table (α : Type) where
  entries : List (String × α)
  distinct : (entries.map Prod.fst).Nodup

namespace Table

variable {α β : Type}

def empty : Table α := ⟨[], List.nodup_nil⟩

instance : Inhabited (Table α) := ⟨empty⟩

def insert (table : Table α) (key : String) (value : α) : Table α :=
  ⟨upsert key value table.entries, upsert_distinct key value table.distinct⟩

def get? (table : Table α) (key : String) : Option α :=
  table.entries.lookup key

def keys (table : Table α) : List String :=
  table.entries.map Prod.fst

def contains (table : Table α) (key : String) : Bool :=
  table.keys.contains key

def size (table : Table α) : Nat :=
  table.entries.length

/-- Later pairs win over earlier ones of the same name, and keep the earlier position. -/
def ofList (entries : List (String × α)) : Table α :=
  entries.foldl (fun table entry => table.insert entry.1 entry.2) empty

@[simp] theorem get?_insert (table : Table α) (key other : String) (value : α) :
    (table.insert key value).get? other =
      if other = key then some value else table.get? other :=
  lookup_upsert key other value table.entries

theorem isSome_get? (table : Table α) (key : String) :
    (table.get? key).isSome = table.contains key := by
  rw [get?, contains, keys]
  induction table.entries with
  | nil => rfl
  | cons entry rest ih =>
      obtain ⟨name, value⟩ := entry
      rw [List.lookup_cons, List.map_cons, List.contains_cons, ← ih]
      cases key == name <;> rfl

theorem contains_insert (table : Table α) (key other : String) (value : α) :
    (table.insert key value).contains other = (other == key || table.contains other) := by
  rw [← isSome_get?, ← isSome_get?, get?_insert]
  by_cases same : other = key
  · simp [same]
  · simp [same]

def filterMap (keep : String → Bool) (image : α → β) (table : Table α) : Table β where
  entries := (table.entries.filter fun entry => keep entry.1).map
    fun entry => (entry.1, image entry.2)
  distinct := by
    rw [List.map_map]
    exact table.distinct.sublist (List.filter_sublist.map Prod.fst)

theorem get?_filterMap (keep : String → Bool) (image : α → β) (table : Table α) (key : String) :
    (table.filterMap keep image).get? key =
      if keep key then (table.get? key).map image else none := by
  simp only [get?, filterMap]
  induction table.entries with
  | nil => simp
  | cons entry rest ih =>
      obtain ⟨name, value⟩ := entry
      by_cases same : key = name
      · subst same
        by_cases kept : keep key = true
        · simp [kept]
        · simpa [kept] using ih
      · have different : (key == name) = false := beq_eq_false_iff_ne.mpr same
        by_cases kept : keep name = true
        · simpa [kept, List.lookup_cons, different] using ih
        · simpa [kept, List.lookup_cons, different] using ih

end Table

end Xib
