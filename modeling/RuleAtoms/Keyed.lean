/-
**Maps that remember the order of insertion.**

A `Keyed` map is a list of entries with distinct keys, in the order in which the keys were first
inserted. Inserting a key again replaces its value and keeps its place.

* `find?_insert`: what is found after an insertion;
* `keys_insert`, `entries_insert`: the keys after an insertion, and their order;
* `find?_eq_some_iff`: what is found under a key is the entry with this key.
-/

namespace RuleAtoms

/-- Entries with distinct keys, in the order of their first insertion. -/
structure Keyed (α : Type) where
  entries : List (String × α)
  distinct : (entries.map Prod.fst).Nodup

namespace Keyed

variable {α : Type}

def empty : Keyed α := ⟨[], List.nodup_nil⟩

def keys (map : Keyed α) : List String := map.entries.map Prod.fst

/-- The value that the map holds for a key. -/
def find? (map : Keyed α) (key : String) : Option α :=
  (map.entries.find? (·.1 == key)).map Prod.snd

def contains (map : Keyed α) (key : String) : Bool := map.entries.any (·.1 == key)

/-- The entries after the value of a key has been replaced. -/
def replaced (entries : List (String × α)) (key : String) (value : α) : List (String × α) :=
  entries.map fun entry => if entry.1 == key then (entry.1, value) else entry

theorem keys_replaced (entries : List (String × α)) (key : String) (value : α) :
    (replaced entries key value).map Prod.fst = entries.map Prod.fst := by
  simp only [replaced, List.map_map]
  congr 1
  funext entry
  simp only [Function.comp_apply]
  split <;> rfl

theorem not_mem_keys {entries : List (String × α)} {key : String}
    (absent : entries.any (·.1 == key) = false) : key ∉ entries.map Prod.fst := by
  simp only [List.any_eq_false, beq_iff_eq] at absent
  simp only [List.mem_map, not_exists, not_and]
  exact absent

/-- The map with a key bound to a value. -/
def insert (map : Keyed α) (key : String) (value : α) : Keyed α :=
  if present : map.contains key then
    ⟨replaced map.entries key value, by rw [keys_replaced]; exact map.distinct⟩
  else
    ⟨map.entries ++ [(key, value)], by
      rw [List.map_append, List.nodup_append]
      refine ⟨map.distinct, by simp, ?_⟩
      have absent := not_mem_keys (Bool.eq_false_iff.mpr present)
      simp only [List.map_cons, List.map_nil, List.mem_singleton]
      rintro first member second rfl rfl
      exact absent member⟩

/-- The map that a list of entries builds, inserted from left to right. -/
def ofList (entries : List (String × α)) : Keyed α :=
  entries.foldl (fun map entry => map.insert entry.1 entry.2) empty

/-- Whether two maps bind the same keys to the same values, in whatever order. -/
def agrees [BEq α] (first second : Keyed α) : Bool :=
  first.entries.length == second.entries.length &&
    first.entries.all fun entry => second.find? entry.1 == some entry.2

theorem find?_replaced (entries : List (String × α)) (key : String) (value : α)
    (wanted : String) :
    ((replaced entries key value).find? (·.1 == wanted)).map Prod.snd =
      if wanted = key then (entries.find? (·.1 == wanted)).map (fun _ => value)
      else (entries.find? (·.1 == wanted)).map Prod.snd := by
  induction entries with
  | nil => simp [replaced]
  | cons entry rest ih =>
    simp only [replaced, List.map_cons, List.find?_cons] at ih ⊢
    by_cases isKey : entry.1 = key <;> by_cases isWanted : entry.1 = wanted <;> grind

theorem keys_insert (map : Keyed α) (key : String) (value : α) :
    (map.insert key value).keys = if map.contains key then map.keys else map.keys ++ [key] := by
  unfold insert
  split
  · simp [keys, keys_replaced]
  · simp [keys]

/-- A new key is inserted behind the others. -/
theorem entries_insert {map : Keyed α} {key : String} (fresh : map.contains key = false)
    (value : α) : (map.insert key value).entries = map.entries ++ [(key, value)] := by
  unfold insert
  rw [dif_neg (Bool.eq_false_iff.mp fresh)]

theorem find?_insert (map : Keyed α) (key : String) (value : α) (wanted : String) :
    (map.insert key value).find? wanted = if wanted = key then some value else map.find? wanted := by
  unfold insert find?
  split
  · rename_i present
    rw [find?_replaced]
    by_cases same : wanted = key
    · subst same
      have found : (map.entries.find? (·.1 == wanted)).isSome := by
        simpa [contains] using present
      obtain ⟨old, isOld⟩ := Option.isSome_iff_exists.mp found
      simp [isOld]
    · simp [same]
  · rename_i absent
    rw [List.find?_append]
    by_cases same : wanted = key
    · subst same
      have missing : map.entries.find? (·.1 == wanted) = none := by
        rw [List.find?_eq_none]
        intro entry member isKey
        exact absent (List.any_eq_true.mpr ⟨entry, member, isKey⟩)
      simp [missing]
    · have other : (key == wanted) = false := by simpa using Ne.symm same
      simp [same, other]

/-- **What is found under a key** is the entry with this key. -/
theorem find?_eq_some_iff {map : Keyed α} {key : String} {value : α} :
    map.find? key = some value ↔ (key, value) ∈ map.entries := by
  constructor
  · intro found
    obtain ⟨⟨other, bound⟩, isFound, rfl⟩ := Option.map_eq_some_iff.mp found
    have isKey : other = key := by simpa using List.find?_some isFound
    exact isKey ▸ List.mem_of_find?_eq_some isFound
  · intro member
    have distinct := map.distinct
    unfold find?
    generalize map.entries = entries at member distinct
    induction entries with
    | nil => cases member
    | cons entry rest ih =>
      obtain ⟨fresh, restDistinct⟩ := List.nodup_cons.mp distinct
      rcases List.mem_cons.mp member with rfl | inRest
      · rw [List.find?_cons_of_pos (by simp), Option.map_some]
      · have other : entry.1 ≠ key := by
          intro same
          exact fresh (List.mem_map.mpr ⟨_, inRest, same.symm⟩)
        rw [List.find?_cons_of_neg (by simpa using other)]
        exact ih inRest restDistinct

end Keyed

end RuleAtoms
