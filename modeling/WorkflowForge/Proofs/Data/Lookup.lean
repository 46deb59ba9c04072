import Mathlib.Data.List.Nodup
import WorkflowForge.Data.Datum

/-!
Names in mappings. A name is found only under a text, whatever other keys there are; putting a value under a key changes
what is found under that key and nothing else. A mapping that is made by putting in one entry after the other has no
name twice.
-/

namespace WorkflowForge.Datum

theorem sameKey_float_text (x : Double) (s : String) :
    sameKey (.float x) (.text s) = false ∧ sameKey (.text s) (.float x) = false := by
  cases hx : x.toInt? <;> simp [sameKey, integer?, hx]

/-- Only a text is the same key as a text. -/
theorem sameKey_text_iff {k : Datum} {s : String} : sameKey k (.text s) = true ↔ k = .text s := by
  cases k with
  | text t => exact beq_iff_eq.trans (text.injEq t s).to_iff.symm
  | float x =>
      rw [(sameKey_float_text x s).1]
      exact ⟨nofun, nofun⟩
  | _ => exact ⟨nofun, nofun⟩

theorem text_sameKey_iff {k : Datum} {s : String} : sameKey (.text s) k = true ↔ k = .text s := by
  cases k with
  | text t => exact beq_iff_eq.trans (eq_comm.trans (text.injEq t s).to_iff.symm)
  | float x =>
      rw [(sameKey_float_text x s).2]
      exact ⟨nofun, nofun⟩
  | _ => exact ⟨nofun, nofun⟩

theorem sameKey_eq_false {k : Datum} {s : String} (h : k ≠ .text s) : sameKey k (.text s) = false := by
  rw [Bool.eq_false_iff]
  exact fun hsame => h (sameKey_text_iff.mp hsame)

theorem lookup_cons_text (key : String) (v : Datum) (rest : Entries) (name : String) :
    lookup ((.text key, v) :: rest) name = if name = key then some v else lookup rest name := by
  unfold lookup
  rw [List.findSome?_cons]
  by_cases h : name = key
  · simp [h]
  · simp [h, Ne.symm h]

theorem lookup_cons_of_ne {key : Datum} {name : String} (h : key ≠ .text name) (v : Datum) (rest : Entries) :
    lookup ((key, v) :: rest) name = lookup rest name := by
  cases key with
  | text s =>
      rw [lookup_cons_text, if_neg]
      rintro rfl
      exact h rfl
  | _ => rfl

theorem lookup_cons_self (name : String) (v : Datum) (rest : Entries) :
    lookup ((.text name, v) :: rest) name = some v := by
  rw [lookup_cons_text, if_pos rfl]

theorem lookup_append (first second : Entries) (name : String) :
    lookup (first ++ second) name = (lookup first name).or (lookup second name) :=
  List.findSome?_append

/-- What is found under a name is the value of the first entry that has it for a key. -/
theorem map_find?_sameKey (entries : Entries) (name : String) :
    (entries.find? fun (k, _) => sameKey k (.text name)).map (·.2) = lookup entries name := by
  induction entries with
  | nil => rfl
  | cons entry rest ih =>
      obtain ⟨key, v⟩ := entry
      by_cases hkey : key = .text name
      · subst hkey
        rw [lookup_cons_self, List.find?_cons]
        dsimp only
        rw [sameKey_text_iff.mpr rfl]
        rfl
      · rw [lookup_cons_of_ne hkey, List.find?_cons]
        dsimp only
        rw [sameKey_eq_false hkey, ih]

theorem mem_of_lookup {entries : Entries} {name : String} {v : Datum} (h : lookup entries name = some v) :
    (.text name, v) ∈ entries := by
  rw [← map_find?_sameKey] at h
  obtain ⟨⟨key, v'⟩, hfind, rfl⟩ := Option.map_eq_some_iff.mp h
  have hsame := List.find?_some hfind
  dsimp only at hsame
  obtain rfl := sameKey_text_iff.mp hsame
  exact List.mem_of_find?_eq_some hfind

/-- A key that is there keeps its place and its spelling. -/
theorem insert_of_any {entries : Entries} {key : Datum} (h : entries.any (fun (k, _) => sameKey k key) = true)
    (value : Datum) :
    insert entries key value = entries.map fun (k, v) => if sameKey k key then (k, value) else (k, v) := if_pos h

/-- A key that is new comes last. -/
theorem insert_of_not_any {entries : Entries} {key : Datum} (h : ¬ entries.any (fun (k, _) => sameKey k key) = true)
    (value : Datum) : insert entries key value = entries ++ [(key, value)] := if_neg h

theorem lookup_insert_self (entries : Entries) (name : String) (value : Datum) :
    lookup (insert entries (.text name) value) name = some value := by
  by_cases hany : entries.any (fun (k, _) => sameKey k (.text name)) = true
  · rw [insert_of_any hany]
    induction entries with
    | nil => cases hany
    | cons entry rest ih =>
        obtain ⟨key, v⟩ := entry
        rw [List.map_cons]
        by_cases hkey : key = .text name
        · subst hkey
          dsimp only
          rw [if_pos (sameKey_text_iff.mpr rfl), lookup_cons_self]
        · dsimp only
          rw [sameKey_eq_false hkey, if_neg Bool.false_ne_true, lookup_cons_of_ne hkey]
          apply ih
          rw [List.any_cons] at hany
          exact (Bool.or_eq_true _ _ ▸ hany).resolve_left fun h => hkey (sameKey_text_iff.mp h)
  · have hnone : lookup entries name = none := by
      rw [← map_find?_sameKey, Option.map_eq_none_iff, List.find?_eq_none]
      intro entry hmem hsame
      exact hany (List.any_eq_true.mpr ⟨entry, hmem, hsame⟩)
    rw [insert_of_not_any hany, lookup_append, hnone, Option.none_or, lookup_cons_self]

theorem lookup_insert_of_ne {key : Datum} {name : String} (h : key ≠ .text name) (entries : Entries) (value : Datum) :
    lookup (insert entries key value) name = lookup entries name := by
  by_cases hany : entries.any (fun (k, _) => sameKey k key) = true
  · rw [insert_of_any hany]
    clear * - h
    induction entries with
    | nil => rfl
    | cons entry rest ih =>
        obtain ⟨k, v⟩ := entry
        rw [List.map_cons]
        by_cases hk : k = .text name
        · subst hk
          dsimp only
          rw [if_neg fun hsame => h (text_sameKey_iff.mp hsame), lookup_cons_self, lookup_cons_self]
        · rw [lookup_cons_of_ne hk, ← ih]
          dsimp only
          split
          · exact lookup_cons_of_ne hk value _
          · exact lookup_cons_of_ne hk v _
  · rw [insert_of_not_any hany, lookup_append, lookup_cons_of_ne h]
    exact Option.or_none

def name? : Datum → Option String
  | .text s => some s
  | _ => none

theorem name?_eq_some {key : Datum} {s : String} : key.name? = some s ↔ key = .text s := by
  cases key <;> simp [name?]

/-- The names in a mapping. -/
def names (entries : Entries) : List String := entries.filterMap (·.1.name?)

theorem mem_names {entries : Entries} {name : String} : name ∈ names entries ↔ ∃ v, (.text name, v) ∈ entries := by
  simp [names, name?_eq_some]

theorem lookup_eq_none_iff {entries : Entries} {name : String} :
    lookup entries name = none ↔ name ∉ names entries := by
  rw [← map_find?_sameKey, Option.map_eq_none_iff, List.find?_eq_none, mem_names]
  constructor
  · rintro h ⟨v, hmem⟩
    exact h _ hmem (sameKey_text_iff.mpr rfl)
  · rintro h ⟨key, v⟩ hmem hsame
    obtain rfl := sameKey_text_iff.mp hsame
    exact h ⟨v, hmem⟩

/-- No name stands in a mapping twice. -/
def Distinct (entries : Entries) : Prop := (names entries).Nodup

theorem Distinct.tail {entry : Datum × Datum} {rest : Entries} (h : Distinct (entry :: rest)) : Distinct rest := by
  have hsublist : (names rest).Sublist (names (entry :: rest)) := (List.sublist_cons_self entry rest).filterMap _
  exact h.sublist hsublist

theorem Distinct.lookup_tail {name : String} {v : Datum} {rest : Entries} (h : Distinct ((.text name, v) :: rest)) :
    lookup rest name = none :=
  lookup_eq_none_iff.mpr (List.nodup_cons.mp h).1

theorem distinct_insert {entries : Entries} (h : Distinct entries) (key value : Datum) :
    Distinct (insert entries key value) := by
  by_cases hany : entries.any (fun (k, _) => sameKey k key) = true
  · have hnames : names (insert entries key value) = names entries := by
      rw [insert_of_any hany, names, List.filterMap_map]
      refine List.filterMap_congr fun entry _ => ?_
      dsimp only [Function.comp]
      split <;> rfl
    rwa [Distinct, hnames]
  · rw [insert_of_not_any hany, Distinct, names, List.filterMap_append]
    cases hkey : key.name? with
    | none =>
        simp only [List.filterMap_cons, hkey, List.filterMap_nil, List.append_nil]
        exact h
    | some s =>
        obtain rfl := name?_eq_some.mp hkey
        apply h.append (by simp [hkey])
        rw [List.disjoint_comm]
        simp only [List.filterMap_cons, hkey, List.filterMap_nil, List.singleton_disjoint]
        intro hmem
        obtain ⟨v, hv⟩ := mem_names.mp hmem
        exact hany (List.any_eq_true.mpr ⟨_, hv, sameKey_text_iff.mpr rfl⟩)

/-- An entry of a mapping has the value that was put in last, or stood there before; in the first case its key is the
one that the value was put under, or stood there too. -/
theorem mem_insert {entries : Entries} {key value : Datum} {entry : Datum × Datum}
    (h : entry ∈ insert entries key value) :
    entry ∈ entries ∨ entry.2 = value ∧ (entry.1 = key ∨ ∃ v, (entry.1, v) ∈ entries) := by
  by_cases hany : entries.any (fun (k, _) => sameKey k key) = true
  · rw [insert_of_any hany] at h
    obtain ⟨⟨k, v⟩, hmem, rfl⟩ := List.mem_map.mp h
    dsimp only
    split
    · exact .inr ⟨rfl, .inr ⟨v, hmem⟩⟩
    · exact .inl hmem
  · rw [insert_of_not_any hany] at h
    rcases List.mem_append.mp h with hold | hnew
    · exact .inl hold
    · cases List.mem_singleton.mp hnew
      exact .inr ⟨rfl, .inl rfl⟩

end WorkflowForge.Datum
