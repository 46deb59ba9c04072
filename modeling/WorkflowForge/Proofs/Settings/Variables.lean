import WorkflowForge.Proofs.Data.Accepted
import WorkflowForge.Proofs.Data.Lookup
import WorkflowForge.Settings.Environment

/-!
What the environment gives. Some of its variables are read as JSON: those for a list or a whole group of settings, and
those for a list in a group, unless the variable for the group has the last word. The environment gives settings exactly
if all of these are JSON, and then it gives them under names.
-/

namespace WorkflowForge

namespace Environment

/-! ### Variables that are JSON -/

/-- The variables for parts of a group are looked at: the one for the whole group is missing, or gives a mapping. -/
def PartsCount (env : Environment) (setting : String) : Prop :=
  ∀ value, env.lookup (start ++ setting) = some value → ∃ entries, readJson value = .ok (.map entries)

/-- The texts of the variables that are read as JSON. -/
inductive IsReadAsJson (env : Environment) : String → Prop
  | whole {setting value : String} (hsetting : setting ∈ ["template_paths", "templating", "output"])
      (hvalue : env.lookup (start ++ setting) = some value) : IsReadAsJson env value
  | extensions {name key value : String} (hcount : PartsCount env "templating") (hmem : (name, value) ∈ env)
      (hkeys : keysBelow? "templating" name = some [key]) (hkey : key = "extensions" ∨ key = start ++ "extensions")
      (hvalue : value ≠ "") : IsReadAsJson env value

theorem isOk_readJson {s : String} : (readJson s).isOk = true ↔ ∃ v, Json.read s = .ok v := by
  unfold readJson
  cases Json.read s with
  | ok v => exact ⟨fun _ => ⟨v, rfl⟩, fun _ => rfl⟩
  | error e => exact ⟨nofun, nofun⟩

/-- The keys lead to a list of a group. -/
def LeadsToList (lists keys : List String) : Prop := ∃ key, keys = [key] ∧ ∃ l ∈ lists, key = l ∨ key = start ++ l

theorem isOk_partValue {lists keys : List String} {value : String} :
    (partValue lists keys value).isOk = true ↔ LeadsToList lists keys → value ≠ "" → (readJson value).isOk = true := by
  unfold partValue
  split
  · rename_i key
    split
    · rename_i h
      simp only [Bool.and_eq_true, bne_iff_ne, List.any_eq_true, Bool.or_eq_true, beq_iff_eq] at h
      exact ⟨fun hjson _ _ => hjson, fun hjson => hjson ⟨key, rfl, h.2⟩ h.1⟩
    · rename_i h
      simp only [Bool.and_eq_true, bne_iff_ne, List.any_eq_true, Bool.or_eq_true, beq_iff_eq] at h
      refine ⟨?_, fun _ => rfl⟩
      rintro _ ⟨_, ⟨⟩, hlist⟩ hvalue
      exact absurd ⟨hvalue, hlist⟩ h
  · rename_i hkeys
    refine ⟨?_, fun _ => rfl⟩
    rintro _ ⟨key, hkey, _⟩
    exact absurd hkey (hkeys key)

theorem isOk_partsOf {env : Environment} {setting : String} {lists : List String} :
    (partsOf env setting lists).isOk = true ↔ ∀ entry ∈ env, ∀ keys, keysBelow? setting entry.1 = some keys →
      LeadsToList lists keys → entry.2 ≠ "" → (readJson entry.2).isOk = true := by
  refine isOk_foldlM (fun entries entry => ?_) env []
  obtain ⟨name, value⟩ := entry
  dsimp only
  cases keysBelow? setting name with
  | none => exact ⟨fun _ => nofun, fun _ => rfl⟩
  | some keys =>
      simp only [Option.some.injEq, forall_eq', ← isOk_partValue]
      rw [isOk_bind, isOk_iff]
      exact ⟨fun ⟨v, hv, _⟩ => ⟨v, hv⟩, fun ⟨v, hv⟩ => ⟨v, hv, rfl⟩⟩

theorem isOk_compound {env : Environment} {setting : String} {lists : List String} :
    (compound env setting lists).isOk = true ↔
      (∀ value, env.lookup (start ++ setting) = some value → (readJson value).isOk = true) ∧
        (PartsCount env setting → (partsOf env setting lists).isOk = true) := by
  unfold compound PartsCount
  cases env.lookup (start ++ setting) with
  | none =>
      dsimp only
      rw [isOk_bind, isOk_iff]
      refine ⟨fun ⟨parts, hparts, _⟩ => ⟨nofun, fun _ => ⟨parts, hparts⟩⟩, fun ⟨_, h⟩ => ?_⟩
      obtain ⟨parts, hparts⟩ := h nofun
      refine ⟨parts, hparts, ?_⟩
      cases parts <;> rfl
  | some value =>
      simp only [Option.some.injEq, forall_eq', isOk_bind]
      cases readJson value with
      | error e => exact ⟨nofun, fun h => nomatch h.1⟩
      | ok v =>
          simp only [Except.ok.injEq, exists_eq_left']
          cases v with
          | map entries =>
              rw [isOk_bind]
              exact ⟨fun ⟨parts, hparts, _⟩ => ⟨rfl, fun _ => isOk_iff.mpr ⟨parts, hparts⟩⟩,
                fun ⟨_, h⟩ => (isOk_iff.mp (h ⟨entries, rfl⟩)).imp fun _ hparts => ⟨hparts, rfl⟩⟩
          | _ => exact ⟨fun _ => ⟨rfl, nofun⟩, fun _ => rfl⟩

theorem isOk_group (env : Environment) (setting : String) (lists names : List String) :
    (group env setting lists names).isOk = true ↔ (compound env setting lists).isOk = true := by
  unfold group
  cases compound env setting lists with
  | error e => exact ⟨nofun, nofun⟩
  | ok whole =>
      refine ⟨fun _ => rfl, fun _ => ?_⟩
      dsimp only [bind, Except.bind]
      split <;> rfl

theorem isOk_partsOf_nil (env : Environment) (setting : String) : (partsOf env setting []).isOk = true :=
  isOk_partsOf.mpr fun _ _ _ _ ⟨_, _, _, hmem, _⟩ => nomatch hmem

/-- The environment gives settings exactly if what is read as JSON is JSON. -/
theorem isOk_settings (env : Environment) :
    env.settings.isOk = true ↔ ∀ value, IsReadAsJson env.lowered value → ∃ v, Json.read value = .ok v := by
  have hsettings : env.settings.isOk = true ↔ (compound env.lowered "template_paths" []).isOk = true ∧
      (compound env.lowered "templating" ["extensions"]).isOk = true ∧
      (compound env.lowered "output" []).isOk = true := by
    rw [← isOk_group env.lowered "templating" _ ["extensions"], ← isOk_group env.lowered "output" _ ["json_indent"]]
    unfold settings
    simp only [isOk_bind]
    simp only [isOk_iff]
    exact ⟨fun ⟨paths, hpaths, templating, htemplating, output, houtput, _⟩ =>
        ⟨⟨paths, hpaths⟩, ⟨templating, htemplating⟩, output, houtput⟩,
      fun ⟨⟨paths, hpaths⟩, ⟨templating, htemplating⟩, output, houtput⟩ =>
        ⟨paths, hpaths, templating, htemplating, output, houtput, _, rfl⟩⟩
  rw [hsettings]
  -- of the three only the templating has a list among its parts
  simp only [isOk_compound, isOk_partsOf_nil, isOk_partsOf, implies_true, and_true, isOk_readJson]
  constructor
  · rintro ⟨hpaths, ⟨htemplating, hparts⟩, houtput⟩ value hread
    cases hread with
    | whole hsetting hvalue =>
        simp only [List.mem_cons, List.not_mem_nil, or_false] at hsetting
        rcases hsetting with rfl | rfl | rfl
        · exact hpaths value hvalue
        · exact htemplating value hvalue
        · exact houtput value hvalue
    | extensions hcount hmem hkeys hkey hvalue =>
        exact hparts hcount _ hmem _ hkeys ⟨_, rfl, "extensions", List.mem_singleton_self _, hkey⟩ hvalue
  · intro h
    have hwhole : ∀ setting ∈ ["template_paths", "templating", "output"], ∀ value,
        env.lowered.lookup (start ++ setting) = some value → ∃ v, Json.read value = .ok v :=
      fun setting hsetting value hvalue => h value (.whole hsetting hvalue)
    refine ⟨hwhole _ (by decide), ⟨hwhole _ (by decide), ?_⟩, hwhole _ (by decide)⟩
    rintro hcount ⟨name, value⟩ hmem keys hkeys ⟨key, rfl, l, hl, hkey⟩ hvalue
    cases List.mem_singleton.mp hl
    exact h value (.extensions hcount hmem hkeys hkey hvalue)

/-! ### Names -/

/-- All keys are texts. -/
def AllNamed (entries : Datum.Entries) : Prop := ∀ e ∈ entries, ∃ s, e.1 = .text s

theorem allNamed_nil : AllNamed [] := nofun

theorem allNamed_cons {e : Datum × Datum} {entries : Datum.Entries} :
    AllNamed (e :: entries) ↔ (∃ s, e.1 = .text s) ∧ AllNamed entries := List.forall_mem_cons

theorem allNamed_append {upper base : Datum.Entries} : AllNamed (upper ++ base) ↔ AllNamed upper ∧ AllNamed base :=
  List.forall_mem_append

theorem allNamed_insert {entries : Datum.Entries} {key value : Datum} :
    AllNamed (Datum.insert entries key value) ↔ AllNamed entries ∧ ∃ s, key = .text s := by
  unfold Datum.insert
  split
  · rename_i hany
    obtain ⟨⟨k, v⟩, hmem, hsame⟩ := List.any_eq_true.mp hany
    have hkeys : ∀ e : Datum × Datum, (if Datum.sameKey e.1 key then (e.1, value) else (e.1, e.2)).1 = e.1 := by
      intro e
      split <;> rfl
    rw [AllNamed, List.forall_mem_map]
    simp only [hkeys]
    refine ⟨fun hentries => ⟨hentries, ?_⟩, fun h => h.1⟩
    obtain ⟨s, hs⟩ := hentries _ hmem
    obtain rfl : k = .text s := hs
    exact ⟨s, Datum.text_sameKey_iff.mp hsame⟩
  · rw [allNamed_append, allNamed_cons]
    simp [allNamed_nil]

theorem allNamed_overlay {upper base : Datum.Entries} :
    AllNamed (overlay upper base) ↔ AllNamed upper ∧ AllNamed base := by
  induction upper generalizing base with
  | nil => simp [overlay, allNamed_nil]
  | cons entry upper ih =>
      obtain ⟨key, v⟩ := entry
      rw [overlay, ih, allNamed_insert, allNamed_cons]
      exact ⟨fun ⟨hupper, hbase, hkey⟩ => ⟨⟨hkey, hupper⟩, hbase⟩, fun ⟨⟨hkey, hupper⟩, hbase⟩ => ⟨hupper, hbase, hkey⟩⟩

theorem allNamed_simple (env : Environment) (setting : String) : AllNamed (simple env setting) := by
  unfold simple
  split
  · exact allNamed_cons.mpr ⟨⟨_, rfl⟩, allNamed_nil⟩
  · exact allNamed_nil

theorem allNamed_of_group {env : Environment} {setting : String} {lists names : List String} {entries : Datum.Entries}
    (h : group env setting lists names = .ok entries) : AllNamed entries := by
  unfold group at h
  obtain ⟨whole, _, h⟩ := bind_eq_ok.mp h
  split at h
  · cases h
    exact allNamed_nil
  · cases h
    exact allNamed_cons.mpr ⟨⟨_, rfl⟩, allNamed_nil⟩
  · cases h
    exact allNamed_cons.mpr ⟨⟨_, rfl⟩, allNamed_nil⟩

/-- The settings of the environment stand under names. -/
theorem allNamed_of_settings {env : Environment} {entries : Datum.Entries} (h : env.settings = .ok entries) :
    AllNamed entries := by
  unfold settings at h
  dsimp only at h
  obtain ⟨paths, _, h⟩ := bind_eq_ok.mp h
  obtain ⟨templating, htemplating, h⟩ := bind_eq_ok.mp h
  obtain ⟨output, houtput, h⟩ := bind_eq_ok.mp h
  cases h
  simp only [allNamed_append]
  refine ⟨⟨⟨⟨?_, allNamed_simple _ _⟩, allNamed_of_group htemplating⟩, allNamed_of_group houtput⟩, allNamed_simple _ _⟩
  exact List.forall_mem_map.mpr fun v _ => ⟨_, rfl⟩

end Environment

end WorkflowForge
