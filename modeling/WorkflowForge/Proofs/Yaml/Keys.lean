import WorkflowForge.Proofs.Data.Accepted
import WorkflowForge.Proofs.Data.Lookup
import WorkflowForge.Yaml.Load

/-!
The names in YAML mappings. Of several entries under one name the last stands, also among those that are merged in, so a
mapping that is loaded has no name twice, and neither has a mapping under one of its names.
-/

namespace WorkflowForge.Yaml

open Datum (Distinct distinct_insert mem_insert)

/-- No name stands twice in what is a mapping. -/
def KeepsNames (d : Datum) : Prop := ∀ entries, d = .map entries → Distinct entries

theorem Built.both_eq_ok {x : Built α} {y : Built β} {a : α} {b : β} :
    both x y = .ok (a, b) ↔ x = .ok a ∧ y = .ok b := by
  cases x with
  | ok _ => cases y <;> simp [both]
  | error e =>
      cases y with
      | ok _ => simp [both]
      | error f =>
          simp only [both]
          split <;> simp

/-! ### Scalars -/

/-- What comes out, if anything does, is no mapping. -/
def NoMapping (x : Except Mistake Datum) : Prop := ∀ d, x = .ok d → ∀ entries, d ≠ .map entries

namespace NoMapping

theorem done {d : Datum} (h : ∀ entries, d ≠ .map entries) : NoMapping (pure d) := by
  intro d' hd
  cases hd
  exact h

theorem stop (m : Mistake) : NoMapping (throw m) := nofun

theorem bind (x : Except Mistake α) {f : α → Except Mistake Datum} (hf : ∀ a, NoMapping (f a)) :
    NoMapping (x >>= f) := by
  intro d hd
  obtain ⟨a, _, ha⟩ := bind_eq_ok.mp hd
  exact hf a d ha

theorem ite {c : Prop} [Decidable c] {x y : Except Mistake Datum} (hx : NoMapping x) (hy : NoMapping y) :
    NoMapping (if c then x else y) := by
  split
  · exact hx
  · exact hy

theorem bool (s : String) : NoMapping (Scalar.bool s) := by
  unfold Scalar.bool
  split
  case h_7 => exact .stop _
  all_goals exact .done nofun

theorem int (s : String) : NoMapping (Scalar.int s) := by
  apply NoMapping.bind
  rintro ⟨negative, cs⟩
  have hend : ∀ x : Except Mistake Int, NoMapping (x >>= fun n => pure (.int (if negative then -n else n))) :=
    fun x => .bind x fun _ => .done nofun
  dsimp only
  split
  case h_7 => exact .ite (.bind _ fun _ => hend _) (hend _)
  all_goals exact hend _

theorem float (s : String) : NoMapping (Scalar.float s) := by
  apply NoMapping.bind
  rintro ⟨negative, cs⟩
  have hend : ∀ x : Except Mistake Double,
      NoMapping (x >>= fun x => pure (.float (if negative then .ofFloat (-x.toFloat) else x))) :=
    fun x => .bind x fun _ => .done nofun
  exact .ite (.done nofun) (.ite (hend _) (.ite (.bind _ fun _ => hend _) (hend _)))

theorem timestamp (s : String) : NoMapping (Scalar.timestamp s) := by
  unfold Scalar.timestamp
  split
  · exact .stop _
  · dsimp only
    split
    · exact .ite (.done nofun) (.stop _)
    · exact .ite (.done nofun) (.stop _)

theorem binary (s : String) : NoMapping (Scalar.binary s) := by
  unfold Scalar.binary
  dsimp only
  split
  · exact .ite (.done nofun) (.stop _)
  · exact .stop _

theorem datum (tag : Tag) (s : String) : NoMapping (Scalar.datum tag s) := by
  unfold Scalar.datum
  split
  · exact .done nofun
  · exact bool s
  · exact int s
  · exact float s
  · exact .done nofun
  · exact timestamp s
  · exact binary s
  · exact .stop _

end NoMapping

/-! ### Nodes -/

namespace Node

theorem distinct_mapOf (entries : List (Datum × Datum)) : Distinct (mapOf entries) := by
  unfold mapOf
  have hfold : ∀ (l acc : List (Datum × Datum)), Distinct acc →
      Distinct (l.foldl (fun acc e => Datum.insert acc e.1 e.2) acc) := by
    intro l
    induction l with
    | nil => exact fun _ hacc => hacc
    | cons entry l ih => exact fun acc hacc => ih _ (distinct_insert hacc _ _)
  exact hfold entries [] List.nodup_nil

/-- The values in a mapping of entries are values of the entries. -/
theorem exists_mem_of_mem_mapOf {entries : List (Datum × Datum)} {entry : Datum × Datum} (h : entry ∈ mapOf entries) :
    ∃ k, (k, entry.2) ∈ entries := by
  have hfold : ∀ (l acc : List (Datum × Datum)),
      entry ∈ l.foldl (fun acc e => Datum.insert acc e.1 e.2) acc → ∃ k, (k, entry.2) ∈ acc ∨ (k, entry.2) ∈ l := by
    intro l
    induction l with
    | nil => exact fun _ hmem => ⟨entry.1, .inl hmem⟩
    | cons first l ih =>
        intro acc hmem
        obtain ⟨k, hacc | hl⟩ := ih _ hmem
        · rcases mem_insert hacc with hold | ⟨hvalue, _⟩
          · exact ⟨k, .inl hold⟩
          · refine ⟨first.1, .inr ?_⟩
            rw [show entry.2 = first.2 from hvalue]
            exact List.mem_cons_self
        · exact ⟨k, .inr (List.mem_cons_of_mem _ hl)⟩
  obtain ⟨k, hnil | hl⟩ := hfold entries [] h
  · cases hnil
  · exact ⟨k, hl⟩

theorem scalarDatum_ne_map {depth : Nat} {tag : Tag} {s : String} {entries : List (Datum × Datum)} :
    scalarDatum depth tag s ≠ .ok (.map entries) := by
  intro h
  unfold scalarDatum at h
  split at h
  · next hscalar =>
      cases h
      exact NoMapping.datum tag s _ hscalar entries rfl
  · cases h

/-- A mapping is made of the entries that are merged in and of its own. -/
theorem build_eq_map {depth : Nat} {n : Node} {entries : List (Datum × Datum)}
    (h : build depth n = .ok (.map entries)) :
    ∃ inner merged own, buildEntries (depth + 1) inner = .ok (merged, own) ∧ entries = mapOf (merged ++ own) := by
  cases n with
  | scalar tag s => exact absurd h scalarDatum_ne_map
  | cycle => cases h
  | sequence tag items =>
      unfold build at h
      split at h
      · obtain ⟨_, _, h⟩ := bind_eq_ok.mp h
        cases h
      · obtain ⟨_, _, h⟩ := bind_eq_ok.mp h
        unfold asPairs at h
        dsimp only at h
        split at h
        · cases h
        · cases h
      · cases h
  | mapping tag inner =>
      unfold build at h
      split at h
      · obtain ⟨⟨merged, own⟩, hinner, h⟩ := bind_eq_ok.mp h
        cases h
        exact ⟨inner, merged, own, hinner, rfl⟩
      · obtain ⟨_, _, h⟩ := bind_eq_ok.mp h
        cases h
      · split at h
        · exact absurd h scalarDatum_ne_map
        · cases h

theorem keepsNames_of_build {depth : Nat} {n : Node} {d : Datum} (h : build depth n = .ok d) : KeepsNames d := by
  rintro entries rfl
  obtain ⟨_, _, _, _, rfl⟩ := build_eq_map h
  exact distinct_mapOf _

mutual

/-- What stands in a mapping was built, also what is merged in. -/
theorem keepsNames_of_buildEntries : (entries : List (Node × Node)) → ∀ {depth merged own},
    buildEntries depth entries = .ok (merged, own) → ∀ e ∈ merged ++ own, KeepsNames e.2
  | [], _, _, _, h => by
      cases h
      nofun
  | (key, v) :: rest, depth, merged, own, h => by
      rw [buildEntries] at h
      split at h
      · obtain ⟨⟨here, more, own'⟩, hboth, heq⟩ := map_eq_ok.mp h
        cases heq
        obtain ⟨hhere, hrest⟩ := Built.both_eq_ok.mp hboth
        rw [List.append_assoc, List.forall_mem_append]
        exact ⟨keepsNames_of_buildMerged v hhere, keepsNames_of_buildEntries rest hrest⟩
      · obtain ⟨⟨⟨k, d⟩, merged', own'⟩, hboth, heq⟩ := map_eq_ok.mp h
        cases heq
        obtain ⟨hentry, hrest⟩ := Built.both_eq_ok.mp hboth
        obtain ⟨_, hvalue⟩ := Built.both_eq_ok.mp hentry
        have hothers := List.forall_mem_append.mp (keepsNames_of_buildEntries rest hrest)
        rw [List.forall_mem_append, List.forall_mem_cons]
        exact ⟨hothers.1, keepsNames_of_build hvalue, hothers.2⟩

theorem keepsNames_of_buildMerged : (n : Node) → ∀ {depth entries}, buildMerged depth n = .ok entries →
    ∀ e ∈ entries, KeepsNames e.2
  | .mapping _ inner, _, _, h => by
      obtain ⟨⟨merged, own⟩, hinner, rfl⟩ := map_eq_ok.mp h
      exact keepsNames_of_buildEntries inner hinner
  | .sequence _ items, _, _, h => keepsNames_of_buildMergedItems items h
  | .scalar _ _, _, _, h => by cases h
  | .cycle, _, _, h => by cases h

theorem keepsNames_of_buildMergedItems : (items : List Node) → ∀ {depth entries},
    buildMergedItems depth items = .ok entries → ∀ e ∈ entries, KeepsNames e.2
  | [], _, _, h => by
      cases h
      nofun
  | .mapping _ inner :: rest, _, _, h => by
      obtain ⟨⟨⟨merged, own⟩, more⟩, hboth, rfl⟩ := map_eq_ok.mp h
      obtain ⟨hinner, hrest⟩ := Built.both_eq_ok.mp hboth
      rw [List.forall_mem_append]
      exact ⟨keepsNames_of_buildMergedItems rest hrest, keepsNames_of_buildEntries inner hinner⟩
  | .sequence _ _ :: _, _, _, h => by cases h
  | .scalar _ _ :: _, _, _, h => by cases h
  | .cycle :: _, _, _, h => by cases h

end

end Node

/-- A mapping that was loaded has no name twice, and neither has a mapping under one of its names. -/
theorem distinct_of_load {s : String} {entries : List (Datum × Datum)} (h : load s = .ok (.map entries)) :
    Distinct entries ∧ ∀ name inner, Datum.lookup entries name = some (.map inner) → Distinct inner := by
  obtain ⟨root?, _, h⟩ := bind_eq_ok.mp h
  cases root? with
  | none => cases h
  | some root =>
      dsimp only at h
      split at h
      · next d hbuild =>
          cases h
          refine ⟨Node.keepsNames_of_build hbuild entries rfl, fun name inner hlookup => ?_⟩
          obtain ⟨nodes, merged, own, hnodes, rfl⟩ := Node.build_eq_map hbuild
          obtain ⟨k, hmem⟩ := Node.exists_mem_of_mem_mapOf (Datum.mem_of_lookup hlookup)
          exact Node.keepsNames_of_buildEntries nodes hnodes _ hmem inner rfl
      · cases h

end WorkflowForge.Yaml
