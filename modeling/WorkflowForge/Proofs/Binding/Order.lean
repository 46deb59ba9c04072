import Mathlib.Data.List.Nodup
import WorkflowForge.Proofs.Binding.Effect

/-!
Binding puts every collection in order. An entry runs after those that its links name, and after those that they run
after. Binding links each entry to the one before it; so where the links that were there lead back to earlier entries
only, running after is standing behind, in every collection that is visited.
-/

namespace WorkflowForge

namespace Fields

/-- One entry stands before another. -/
def Before (entries : Fields) (earlier later : String) : Prop :=
  ∃ i j : Nat, i < j ∧ (names entries)[i]? = some earlier ∧ (names entries)[j]? = some later

/-- The entry at an index has an object for its body, and a name that no entry before it has. -/
def NewObjectAt (entries : Fields) (k : Nat) : Prop :=
  ∃ name body, entries[k]? = some (name, .object body) ∧ name ∉ names (entries.take k)

theorem getElem?_names (entries : Fields) (i : Nat) : (names entries)[i]? = entries[i]?.map (·.1) := by
  simp [names]

instance (entries : Fields) (earlier later : String) : Decidable (Before entries earlier later) :=
  decidable_of_iff (∃ j, ∃ _ : j < (names entries).length,
    (names entries)[j]? = some later ∧ earlier ∈ (names entries).take j) <| by
      constructor
      · rintro ⟨j, _, hj, hmem⟩
        obtain ⟨i, hi⟩ := List.mem_iff_getElem?.mp hmem
        rw [List.getElem?_take] at hi
        split at hi
        · next hij => exact ⟨i, j, hij, hi, hj⟩
        · cases hi
      · rintro ⟨i, j, hij, hi, hj⟩
        refine ⟨j, (List.getElem?_eq_some_iff.mp hj).1, hj, List.mem_iff_getElem?.mpr ⟨i, ?_⟩⟩
        rw [List.getElem?_take, if_pos hij, hi]

theorem before_congr {entries others : Fields} (h : names entries = names others) (earlier later : String) :
    Before entries earlier later ↔ Before others earlier later := by
  rw [Before, h, Before]

theorem Before.trans {entries : Fields} (hdistinct : (names entries).Nodup) {first second third : String}
    (h₁ : Before entries first second) (h₂ : Before entries second third) : Before entries first third := by
  obtain ⟨i, j, hij, hi, hj⟩ := h₁
  obtain ⟨j', k, hjk, hj', hk⟩ := h₂
  have hj_lt : j < (names entries).length := (List.getElem?_eq_some_iff.mp hj).1
  have hsame : j = j' := (List.getElem?_inj hj_lt hdistinct).mp (hj.trans hj'.symm)
  exact ⟨i, k, by omega, hi, hk⟩

theorem Before.irrefl {entries : Fields} (hdistinct : (names entries).Nodup) (name : String) :
    ¬ Before entries name name := by
  rintro ⟨i, j, hij, hi, hj⟩
  have hi_lt : i < (names entries).length := (List.getElem?_eq_some_iff.mp hi).1
  have hsame : i = j := (List.getElem?_inj hi_lt hdistinct).mp (hi.trans hj.symm)
  omega

theorem Follows.before {entries : Fields} {previous name : String} {body : Json}
    (h : Follows entries previous name body) : Before entries previous name := by
  obtain ⟨front, value, back, rfl, _, _⟩ := h
  refine ⟨front.length, front.length + 1, by omega, ?_, ?_⟩
  · rw [getElem?_names]
    simp
  · rw [getElem?_names]
    simp

/-- Of two entries next to each other the second follows the first, if it is the first of its name. -/
theorem follows_of_getElem? {entries : Fields} {k : Nat} {previous name : String} {body : Json}
    (hprevious : (names entries)[k]? = some previous) (hentry : entries[k + 1]? = some (name, body))
    (hnew : name ∉ names (entries.take (k + 1))) : Follows entries previous name body := by
  rw [getElem?_names, Option.map_eq_some_iff] at hprevious
  obtain ⟨⟨key, value⟩, hk, rfl⟩ := hprevious
  have hk_lt : k < entries.length := (List.getElem?_eq_some_iff.mp hk).1
  have hlt : k + 1 < entries.length := (List.getElem?_eq_some_iff.mp hentry).1
  have htake : entries.take (k + 1) = entries.take k ++ [(key, value)] := by
    rw [List.take_add_one, hk]
    rfl
  have hdrop : entries.drop k = (key, value) :: (name, body) :: entries.drop (k + 2) := by
    rw [List.drop_eq_getElem_cons hk_lt, List.drop_eq_getElem_cons hlt, (List.getElem?_eq_some_iff.mp hk).2,
      (List.getElem?_eq_some_iff.mp hentry).2]
  rw [htake, names_append, List.mem_append, not_or] at hnew
  refine ⟨entries.take k, value, entries.drop (k + 2), ?_, hnew.1, by simpa using hnew.2⟩
  rw [← hdrop, List.take_append_drop]

theorem not_mem_names_take {entries : Fields} (hdistinct : (names entries).Nodup) {k : Nat} {name : String} {v : Json}
    (hentry : entries[k]? = some (name, v)) : name ∉ names (entries.take k) := by
  intro hmem
  obtain ⟨i, hi⟩ := List.mem_iff_getElem?.mp hmem
  have hk : (names entries)[k]? = some name := by
    rw [getElem?_names, hentry]
    rfl
  have hk_lt : k < (names entries).length := (List.getElem?_eq_some_iff.mp hk).1
  rw [getElem?_names, List.getElem?_take] at hi
  split at hi
  · rw [← getElem?_names] at hi
    have hsame : k = i := (List.getElem?_inj hk_lt hdistinct).mp (hk.trans hi.symm)
    omega
  · cases hi

theorem get?_of_getElem? {entries : Fields} {k : Nat} {name : String} {v : Json}
    (hentry : entries[k]? = some (name, v)) (hnew : name ∉ names (entries.take k)) :
    get? entries name = some v := by
  obtain ⟨hk, hvalue⟩ := List.getElem?_eq_some_iff.mp hentry
  have hsplit : entries = entries.take k ++ (name, v) :: entries.drop (k + 1) := by
    rw [← hvalue, ← List.drop_eq_getElem_cons hk, List.take_append_drop]
  rw [hsplit, get?_append_of_not_mem _ hnew, get?_cons, if_pos rfl]

end Fields

namespace Binding

/-- An entry has another among its links. -/
def RunsAfter (entries : Fields) (later earlier : String) : Prop :=
  ∃ links, (Fields.get? entries later).bind (·.objectField? "runAfter") = some links ∧ earlier ∈ Fields.names links

theorem runAfter_linkTo (previous : String) (body : Fields) :
    (linkTo (some previous) (bindBody (.object body))).objectField? "runAfter" =
      some (withLink previous (linksOf body)) := by
  change (Fields.get? (linked previous (bindParts body)) "runAfter").bind _ = _
  rw [linked_eq_set, Fields.get?_set_self, linksOf_bindParts]
  rfl

theorem mem_names_withLink (previous : String) (links : Fields) (name : String) :
    name ∈ Fields.names (withLink previous links) ↔ name ∈ Fields.names links ∨ name = previous := by
  unfold withLink
  split
  · next h =>
      rw [Fields.has_iff] at h
      exact ⟨.inl, fun hor => hor.elim id fun heq => heq ▸ h⟩
  · simp

/-- In a bound collection an entry runs after the one it stands behind. -/
theorem runsAfter_bind_of_follows {entries : Fields} {previous name : String} {body : Fields}
    (h : Fields.Follows entries previous name (.object body)) : RunsAfter (bind entries) name previous := by
  refine ⟨withLink previous (linksOf body), ?_, (mem_names_withLink _ _ _).mpr (.inr rfl)⟩
  rw [get?_bind_of_follows h]
  exact runAfter_linkTo previous body

/-- Along new entries with objects for their bodies, the last runs after the first. -/
theorem transGen_bind_of_newObjects {entries : Fields} {i j : Nat} (hij : i < j)
    (hnew : ∀ k, i < k → k ≤ j → Fields.NewObjectAt entries k) {earlier later : String}
    (hearlier : (Fields.names entries)[i]? = some earlier) (hlater : (Fields.names entries)[j]? = some later) :
    Relation.TransGen (RunsAfter (bind entries)) later earlier := by
  induction j generalizing later with
  | zero => omega
  | succ j ih =>
      obtain ⟨name, body, hentry, hfirst⟩ := hnew (j + 1) hij (Nat.le_refl _)
      rw [Fields.getElem?_names, hentry] at hlater
      cases hlater
      by_cases heq : i = j
      · subst heq
        exact .single (runsAfter_bind_of_follows (Fields.follows_of_getElem? hearlier hentry hfirst))
      · obtain ⟨middle, _, hmiddle, _⟩ := hnew j (by omega) (by omega)
        have hname : (Fields.names entries)[j]? = some middle := by
          rw [Fields.getElem?_names, hmiddle]
          rfl
        refine .head (runsAfter_bind_of_follows (Fields.follows_of_getElem? hname hentry hfirst)) ?_
        exact ih (by omega) (fun k hik hkj => hnew k hik (by omega)) hname

/-- A collection in which bodies are objects, and links lead back to earlier entries. -/
structure Orderly (entries : Fields) : Prop where
  distinct : (Fields.names entries).Nodup
  objects : ∀ entry ∈ entries, entry.2.isObject
  backward : ∀ entry ∈ entries, ∀ links ∈ entry.2.objectField? "runAfter", ∀ earlier ∈ Fields.names links,
    Fields.Before entries earlier entry.1

instance (entries : Fields) : Decidable (Orderly entries) :=
  decidable_of_iff ((Fields.names entries).Nodup ∧ (∀ entry ∈ entries, entry.2.isObject) ∧
    ∀ entry ∈ entries, ∀ links ∈ entry.2.objectField? "runAfter", ∀ earlier ∈ Fields.names links,
      Fields.Before entries earlier entry.1) ⟨fun h => ⟨h.1, h.2.1, h.2.2⟩, fun h => ⟨h.1, h.2, h.3⟩⟩

namespace Orderly

variable {entries : Fields}

theorem exists_body (h : Orderly entries) {name : String} {v : Json} (hv : Fields.get? entries name = some v) :
    ∃ body, v = .object body := by
  have hobject := h.objects (name, v) (Fields.mem_of_get? hv)
  cases v with
  | object body => exact ⟨body, rfl⟩
  | _ => cases hobject

theorem before_of_linksOf (h : Orderly entries) {name earlier : String} {body : Fields}
    (hbody : Fields.get? entries name = some (.object body)) (hmem : earlier ∈ Fields.names (linksOf body)) :
    Fields.Before entries earlier name := by
  refine h.backward (name, .object body) (Fields.mem_of_get? hbody) (linksOf body) ?_ earlier hmem
  unfold linksOf at hmem ⊢
  split at hmem
  · next links hlinks =>
      change (Fields.get? body "runAfter").bind Json.asObject? = some _
      rw [hlinks]
      rfl
  · cases hmem

/-- Binding adds no link but to earlier entries. -/
theorem before_of_runsAfter (h : Orderly entries) {later earlier : String}
    (hrun : RunsAfter (bind entries) later earlier) : Fields.Before entries earlier later := by
  obtain ⟨links, hlinks, hmem⟩ := hrun
  obtain ⟨v, hv, _⟩ := Option.bind_eq_some_iff.mp hlinks
  have hname : later ∈ Fields.names entries := by
    rw [← names_bind]
    exact Fields.mem_names_of_get? hv
  obtain ⟨w, hw⟩ := Fields.exists_get?_of_mem_names hname
  obtain ⟨body, rfl⟩ := h.exists_body hw
  rcases Fields.head_or_follows hw with hhead | ⟨previous, hfollows⟩
  · rw [get?_bind_of_head hhead] at hlinks
    have hold : linksOf body = links := by
      rw [← linksOf_bindParts, linksOf]
      change (Fields.get? (bindParts body) "runAfter").bind Json.asObject? = some links at hlinks
      obtain ⟨u, hu, hulinks⟩ := Option.bind_eq_some_iff.mp hlinks
      rw [(Json.asObject?_eq_some_iff u links).mp hulinks] at hu
      rw [hu]
    exact h.before_of_linksOf hw (hold ▸ hmem)
  · rw [get?_bind_of_follows hfollows, Option.bind_some, runAfter_linkTo] at hlinks
    cases hlinks
    rcases (mem_names_withLink _ _ _).mp hmem with hold | rfl
    · exact h.before_of_linksOf hw hold
    · exact hfollows.before

theorem transGen_of_before (h : Orderly entries) {earlier later : String}
    (hbefore : Fields.Before entries earlier later) :
    Relation.TransGen (RunsAfter (bind entries)) later earlier := by
  obtain ⟨i, j, hij, hi, hj⟩ := hbefore
  refine transGen_bind_of_newObjects hij (fun k _ hkj => ?_) hi hj
  have hlen : (Fields.names entries).length = entries.length := by simp [Fields.names]
  have hj_lt : j < (Fields.names entries).length := (List.getElem?_eq_some_iff.mp hj).1
  obtain ⟨⟨name, v⟩, hentry⟩ : ∃ entry, entries[k]? = some entry :=
    ⟨_, List.getElem?_eq_getElem (show k < entries.length by omega)⟩
  have hnew := Fields.not_mem_names_take h.distinct hentry
  obtain ⟨body, rfl⟩ := h.exists_body (Fields.get?_of_getElem? hentry hnew)
  exact ⟨name, body, hentry, hnew⟩

/-- In an orderly collection that was bound, running after is standing behind. -/
theorem transGen_iff_before (h : Orderly entries) (later earlier : String) :
    Relation.TransGen (RunsAfter (bind entries)) later earlier ↔ Fields.Before entries earlier later := by
  constructor
  · intro hrun
    induction hrun with
    | single hstep => exact h.before_of_runsAfter hstep
    | tail _ hstep ih => exact (h.before_of_runsAfter hstep).trans h.distinct ih
  · exact h.transGen_of_before

end Orderly

/-- Whether entries have names of their own, and objects without links for their bodies. -/
def unlinked (entries : Fields) : Bool :=
  decide (Fields.names entries).Nodup &&
    entries.all fun entry => entry.2.isObject && ((entry.2.objectField? "runAfter").getD []).isEmpty

theorem unlinked_iff (entries : Fields) :
    unlinked entries = true ↔
      (Fields.names entries).Nodup ∧
        ∀ entry ∈ entries, entry.2.isObject ∧ (entry.2.objectField? "runAfter").getD [] = [] := by
  simp [unlinked]

theorem orderly_of_unlinked {entries : Fields} (h : unlinked entries = true) : Orderly entries := by
  obtain ⟨hdistinct, hbodies⟩ := (unlinked_iff entries).mp h
  refine ⟨hdistinct, fun entry hentry => (hbodies entry hentry).1, fun entry hentry links hlinks earlier hearlier => ?_⟩
  have hnone := (hbodies entry hentry).2
  rw [hlinks, Option.getD_some] at hnone
  rw [hnone] at hearlier
  cases hearlier

/-- A change in one of the bodies that leaves it an object with the same links. -/
theorem unlinked_modify {entries : Fields} {name : String} {f : Json → Json} (h : unlinked entries = true)
    (hf : ∀ v, v.isObject → (f v).isObject ∧ (f v).objectField? "runAfter" = v.objectField? "runAfter") :
    unlinked (Fields.modify name f entries) = true := by
  rw [unlinked_iff] at h ⊢
  rw [Fields.names_modify]
  refine ⟨h.1, fun entry hentry => ?_⟩
  rcases Fields.mem_modify hentry with hold | ⟨v, hv, rfl⟩
  · exact h.2 entry hold
  · obtain ⟨hobject, hlinks⟩ := h.2 (name, v) (Fields.mem_of_get? hv)
    obtain ⟨hobject', hlinks'⟩ := hf v hobject
    exact ⟨hobject', by rw [hlinks']; exact hlinks⟩

/-- If one collection is exchanged for another without links, at any depth, links come in nowhere. -/
theorem unlinked_modifyAt {r : Role} {v : Json} {place : List String} {new : Fields}
    (h : everyCollection unlinked r v = true) (hplace : r.along place = .collection)
    (hnew : everyCollection unlinked .collection (.object new) = true) :
    everyCollection unlinked r (v.modifyAt place fun _ => .object new) = true := by
  induction place generalizing r v with
  | nil =>
      rw [Json.modifyAt_nil]
      cases hplace
      exact hnew
  | cons name rest ih =>
      cases v with
      | object fields =>
          rw [everyCollection_object_iff] at h
          rw [Json.modifyAt, everyCollection_object_iff]
          refine ⟨fun hr => ?_, fun field hfield => ?_⟩
          · subst hr
            obtain ⟨key, more, rfl, hkey⟩ := Role.key_of_along_body hplace
            refine unlinked_modify (h.1 rfl) fun w hw => ?_
            cases w with
            | object body =>
                refine ⟨rfl, ?_⟩
                change (Fields.get? (Fields.modify key _ body) "runAfter").bind _ = _
                rw [Fields.get?_modify_of_ne _ _ (Ne.symm hkey)]
                rfl
            | _ => cases hw
          · rcases Fields.mem_modify hfield with hold | ⟨w, hw, rfl⟩
            · exact h.2 field hold
            · exact ih (h.2 (name, w) (Fields.mem_of_get? hw)) hplace
      | _ => rfl

/-- If in every collection that binding visits all bodies are objects and all links lead back to earlier entries, then
binding leaves the collections where they are, with their entries in their order, and in each of them an entry runs
after another, at once or through others, exactly if it stands behind it: after all those before it, after none of
those behind it, and never after itself. -/
theorem binding_sequentialises (s : Scope) (b : Bench) {entries : Fields}
    (hscope : b.document.objectAt? s.location = some entries)
    (horderly : ∀ place collection, Visited b.document s.location place →
      b.document.objectAt? place = some collection → Orderly collection) :
    (∀ place, Visited (documentAfter s b) s.location place ↔ Visited b.document s.location place) ∧
    ∀ place, Visited b.document s.location place →
      ∃ old new, b.document.objectAt? place = some old ∧ (documentAfter s b).objectAt? place = some new ∧
        Fields.names new = Fields.names old ∧
        (∀ name, ¬ Relation.TransGen (RunsAfter new) name name) ∧
        ∀ later earlier, Relation.TransGen (RunsAfter new) later earlier ↔ Fields.Before new earlier later := by
  refine ⟨visited_documentAfter_iff hscope, fun place hplace => ?_⟩
  obtain ⟨old, hold⟩ := hplace.exists_object hscope
  have h : Orderly old := horderly place old hplace hold
  refine ⟨old, bind old, hold, ?_, names_bind old, fun name hcycle => ?_, fun later earlier => ?_⟩
  · rw [objectAt?_documentAfter hscope hplace, hold]
    rfl
  · exact Fields.Before.irrefl h.distinct name ((h.transGen_iff_before name name).mp hcycle)
  · rw [Fields.before_congr (names_bind old)]
    exact h.transGen_iff_before later earlier

/-- A condition with actions on both sides, linked in part: the third action on the first side runs after the first
alone, so that it and the second would run side by side. -/
def branchingActions : Fields :=
  [("Start", .object [("type", .string "Compose")]),
    ("Check", .object
      [("type", .string "If"),
        ("actions", .object
          [("A", .object []),
            ("B", .object [("runAfter", .object [("A", succeeded)])]),
            ("C", .object [("runAfter", .object [("A", .array [.string "Failed"])])])]),
        ("else", .object [("actions", .object [("D", .object []), ("E", .object [])])])])]

def branchingBench : Bench :=
  { (default : Bench) with document := .object [("definition", .object [("actions", .object branchingActions)])] }

/-- All three collections of the condition are put in order; in the first of them C comes to run after B. -/
theorem binding_sequentialises_branching :
    branchingBench.document.objectAt? ["definition", "actions"] = some branchingActions ∧
    (∀ place collection, Visited branchingBench.document ["definition", "actions"] place →
      branchingBench.document.objectAt? place = some collection → Orderly collection) ∧
    Visited branchingBench.document ["definition", "actions"] ["definition", "actions", "Check", "actions"] ∧
    ∃ new, (documentAfter ⟨[], ["definition", "actions"]⟩ branchingBench).objectAt?
        ["definition", "actions", "Check", "actions"] = some new ∧
      Relation.TransGen (RunsAfter new) "C" "B" ∧ ¬ Relation.TransGen (RunsAfter new) "B" "C" := by
  have hscope : branchingBench.document.objectAt? ["definition", "actions"] = some branchingActions := rfl
  have horderly : ∀ place collection, Visited branchingBench.document ["definition", "actions"] place →
      branchingBench.document.objectAt? place = some collection → Orderly collection := by
    intro place collection hplace hcollection
    have hcheck : everyCollection (fun fields => decide (Orderly fields)) .collection (.object branchingActions) =
        true := by decide
    exact of_decide_eq_true (hplace.check hscope hcheck hcollection)
  have hvisited : Visited branchingBench.document ["definition", "actions"]
      ["definition", "actions", "Check", "actions"] := .nested "Check" .start .actions rfl
  obtain ⟨_, hall⟩ := binding_sequentialises ⟨[], ["definition", "actions"]⟩ branchingBench hscope horderly
  obtain ⟨old, new, hold, hnew, hnames, _, hiff⟩ := hall _ hvisited
  cases hold
  refine ⟨hscope, horderly, hvisited, new, hnew, (hiff "C" "B").mpr ?_, fun hback => ?_⟩
  · rw [Fields.before_congr hnames]
    decide
  · have hbefore := (Fields.before_congr hnames "C" "B").mp ((hiff "B" "C").mp hback)
    revert hbefore
    decide

end Binding

end WorkflowForge
