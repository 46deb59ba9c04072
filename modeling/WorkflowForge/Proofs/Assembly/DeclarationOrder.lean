import Mathlib.Data.List.Infix
import WorkflowForge.Proofs.Assembly.Placement

/-!
Execution order and declaration order. Of two children of a container the second is meant to run after the first. Once
the document is bound this holds of all actions inserted for them if every container has an entry of its own. It can
fail where the first action of a container finds its name taken: the container's children then go into the collection
of the entry that has the name, in front of everything inserted since. What decides is where the actions stand: they
run in the order of their declaration exactly if they stand in it.
-/

namespace WorkflowForge

/-- Two places part in a collection that is bound with the one at the start: up to it they are the same, and from there
they go on in different entries. It is the lowest collection that holds both. -/
structure Parting (document : Json) (start earlier later place : List String) (first second : String) : Prop where
  visited : Binding.Visited document start place
  distinct : first ≠ second
  earlier : place ++ [first] <+: earlier
  later : place ++ [second] <+: later

/-- In the lowest collection that holds the actions at two places, the entry of the later runs after that of the
earlier, at once or through others. -/
def ExecutesAfter (document : Json) (start later earlier : List String) : Prop :=
  ∃ place first second entries, Parting document start earlier later place first second ∧
    document.objectAt? place = some entries ∧ Relation.TransGen (Binding.RunsAfter entries) second first

/-- In the lowest collection that holds the actions at two places, the entry of the later stands behind that of the
earlier. -/
def StandsBehind (document : Json) (start later earlier : List String) : Prop :=
  ∃ place first second entries, Parting document start earlier later place first second ∧
    document.objectAt? place = some entries ∧ Fields.Before entries first second

section

variable {s : Scope} {b : Bench} {entries : Fields}

/-- Binding makes what trails run after what it trails. -/
theorem Trails.executesAfter (hscope : b.document.objectAt? s.location = some entries) {later earlier : List String}
    (h : Trails b.document s.location later earlier) :
    ExecutesAfter (Binding.documentAfter s b) s.location later earlier := by
  obtain ⟨place, collection, first, second, hvisited, hcollection, hleads, hearlier, hlater⟩ := h
  refine ⟨place, first, second, Binding.bind collection, ⟨?_, hleads.ne, hearlier, hlater⟩, ?_, ?_⟩
  · exact (Binding.visited_documentAfter_iff hscope place).mpr hvisited
  · rw [Binding.objectAt?_documentAfter hscope hvisited, hcollection]
    rfl
  · obtain ⟨i, j, hij, hi, hj, hnew⟩ := hleads
    exact Binding.transGen_bind_of_newObjects hij hnew hi hj

/-- Where all collections are orderly, binding makes running after the same as standing behind. -/
theorem executesAfter_iff_standsBehind (hscope : b.document.objectAt? s.location = some entries)
    (horderly : ∀ place collection, Binding.Visited b.document s.location place →
      b.document.objectAt? place = some collection → Binding.Orderly collection) (later earlier : List String) :
    ExecutesAfter (Binding.documentAfter s b) s.location later earlier ↔
      StandsBehind b.document s.location later earlier := by
  constructor
  · rintro ⟨place, first, second, new, hparting, hnew, hruns⟩
    have hvisited := (Binding.visited_documentAfter_iff hscope place).mp hparting.visited
    rw [Binding.objectAt?_documentAfter hscope hvisited, Option.map_eq_some_iff] at hnew
    obtain ⟨old, hold, rfl⟩ := hnew
    refine ⟨place, first, second, old, { hparting with visited := hvisited }, hold, ?_⟩
    exact ((horderly place old hvisited hold).transGen_iff_before second first).mp hruns
  · rintro ⟨place, first, second, old, hparting, hold, hbefore⟩
    have hvisited := (Binding.visited_documentAfter_iff hscope place).mpr hparting.visited
    refine ⟨place, first, second, Binding.bind old, { hparting with visited := hvisited }, ?_, ?_⟩
    · rw [Binding.objectAt?_documentAfter hscope hparting.visited, hold]
      rfl
    · exact ((horderly place old hparting.visited hold).transGen_iff_before second first).mpr hbefore

end

/-- A contribution without links leaves a collection without links. -/
theorem Contribution.onto_unlinked (c : Contribution)
    (hactions : Binding.everyCollection Binding.unlinked .collection (.object c.actions) = true) {entries : Fields}
    (hentries : Binding.everyCollection Binding.unlinked .collection (.object entries) = true) :
    Binding.everyCollection Binding.unlinked .collection (.object (c.onto entries)) = true := by
  rw [Binding.everyCollection_object_iff] at hactions hentries ⊢
  have hcases {entry : String × Json} (h : entry ∈ c.onto entries) : entry ∈ entries ∨ entry ∈ c.actions :=
    (List.mem_append.mp h).imp_right Fields.mem_of_mem_free
  obtain ⟨hdistinct, hbodies⟩ := (Binding.unlinked_iff entries).mp (hentries.1 rfl)
  obtain ⟨_, hbodies'⟩ := (Binding.unlinked_iff c.actions).mp (hactions.1 rfl)
  refine ⟨fun _ => (Binding.unlinked_iff _).mpr ⟨?_, fun entry h => (hcases h).elim (hbodies entry) (hbodies' entry)⟩,
    fun entry h => (hcases h).elim (hentries.2 entry) (hactions.2 entry)⟩
  rw [Contribution.onto, Fields.names_append]
  refine List.nodup_append.mpr ⟨hdistinct, Fields.nodup_names_free _ _, fun first hfirst second hsecond heq => ?_⟩
  exact Fields.not_mem_taken_of_mem_free hsecond (heq ▸ hfirst)

/-- Contributions without links, to collections below a start, leave the collection at the start without links at any
depth. -/
theorem Enterings.unlinked {allowed : Contribution → Prop} {start : List String} {old new : Json}
    (h : Enterings allowed old new) (hbelow : ∀ c, allowed c → Below start c.scope.location)
    (hactions : ∀ c, allowed c → Binding.everyCollection Binding.unlinked .collection (.object c.actions) = true)
    {entries : Fields} (hentries : old.objectAt? start = some entries)
    (hunlinked : Binding.everyCollection Binding.unlinked .collection (.object entries) = true) :
    ∃ grown, new.objectAt? start = some grown ∧
      Binding.everyCollection Binding.unlinked .collection (.object grown) = true := by
  induction h with
  | refl => exact ⟨entries, hentries, hunlinked⟩
  | tail _ hlast ih =>
      obtain ⟨between, hbetween, hchecked⟩ := ih
      obtain ⟨grown, hgrown, _⟩ := hlast.grows.objectAt? hbetween
      refine ⟨grown, hgrown, ?_⟩
      cases hlast with
      | @enter c _ collection hallowed hcollection =>
          obtain ⟨rest, hrest, halong⟩ := hbelow c hallowed
          rw [hrest, Json.objectAt?_append, (Json.objectAt?_eq_some_iff _ _ _).mp hbetween] at hcollection
          have hpart := Binding.everyCollection_at hchecked ((Json.objectAt?_eq_some_iff _ _ _).mp hcollection)
          rw [halong] at hpart
          have hchanged := Binding.unlinked_modifyAt hchecked halong (c.onto_unlinked (hactions c hallowed) hpart)
          rw [hrest, Json.modifyAt_append, Json.objectAt?_eq_some_iff, Json.at?_modifyAt,
            (Json.objectAt?_eq_some_iff _ _ _).mp hbetween, Option.map_some, Option.some_inj] at hgrown
          rw [← hgrown]
          exact hchanged

/-- After an assembly without path overrides and links into an empty collection, and the binding of it, an action runs
after another exactly if it stands behind it. -/
theorem Recorded.executesAfter_iff {s : Scope} {record : Record} {old : Json} {b : Bench}
    (h : Recorded s record old b.document) (hempty : old.objectAt? s.location = some [])
    (hpaths : ∀ x ∈ record.contributions, x.payload.actionPath = none)
    (hunlinked : ∀ x ∈ record.contributions,
      Binding.everyCollection Binding.unlinked .collection (.object x.actions) = true) (later earlier : List String) :
    ExecutesAfter (Binding.documentAfter s b) s.location later earlier ↔
      StandsBehind b.document s.location later earlier := by
  obtain ⟨hsteps, hbelow⟩ := Recorded.enterings record h hpaths
  obtain ⟨entries, hentries, hchecked⟩ := hsteps.unlinked hbelow hunlinked hempty rfl
  refine executesAfter_iff_standsBehind hentries (fun place collection hvisited hcollection => ?_) later earlier
  exact Binding.orderly_of_unlinked (hvisited.check hentries hchecked hcollection)

/-- The order in which the actions of a workflow run, after its assembly into an empty collection and the binding of
it, without decision branches and path overrides and with objects for the bodies of all actions. The assembly is the
one that is recorded. If every container has an entry of its own, then of any two children of a container all actions
inserted for the second run after all those inserted for the first. And if besides there are no links in what was
rendered, at any depth, then this holds exactly if all those actions stand behind one another: a container without an
entry of its own breaks the order where it puts actions in front of what was inserted before. -/
theorem execution_follows_declaration (w : Workshop) (flow : Workflow) (root : Scope) (b c : Bench) (record : Record)
    (hrun : (Build.recordWorkflow w flow root).run b = (.ok record, c))
    (hempty : b.document.objectAt? root.location = some [])
    (hbranches : ∀ x ∈ flow.containers, x.element.type ≠ "DecisionBranch")
    (hpaths : ∀ x ∈ record.contributions, x.payload.actionPath = none)
    (hobjects : ∀ x ∈ record.contributions, ∀ action ∈ x.actions, action.2.isObject) :
    Build.assembleWorkflow w .standard flow root = Record.isConverted <$> Build.recordWorkflow w flow root ∧
    (record.ownsEntries = true → record.InOrder (ExecutesAfter (Binding.documentAfter root c) root.location)) ∧
    ((∀ x ∈ record.contributions, Binding.everyCollection Binding.unlinked .collection (.object x.actions) = true) →
      (record.InOrder (ExecutesAfter (Binding.documentAfter root c) root.location) ↔
        record.InOrder (StandsBehind c.document root.location))) := by
  have hobject : (b.document.objectAt? root.location).isSome := by rw [hempty]; rfl
  have hrecorded := Build.recordWorkflow_recorded hbranches hrun hobject
  refine ⟨Build.assembleWorkflow_eq w flow root, fun howns => ?_, fun hunlinked => ?_⟩
  · obtain ⟨entries, hentries, _⟩ := (Recorded.enterings record hrecorded hpaths).1.grows.objectAt? hempty
    obtain ⟨_, horder⟩ := Recorded.inserts record hrecorded hpaths hobjects howns .start hobject
    exact horder.mono fun later earlier htrails => htrails.executesAfter hentries
  · have hiff := hrecorded.executesAfter_iff hempty hpaths hunlinked
    exact ⟨fun h => h.mono fun later earlier => (hiff later earlier).mp,
      fun h => h.mono fun later earlier => (hiff later earlier).mpr⟩

/-- Whether what was rendered has neither path overrides nor links, at any depth. -/
def Record.isPlain (r : Record) : Bool :=
  r.contributions.all fun x =>
    x.payload.actionPath.isNone && Binding.everyCollection Binding.unlinked .collection (.object x.actions)

theorem Record.isPlain_iff (r : Record) :
    r.isPlain = true ↔ (∀ x ∈ r.contributions, x.payload.actionPath = none) ∧
      ∀ x ∈ r.contributions, Binding.everyCollection Binding.unlinked .collection (.object x.actions) = true := by
  simp only [isPlain, List.all_eq_true, Bool.and_eq_true, Option.isNone_iff_eq_none, forall_and]

theorem Record.isObject_of_isPlain {r : Record} (h : r.isPlain = true) {x : Contribution} (hx : x ∈ r.contributions)
    {action : String × Json} (haction : action ∈ x.actions) : action.2.isObject := by
  have hunlinked := ((isPlain_iff r).mp h).2 x hx
  rw [Binding.everyCollection_object_iff] at hunlinked
  exact (((Binding.unlinked_iff _).mp (hunlinked.1 rfl)).2 action haction).1

theorem Record.inOrder_iff (related : List String → List String → Prop) (r : Record) :
    r.InOrder related ↔ ∀ family ∈ r.families.map (List.map Record.inserted),
      family.Pairwise fun first second => ∀ earlier ∈ first, ∀ later ∈ second, related later earlier := by
  simp only [InOrder, List.forall_mem_map, List.pairwise_map]

/-- Whether a run ends well, with a result and a bench of which a condition holds. -/
def Build.yields {α : Type} (x : Build α) (b : Bench) (p : α → Bench → Prop) [∀ a c, Decidable (p a c)] : Bool :=
  match x.run b with
  | (.ok a, c) => decide (p a c)
  | (.error _, _) => false

theorem Build.exists_run {α : Type} {x : Build α} {b : Bench} (p : α → Bench → Prop) [∀ a c, Decidable (p a c)]
    (h : x.yields b p = true) : ∃ a c, x.run b = (.ok a, c) ∧ p a c := by
  rw [yields] at h
  cases hrun : x.run b with
  | mk result c =>
      rw [hrun] at h
      cases result with
      | ok a => exact ⟨a, c, rfl, of_decide_eq_true h⟩
      | error e => cases h

/-- A workshop with one snippet for all containers and one for all other activities. -/
def plainWorkshop : Workshop :=
  { (default : Workshop) with
    manager :=
      { (default : ProcessManager) with
        snippets :=
          [⟨Snippet.placeholderKey "activitycontainer", "container.json", none⟩,
            ⟨Snippet.placeholderKey "activity", "activity.json", none⟩] }
    templatePaths := [⟨1, []⟩] }

def plainBench : Bench :=
  { (default : Bench) with
    document := .object [("actions", .object [])]
    disk :=
      { entries :=
          [(["container.json"],
              .file (.text "\x7b\"workflowDefinitionAction\": \x7b\"X\": \x7b\"actions\": \x7b\x7d\x7d\x7d\x7d")),
            (["activity.json"], .file (.text "\x7b\"workflowDefinitionAction\": \x7b\"Y\": \x7b\x7d\x7d\x7d"))]
        workingDirectory := []
        home := [] } }

def plainScope : Scope := ⟨[], ["actions"]⟩

/-- A container with an activity in it, and another activity behind it. -/
def separateWorkflow : Workflow :=
  { (default : Workflow) with activities := [.container default [.leaf default] [] [], .leaf default] }

/-- The activity behind the container runs after the one in it. -/
theorem execution_follows_declaration_separate :
    ∃ record c, (Build.recordWorkflow plainWorkshop separateWorkflow plainScope).run plainBench = (.ok record, c) ∧
      plainBench.document.objectAt? plainScope.location = some [] ∧
      (∀ x ∈ separateWorkflow.containers, x.element.type ≠ "DecisionBranch") ∧
      record.isPlain = true ∧ record.ownsEntries = true ∧
      ExecutesAfter (Binding.documentAfter plainScope c) plainScope.location
        ["actions", "X", "actions", "Y"] ["actions", "X", "actions", "X", "actions", "Y"] := by
  obtain ⟨record, c, hrun, hplain, howns, hplaces⟩ :
      ∃ record c, (Build.recordWorkflow plainWorkshop separateWorkflow plainScope).run plainBench = (.ok record, c) ∧
        record.isPlain = true ∧ record.ownsEntries = true ∧
        [[["actions", "X", "actions", "X"], ["actions", "X", "actions", "X", "actions", "Y"]],
          [["actions", "X", "actions", "Y"]]] ∈ record.families.map (List.map Record.inserted) :=
    Build.exists_run _ (by decide +kernel)
  have hbranches : ∀ x ∈ separateWorkflow.containers, x.element.type ≠ "DecisionBranch" := by decide
  obtain ⟨_, hfollows, _⟩ := execution_follows_declaration plainWorkshop separateWorkflow plainScope plainBench c record
    hrun rfl hbranches ((Record.isPlain_iff record).mp hplain).1
    (fun x hx action => Record.isObject_of_isPlain hplain hx)
  have horder := (Record.inOrder_iff _ record).mp (hfollows howns) _ hplaces
  rw [List.pairwise_pair] at horder
  exact ⟨record, c, hrun, rfl, hbranches, hplain, howns, horder _ (by simp) _ (by simp)⟩

/-- An empty container, an activity behind it, and a container with an activity in it behind that. All containers render
an action of the same name, so that the last finds its name taken by the first. -/
def sharingWorkflow : Workflow :=
  { (default : Workflow) with
    activities := [.container default [] [] [], .leaf default, .container default [.leaf default] [] []] }

/-- A shared name breaks the order of declaration, though no issue is recorded: the activity in the last container is
put into the first, and so does not run after the activity between the two. -/
theorem shared_name_breaks_declaration_order :
    ∃ record c, (Build.recordWorkflow plainWorkshop sharingWorkflow plainScope).run plainBench = (.ok record, c) ∧
      plainBench.document.objectAt? plainScope.location = some [] ∧
      (∀ x ∈ sharingWorkflow.containers, x.element.type ≠ "DecisionBranch") ∧
      record.isPlain = true ∧ c.issues.isEmpty = true ∧
      ¬ record.InOrder (ExecutesAfter (Binding.documentAfter plainScope c) plainScope.location) := by
  obtain ⟨record, c, hrun, hplain, hissues, hplaces, hnames⟩ :
      ∃ record c, (Build.recordWorkflow plainWorkshop sharingWorkflow plainScope).run plainBench = (.ok record, c) ∧
        record.isPlain = true ∧ c.issues.isEmpty = true ∧
        [[["actions", "X", "actions", "X"]], [["actions", "X", "actions", "Y"]],
          [["actions", "X", "actions", "X", "actions", "Y"]]] ∈ record.families.map (List.map Record.inserted) ∧
        (c.document.objectAt? ["actions", "X", "actions"]).map Fields.names = some ["X", "Y"] :=
    Build.exists_run _ (by decide +kernel)
  have hbranches : ∀ x ∈ sharingWorkflow.containers, x.element.type ≠ "DecisionBranch" := by decide
  refine ⟨record, c, hrun, rfl, hbranches, hplain, hissues, fun horder => ?_⟩
  have hfamily := (Record.inOrder_iff _ record).mp horder _ hplaces
  have hruns : ExecutesAfter (Binding.documentAfter plainScope c) plainScope.location
      ["actions", "X", "actions", "X", "actions", "Y"] ["actions", "X", "actions", "Y"] := by
    rw [List.pairwise_cons, List.pairwise_pair] at hfamily
    exact hfamily.2 _ (by simp) _ (by simp)
  obtain ⟨hpaths, hunlinked⟩ := (Record.isPlain_iff record).mp hplain
  have hrecorded := Build.recordWorkflow_recorded hbranches hrun rfl
  obtain ⟨place, first, second, entries, hparting, hentries, hbefore⟩ :=
    (hrecorded.executesAfter_iff rfl hpaths hunlinked _ _).mp hruns
  -- The two places part in the collection of the outer container, where Y stands behind X.
  have hparts : ∀ place ∈ ["actions", "X", "actions", "Y"].inits, ∀ first ∈ ["actions", "X", "actions", "Y"],
      ∀ second ∈ ["actions", "X", "actions", "X", "actions", "Y"], first ≠ second →
        place ++ [first] <+: ["actions", "X", "actions", "Y"] →
          place ++ [second] <+: ["actions", "X", "actions", "X", "actions", "Y"] →
            place = ["actions", "X", "actions"] ∧ first = "Y" ∧ second = "X" := by decide
  obtain ⟨rfl, rfl, rfl⟩ := hparts place
    ((List.mem_inits _ _).mpr ((List.prefix_append _ _).trans hparting.earlier)) first
    (hparting.earlier.subset (by simp)) second (hparting.later.subset (by simp)) hparting.distinct hparting.earlier
    hparting.later
  rw [hentries, Option.map_some, Option.some_inj] at hnames
  have hsame : Fields.names entries = Fields.names [("X", .null), ("Y", .null)] := hnames
  rw [Fields.before_congr hsame] at hbefore
  revert hbefore
  decide

end WorkflowForge
