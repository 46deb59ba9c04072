import WorkflowForge.Generation.Generator
import WorkflowForge.Proofs.Assembly.Operations

/-!
How the building of a process manager's documents is put together. Besides the steps of an assembly there are three:
the document is replaced, it is written to where the resource template says, and the generation directory is made.
A process manager that lacks what the documents need gets none; of one that has it all, the documents of all kinds are
attempted, one after the other.
-/

namespace WorkflowForge

/-- Replaces the document. -/
def Build.onDocument {α : Type} (f : Json → α × Json) : Build α := do
  let b ← get
  let (a, document) := f b.document
  set { b with document := document }
  return a

theorem Build.Paired.forM {ι : Type} {w w' : Workshop} {p : Pairing} {within : List String} {f f' : ι → Build Unit}
    (hf : ∀ i, ArePaired w w' p within (f i) (f' i)) (items : List ι) :
    ArePaired w w' p within (items.forM f) (items.forM f') := by
  induction items with
  | nil => exact .done
  | cons i rest ih => exact .andThen (hf i) fun _ => ih

/-- What snippets are rendered for in a workshop: the elements of its workflow. -/
def Workshop.Renders (w : Workshop) (item : Option Item) : Prop :=
  ∃ flow i, w.manager.workflow = some flow ∧ item = some i ∧ flow.Has i

/-- Terms under which documents can be drafted: snippets are rendered for the elements of the workflow, and the document
may be replaced. -/
structure Terms.Drafts (t : Terms) (w : Workshop) : Prop where
  renders : ∀ item, w.Renders item → t.renders item
  replaces : ∀ {α : Type} (f : Json → α × Json), t.further α (Build.onDocument f)

theorem Terms.Drafts.counterparts {t : Terms} {w : Workshop} (ht : t.Drafts w) {flow : Workflow}
    (hflow : w.manager.workflow = some flow) : w.Counterparts t.diagonal w := by
  apply Workshop.counterparts_self
  · intro hnone
    rw [hflow] at hnone
    cases hnone
  · intro other hother item hitem
    exact ht.renders _ ⟨other, item, hother, rfl, hitem⟩

/-- A pairing under which the document may be replaced, on both sides in the same way. -/
def Pairing.Replaces (p : Pairing) : Prop :=
  ∀ {α : Type} (f : Json → α × Json), p.further α (Build.onDocument f) (Build.onDocument f)

namespace Generator

/-- What is done besides the steps of an assembly while a document is drafted. -/
inductive DraftStep : (α : Type) → Build α → Prop
  | onDocument {α : Type} (f : Json → α × Json) : DraftStep α (Build.onDocument f)

def draftTerms (w : Workshop) : Terms := ⟨w.Renders, DraftStep⟩

/-- What a generator does besides the steps of an assembly. -/
inductive Step (g : Generator) (w : Workshop) : (α : Type) → Build α → Prop
  | onDocument {α : Type} (f : Json → α × Json) : Step g w α (Build.onDocument f)
  | write (kind : ArtifactKind) (output : String) (houtput : outputOf? w kind = some output) (text : String) :
      Step g w Unit (writeDocument w kind (g.destination output) text)
  | prepare : Step g w Unit g.prepareDirectory

def terms (g : Generator) (w : Workshop) : Terms := ⟨w.Renders, g.Step w⟩

theorem draftTerms_drafts (w : Workshop) : (draftTerms w).Drafts w := ⟨fun _ h => h, .onDocument⟩

theorem terms_drafts (g : Generator) (w : Workshop) : (g.terms w).Drafts w := ⟨fun _ h => h, .onDocument⟩

section Paired

variable {g : Generator} {w w' : Workshop} {p : Pairing}

theorem bindActions_paired (hreplaces : p.Replaces) (s : Scope) :
    Build.ArePaired w w' p [] (Build.bindActions s) (Build.bindActions s) := by
  have heq : Build.bindActions s = Build.onDocument (fun document =>
        (Binding.links (s.entries document),
          document.modifyAt s.location fun _ => .object (Binding.bind (s.entries document)))) >>= fun links => do
      links.forM fun l =>
        Build.debug "flowsmith.assembly.binder" "action_bound"
          [("action", .string l.action), ("run_after", .string l.runAfter)]
      return links.length := rfl
  rw [heq]
  refine .andThen (.further (hreplaces _)) fun links => .andThen (.forM (fun l => ?_) links) ?_
  · exact .debug _ _ _ _ (by decide)
  · exact fun _ => .done

theorem assembleDefinition_paired (hregistry : g.registry.BuiltIn) (hw : w.Counterparts p w')
    (hreplaces : p.Replaces) (skeleton : Json) :
    Build.ArePaired w w' p [] (g.assembleDefinition w skeleton) (g.assembleDefinition w' skeleton) := by
  have hmodify : (modify fun b => { b with document := if skeleton.isObject then skeleton else .object [] } :
      Build Unit) = Build.onDocument fun _ => ((), if skeleton.isObject then skeleton else .object []) := rfl
  have hworkflow := hw.workflow
  unfold assembleDefinition
  rw [hmodify]
  refine .andThen (.further (hreplaces _)) fun _ => ?_
  refine .read (fun _ _ h => by simp only [h]) (fun _ _ h => by simp only [h]) fun b => ?_
  cases Document.actions? b.document with
  | none => exact .andThen (.record _ _ _ (by decide)) fun _ => .done
  | some actions =>
      refine .andThen (.andThen (Build.addTriggers_paired hw) fun _ => .done) fun _ => ?_
      refine .andThen (.andThen (Build.addVariables_paired hw) fun _ => .done) fun _ => ?_
      refine .andThen (.andThen (Build.addMessages_paired hw) fun _ => .done) fun _ => ?_
      have hrest : Build.ArePaired w w' p [] (do
          let links ← Build.bindActions actions
          Build.debug logger "actions_bound" [("workflow", .string w.manager.name), ("links", .int links)]
          return some (← get).document) (do
          let links ← Build.bindActions actions
          Build.debug logger "actions_bound" [("workflow", .string w'.manager.name), ("links", .int links)]
          return some (← get).document) := by
        refine .andThen (bindActions_paired hreplaces actions) fun links => ?_
        refine .andThen (.debug _ _ _ _ (by decide)) fun _ => ?_
        exact .read (fun _ _ h => by rw [h]) (fun _ _ h => by rw [h]) fun _ => .done
      generalize w.manager.workflow = flow at hworkflow
      generalize w'.manager.workflow = flow' at hworkflow
      cases hworkflow with
      | none => exact hrest
      | some hflow =>
          refine .andThen (.andThen (Build.assembleWorkflow_paired hregistry hw.snippets hflow actions List.nil_prefix)
            fun _ => .done) fun _ => hrest

theorem populate_paired (hregistry : g.registry.BuiltIn) (hw : w.Counterparts p w') (hreplaces : p.Replaces)
    (kind : ArtifactKind) (snippet : Snippet) (skeleton : Json) :
    Build.ArePaired w w' p [] (g.populate w kind snippet skeleton) (g.populate w' kind snippet skeleton) := by
  unfold populate
  split
  · exact assembleDefinition_paired hregistry hw hreplaces skeleton
  · split
    · split
      · exact .andThen (Build.addParameters_paired hw _) fun _ => .done
      · exact .andThen (.record _ _ _ (by decide)) fun _ => .done
    · exact .done

/-- What is drafted goes to where the resource template says. -/
theorem draft_paired (hregistry : g.registry.BuiltIn) (hw : w.Counterparts p w') (hreplaces : p.Replaces)
    (hresource : w'.resource = w.resource) (kind : ArtifactKind) :
    Build.Paired w w' p [] (g.draft w kind) (g.draft w' kind) fun drafted =>
      ∀ target document, drafted = some (target, document) →
        ∃ output, outputOf? w kind = some output ∧ target = g.destination output := by
  have houtput : outputOf? w' kind = outputOf? w kind := by rw [outputOf?, outputOf?, hresource]
  unfold draft
  dsimp only
  rw [ProcessManager.findSnippet_congr hw.snippets, houtput]
  cases hsnippet : w.manager.findSnippet (Snippet.key kind.elementKind none) with
  | none => exact .andThen (.warning _ _ _ _ (by decide)) fun _ => .pure fun _ _ h => by cases h
  | some snippet =>
      cases outputOf? w kind with
      | none => exact .andThen (.record _ _ _ (by decide)) fun _ => .pure fun _ _ h => by cases h
      | some output =>
          refine .andThen (.renderJson _ _ _ (ProcessManager.mem_of_findSnippet hsnippet) hw.model) fun found => ?_
          cases found with
          | none => exact .pure fun _ _ h => by cases h
          | some skeleton =>
              refine .andThen (populate_paired hregistry hw hreplaces kind snippet skeleton) fun populated => .pure ?_
              intro target document h
              obtain ⟨_, _, heq⟩ := Option.map_eq_some_iff.mp h
              rw [Prod.mk.injEq] at heq
              exact ⟨output, rfl, heq.1.symm⟩

end Paired

variable {g : Generator} {w : Workshop}

theorem draft_composed {t : Terms} (ht : t.Drafts w) (hregistry : g.registry.BuiltIn) {flow : Workflow}
    (hflow : w.manager.workflow = some flow) (kind : ArtifactKind) :
    Build.Composed w t [] (g.draft w kind) fun drafted =>
      ∀ target document, drafted = some (target, document) →
        ∃ output, outputOf? w kind = some output ∧ target = g.destination output :=
  (draft_paired hregistry (ht.counterparts hflow) (fun f => ⟨rfl, ht.replaces f⟩) rfl kind).alone

theorem buildArtifact_composed (hregistry : g.registry.BuiltIn) {flow : Workflow}
    (hflow : w.manager.workflow = some flow) (kind : ArtifactKind) :
    Build.IsComposed w (g.terms w) [] (g.buildArtifact w kind) := by
  refine .bind (draft_composed (g.terms_drafts w) hregistry hflow kind) fun drafted hdrafted => ?_
  cases drafted with
  | none => exact .done
  | some pair =>
      obtain ⟨target, document⟩ := pair
      obtain ⟨output, houtput, htarget⟩ := hdrafted target document rfl
      rw [htarget]
      exact .andThen (.further (.write kind output houtput _)) fun _ => .done

/-- The course of the drafting of a document whose skeleton and destination are given. -/
theorem draft_run {kind : ArtifactKind} {snippet : Snippet} {output : String}
    (hsnippet : w.manager.findSnippet (Snippet.key kind.elementKind none) = some snippet)
    (houtput : outputOf? w kind = some output) (b : Bench) :
    (g.draft w kind).run b =
      match (Build.renderJson w (Build.modelItem w) snippet true).run b with
      | (.error f, c) => (.error f, c)
      | (.ok none, c) => (.ok none, c)
      | (.ok (some skeleton), c) =>
        match (g.populate w kind snippet skeleton).run c with
        | (.error f, d) => (.error f, d)
        | (.ok populated, d) => (.ok (populated.map fun document => (g.destination output, document)), d) := by
  unfold draft
  dsimp only
  rw [hsnippet]
  dsimp only
  rw [houtput]
  dsimp only
  rw [Build.run_bind]
  cases (Build.renderJson w (Build.modelItem w) snippet true).run b with
  | mk rendered c =>
      cases rendered with
      | error f => rfl
      | ok found =>
          cases found with
          | none => rfl
          | some skeleton =>
              dsimp only
              rw [Build.run_bind]
              cases (g.populate w kind snippet skeleton).run c with
              | mk populated d => cases populated <;> rfl

/-- The course of the building of a document: it is drafted and then written. -/
theorem buildArtifact_run (kind : ArtifactKind) (b : Bench) :
    (g.buildArtifact w kind).run b =
      match (g.draft w kind).run b with
      | (.error f, c) => (.error f, c)
      | (.ok none, c) => (.ok none, c)
      | (.ok (some (target, document)), c) =>
        match (writeDocument w kind target (document.text (Layout.ofIndent g.jsonIndent))).run c with
        | (.error f, d) => (.error f, d)
        | (.ok (), d) => (.ok (some target), d) := by
  unfold buildArtifact
  rw [Build.run_bind]
  cases (g.draft w kind).run b with
  | mk drafted c =>
      cases drafted with
      | error f => rfl
      | ok found =>
          cases found with
          | none => rfl
          | some pair =>
              dsimp only
              rw [Build.run_bind]
              cases (writeDocument w kind pair.1 (pair.2.text (Layout.ofIndent g.jsonIndent))).run c with
              | mk result d => cases result <;> rfl

/-- A document that is built was drafted and written. -/
theorem buildArtifact_eq_some {kind : ArtifactKind} {target : Path} {b c : Bench}
    (hrun : (g.buildArtifact w kind).run b = (.ok (some target), c)) :
    ∃ document d, (g.draft w kind).run b = (.ok (some (target, document)), d) ∧
      (writeDocument w kind target (document.text (Layout.ofIndent g.jsonIndent))).run d = (.ok (), c) := by
  rw [buildArtifact_run] at hrun
  split at hrun
  · cases hrun
  · cases hrun
  · next path document d hdraft =>
      split at hrun
      · cases hrun
      · next e hwrite =>
          rw [Prod.mk.injEq, Except.ok.injEq, Option.some.injEq] at hrun
          obtain ⟨rfl, rfl⟩ := hrun
          exact ⟨document, d, hdraft, hwrite⟩

theorem buildArtifacts_composed (hregistry : g.registry.BuiltIn) {flow : Workflow}
    (hflow : w.manager.workflow = some flow) (kinds : List ArtifactKind) :
    Build.IsComposed w (g.terms w) [] (g.buildArtifacts w kinds) := by
  induction kinds with
  | nil => exact .done
  | cons kind rest ih =>
      exact .andThen (.recovering (buildArtifact_composed hregistry hflow kind)) fun _ => .andThen ih fun _ => .done

/-- The resource template of a process manager that has all that its documents need. -/
def ready? (g : Generator) (m : ProcessManager) : Option ResourceTemplate :=
  if m.snippets.isEmpty || m.workflow.isNone || g.templatePaths.isEmpty then none
  else m.findResource Snippet.standardFamily

/-- The documents of a process manager that has what they need, all kinds after each other. -/
def buildDocuments (g : Generator) (m : ProcessManager) (resource : ResourceTemplate) : Build (List Path) := do
  Build.log .info logger "generating_workflow" [("workflow", .string m.name)]
  g.buildArtifacts (g.workshop m (some resource)) ArtifactKind.all

theorem buildManager_of_ready {m : ProcessManager} {resource : ResourceTemplate} (h : g.ready? m = some resource) :
    (∃ flow, m.workflow = some flow) ∧ m.findResource Snippet.standardFamily = some resource ∧
      g.buildManager m = g.prepareDirectory >>= fun _ => g.buildDocuments m resource := by
  unfold ready? at h
  split at h
  · cases h
  · next hready =>
      simp only [Bool.or_eq_true, not_or, Bool.not_eq_true] at hready
      obtain ⟨⟨hsnippets, hworkflow⟩, hpaths⟩ := hready
      refine ⟨?_, h, ?_⟩
      · rw [← Option.isSome_iff_exists, ← Option.not_isNone, hworkflow]
        rfl
      · unfold buildManager
        simp only [hsnippets, hworkflow, hpaths, h, Bool.false_eq_true, if_false]
        rfl

/-- What is done for a process manager that gets no documents. -/
inductive IdleStep (g : Generator) : (α : Type) → Build α → Prop
  | prepare : IdleStep g Unit g.prepareDirectory

def idleTerms (g : Generator) : Terms := ⟨fun _ => False, g.IdleStep⟩

theorem buildManager_of_not_ready {m : ProcessManager} (h : g.ready? m = none) (resource : Option ResourceTemplate) :
    Build.Composed (g.workshop m resource) g.idleTerms [] (g.buildManager m) (· = []) := by
  -- An issue carries the name of the process manager, whatever its resource template.
  have hrecord (kind : IssueKind) (message : String) (path : Option String) :
      Build.record (g.workshop m none) kind message path = Build.record (g.workshop m resource) kind message path := rfl
  unfold buildManager
  dsimp only
  split
  · exact .andThen (.warning _ _ _ (by decide)) fun _ => .pure rfl
  · next hsnippets =>
      split
      · rw [hrecord]
        exact .andThen (.record _ _ _) fun _ => .pure rfl
      · next hworkflow =>
          split
          · exact .andThen (.warning _ _ _ (by decide)) fun _ => .pure rfl
          · next hpaths =>
              refine .andThen (.further .prepare) fun _ => ?_
              split
              · exact .andThen (.warning _ _ _ (by decide)) fun _ => .pure rfl
              · next resource hresource =>
                  simp [ready?, hsnippets, hworkflow, hpaths, hresource] at h

theorem buildDocuments_composed (hregistry : g.registry.BuiltIn) {m : ProcessManager} {flow : Workflow}
    (hflow : m.workflow = some flow) (resource : ResourceTemplate) :
    Build.IsComposed (g.workshop m (some resource)) (g.terms (g.workshop m (some resource))) []
      (g.buildDocuments m resource) :=
  .andThen (.log _ _ _ _ (by decide)) fun _ =>
    buildArtifacts_composed (w := g.workshop m (some resource)) hregistry hflow ArtifactKind.all

/-- The workshop in which the documents of a process manager are built. -/
def ownWorkshop (g : Generator) (m : ProcessManager) : Workshop :=
  g.workshop m (m.findResource Snippet.standardFamily)

theorem buildManager_composed (hregistry : g.registry.BuiltIn) (m : ProcessManager) :
    Build.IsComposed (g.ownWorkshop m) (g.terms (g.ownWorkshop m)) [] (g.buildManager m) := by
  cases hready : g.ready? m with
  | none =>
      refine ((buildManager_of_not_ready hready _).loosen (List.prefix_refl _) ?_ ?_).forget
      · intro item hitem
        exact hitem.elim
      · intro β y hy
        cases hy with
        | prepare => exact .prepare
  | some resource =>
      obtain ⟨⟨flow, hflow⟩, hresource, heq⟩ := buildManager_of_ready hready
      rw [heq, ownWorkshop, hresource]
      exact .andThen (.further .prepare) fun _ => buildDocuments_composed hregistry hflow resource

end Generator

end WorkflowForge
