import WorkflowForge.Proofs.Assembly.Operations

/-!
What the assembly of a tree inserted, node by node. The recorded assembly does what the assembly does and keeps, for
each activity, the contributions that were made while it was processed; without its record it is the assembly itself.
-/

namespace WorkflowForge

/-- What was inserted for an activity: the contributions of a leaf; the own contribution of a container that was
skipped; and of one that was converted also the scope for its children, the pre-built actions and the children. -/
inductive Record where
  | leaf (own : List Contribution)
  | skipped (own : Option Contribution)
  | converted (own : Option Contribution) (scope : Scope) (prebuilt : List Contribution) (children : List Record)
deriving Inhabited

namespace Record

/-- What the assembly answers for an activity. -/
def isConverted : Record → Bool
  | .leaf own => Contribution.count own != 0
  | .skipped _ => false
  | .converted _ _ _ _ => true

mutual

/-- All contributions made while an activity was processed, in their order. -/
def contributions : Record → List Contribution
  | .leaf own => own
  | .skipped own => own.toList
  | .converted own _ prebuilt children => own.toList ++ prebuilt ++ contributionsIn children

def contributionsIn : List Record → List Contribution
  | [] => []
  | r :: rest => contributions r ++ contributionsIn rest

end

/-- The places of the actions that were inserted while an activity was processed. -/
def inserted (r : Record) : List (List String) := r.contributions.flatMap Contribution.places

mutual

/-- The children of every container that was converted. -/
def families : Record → List (List Record)
  | .leaf _ => []
  | .skipped _ => []
  | .converted _ _ _ children => children :: familiesIn children

def familiesIn : List Record → List (List Record)
  | [] => []
  | r :: rest => families r ++ familiesIn rest

end

mutual

/-- Whether every container that was converted has an entry of its own: its first action was inserted, the name of it
not being taken. -/
def ownsEntries : Record → Bool
  | .leaf _ => true
  | .skipped _ => true
  | .converted own _ _ children =>
    own.any (fun c => c.payload.firstAction?.any fun first => c.inserted.contains first.1) && ownsEntriesIn children

def ownsEntriesIn : List Record → Bool
  | [] => true
  | r :: rest => ownsEntries r && ownsEntriesIn rest

end

/-- Of any two children of one container, each action inserted for the second is in a relation to each action inserted
for the first. -/
def InOrder (related : List String → List String → Prop) (r : Record) : Prop :=
  ∀ children ∈ r.families, children.Pairwise fun first second =>
    ∀ earlier ∈ first.inserted, ∀ later ∈ second.inserted, related later earlier

theorem contributionsIn_eq_flatMap (records : List Record) :
    contributionsIn records = records.flatMap contributions := by
  induction records with
  | nil => rw [contributionsIn, List.flatMap_nil]
  | cons r rest ih => rw [contributionsIn, ih, List.flatMap_cons]

theorem familiesIn_eq_flatMap (records : List Record) : familiesIn records = records.flatMap families := by
  induction records with
  | nil => rw [familiesIn, List.flatMap_nil]
  | cons r rest ih => rw [familiesIn, ih, List.flatMap_cons]

theorem inOrder_converted (related : List String → List String → Prop) (own : Option Contribution) (scope : Scope)
    (prebuilt : List Contribution) (children : List Record) :
    (converted own scope prebuilt children).InOrder related ↔
      (children.Pairwise fun first second =>
        ∀ earlier ∈ first.inserted, ∀ later ∈ second.inserted, related later earlier) ∧
      ∀ child ∈ children, child.InOrder related := by
  unfold InOrder
  rw [families, familiesIn_eq_flatMap]
  constructor
  · intro h
    refine ⟨h children (by simp), fun child hchild family hfamily => h family ?_⟩
    exact List.mem_cons_of_mem _ (List.mem_flatMap.mpr ⟨child, hchild, hfamily⟩)
  · rintro ⟨hchildren, hbelow⟩ family hfamily
    rcases List.mem_cons.mp hfamily with rfl | hmem
    · exact hchildren
    · obtain ⟨child, hchild, hmem⟩ := List.mem_flatMap.mp hmem
      exact hbelow child hchild family hmem

theorem InOrder.mono {related related' : List String → List String → Prop} {r : Record}
    (h : ∀ later earlier, related later earlier → related' later earlier) (hr : r.InOrder related) :
    r.InOrder related' :=
  fun children hchildren => (hr children hchildren).imp fun hpair earlier hearlier later hlater =>
    h later earlier (hpair earlier hearlier later hlater)

end Record

namespace Build

/-- The conversion of a container by the handler that is registered for its type. -/
def opening (w : Workshop) (item : Item) (parent : Scope) : Build Opening :=
  if item.type = "DecisionBranch" then openBranch w item parent else openContainer w item parent

/-- The conversion of a leaf by the handler that is registered for its type. -/
def leafContributions (w : Workshop) (item : Item) (parent : Scope) : Build (List Contribution) :=
  if item.type = "Receive" then channelContributions "channel.receive" w item parent
  else if item.type = "Send" then channelContributions "channel.send" w item parent
  else activityContributions w item parent

def recordContainer (w : Workshop) (item : Item) (parent : Scope) (children : Scope → Build (List Record)) :
    Build Record := do
  let o ← opening w item parent
  match o.scope with
  | none =>
    debug "flowsmith.assembly.assembler" "container_skipped"
      [("workflow", .string w.manager.name), ("container", .string item.name)]
    return .skipped o.own
  | some scope =>
    let prebuilt ← prebuiltContributions w item scope
    if Contribution.count prebuilt != 0 then
      debug "flowsmith.assembly.assembler" "prebuilt_actions_added"
        [("workflow", .string w.manager.name), ("container", .string item.name),
          ("count", .int (Contribution.count prebuilt))]
    return .converted o.own scope prebuilt (← children scope)

mutual

/-- The assembly of an activity, with its record. -/
def recordActivity (w : Workshop) (place : Place) (parent : Scope) : Activity → Build Record
  | .leaf e => return .leaf (← leafContributions w (.ofActivity place (.leaf e)) parent)
  | .container e activities vars messages =>
    recordContainer w (.ofActivity place (.container e activities vars messages)) parent fun scope =>
      recordActivities w place scope 0 activities

def recordActivities (w : Workshop) (place : Place) (scope : Scope) (index : Nat) :
    List Activity → Build (List Record)
  | [] => return []
  | a :: rest => do
    let r ← recordActivity w (place.child index) scope a
    return r :: (← recordActivities w place scope (index + 1) rest)

end

/-- The assembly of a workflow, with its record. -/
def recordWorkflow (w : Workshop) (flow : Workflow) (parent : Scope) : Build Record :=
  recordContainer w (.ofWorkflow flow) parent fun scope => recordActivities w .workflow scope 0 flow.activities

theorem convert_container (w : Workshop) (item : Item) (parent : Scope) :
    (Registry.standard.containerHandler item.type).convert w item parent =
      (do return (← opening w item parent).scope) := by
  rw [Registry.standard_containerHandler]
  unfold opening
  split <;> rfl

theorem convert_leaf (w : Workshop) (item : Item) (parent : Scope) :
    (Registry.standard.activityHandler item.type).convert w item parent =
      (do return Contribution.count (← leafContributions w item parent) != 0) := by
  rw [Registry.standard_activityHandler]
  unfold leafContributions
  split
  · rfl
  · split <;> rfl

theorem assembleContainer_eq (w : Workshop) (item : Item) (parent : Scope) (children : Scope → Build Unit)
    (recorded : Scope → Build (List Record)) (h : ∀ scope, children scope = discard (recorded scope)) :
    assembleContainer w .standard item parent children =
      Record.isConverted <$> recordContainer w item parent recorded := by
  unfold assembleContainer recordContainer addPrebuilt
  rw [convert_container]
  simp only [bind_assoc, pure_bind, map_bind]
  refine bind_congr fun o => ?_
  cases o.scope with
  | none => simp [Record.isConverted]
  | some scope =>
      simp only [map_bind, h]
      refine bind_congr fun prebuilt => ?_
      split <;> simp [discard, Functor.discard, map_const, Record.isConverted]

mutual

/-- Without its record, the recorded assembly is the assembly. -/
theorem assembleActivity_eq (w : Workshop) (place : Place) (parent : Scope) :
    (a : Activity) →
      assembleActivity w .standard place parent a = Record.isConverted <$> recordActivity w place parent a
  | .leaf e => by
      rw [assembleActivity, recordActivity]
      refine (convert_leaf w (.ofActivity place (.leaf e)) parent).trans ?_
      simp [Record.isConverted]
  | .container e activities vars messages => by
      rw [assembleActivity, recordActivity]
      exact assembleContainer_eq w _ parent _ _ fun scope => assembleActivities_eq w place scope 0 activities

theorem assembleActivities_eq (w : Workshop) (place : Place) (scope : Scope) (index : Nat) :
    (activities : List Activity) →
      assembleActivities w .standard place scope index activities =
        discard (recordActivities w place scope index activities)
  | [] => by simp [assembleActivities, recordActivities, discard, Functor.discard, map_const]
  | a :: rest => by
      rw [assembleActivities, recordActivities, assembleActivity_eq w (place.child index) scope a,
        assembleActivities_eq w place scope (index + 1) rest]
      simp [discard, Functor.discard, map_const]

end

theorem assembleWorkflow_eq (w : Workshop) (flow : Workflow) (parent : Scope) :
    assembleWorkflow w .standard flow parent = Record.isConverted <$> recordWorkflow w flow parent :=
  assembleContainer_eq w _ parent _ _ fun scope => assembleActivities_eq w .workflow scope 0 flow.activities

end Build

end WorkflowForge
