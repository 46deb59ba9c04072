import WorkflowForge.Proofs.Assembly.Operations
import WorkflowForge.Proofs.Json.Growth

/-!
Assembly only appends. Whatever an operation on a document does, and wherever it stops, the document has grown: no
skeleton content and no earlier action is removed, replaced, renamed or moved, at any depth. The reason is that the
only move that touches the document adds a field whose name is free at the end of an object.
-/

namespace WorkflowForge

/-- The operations that fill a document: declarations, and the assembly of a workflow or of a single activity. -/
inductive Operation where
  | triggers
  | vars
  | messages
  | workflow (flow : Workflow) (parent : Scope)
  | activity (place : Place) (a : Activity) (parent : Scope)

namespace Operation

def build (w : Workshop) : Operation → Build Unit
  | .triggers => discard (Build.addTriggers w)
  | .vars => discard (Build.addVariables w)
  | .messages => discard (Build.addMessages w)
  | .workflow flow parent => discard (Build.assembleWorkflow w .standard flow parent)
  | .activity place a parent => discard (Build.assembleActivity w .standard place parent a)

/-- Operations one after the other, each from the bench that the one before it left, also where that one failed. -/
def session (w : Workshop) (operations : List Operation) (b : Bench) : Bench :=
  operations.foldl (fun b o => ((o.build w).run b).2) b

/-- Operations one after the other, up to the first that fails. -/
def sequence (w : Workshop) (operations : List Operation) : Build Unit := operations.forM (build w)

theorem build_acts (w : Workshop) (o : Operation) : Build.Acts w [] (o.build w) := by
  have hw : w.Counterparts Terms.plain.diagonal w :=
    Workshop.counterparts_self (fun _ => trivial) fun _ _ _ _ => trivial
  apply Build.Composed.does
  apply Build.Paired.alone
  cases o with
  | triggers => exact .andThen (Build.addTriggers_paired hw) fun _ => .done
  | vars => exact .andThen (Build.addVariables_paired hw) fun _ => .done
  | messages => exact .andThen (Build.addMessages_paired hw) fun _ => .done
  | workflow flow parent =>
      have hflow : flow.Corresponds Terms.plain.diagonal.on flow := Workflow.corresponds_self fun _ _ => ⟨rfl, trivial⟩
      refine .andThen (Build.assembleWorkflow_paired Registry.standard_builtIn rfl hflow parent List.nil_prefix) ?_
      exact fun _ => .done
  | activity place a parent =>
      have ha : a.Corresponds Terms.plain.diagonal.on place a :=
        Activity.corresponds_self place a fun _ _ _ => ⟨rfl, trivial⟩
      refine .andThen
        (Build.assembleActivity_paired Registry.standard_builtIn rfl place parent List.nil_prefix a a ha) ?_
      exact fun _ => .done

end Operation

/-- A move makes the document grow. -/
theorem Move.grows {w : Workshop} {within : List String} {b c : Bench} (h : Move w within b c) :
    b.document.Grows c.document := by
  cases h with
  | add s hwithin name body =>
      unfold Scope.add
      split
      · exact .refl _
      · exact .addAt b.document s.location name body
  | _ => exact .refl _

theorem Moves.grows {w : Workshop} {within : List String} {b c : Bench} (h : Moves w within b c) :
    b.document.Grows c.document :=
  Moves.preserves (R := fun b c => b.document.Grows c.document) (fun b => .refl b.document) .trans Move.grows h

theorem Build.Does.grows {α : Type} {w : Workshop} {within : List String} {x : Build α} {post : α → Prop}
    (hx : Build.Does w within x post) (b : Bench) : b.document.Grows (x.run b).2.document :=
  (hx b).1.grows

/-- No sequence of operations, in whatever mix of activities and snippets, does more to a document than let it grow:
neither where operations that fail are followed by others nor where the first failure ends the sequence. -/
theorem assembly_only_appends (w : Workshop) (operations : List Operation) (b : Bench) :
    b.document.Grows (Operation.session w operations b).document ∧
      b.document.Grows ((Operation.sequence w operations).run b).2.document := by
  constructor
  · induction operations generalizing b with
    | nil => exact .refl _
    | cons o rest ih => exact ((o.build_acts w).grows b).trans (ih _)
  · have hsequence : Build.Acts w [] (Operation.sequence w operations) := by
      induction operations with
      | nil => exact .done
      | cons o rest ih => exact .andThen (o.build_acts w) fun _ => ih
    exact hsequence.grows b

end WorkflowForge
