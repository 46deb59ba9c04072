import WorkflowForge.Assembly.Assembler
import WorkflowForge.Proofs.Assembly.Moves
import WorkflowForge.Proofs.Binding.Collections

/-!
The exact effect of binding on a document, place by place. An entry with an object for its body that stands behind
another in a visited collection gets its links, and loses nothing else; the outline of every other place stays. Every
place is one or the other, so nothing of the document is left open.
-/

namespace WorkflowForge

namespace Binding

/-- Links with one to the previous entry: the old ones as they are, or with the new one behind them. -/
def withLink (previous : String) (links : Fields) : Fields :=
  if Fields.has links previous then links else links ++ [(previous, succeeded)]

theorem linked_eq_set (previous : String) (body : Fields) :
    linked previous body = Fields.set body "runAfter" (.object (withLink previous (linksOf body))) := rfl

/-- In a visited collection an entry whose body is an object stands right behind another. -/
structure Successor (document : Json) (start place : List String) (previous name : String) (body : Fields) : Prop where
  visited : Visited document start place
  follows : ∃ entries, document.objectAt? place = some entries ∧ Fields.Follows entries previous name (.object body)

/-- The places at which binding changes something: an entry that is linked, and its links with all below them. -/
def Touched (document : Json) (start place : List String) : Prop :=
  ∃ above previous name body, Successor document start above previous name body ∧
    (place = above ++ [name] ∨ above ++ [name, "runAfter"] <+: place)

theorem outline_bound (r : Role) (v : Json) : (r.bound v).outline = v.outline := by
  cases v with
  | object fields =>
      cases r with
      | collection =>
          change Sum.inr (Fields.names (bind fields)) = Sum.inr (Fields.names fields)
          rw [names_bind]
      | body =>
          change Sum.inr (Fields.names (bindParts fields)) = Sum.inr (Fields.names fields)
          rw [names_bindParts]
      | cases =>
          change Sum.inr (Fields.names (bindCaseFields fields)) = Sum.inr (Fields.names fields)
          rw [bindCaseFields_eq_map, Fields.names_map (fun _ => bindBranch)]
      | branch =>
          change Sum.inr (Fields.names (bindBranchFields fields)) = Sum.inr (Fields.names fields)
          rw [bindBranchFields_eq_map, Fields.names_map (fun key v => if key == "actions" then bindCollection v else v)]
      | links => rfl
      | other => rfl
  | _ => cases r <;> rfl

/-- No entry that is linked stands at a place, and no links stand at it or above it, as seen from a value with a part
in binding. -/
def Untouched (r : Role) (v : Json) (place : List String) : Prop :=
  ∀ above entries previous name body, r.along above = .collection → v.objectAt? above = some entries →
    Fields.Follows entries previous name (.object body) →
      place ≠ above ++ [name] ∧ ¬ above ++ [name, "runAfter"] <+: place

theorem Untouched.tail {r : Role} {v w : Json} {name : String} {rest : List String}
    (h : Untouched r v (name :: rest)) (hw : v.field? name = some w) : Untouched (r.next name) w rest := by
  intro above entries previous entry body halong hobject hfollows
  have hcons : v.objectAt? (name :: above) = some entries := by
    rw [Json.objectAt?_cons, hw]
    exact hobject
  obtain ⟨hne, hlinks⟩ := h (name :: above) entries previous entry body halong hcons hfollows
  exact ⟨fun heq => hne (by rw [heq]; rfl), fun hprefix => hlinks (by simpa using hprefix)⟩

/-- Where nothing is touched, binding leaves the outline. The induction follows the names of the place; only the step
from a collection to an entry meets a link, and it is taken together with the step below that entry. -/
theorem outlineAt?_bound (r : Role) (v : Json) (place : List String) (h : Untouched r v place) :
    (r.bound v).outlineAt? place = v.outlineAt? place := by
  induction place generalizing r v with
  | nil => simp [Json.outlineAt?, outline_bound]
  | cons name rest ih =>
      rw [Json.outlineAt?_cons, Json.outlineAt?_cons]
      by_cases hr : r = .collection
      · subst hr
        cases v with
        | object entries =>
            change (Fields.get? (bind entries) name).bind _ = (Fields.get? entries name).bind _
            cases hget : Fields.get? entries name with
            | none =>
                have hnone : Fields.get? (bind entries) name = none := by
                  rw [Fields.get?_eq_none_iff, names_bind, ← Fields.get?_eq_none_iff]
                  exact hget
                rw [hnone]
            | some body =>
                have hbody : (Role.body.bound body).outlineAt? rest = body.outlineAt? rest :=
                  ih .body body (h.tail hget)
                rcases Fields.head_or_follows hget with hhead | ⟨previous, hfollows⟩
                · rw [get?_bind_of_head hhead]
                  exact hbody
                · rw [get?_bind_of_follows hfollows]
                  cases body with
                  | object fields =>
                      obtain ⟨hentry, hlinks⟩ := h [] entries previous name fields rfl rfl hfollows
                      cases rest with
                      | nil => exact absurd rfl hentry
                      | cons key more =>
                          have hkey : key ≠ "runAfter" := by
                            rintro rfl
                            exact hlinks (by simp)
                          rw [Option.bind_some, Option.bind_some, Json.outlineAt?_cons, field?_linkTo _ _ hkey,
                            ← Json.outlineAt?_cons]
                          exact hbody
                  | _ => exact hbody
        | _ => rfl
      · rw [Role.field?_bound hr]
        cases hfield : v.field? name with
        | none => rfl
        | some w => exact ih (r.next name) w (h.tail hfield)

/-- The document that the binding of a scope leaves. -/
def documentAfter (s : Scope) (b : Bench) : Json := ((Build.bindActions s).run b).2.document

theorem document_after_logging (links : List Link) (b : Bench) :
    ((links.forM fun l => Build.debug "flowsmith.assembly.binder" "action_bound"
      [("action", .string l.action), ("run_after", .string l.runAfter)] : Build Unit).run b).2.document =
        b.document := by
  induction links generalizing b with
  | nil => rfl
  | cons l rest ih => exact ih _

theorem documentAfter_eq (s : Scope) (b : Bench) :
    documentAfter s b = b.document.modifyAt s.location fun _ => .object (bind (s.entries b.document)) := by
  let bound : Bench :=
    { b with document := b.document.modifyAt s.location fun _ => .object (bind (s.entries b.document)) }
  refine Eq.trans ?_ (document_after_logging (links (s.entries b.document)) bound)
  exact congrArg Bench.document (Build.run_return _ (fun _ => (links (s.entries b.document)).length) bound)

/-- At or below the scope, the document is the bound collection. -/
theorem at?_documentAfter {s : Scope} {b : Bench} {entries : Fields}
    (hscope : b.document.objectAt? s.location = some entries) (rest : List String) :
    (documentAfter s b).at? (s.location ++ rest) = (Role.collection.bound (.object entries)).at? rest := by
  rw [documentAfter_eq, Json.at?_modifyAt_append, (Json.objectAt?_eq_some_iff _ _ _).mp hscope, Scope.entries, hscope]
  rfl

theorem objectAt?_documentAfter_of_along {s : Scope} {b : Bench} {entries : Fields}
    (hscope : b.document.objectAt? s.location = some entries) {rest : List String}
    (hrest : Role.collection.along rest = .collection) :
    (documentAfter s b).objectAt? (s.location ++ rest) = (b.document.objectAt? (s.location ++ rest)).map bind := by
  rw [Json.objectAt?, at?_documentAfter hscope, Json.objectAt?_append,
    (Json.objectAt?_eq_some_iff _ _ _).mp hscope]
  exact objectAt?_bound hrest (.object entries)

/-- A visited collection is bound as a whole. -/
theorem objectAt?_documentAfter {s : Scope} {b : Bench} {entries : Fields}
    (hscope : b.document.objectAt? s.location = some entries) {place : List String}
    (hplace : Visited b.document s.location place) :
    (documentAfter s b).objectAt? place = (b.document.objectAt? place).map bind := by
  obtain ⟨rest, rfl, hrest⟩ := hplace.exists_along
  exact objectAt?_documentAfter_of_along hscope hrest

/-- Binding neither makes nor hides a collection. -/
theorem visited_documentAfter_iff {s : Scope} {b : Bench} {entries : Fields}
    (hscope : b.document.objectAt? s.location = some entries) (place : List String) :
    Visited (documentAfter s b) s.location place ↔ Visited b.document s.location place := by
  have hafter : (documentAfter s b).objectAt? s.location = some (bind entries) := by
    rw [objectAt?_documentAfter hscope .start, hscope]
    rfl
  constructor
  · intro h
    obtain ⟨collection, hcollection⟩ := h.exists_object hafter
    obtain ⟨rest, rfl, hrest⟩ := h.exists_along
    rw [objectAt?_documentAfter_of_along hscope hrest] at hcollection
    obtain ⟨old, hold, _⟩ := Option.map_eq_some_iff.mp hcollection
    exact .of_along s.location hrest (by rw [hold]; rfl)
  · intro h
    obtain ⟨collection, hcollection⟩ := h.exists_object hscope
    obtain ⟨rest, rfl, hrest⟩ := h.exists_along
    refine .of_along s.location hrest ?_
    rw [objectAt?_documentAfter_of_along hscope hrest, hcollection]
    rfl

/-- What is not touched keeps its outline, inside the scope and outside it. -/
theorem outlineAt?_documentAfter {s : Scope} {b : Bench} {entries : Fields}
    (hscope : b.document.objectAt? s.location = some entries) {place : List String}
    (hplace : ¬ Touched b.document s.location place) :
    (documentAfter s b).outlineAt? place = b.document.outlineAt? place := by
  by_cases hbelow : s.location <+: place
  · obtain ⟨rest, rfl⟩ := hbelow
    have huntouched : Untouched .collection (.object entries) rest := by
      intro above collection previous name body halong hobject hfollows
      have hat : b.document.objectAt? (s.location ++ above) = some collection := by
        rw [Json.objectAt?_append, (Json.objectAt?_eq_some_iff _ _ _).mp hscope]
        exact hobject
      have hvisited : Visited b.document s.location (s.location ++ above) :=
        .of_along s.location halong (by rw [hat]; rfl)
      have hsuccessor : Successor b.document s.location (s.location ++ above) previous name body :=
        ⟨hvisited, collection, hat, hfollows⟩
      refine ⟨fun heq => hplace ⟨_, _, _, _, hsuccessor, .inl ?_⟩,
        fun hlinks => hplace ⟨_, _, _, _, hsuccessor, .inr ?_⟩⟩
      · rw [heq, List.append_assoc]
      · rw [List.append_assoc]
        exact (List.prefix_append_right_inj _).mpr hlinks
    rw [Json.outlineAt?, at?_documentAfter hscope, Json.outlineAt?, Json.at?_append,
      (Json.objectAt?_eq_some_iff _ _ _).mp hscope]
    exact outlineAt?_bound .collection (.object entries) rest huntouched
  · rw [documentAfter_eq]
    exact Json.outlineAt?_modifyAt _ _ hbelow

/-- An entry behind another has the links of its body, with one to that other; its own names stay, and the name of the
links comes last where it is new. -/
theorem linked_documentAfter {s : Scope} {b : Bench} {entries : Fields}
    (hscope : b.document.objectAt? s.location = some entries) {place : List String} {previous name : String}
    {body : Fields} (h : Successor b.document s.location place previous name body) :
    (documentAfter s b).at? (place ++ [name]) = some (.object (linked previous (bindParts body))) := by
  obtain ⟨hvisited, collection, hcollection, hfollows⟩ := h
  have hbound : (documentAfter s b).objectAt? place = some (bind collection) := by
    rw [objectAt?_documentAfter hscope hvisited, hcollection]
    rfl
  rw [Json.at?_snoc hbound, get?_bind_of_follows hfollows]
  rfl

/-- Binding a scope that is an object of the document changes the document as follows and not otherwise. Where an entry
whose body is an object stands right behind another in a visited collection, its links are the old ones (none, where
there was no object of links) with one to the other entry behind them unless there was one; and its names are the old
ones, with that of the links behind them if it is new. Every place that is neither such an entry nor in its links keeps
its outline: an object its names in their order, anything else its value. -/
theorem binding_exact_effect (s : Scope) (b : Bench) {entries : Fields}
    (hscope : b.document.objectAt? s.location = some entries) :
    (∀ place previous name body, Successor b.document s.location place previous name body →
      (documentAfter s b).at? (place ++ [name, "runAfter"]) =
          some (.object (withLink previous (linksOf body))) ∧
        (documentAfter s b).outlineAt? (place ++ [name]) =
          some (.inr (if Fields.has body "runAfter" then Fields.names body else Fields.names body ++ ["runAfter"]))) ∧
    ∀ place, ¬ Touched b.document s.location place →
      (documentAfter s b).outlineAt? place = b.document.outlineAt? place := by
  refine ⟨fun place previous name body h => ?_, fun place => outlineAt?_documentAfter hscope⟩
  have hentry := linked_documentAfter hscope h
  rw [linked_eq_set, linksOf_bindParts] at hentry
  constructor
  · have hsplit : place ++ [name, "runAfter"] = (place ++ [name]) ++ ["runAfter"] := by simp
    rw [hsplit, Json.at?_append, hentry]
    change (Fields.get? (Fields.set _ _ _) "runAfter").bind _ = _
    rw [Fields.get?_set_self]
    rfl
  · rw [Json.outlineAt?, hentry, Option.map_some, Json.outline, Fields.names_set, names_bindParts]
    have hhas : Fields.has (bindParts body) "runAfter" = Fields.has body "runAfter" := by
      rw [Bool.eq_iff_iff, Fields.has_iff, Fields.has_iff, names_bindParts]
    rw [hhas]

/-- A body with no object for its links, behind one that binding comes into; its inputs look like a collection. -/
def malformedActions : Fields :=
  [("First", .object
      [("cases", .object [("A", .object [("actions", .object [("X", .object []), ("Y", .object [])])])])]),
    ("Second", .object [("runAfter", .null), ("inputs", .object [("A", .object []), ("B", .object [])])])]

def malformedBench : Bench := { (default : Bench) with document := .object [("actions", .object malformedActions)] }

/-- The links of the second body are repaired in their place, those in a case come last, and the inputs stay. -/
theorem binding_exact_effect_malformed :
    malformedBench.document.objectAt? ["actions"] = some malformedActions ∧
    Visited malformedBench.document ["actions"] ["actions", "First", "cases", "A", "actions"] ∧
    (documentAfter ⟨[], ["actions"]⟩ malformedBench).at? ["actions", "Second", "runAfter"] =
      some (.object [("First", succeeded)]) ∧
    (documentAfter ⟨[], ["actions"]⟩ malformedBench).outlineAt? ["actions", "Second"] =
      some (.inr ["runAfter", "inputs"]) ∧
    (documentAfter ⟨[], ["actions"]⟩ malformedBench).outlineAt? ["actions", "First", "cases", "A", "actions", "Y"] =
      some (.inr ["runAfter"]) ∧
    ¬ Touched malformedBench.document ["actions"] ["actions", "Second", "inputs", "B"] ∧
    (documentAfter ⟨[], ["actions"]⟩ malformedBench).outlineAt? ["actions", "Second", "inputs", "B"] =
      some (.inr []) := by
  have hscope : malformedBench.document.objectAt? ["actions"] = some malformedActions := rfl
  have hcase : Visited malformedBench.document ["actions"] ["actions", "First", "cases", "A", "actions"] :=
    .nested "First" .start (.case "A") rfl
  have hsecond : Successor malformedBench.document ["actions"] ["actions"] "First" "Second"
      [("runAfter", .null), ("inputs", .object [("A", .object []), ("B", .object [])])] :=
    ⟨.start, malformedActions, hscope, [], _, [], rfl, by decide, by decide⟩
  have hnested :
      Successor malformedBench.document ["actions"] ["actions", "First", "cases", "A", "actions"] "X" "Y" [] :=
    ⟨hcase, _, rfl, [], _, [], rfl, by decide, by decide⟩
  have hinputs : ¬ Touched malformedBench.document ["actions"] ["actions", "Second", "inputs", "B"] := by
    rintro ⟨above, previous, name, body, ⟨hvisited, _⟩, heq | hprefix⟩
    · obtain ⟨rest, rfl, hrest⟩ := hvisited.exists_along
      have hparts : ["Second", "inputs"] ++ ["B"] = rest ++ [name] := by simpa using heq
      obtain ⟨hrest_eq, _⟩ := List.append_inj' hparts rfl
      rw [← hrest_eq] at hrest
      cases hrest
    · have hmem := hprefix.subset (show "runAfter" ∈ above ++ [name, "runAfter"] by simp)
      revert hmem
      decide
  obtain ⟨hlinks, hframe⟩ := binding_exact_effect ⟨[], ["actions"]⟩ malformedBench hscope
  obtain ⟨hrun, hnames⟩ := hlinks _ _ _ _ hsecond
  exact ⟨hscope, hcase, hrun, hnames, (hlinks _ _ _ _ hnested).2, hinputs, hframe _ hinputs⟩

end Binding

end WorkflowForge
