import WorkflowForge.Json.Value

/-!
Binding makes every action of a collection run after the one before it. The collections are the one that is bound and,
below the bodies of its entries, those under `actions`, under the `actions` of each case, and under the `actions` of
`default` and `else`. Links that are there already are kept.
-/

namespace WorkflowForge

/-- A run-after link that binding adds. -/
structure Link where
  action : String
  runAfter : String
deriving DecidableEq, Repr, Inhabited

namespace Binding

/-- The status after which a linked action runs. -/
def succeeded : Json := .array [.string "Succeeded"]

/-- The run-after links of a body, where they are an object. -/
def linksOf (body : Fields) : Fields :=
  match Fields.get? body "runAfter" with
  | some (.object links) => links
  | _ => []

/-- The body with its run-after links, and one to the previous entry if it has none. -/
def linked (previous : String) (body : Fields) : Fields :=
  let links := linksOf body
  let links := if Fields.has links previous then links else links ++ [(previous, succeeded)]
  Fields.set body "runAfter" (.object links)

/-- Links each entry to the one before it. -/
def chain : Option String → Fields → Fields
  | _, [] => []
  | none, (name, body) :: rest => (name, body) :: chain (some name) rest
  | some previous, (name, .object body) :: rest => (name, .object (linked previous body)) :: chain (some name) rest
  | some _, (name, body) :: rest => (name, body) :: chain (some name) rest

/-- The links that chaining adds. -/
def chainLinks : Option String → Fields → List Link
  | _, [] => []
  | none, (name, _) :: rest => chainLinks (some name) rest
  | some previous, (name, .object body) :: rest =>
    let rest := chainLinks (some name) rest
    if Fields.has (linksOf body) previous then rest else ⟨name, previous⟩ :: rest
  | some _, (name, _) :: rest => chainLinks (some name) rest

/-- The order in which the collections below a body are bound. -/
def collectionKeys : List String := ["actions", "cases", "default", "else"]

mutual

/-- The entries of a collection with everything below them bound. -/
def below : Fields → Fields
  | [] => []
  | (name, body) :: rest => (name, bindBody body) :: below rest

/-- The body of an entry with the collections in it bound. -/
def bindBody : Json → Json
  | .object fields => .object (bindParts fields)
  | v => v

def bindParts : Fields → Fields
  | [] => []
  | (key, v) :: rest =>
    let part :=
      if key == "actions" then bindCollection v
      else if key == "cases" then bindCases v
      else if key == "default" || key == "else" then bindBranch v
      else v
    (key, part) :: bindParts rest

/-- A value as a collection of actions. -/
def bindCollection : Json → Json
  | .object fields => .object (chain none (below fields))
  | v => v

/-- A value as an object with a collection under `actions`. -/
def bindBranch : Json → Json
  | .object fields => .object (bindBranchFields fields)
  | v => v

def bindBranchFields : Fields → Fields
  | [] => []
  | (key, v) :: rest => (key, if key == "actions" then bindCollection v else v) :: bindBranchFields rest

/-- A value as an object of cases. -/
def bindCases : Json → Json
  | .object fields => .object (bindCaseFields fields)
  | v => v

def bindCaseFields : Fields → Fields
  | [] => []
  | (name, v) :: rest => (name, bindBranch v) :: bindCaseFields rest

end

mutual

/-- The links added below the entries of a collection. -/
def linksBelow : Fields → List Link
  | [] => []
  | (_, body) :: rest => bodyLinks body ++ linksBelow rest

def bodyLinks : Json → List Link
  | .object fields =>
    let parts := partLinks fields
    collectionKeys.flatMap fun key => (parts.lookup key).getD []
  | _ => []

def partLinks : Fields → List (String × List Link)
  | [] => []
  | (key, v) :: rest =>
    let links :=
      if key == "actions" then collectionLinks v
      else if key == "cases" then caseLinks v
      else if key == "default" || key == "else" then branchLinks v
      else []
    (key, links) :: partLinks rest

def collectionLinks : Json → List Link
  | .object fields => chainLinks none fields ++ linksBelow fields
  | _ => []

def branchLinks : Json → List Link
  | .object fields => branchFieldLinks fields
  | _ => []

def branchFieldLinks : Fields → List Link
  | [] => []
  | (key, v) :: rest => (if key == "actions" then collectionLinks v else []) ++ branchFieldLinks rest

def caseLinks : Json → List Link
  | .object fields => caseFieldLinks fields
  | _ => []

def caseFieldLinks : Fields → List Link
  | [] => []
  | (_, v) :: rest => branchLinks v ++ caseFieldLinks rest

end

/-- A collection bound, with all collections below it. -/
def bind (collection : Fields) : Fields := chain none (below collection)

/-- The links that binding a collection adds, in the order in which they are added. -/
def links (collection : Fields) : List Link := chainLinks none collection ++ linksBelow collection

end Binding

end WorkflowForge
