import WorkflowForge.Proofs.Yaml.Scanning
import WorkflowForge.Yaml.Load

/-!
Why a YAML text has no data. The parser takes its mistakes from the tokens or finds the text malformed; the data of a
document are wanting only where it is malformed or one of its scalars has no value under its tag. So a text with no
mistake in its form is only refused for an escape that is out of range, or for such a scalar.
-/

namespace WorkflowForge.Yaml

namespace Parse

/-- The faults among the tokens left are as expected. -/
def Explains (E : Mistake → Prop) (r : Reading) : Prop := ∀ m, .fault m ∈ r.tokens → E m

abbrev Safe (E : Mistake → Prop) (step : Parse α) : Prop := Keeps E (Explains E) step

section

variable {E : Mistake → Prop}

theorem safe_current : Safe E current := by
  intro r hr
  obtain ⟨tokens, handles, anchors⟩ := r
  cases tokens with
  | nil => exact .ok hr
  | cons t tokens =>
      cases t with
      | fault m => exact .error (hr m List.mem_cons_self)
      | _ => exact .ok hr

theorem safe_advance : Safe E advance := Triple.modifying fun _ hr m hm => hr m (List.mem_of_mem_drop hm)

theorem safe_isAt (ts : List Token) : Safe E (isAt ts) := safe_current.bind fun _ => .pure _

theorem safe_skipIf (t : Token) : Safe E (skipIf t) :=
  safe_current.bind fun _ => .ite (safe_advance.bind fun _ => .pure _) (.pure _)

theorem safe_conclude (anchor : Option String) (n : Node) : Safe E (conclude anchor n) := by
  cases anchor with
  | none => exact .pure _
  | some a => exact Keeps.bind (Triple.modifying fun _ hr => hr) fun _ => .pure _

variable (hE : E .malformed)

include hE

theorem safe_malformed : Safe E (malformed : Parse α) := Triple.throw hE

theorem safe_expect (t : Token) : Safe E (expect t) := (safe_skipIf t).bind fun _ => .ite (.pure _) (safe_malformed hE)

theorem safe_tagName (t : WrittenTag) : Safe E (tagName t) := by
  unfold tagName
  split
  · exact .pure _
  · refine Keeps.get.bind fun _ => ?_
    split
    · exact .pure _
    · exact safe_malformed hE

theorem safe_nodeProperties : Safe E nodeProperties := by
  refine safe_current.bind fun t => ?_
  split
  · refine safe_advance.bind fun _ => safe_current.bind fun t => ?_
    split
    · exact safe_advance.bind fun _ => (safe_tagName hE _).bind fun _ => .pure _
    · exact .pure _
  · refine safe_advance.bind fun _ => safe_current.bind fun t => ?_
    split
    · exact safe_advance.bind fun _ => (safe_tagName hE _).bind fun _ => .pure _
    · exact (safe_tagName hE _).bind fun _ => .pure _
  · exact .pure _

theorem safe_announce (anchor : Option String) : Safe E (announce anchor) := by
  have hname : ∀ a : String, Safe E (modify fun r => { r with anchors := (a, none) :: r.anchors }) :=
    fun _ => Triple.modifying fun _ hr => hr
  cases anchor with
  | none => exact .pure _
  | some a => exact Keeps.get.bind fun _ => .ite ((safe_malformed hE).bind fun _ => hname a) (hname a)

theorem safe_reference (a : String) : Safe E (reference a) := by
  refine Keeps.get.bind fun r => ?_
  split
  · exact .pure _
  · exact .pure _
  · exact safe_malformed hE

end

/-- All readers of nodes are safe with so many steps. -/
structure SafeWithin (E : Mistake → Prop) (steps : Nat) : Prop where
  node : ∀ block below, Safe E (node block below steps)
  blockItems : Safe E (blockItems steps)
  itemsBelowKey : Safe E (itemsBelowKey steps)
  blockEntries : Safe E (blockEntries steps)
  flowItems : ∀ first, Safe E (flowItems first steps)
  flowEntries : ∀ first, Safe E (flowEntries first steps)

section

variable {E : Mistake → Prop} {steps : Nat} (ih : SafeWithin E steps)

include ih

theorem safe_itemsBelowKey_succ : Safe E (Parse.itemsBelowKey (steps + 1)) := by
  have hmore : ∀ item : Node, Safe E (do return item :: (← Parse.itemsBelowKey steps)) :=
    fun _ => ih.itemsBelowKey.bind fun _ => .pure _
  rw [Parse.itemsBelowKey]
  refine (safe_skipIf _).bind fun _ => .ite ?_ (.pure _)
  exact (safe_isAt _).bind fun _ => .ite ((Keeps.pure _).bind hmore) ((ih.node true false).bind hmore)

/-- The value of an entry, which may be left out, and what is read behind it. -/
theorem safe_value {more : Node → Parse α} (hmore : ∀ value, Safe E (more value)) (ends : List Token)
    (block below : Bool) :
    Safe E (do
      let value ←
        if ← skipIf .value then
          if ← isAt ends then pure emptyNode else Parse.node block below steps
        else pure emptyNode
      more value) := by
  refine (safe_skipIf _).bind fun _ => .ite ?_ ((Keeps.pure _).bind hmore)
  exact (safe_isAt ends).bind fun _ => .ite ((Keeps.pure _).bind hmore) ((ih.node block below).bind hmore)

variable (hE : E .malformed)

include hE

theorem safe_node_succ (block below : Bool) : Safe E (Parse.node block below (steps + 1)) := by
  have hscalar : ∀ (anchor : Option String) (n : Node), Safe E (do announce anchor; conclude anchor n) :=
    fun anchor n => (safe_announce hE anchor).bind fun _ => safe_conclude anchor n
  have hsequence : ∀ (anchor : Option String) (tag : Tag) (items : Parse (List Node)), Safe E items →
      Safe E (do advance; announce anchor; let found ← items; conclude anchor (.sequence tag found)) :=
    fun anchor _ _ hitems => safe_advance.bind fun _ => (safe_announce hE anchor).bind fun _ =>
      hitems.bind fun _ => safe_conclude anchor _
  have hmapping : ∀ (anchor : Option String) (tag : Tag) (entries : Parse (List (Node × Node))), Safe E entries →
      Safe E (do advance; announce anchor; let found ← entries; conclude anchor (.mapping tag found)) :=
    fun anchor _ _ hentries => safe_advance.bind fun _ => (safe_announce hE anchor).bind fun _ =>
      hentries.bind fun _ => safe_conclude anchor _
  rw [Parse.node]
  refine safe_current.bind fun t => ?_
  split
  · exact safe_advance.bind fun _ => safe_reference hE _
  · refine (safe_nodeProperties hE).bind fun properties => safe_current.bind fun here => ?_
    obtain ⟨anchor, tag⟩ := properties
    dsimp only
    split
    · exact safe_advance.bind fun _ => hscalar _ _
    · exact hsequence _ _ _ (ih.flowItems true)
    · exact hmapping _ _ _ (ih.flowEntries true)
    · exact .ite ((safe_malformed hE).bind fun _ => hsequence _ _ _ ih.blockItems) (hsequence _ _ _ ih.blockItems)
    · exact .ite ((safe_malformed hE).bind fun _ => hmapping _ _ _ ih.blockEntries) (hmapping _ _ _ ih.blockEntries)
    · refine .ite ?_ (.ite (hscalar _ _) (safe_malformed hE))
      exact (safe_announce hE anchor).bind fun _ => ih.itemsBelowKey.bind fun _ => safe_conclude anchor _

theorem safe_blockItems_succ : Safe E (Parse.blockItems (steps + 1)) := by
  have hmore : ∀ item : Node, Safe E (do return item :: (← Parse.blockItems steps)) :=
    fun _ => ih.blockItems.bind fun _ => .pure _
  rw [Parse.blockItems]
  refine (safe_skipIf _).bind fun _ => .ite ?_ ((safe_expect hE _).bind fun _ => .pure _)
  exact (safe_isAt _).bind fun _ => .ite ((Keeps.pure _).bind hmore) ((ih.node true false).bind hmore)

theorem safe_blockEntries_succ : Safe E (Parse.blockEntries (steps + 1)) := by
  rw [Parse.blockEntries]
  refine safe_current.bind fun _ => .ite ?_ ((safe_expect hE _).bind fun _ => .pure _)
  have hvalue : ∀ key : Node, Safe E (do
      let value ←
        if ← skipIf .value then
          if ← isAt [.key, .value, .blockEnd] then pure emptyNode else Parse.node true true steps
        else pure emptyNode
      return (key, value) :: (← Parse.blockEntries steps)) :=
    fun key => safe_value ih (fun _ => ih.blockEntries.bind fun _ => .pure _) _ true true
  refine (safe_skipIf _).bind fun _ => .ite ?_ ((safe_malformed hE).bind hvalue)
  exact (safe_isAt _).bind fun _ => .ite ((Keeps.pure _).bind hvalue) ((ih.node true true).bind hvalue)

omit ih in
/-- What stands between two parts in brackets, before the next part. -/
theorem safe_separated {more : Parse α} (hmore : Safe E more) (first : Bool) :
    Safe E (do
      if !first then expect .flowEntry
      more) :=
  .ite ((safe_expect hE _).bind fun _ => hmore) hmore

theorem safe_flowItems_succ (first : Bool) : Safe E (Parse.flowItems first (steps + 1)) := by
  have hvalue : ∀ key : Node, Safe E (do
      let value ←
        if ← skipIf .value then
          if ← isAt [.flowEntry, .flowSequenceEnd] then pure emptyNode else Parse.node false false steps
        else pure emptyNode
      return .mapping .map [(key, value)] :: (← Parse.flowItems false steps)) :=
    fun key => safe_value ih (fun _ => (ih.flowItems false).bind fun _ => .pure _) _ false false
  rw [Parse.flowItems]
  refine (safe_skipIf _).bind fun _ => .ite (.pure _) (safe_separated hE ?_ first)
  refine (safe_skipIf _).bind fun _ => .ite (.pure _) ((safe_skipIf _).bind fun _ => .ite ?_ ?_)
  · exact (safe_isAt _).bind fun _ => .ite ((Keeps.pure _).bind hvalue) ((ih.node false false).bind hvalue)
  · exact (ih.node false false).bind fun _ => (ih.flowItems false).bind fun _ => .pure _

theorem safe_flowEntries_succ (first : Bool) : Safe E (Parse.flowEntries first (steps + 1)) := by
  have hvalue : ∀ key : Node, Safe E (do
      let value ←
        if ← skipIf .value then
          if ← isAt [.flowEntry, .flowMappingEnd] then pure emptyNode else Parse.node false false steps
        else pure emptyNode
      return (key, value) :: (← Parse.flowEntries false steps)) :=
    fun key => safe_value ih (fun _ => (ih.flowEntries false).bind fun _ => .pure _) _ false false
  rw [Parse.flowEntries]
  refine (safe_skipIf _).bind fun _ => .ite (.pure _) (safe_separated hE ?_ first)
  refine (safe_skipIf _).bind fun _ => .ite (.pure _) ((safe_skipIf _).bind fun _ => .ite ?_ ?_)
  · exact (safe_isAt _).bind fun _ => .ite ((Keeps.pure _).bind hvalue) ((ih.node false false).bind hvalue)
  · exact (ih.node false false).bind fun _ => (ih.flowEntries false).bind fun _ => .pure _

end

section

variable {E : Mistake → Prop} (hE : E .malformed)

include hE

theorem safeWithin (steps : Nat) : SafeWithin E steps := by
  induction steps with
  | zero =>
      refine ⟨fun _ _ => ?_, ?_, ?_, ?_, fun _ => ?_, fun _ => ?_⟩
      · rw [Parse.node]; exact safe_malformed hE
      · rw [Parse.blockItems]; exact safe_malformed hE
      · rw [Parse.itemsBelowKey]; exact safe_malformed hE
      · rw [Parse.blockEntries]; exact safe_malformed hE
      · rw [Parse.flowItems]; exact safe_malformed hE
      · rw [Parse.flowEntries]; exact safe_malformed hE
  | succ steps ih =>
      exact ⟨safe_node_succ ih hE, safe_blockItems_succ ih hE, safe_itemsBelowKey_succ ih, safe_blockEntries_succ ih hE,
        safe_flowItems_succ ih hE, safe_flowEntries_succ ih hE⟩

theorem safe_directives (steps : Nat) (versioned : Bool) (handles : List (String × String)) :
    Safe E (directives steps versioned handles) := by
  induction steps generalizing versioned handles with
  | zero => exact .pure _
  | succ steps ih =>
      have hmore : ∀ versioned handles, Safe E (do advance; directives steps versioned handles) :=
        fun _ _ => safe_advance.bind fun _ => ih _ _
      refine safe_current.bind fun t => ?_
      split
      · exact .ite ((safe_malformed hE).bind fun _ => hmore _ _) (hmore _ _)
      · exact .ite ((safe_malformed hE).bind fun _ => hmore _ _) (hmore _ _)
      · exact hmore _ _
      · exact .pure _

omit hE in
theorem safe_skipDocumentEnds (steps : Nat) : Safe E (skipDocumentEnds steps) := by
  induction steps with
  | zero => exact .pure _
  | succ steps ih => exact (safe_skipIf _).bind fun _ => .ite ih (.pure _)

theorem safe_document (steps : Nat) : Safe E (document steps) := by
  have hnode : Safe E (Parse.node true false steps) := (safeWithin hE steps).node true false
  have hend : ∀ root : Node, Safe E (do
      skipDocumentEnds steps
      if (← current) == .streamEnd then return some root else malformed) :=
    fun _ => (safe_skipDocumentEnds steps).bind fun _ => safe_current.bind fun _ => .ite (.pure _) (safe_malformed hE)
  refine safe_current.bind fun first => .ite (.pure _) (.ite ?_ (hnode.bind hend))
  refine (safe_directives hE steps false []).bind fun handles => ?_
  refine Keeps.bind (Triple.modifying fun _ hr => hr) fun _ => (safe_expect hE _).bind fun _ => ?_
  refine safe_current.bind fun t => ?_
  split
  · exact (Keeps.pure _).bind hend
  · exact (Keeps.pure _).bind hend
  · exact .ite ((Keeps.pure _).bind hend) (hnode.bind hend)

end

end Parse

/-- The mistake for which a text has no nodes is explained by the text. -/
theorem Node.explained_of_parse {s : String} {m : Mistake} (hm : Node.parse s = .error m) : Explained s.toList m := by
  have hdocument := Parse.safe_document (E := Explained s.toList) (.inl rfl) (4 * ((Token.scan s).length + 4))
    ⟨Token.scan s, Parse.defaultHandles, []⟩ fun _ hmem => Token.explained_of_mem_scan hmem
  unfold Node.parse at hm
  dsimp only at hm
  generalize (Parse.document _).run _ = result at hdocument hm
  cases hdocument with
  | ok _ => cases hm
  | error h =>
      cases hm
      exact h

/-! ### Building -/

namespace Node

/-- A text is read under a tag somewhere in a node. -/
inductive Reads : Node → Tag → String → Prop
  | scalar {t : Tag} {text : String} : Reads (.scalar t text) t text
  | item {n : Node} {items : List Node} {own t : Tag} {text : String} (hmem : n ∈ items) (h : Reads n t text) :
      Reads (.sequence own items) t text
  | key {k v : Node} {entries : List (Node × Node)} {own t : Tag} {text : String} (hmem : (k, v) ∈ entries)
      (h : Reads k t text) : Reads (.mapping own entries) t text
  | value {k v : Node} {entries : List (Node × Node)} {own t : Tag} {text : String} (hmem : (k, v) ∈ entries)
      (h : Reads v t text) : Reads (.mapping own entries) t text
  | standsFor {entries : List (Node × Node)} {own : Tag} {text : String} (h : valueText? entries = some text) :
      Reads (.mapping own entries) own text

/-- Induction over a node whose collections have what all their parts have. -/
theorem partInduction {P : Node → Prop} (scalar : ∀ tag text, P (.scalar tag text)) (cycle : P .cycle)
    (sequence : ∀ tag items, (∀ n ∈ items, P n) → P (.sequence tag items))
    (mapping : ∀ tag entries, (∀ k v, (k, v) ∈ entries → P k ∧ P v) → P (.mapping tag entries)) : ∀ n, P n
  | .scalar tag text => scalar tag text
  | .cycle => cycle
  | .sequence tag items => sequence tag items fun n hmem => by
      have hsize : sizeOf n < sizeOf items := List.sizeOf_lt_of_mem hmem
      exact partInduction scalar cycle sequence mapping n
  | .mapping tag entries => mapping tag entries fun k v hmem => by
      have hentry : sizeOf (k, v) < sizeOf entries := List.sizeOf_lt_of_mem hmem
      simp only [Prod.mk.sizeOf_spec] at hentry
      have hkey : sizeOf k < 1 + sizeOf tag + sizeOf entries := by omega
      have hvalue : sizeOf v < 1 + sizeOf tag + sizeOf entries := by omega
      exact ⟨partInduction scalar cycle sequence mapping k, partInduction scalar cycle sequence mapping v⟩
termination_by n => sizeOf n

end Node

/-- The document is malformed, or one of the texts read has no value under its tag. -/
def Wanting (R : Tag → String → Prop) (m : Mistake) : Prop :=
  m = .malformed ∨ ∃ tag text, R tag text ∧ Scalar.datum tag text = .error m

/-- Where data could not be built, something is wanting. -/
abbrev Accounted (R : Tag → String → Prop) (x : Built α) : Prop := Gives (fun e => Wanting R e.2) (fun _ => True) x

section

variable {R : Tag → String → Prop}

theorem Accounted.map {x : Built α} (hx : Accounted R x) (f : α → β) : Accounted R (x.map f) := by
  cases hx with
  | ok h => exact .ok trivial
  | error h => exact .error h

theorem Accounted.both {x : Built α} {y : Built β} (hx : Accounted R x) (hy : Accounted R y) :
    Accounted R (Built.both x y) := by
  cases hx with
  | ok _ =>
      cases hy with
      | ok _ => exact .ok trivial
      | error h => exact .error h
  | error h =>
      cases hy with
      | ok _ => exact .error h
      | error h' =>
          rw [Built.both]
          split
          · exact .error h'
          · exact .error h

theorem accounted_malformed (depth : Nat) : Accounted R (Built.fail depth .malformed : Built α) := .error (.inl rfl)

namespace Node

theorem accounted_scalarDatum {tag : Tag} {text : String} (hread : R tag text) (depth : Nat) :
    Accounted R (scalarDatum depth tag text) := by
  unfold scalarDatum
  cases hdatum : Scalar.datum tag text with
  | ok d => exact .ok trivial
  | error m => exact .error (.inr ⟨tag, text, hread, hdatum⟩)

theorem accounted_asPairs (depth : Nat) (items : List Datum) : Accounted R (asPairs depth items) := by
  unfold asPairs
  dsimp only
  split
  · exact .ok trivial
  · exact accounted_malformed depth

theorem accounted_buildKey {k : Node} (hread : ∀ tag text, k.Reads tag text → R tag text) (depth : Nat) :
    Accounted R (buildKey depth k) := by
  unfold buildKey
  split
  · exact .ok trivial
  · exact accounted_scalarDatum (hread _ _ .scalar) depth
  · exact accounted_malformed depth

theorem accounted_buildItems {items : List Node} {depth : Nat} (h : ∀ n ∈ items, Accounted R (build depth n)) :
    Accounted R (buildItems depth items) := by
  induction items with
  | nil => exact .ok trivial
  | cons n items ih =>
      rw [List.forall_mem_cons] at h
      rw [buildItems]
      exact (h.1.both (ih h.2)).map _

theorem accounted_buildEntries {entries : List (Node × Node)} {depth : Nat}
    (h : ∀ k v, (k, v) ∈ entries →
      Accounted R (buildKey depth k) ∧ Accounted R (build depth v) ∧ Accounted R (buildMerged depth v)) :
    Accounted R (buildEntries depth entries) := by
  induction entries with
  | nil => exact .ok trivial
  | cons entry entries ih =>
      obtain ⟨k, v⟩ := entry
      obtain ⟨hkey, hvalue, hmerged⟩ := h k v List.mem_cons_self
      have hrest := ih fun k v hmem => h k v (List.mem_cons_of_mem _ hmem)
      rw [buildEntries]
      split
      · exact (hmerged.both hrest).map _
      · exact ((hkey.both hvalue).both hrest).map _

theorem accounted_buildMergedItems {items : List Node} {depth : Nat}
    (h : ∀ own entries, .mapping own entries ∈ items → Accounted R (buildEntries depth entries)) :
    Accounted R (buildMergedItems depth items) := by
  induction items with
  | nil => exact .ok trivial
  | cons n items ih =>
      have hrest := ih fun own entries hmem => h own entries (List.mem_cons_of_mem _ hmem)
      cases n with
      | mapping own entries => exact ((h own entries List.mem_cons_self).both hrest).map _
      | _ => exact accounted_malformed depth

/-- A mapping that is neither kept as one nor a set stands for a scalar. -/
theorem accounted_standsFor {tag : Tag} {entries : List (Node × Node)}
    (hread : ∀ text, valueText? entries = some text → R tag text) (hmap : tag ≠ .map) (hset : tag ≠ .set)
    (depth : Nat) : Accounted R (build depth (.mapping tag entries)) := by
  rw [build]
  · split
    · exact accounted_scalarDatum (hread _ (by assumption)) depth
    · exact accounted_malformed depth
  · exact hmap
  · exact hset

/-- What is built of a node, of a node that is merged into a mapping, and of the entries of a mapping. -/
theorem accounted_build (n : Node) : (∀ tag text, n.Reads tag text → R tag text) → ∀ depth,
    Accounted R (build depth n) ∧ Accounted R (buildMerged depth n) ∧
      ∀ own entries, n = .mapping own entries → Accounted R (buildEntries depth entries) := by
  induction n using partInduction with
  | scalar tag text =>
      intro hread depth
      exact ⟨accounted_scalarDatum (hread _ _ .scalar) depth, accounted_malformed depth, nofun⟩
  | cycle =>
      intro _ depth
      exact ⟨.ok trivial, accounted_malformed depth, nofun⟩
  | sequence tag items ih =>
      intro hread depth
      have hparts : ∀ n ∈ items, ∀ depth, _ := fun n hmem => ih n hmem fun tag text h => hread tag text (.item hmem h)
      have hitems : ∀ depth, Accounted R (buildItems depth items) :=
        fun depth => accounted_buildItems fun n hmem => (hparts n hmem depth).1
      refine ⟨?_, ?_, nofun⟩
      · cases tag with
        | seq => exact (hitems (depth + 1)).bind fun _ _ => .ok trivial
        | pairs => exact (hitems (depth + 1)).bind fun _ _ => accounted_asPairs depth _
        | _ => exact accounted_malformed depth
      · exact accounted_buildMergedItems fun own entries hmem => (hparts _ hmem depth).2.2 own entries rfl
  | mapping tag entries ih =>
      intro hread depth
      -- the entries are built one level deeper for the mapping itself and at its level where it is merged
      have hentries : ∀ depth, Accounted R (buildEntries depth entries) := by
        intro depth
        refine accounted_buildEntries fun k v hmem => ?_
        have hvalue := (ih k v hmem).2 (fun tag text h => hread tag text (.value hmem h)) depth
        exact ⟨accounted_buildKey (fun tag text h => hread tag text (.key hmem h)) depth, hvalue.1, hvalue.2.1⟩
      refine ⟨?_, (hentries depth).map _, ?_⟩
      · by_cases hmap : tag = .map
        · subst hmap
          refine (hentries (depth + 1)).bind ?_
          rintro ⟨merged, own⟩ _
          exact .ok trivial
        by_cases hset : tag = .set
        · subst hset
          refine (hentries (depth + 1)).bind ?_
          rintro ⟨merged, own⟩ _
          exact .ok trivial
        exact accounted_standsFor (fun _ h => hread _ _ (.standsFor h)) hmap hset depth
      · rintro own _ ⟨⟩
        exact hentries depth

end Node

end

theorem Scalar.tag_of_datum {tag : Tag} {text : String} {m : Mistake} (h : Scalar.datum tag text = .error m)
    (hm : m ≠ .malformed) : tag ∈ [Tag.bool, .int, .float, .timestamp] := by
  cases tag with
  | bool | int | float | timestamp => simp
  | null | str => cases h
  | binary =>
      change Scalar.binary text = .error m at h
      unfold Scalar.binary at h
      dsimp only at h
      split at h
      · split at h <;> cases h
        exact absurd rfl hm
      · cases h
        exact absurd rfl hm
  | _ =>
      cases h
      exact absurd rfl hm

/-- A text holds something that has no value: an escape whose number no character has, or a scalar with the tag of a
truth value, a number or a moment that is none. -/
def HoldsNoValue (s : String) (m : Mistake) : Prop :=
  HasVoidEscape s.toList ∨
    ∃ root tag text, Node.parse s = .ok (some root) ∧ root.Reads tag text ∧
      tag ∈ [Tag.bool, .int, .float, .timestamp] ∧ Scalar.datum tag text = .error m

/-- The reason why a text has no data. -/
theorem holdsNoValue_of_load {s : String} {m : Mistake} (h : load s = .error m) (hm : m ≠ .malformed) :
    HoldsNoValue s m := by
  unfold load at h
  cases hparse : Node.parse s with
  | error e =>
      rw [hparse] at h
      cases h
      exact .inl ((Node.explained_of_parse hparse).resolve_left hm)
  | ok found =>
      rw [hparse] at h
      cases found with
      | none => cases h
      | some root =>
          dsimp only [bind, Except.bind] at h
          have hbuild := (Node.accounted_build (R := root.Reads) root (fun _ _ h => h) 0).1
          generalize root.build 0 = result at hbuild h
          cases hbuild with
          | ok _ => cases h
          | error hwanting =>
              cases h
              obtain ⟨tag, text, hreads, hdatum⟩ := hwanting.resolve_left hm
              exact .inr ⟨root, tag, text, hparse, hreads, Scalar.tag_of_datum hdatum hm, hdatum⟩

end WorkflowForge.Yaml
