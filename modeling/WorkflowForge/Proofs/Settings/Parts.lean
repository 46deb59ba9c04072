import Mathlib.Data.List.Induction
import WorkflowForge.Proofs.Settings.Leaves
import WorkflowForge.Proofs.Settings.Variables
import WorkflowForge.Proofs.Text.LowerCase

/-!
Variables of the environment by name. A variable counts by its name in lower case, and of several with one name the
last. The variables behind the name of a group give the parts of it, each under the rest of its name. In a mapping a
name may stand in any case: where its names are put in lower case the last of those that are one name stands for all.
-/

namespace WorkflowForge.Environment

open Datum (lookup names Distinct)

/-! ### Variables by name -/

/-- The text of the variable with a name in lower case, of several the last. -/
def textOf? (env : Environment) (name : String) : Option String :=
  (env.reverse.find? fun v => Text.lower v.1 == name).map (·.2)

theorem textOf?_append (env : Environment) (name text n : String) :
    textOf? (env ++ [(name, text)]) n = if Text.lower name = n then some text else env.textOf? n := by
  unfold textOf?
  rw [List.reverse_append, List.reverse_singleton, List.singleton_append, List.find?_cons]
  by_cases h : Text.lower name = n
  · simp [h]
  · rw [if_neg h, beq_eq_false_iff_ne.mpr h]

/-- Puts a variable among others, in the place of one with its name. -/
def put (env : Environment) (name text : String) : Environment :=
  if env.any (·.1 == name) then env.map fun v => if v.1 == name then (v.1, text) else v else env ++ [(name, text)]

theorem lowered_append (env : Environment) (name text : String) :
    lowered (env ++ [(name, text)]) = put env.lowered (Text.lower name) text := List.foldl_append

/-- To put a variable among others changes what is there under its name and nothing else. -/
theorem mem_put (env : Environment) (name text n t : String) :
    (n, t) ∈ put env name text ↔ if name = n then t = text else (n, t) ∈ env := by
  unfold put
  split
  · next hany =>
      simp only [List.any_eq_true, beq_iff_eq, Prod.exists] at hany
      obtain ⟨m, old, hmem, rfl⟩ := hany
      simp only [List.mem_map]
      split
      · next h =>
          subst h
          constructor
          · grind
          · rintro rfl
            exact ⟨_, hmem, by simp⟩
      · grind
  · next hany =>
      simp only [List.any_eq_true, beq_iff_eq, not_exists, not_and] at hany
      simp only [List.mem_append, List.mem_singleton, Prod.mk.injEq]
      split
      · grind
      · grind

/-- Each variable is once among those with their names in lower case. -/
theorem mem_lowered (env : Environment) (n text : String) : (n, text) ∈ env.lowered ↔ env.textOf? n = some text := by
  induction env using List.reverseRecOn generalizing n text with
  | nil => simp [lowered, textOf?]
  | append_singleton env v ih =>
      obtain ⟨name, value⟩ := v
      rw [lowered_append, mem_put, textOf?_append]
      split
      · simp [eq_comm]
      · exact ih n text

theorem lookup_lowered (env : Environment) (n : String) : env.lowered.lookup n = env.textOf? n := by
  cases h : env.lowered.lookup n with
  | some text =>
      obtain ⟨l, l', heq, _⟩ := List.lookup_eq_some_iff.mp h
      exact ((mem_lowered env n text).mp (by rw [heq]; simp)).symm
  | none =>
      cases hvariable : env.textOf? n with
      | none => rfl
      | some text =>
          have hne := List.lookup_eq_none_iff.mp h _ ((mem_lowered env n text).mpr hvariable)
          simp at hne

/-- A name among the variables in lower case is in lower case, and so is every part of it. -/
theorem lower_eq_self {env : Environment} {n text k : String} (h : (n, text) ∈ env.lowered)
    (hk : ∀ c ∈ k.toList, c ∈ n.toList) : Text.lower k = k := by
  obtain ⟨v, hfind, _⟩ := Option.map_eq_some_iff.mp ((mem_lowered env n text).mp h)
  obtain rfl : Text.lower v.1 = n := by simpa using List.find?_some hfind
  have hchars : Text.lowerChars k.toList = k.toList :=
    Text.lowerChars_eq_self fun c hc => Text.isLowered_of_mem_lower (hk c hc)
  rw [Text.lower, hchars, String.ofList_toList]

/-! ### Variables below a group -/

theorem splitFrom_ne_nil (sep : List Char) (limit : Option Nat) (skip : Nat) (cs : List Char) :
    Text.splitFrom sep limit skip cs ≠ [] := by
  fun_induction Text.splitFrom sep limit skip cs <;> simp_all

/-- What is not divided is in one piece. -/
theorem eq_of_splitFrom_eq_singleton {sep cs piece : List Char} (h : Text.splitFrom sep none 0 cs = [piece]) :
    piece = cs := by
  induction cs generalizing piece with
  | nil =>
      cases h
      rfl
  | cons c rest ih =>
      rw [Text.splitFrom] at h
      split at h
      · exact absurd (List.cons.inj h).2 (splitFrom_ne_nil _ _ _ _)
      · split at h
        · next hnil => exact absurd hnil (splitFrom_ne_nil _ _ _ _)
        · next first others hsplit =>
            obtain ⟨rfl, rfl⟩ := List.cons.inj h
            rw [ih hsplit]

theorem mem_of_mem_splitFrom {sep : List Char} {limit : Option Nat} {skip : Nat} {cs piece : List Char}
    (h : piece ∈ Text.splitFrom sep limit skip cs) : ∀ c ∈ piece, c ∈ cs := by
  fun_induction Text.splitFrom sep limit skip cs generalizing piece with
  | case1 => simp_all
  | case2 => grind
  | case3 => grind
  | case4 => grind
  | case5 => grind

theorem keysBelow?_eq_some {group n : String} {keys : List String} (h : keysBelow? group n = some keys) :
    ∃ rest, n.toList = (start ++ group ++ "__").toList ++ rest ∧
      keys = (Text.splitFrom ['_', '_'] none 0 rest).map String.ofList := by
  unfold keysBelow? at h
  dsimp only at h
  split at h
  · next hprefix =>
      obtain ⟨rest, hrest⟩ := List.isPrefixOf_iff_prefix.mp hprefix
      refine ⟨rest, hrest.symm, ?_⟩
      rw [← hrest, List.drop_left] at h
      exact (Option.some.inj h).symm
  · cases h

theorem keysBelow?_append (group rest : String) :
    keysBelow? group (start ++ group ++ "__" ++ rest) =
      some ((Text.splitFrom ['_', '_'] none 0 rest.toList).map String.ofList) := by
  unfold keysBelow?
  dsimp only
  rw [if_pos, String.toList_append (s := start ++ group ++ "__"), List.drop_left]
  rw [String.toList_append (s := start ++ group ++ "__")]
  exact List.isPrefixOf_iff_prefix.mpr (List.prefix_append _ _)

/-- A single key behind the name of a group is the rest of the name. -/
theorem eq_of_keysBelow?_eq_singleton {group n key : String} (h : keysBelow? group n = some [key]) :
    n = start ++ group ++ "__" ++ key := by
  obtain ⟨rest, hn, hkeys⟩ := keysBelow?_eq_some h
  obtain ⟨piece, hpiece, hkey⟩ := List.map_eq_singleton_iff.mp hkeys.symm
  obtain rfl := eq_of_splitFrom_eq_singleton hpiece
  subst hkey
  apply String.toList_inj.mp
  rw [hn]
  simp only [String.toList_append, String.toList_ofList]

theorem mem_of_keysBelow? {group n key : String} {keys : List String} (h : keysBelow? group n = some keys)
    (hkey : key ∈ keys) : ∀ c ∈ key.toList, c ∈ n.toList := by
  obtain ⟨rest, hn, rfl⟩ := keysBelow?_eq_some h
  obtain ⟨piece, hpiece, rfl⟩ := List.mem_map.mp hkey
  intro c hc
  rw [String.toList_ofList] at hc
  rw [hn]
  exact List.mem_append_right _ (mem_of_mem_splitFrom hpiece c hc)

/-- To put something below keys is to put something under the first of them, or nothing. -/
theorem insertBelow_cases (keys : List String) (v : Datum) (entries : Datum.Entries) :
    insertBelow keys v entries = entries ∨
      ∃ key rest x, keys = key :: rest ∧ insertBelow keys v entries = Datum.insert entries (.text key) x ∧
        (rest ≠ [] → ∃ inner, x = .map inner) := by
  unfold insertBelow
  split
  · exact .inl rfl
  · next key => exact .inr ⟨key, [], v, rfl, rfl, nofun⟩
  · next key rest hrest =>
      split
      · exact .inr ⟨key, rest, _, rfl, rfl, fun _ => ⟨_, rfl⟩⟩
      · exact .inl rfl
      · exact .inr ⟨key, rest, _, rfl, rfl, fun _ => ⟨_, rfl⟩⟩

/-- What is put below other keys than the name alone leaves the name as it is, or makes it a mapping. -/
theorem lookup_insertBelow {keys : List String} {name : String} (h : keys ≠ [name]) (v : Datum)
    (entries : Datum.Entries) :
    lookup (insertBelow keys v entries) name = lookup entries name ∨
      ∃ inner, lookup (insertBelow keys v entries) name = some (.map inner) := by
  rcases insertBelow_cases keys v entries with heq | ⟨key, rest, x, rfl, heq, hx⟩
  · exact .inl (by rw [heq])
  · rw [heq]
    by_cases hkey : key = name
    · subst hkey
      obtain ⟨inner, rfl⟩ := hx (by simpa using h)
      exact .inr ⟨inner, Datum.lookup_insert_self entries key _⟩
    · exact .inl (Datum.lookup_insert_of_ne (by simpa using hkey) entries _)

theorem exists_of_partsOf_append {env : Environment} {n text group : String} {lists : List String}
    {parts : Datum.Entries} (h : partsOf (env ++ [(n, text)]) group lists = .ok parts) :
    ∃ before, partsOf env group lists = .ok before ∧
      ((keysBelow? group n = none ∧ parts = before) ∨
        ∃ keys v, keysBelow? group n = some keys ∧ partValue lists keys text = .ok v ∧
          parts = insertBelow keys v before) := by
  unfold partsOf at h
  rw [List.foldlM_append] at h
  obtain ⟨before, hbefore, h⟩ := bind_eq_ok.mp h
  refine ⟨before, hbefore, ?_⟩
  obtain ⟨after, hafter, h⟩ := bind_eq_ok.mp h
  cases h
  dsimp only at hafter
  split at hafter
  · next hkeys =>
      cases hafter
      exact .inl ⟨hkeys, rfl⟩
  · next keys hkeys =>
      obtain ⟨v, hv, hafter⟩ := bind_eq_ok.mp hafter
      cases hafter
      exact .inr ⟨keys, v, hkeys, hv, rfl⟩

/-- What the variables below a group give for a part of it: a mapping where variables go further below it, or else the
value of its own variable, or nothing where there is no such variable. -/
inductive GivesPart (env : Environment) (own : String) (lists : List String) (name : String) : Option Datum → Prop
  | deeper (inner : Datum.Entries) : GivesPart env own lists name (some (.map inner))
  | own {text : String} {v : Datum} (hmem : (own, text) ∈ env) (hvalue : partValue lists [name] text = .ok v) :
      GivesPart env own lists name (some v)
  | missing (h : ∀ text, (own, text) ∉ env) : GivesPart env own lists name none

theorem GivesPart.append {env : Environment} {own name n : String} {lists : List String} {given : Option Datum}
    (h : GivesPart env own lists name given) (hn : n ≠ own) (text : String) :
    GivesPart (env ++ [(n, text)]) own lists name given := by
  cases h with
  | deeper inner => exact .deeper inner
  | own hmem hvalue => exact .own (List.mem_append_left _ hmem) hvalue
  | missing hnone =>
      refine .missing fun old hmem => ?_
      rcases List.mem_append.mp hmem with hmem | hmem
      · exact hnone old hmem
      · exact hn (Prod.mk.inj (List.mem_singleton.mp hmem)).1.symm

theorem givesPart_partsOf {env : Environment} {group name : String} {lists : List String} {parts : Datum.Entries}
    (hown : keysBelow? group (start ++ group ++ "__" ++ name) = some [name])
    (h : partsOf env group lists = .ok parts) :
    GivesPart env (start ++ group ++ "__" ++ name) lists name (lookup parts name) := by
  induction env using List.reverseRecOn generalizing parts with
  | nil =>
      cases h
      exact .missing nofun
  | append_singleton env x ih =>
      obtain ⟨n, text⟩ := x
      obtain ⟨before, hbefore, hstep⟩ := exists_of_partsOf_append h
      have hold := ih hbefore
      rcases hstep with ⟨hkeys, rfl⟩ | ⟨keys, v, hkeys, hv, rfl⟩
      · apply hold.append
        rintro rfl
        rw [hown] at hkeys
        cases hkeys
      · by_cases hsingle : keys = [name]
        · subst hsingle
          obtain rfl := eq_of_keysBelow?_eq_singleton hkeys
          have hlookup : lookup (insertBelow [name] v before) name = some v := Datum.lookup_insert_self before name v
          rw [hlookup]
          exact .own (by simp) hv
        · rcases lookup_insertBelow hsingle v before with hlookup | ⟨inner, hlookup⟩
          · rw [hlookup]
            apply hold.append
            rintro rfl
            rw [hown] at hkeys
            exact hsingle (Option.some.inj hkeys).symm
          · rw [hlookup]
            exact .deeper inner

/-- All keys are texts in lower case, and none stands twice. -/
structure Plain (entries : Datum.Entries) : Prop where
  distinct : Distinct entries
  lower : ∀ e ∈ entries, ∃ k, e.1 = .text k ∧ Text.lower k = k

theorem plain_partsOf {env env' : Environment} {group : String} {lists : List String} {parts : Datum.Entries}
    (hsub : ∀ v ∈ env', v ∈ env.lowered) (h : partsOf env' group lists = .ok parts) : Plain parts := by
  induction env' using List.reverseRecOn generalizing parts with
  | nil =>
      cases h
      exact ⟨List.nodup_nil, nofun⟩
  | append_singleton env' x ih =>
      obtain ⟨n, text⟩ := x
      obtain ⟨before, hbefore, hstep⟩ := exists_of_partsOf_append h
      have hold := ih (fun v hv => hsub v (List.mem_append_left _ hv)) hbefore
      rcases hstep with ⟨_, rfl⟩ | ⟨keys, v, hkeys, _, rfl⟩
      · exact hold
      · rcases insertBelow_cases keys v before with heq | ⟨key, rest, x, rfl, heq, _⟩
        · rwa [heq]
        · rw [heq]
          refine ⟨Datum.distinct_insert hold.distinct _ _, fun e he => ?_⟩
          rcases Datum.mem_insert he with hmem | ⟨_, hkey | ⟨v, hmem⟩⟩
          · exact hold.lower e hmem
          · have hmem : (n, text) ∈ env.lowered := hsub _ (by simp)
            exact ⟨key, hkey, lower_eq_self hmem (mem_of_keysBelow? hkeys List.mem_cons_self)⟩
          · exact hold.lower (e.1, v) hmem

/-! ### Names in any case -/

/-- Whether a key is a text that is the name in lower case. -/
def spells (name : String) (key : Datum) : Bool :=
  match key with
  | .text s => Text.lower s == name
  | _ => false

theorem spells_text {name s : String} : spells name (.text s) = true ↔ Text.lower s = name := beq_iff_eq

/-- The entries under a name in any case. -/
def spelled (entries : Datum.Entries) (name : String) : Datum.Entries := entries.filter fun e => spells name e.1

theorem spelled_cons_of_pos {name : String} {key : Datum} (h : spells name key = true) (v : Datum)
    (rest : Datum.Entries) : spelled ((key, v) :: rest) name = (key, v) :: spelled rest name := by
  simp [spelled, h]

theorem spelled_cons_of_neg {name : String} {key : Datum} (h : spells name key = false) (v : Datum)
    (rest : Datum.Entries) : spelled ((key, v) :: rest) name = spelled rest name := by
  simp [spelled, h]

theorem spelled_append_of_pos {name : String} {key : Datum} (h : spells name key = true) (entries : Datum.Entries)
    (v : Datum) : spelled (entries ++ [(key, v)]) name = spelled entries name ++ [(key, v)] := by
  simp [spelled, h]

theorem spelled_append_of_neg {name : String} {key : Datum} (h : spells name key = false) (entries : Datum.Entries)
    (v : Datum) : spelled (entries ++ [(key, v)]) name = spelled entries name := by
  simp [spelled, h]

/-- The value under a name in any case, of several the last. -/
def lastSpelled (entries : Datum.Entries) (name : String) : Option Datum := (spelled entries name).getLast?.map (·.2)

/-- A value put in place of others under its key is the last of all, or the last is another one whatever it is. -/
theorem last_insert (entries : Datum.Entries) (key : Datum) :
    (∀ v, (Datum.insert entries key v).getLast?.map (·.2) = some v) ∨
      ∀ v, (Datum.insert entries key v).getLast?.map (·.2) = entries.getLast?.map (·.2) := by
  unfold Datum.insert
  split
  · simp only [List.getLast?_map]
    cases entries.getLast? with
    | none => exact .inr fun _ => rfl
    | some e =>
        by_cases hkey : Datum.sameKey e.1 key
        · exact .inl fun v => by simp [hkey]
        · exact .inr fun v => by simp [hkey]
  · exact .inl fun v => by simp

theorem spelled_insert_of_ne {k name : String} (h : Text.lower k ≠ name) (entries : Datum.Entries) (v : Datum) :
    spelled (Datum.insert entries (.text k) v) name = spelled entries name := by
  have hspells : spells name (.text k) = false := by
    rw [Bool.eq_false_iff]
    exact fun hk => h (spells_text.mp hk)
  unfold Datum.insert spelled
  split
  · clear * - hspells
    induction entries with
    | nil => rfl
    | cons e rest ih =>
        rw [List.map_cons, List.filter_cons, List.filter_cons, ih]
        by_cases hkey : e.1 = .text k
        · simp [hkey, hspells, Datum.sameKey_text_iff.mpr]
        · simp [Datum.sameKey_eq_false hkey]
  · exact spelled_append_of_neg hspells entries v

theorem spelled_insert_self {name : String} (h : Text.lower name = name) (entries : Datum.Entries) (v : Datum) :
    spelled (Datum.insert entries (.text name) v) name = Datum.insert (spelled entries name) (.text name) v := by
  have hspells : spells name (.text name) = true := spells_text.mpr h
  have hany : (spelled entries name).any (fun e => Datum.sameKey e.1 (.text name)) =
      entries.any fun e => Datum.sameKey e.1 (.text name) := by
    rw [spelled, List.any_filter]
    refine congrArg entries.any (funext fun e => ?_)
    by_cases hkey : e.1 = .text name
    · rw [hkey, hspells, Bool.true_and]
    · rw [Datum.sameKey_eq_false hkey, Bool.and_false]
  unfold Datum.insert
  rw [hany]
  split
  · have hkeys : ∀ e : Datum × Datum, (if Datum.sameKey e.1 (.text name) then (e.1, v) else (e.1, e.2)).1 = e.1 := by
      intro e
      split <;> rfl
    unfold spelled
    rw [List.filter_map]
    refine congrArg (List.map _) (congrArg (List.filter · entries) (funext fun e => ?_))
    exact congrArg (spells name) (hkeys e)
  · exact spelled_append_of_pos hspells entries v

/-- With its names in lower case a mapping has under a name what stood last under it in any case. -/
theorem lookup_withNames {name : String} (h : Text.lower name = name) (entries : Datum.Entries) :
    lookup (withNames [name] entries) name = lastSpelled entries name := by
  induction entries using List.reverseRecOn with
  | nil => rfl
  | append_singleton entries e ih =>
      obtain ⟨key, v⟩ := e
      unfold withNames at ih ⊢
      rw [List.foldl_append, List.foldl_cons, List.foldl_nil]
      cases key with
      | text s =>
          by_cases hs : Text.lower s = name
          · simp only [hs, List.contains_cons, beq_self_eq_true, Bool.true_or, if_true]
            rw [lastSpelled, spelled_append_of_pos (spells_text.mpr hs), List.getLast?_concat, Datum.lookup_insert_self]
            rfl
          · have hspells : spells name (.text s) = false := beq_eq_false_iff_ne.mpr hs
            have hne : s ≠ name := by
              rintro rfl
              exact hs h
            have hcontains : [name].contains (Text.lower s) = false := by simpa using hs
            simp only [hcontains, Bool.false_eq_true, if_false]
            rw [lastSpelled, spelled_append_of_neg hspells, Datum.lookup_insert_of_ne (by simpa using hne)]
            exact ih
      | _ =>
          rw [lastSpelled, spelled_append_of_neg rfl]
          refine (Datum.lookup_insert_of_ne ?_ _ v).trans ih
          nofun

/-- Where all keys are in lower case a name is found in any case where it is found. -/
theorem Plain.spelled_eq_nil {parts : Datum.Entries} (hparts : Plain parts) {name : String}
    (h : lookup parts name = none) : spelled parts name = [] := by
  refine List.filter_eq_nil_iff.mpr fun e he hspells => ?_
  obtain ⟨k, hkey, hlower⟩ := hparts.lower e he
  rw [hkey, spells_text, hlower] at hspells
  subst hspells
  exact Datum.lookup_eq_none_iff.mp h (Datum.mem_names.mpr ⟨e.2, by rwa [← hkey]⟩)

theorem Plain.tail {e : Datum × Datum} {rest : Datum.Entries} (h : Plain (e :: rest)) : Plain rest :=
  ⟨h.distinct.tail, fun e' he' => h.lower e' (List.mem_cons_of_mem _ he')⟩

theorem Plain.lastSpelled_eq {parts : Datum.Entries} (hparts : Plain parts) (name : String) :
    lastSpelled parts name = lookup parts name := by
  induction parts with
  | nil => rfl
  | cons e rest ih =>
      obtain ⟨key, v⟩ := e
      obtain ⟨k, rfl, hlower⟩ : ∃ k, key = .text k ∧ Text.lower k = k := hparts.lower _ List.mem_cons_self
      by_cases hk : k = name
      · subst hk
        have hrest := hparts.tail.spelled_eq_nil hparts.distinct.lookup_tail
        rw [Datum.lookup_cons_self, lastSpelled, spelled_cons_of_pos (spells_text.mpr hlower), hrest]
        rfl
      · have hspells : spells name (.text k) = false := by
          rw [spells, hlower]
          exact beq_eq_false_iff_ne.mpr hk
        rw [Datum.lookup_cons_of_ne (by simpa using hk), ← ih hparts.tail, lastSpelled, spelled_cons_of_neg hspells]
        rfl

open Settings (Alike)

/-- Of what is laid over a mapping only the part under a name itself changes what stands there under the name in any
case. -/
theorem spelled_overlay {parts : Datum.Entries} (hparts : Plain parts) {name : String} (hname : Text.lower name = name)
    (base : Datum.Entries) :
    (lookup parts name = none ∧ spelled (overlay parts base) name = spelled base name) ∨
      ∃ x, Alike (some x) (lookup parts name) ∧
        spelled (overlay parts base) name = Datum.insert (spelled base name) (.text name) x := by
  induction parts generalizing base with
  | nil => exact .inl ⟨rfl, rfl⟩
  | cons e rest ih =>
      obtain ⟨key, v⟩ := e
      obtain ⟨k, rfl, hlower⟩ : ∃ k, key = .text k ∧ Text.lower k = k := hparts.lower _ List.mem_cons_self
      rw [overlay]
      generalize hx : overlayValue v _ = x
      by_cases hk : k = name
      · subst hk
        have hrest := hparts.distinct.lookup_tail
        rw [Datum.lookup_cons_self]
        refine .inr ⟨x, ?_, ?_⟩
        · rw [← hx]
          rcases Settings.overlayValue_cases v _ with heq | ⟨inner, inner', hv, heq⟩
          · exact .inl (congrArg some heq)
          · exact .inr ⟨inner', inner, congrArg some heq, congrArg some hv⟩
        · rcases ih hparts.tail (Datum.insert base (.text k) x) with ⟨_, hspelled⟩ | ⟨_, halike, _⟩
          · rw [hspelled, spelled_insert_self hname]
          · rw [hrest] at halike
            rcases halike with hnone | ⟨_, _, _, hnone⟩
            · cases hnone
            · cases hnone
      · have hother : Text.lower k ≠ name := by rwa [hlower]
        rw [Datum.lookup_cons_of_ne (by simpa using hk)]
        have hrest := ih hparts.tail (Datum.insert base (.text k) x)
        rwa [spelled_insert_of_ne hother] at hrest

end WorkflowForge.Environment
