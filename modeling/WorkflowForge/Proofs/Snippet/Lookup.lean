import WorkflowForge.Generation.Artifact
import WorkflowForge.Migration.Model
import WorkflowForge.Proofs.Text.LowerCase

/-!
Looking snippets up by the type of an element. A key is made from the type in lower case, the resource types it is
compared with are lowered as a whole; the two agree unless the type begins with a capital sigma, and for the snippets
nested below the key also unless it ends with one.
-/

namespace WorkflowForge

namespace Snippet

open Text

/-- The kinds of elements that keys are made for. -/
def elementKinds : List String :=
  ArtifactKind.all.map (·.elementKind) ++
    ["parameter", "channel.trigger", "channel.receive", "channel.send", "variable", "message", "activitycontainer",
      "activity"]

/-- The resource type of a kind of elements and a type, as they are written. -/
def writtenKey (kind tag : String) : String := s!"{standardFamily}.{kind}.{tag}"

/-- Registered under a resource type, in any case. -/
def isUnder (type : String) (s : Snippet) : Bool := lower s.resourceType == lower type

/-- Registered below a resource type, in any case. -/
def isBelow (type : String) (s : Snippet) : Bool :=
  (lower (type ++ ".")).toList.isPrefixOf (lower s.resourceType).toList

/-! ## Keys in lower case -/

/-- What the keys of the types of one kind begin with. -/
def stem (kind : String) : List Char := standardFamily.toList ++ '.' :: (kind.toList ++ ['.'])

theorem toList_writtenKey (kind tag : String) : (writtenKey kind tag).toList = stem kind ++ tag.toList := by
  simp [writtenKey, stem, ToString.toString]

/-- A stem is in lower case, and going back from its end a cased letter is met. -/
theorem stem_lowered {kind : String} (hkind : kind ∈ elementKinds) :
    (∀ c ∈ stem kind, isLowered c) ∧ meetsCased (stem kind).reverse := by
  have hall : (elementKinds.all fun kind => (stem kind).all isLowered && meetsCased (stem kind).reverse) = true := by
    decide +kernel
  have h := List.all_eq_true.mp hall kind hkind
  rwa [Bool.and_eq_true, List.all_eq_true] at h

theorem isCaseless_dot : isCaseless '.' := by decide

set_option maxRecDepth 2000 in
theorem meetsCased_letter : meetsCased "x".toList := by decide

theorem lowerChars_stem_append {kind : String} (hkind : kind ∈ elementKinds) (cs : List Char) :
    lowerChars (stem kind ++ cs) = stem kind ++ lowerAfter (stem kind).reverse cs := by
  rw [lowerChars, lowerAfter_append, lowerBetween_eq_self (stem_lowered hkind).1, List.append_nil]

theorem lower_writtenKey {kind : String} (hkind : kind ∈ elementKinds) (tag : String) :
    (lower (writtenKey kind tag)).toList = stem kind ++ lowerBetween true false tag.toList := by
  rw [lower, String.toList_ofList, toList_writtenKey, lowerChars_stem_append hkind, lowerAfter_eq_lowerBetween,
    (stem_lowered hkind).2]

theorem lower_writtenKey_append {kind : String} (hkind : kind ∈ elementKinds) (tag rest : String) :
    (lower (writtenKey kind tag ++ "." ++ rest)).toList =
      stem kind ++ lowerBetween true (meetsCased rest.toList) tag.toList ++
        '.' :: lowerAfter ('.' :: (tag.toList.reverse ++ (stem kind).reverse)) rest.toList := by
  have hdot : lowerChar '.' = ['.'] := by decide
  have hlist : (writtenKey kind tag ++ "." ++ rest).toList = stem kind ++ (tag.toList ++ '.' :: rest.toList) := by
    simp [toList_writtenKey]
  rw [lower, String.toList_ofList, hlist, lowerChars_stem_append hkind, lowerAfter_append, (stem_lowered hkind).2,
    meetsCased_cons, if_pos isCaseless_dot, lowerAfter, if_neg (by decide), hdot, List.append_assoc]
  rfl

theorem lower_writtenKey_dot {kind : String} (hkind : kind ∈ elementKinds) (tag : String) :
    (lower (writtenKey kind tag ++ ".")).toList = stem kind ++ lowerBetween true false tag.toList ++ ['.'] := by
  simpa [lowerAfter] using lower_writtenKey_append hkind tag ""

theorem key_eq_writtenKey (kind : String) {tag : String} (htag : tag ≠ "") :
    key kind (some tag) = writtenKey kind (lower tag) := by
  simp [key, keyIn, writtenKey, htag]

theorem lower_key {kind tag : String} (hkind : kind ∈ elementKinds) (htag : tag ≠ "") :
    (lower (key kind (some tag))).toList = stem kind ++ lowerBetween false false tag.toList := by
  rw [key_eq_writtenKey kind htag, lower_writtenKey hkind, lowerBetween_eq_self fun _ => isLowered_of_mem_lower,
    toList_lower]

theorem lower_familyPrefix {kind tag : String} (hkind : kind ∈ elementKinds) (htag : tag ≠ "") :
    (lower (familyPrefix (key kind (some tag)))).toList =
      stem kind ++ lowerBetween false false tag.toList ++ ['.'] := by
  have hlowered : ∀ c ∈ (familyPrefix (key kind (some tag))).toList, isLowered c := by
    intro c hc
    rw [familyPrefix, String.toList_append, List.mem_append] at hc
    obtain hc | hc := hc
    · exact isLowered_of_mem_lower hc
    · obtain rfl : c = '.' := by simpa using hc
      decide
  rw [lower, String.toList_ofList, lowerChars_eq_self hlowered, familyPrefix, String.toList_append,
    lower_key hkind htag]
  rfl

theorem key_agrees_iff {kind tag : String} (hkind : kind ∈ elementKinds) (htag : tag ≠ "") :
    lower (key kind (some tag)) = lower (writtenKey kind tag) ↔ ¬ opensWithSigma tag.toList := by
  rw [← String.toList_inj, lower_key hkind htag, lower_writtenKey hkind, List.append_cancel_left_eq, eq_comm,
    lowerBetween_before_iff, Bool.not_eq_true]

theorem familyPrefix_agrees_iff {kind tag : String} (hkind : kind ∈ elementKinds) (htag : tag ≠ "") :
    lower (familyPrefix (key kind (some tag))) = lower (writtenKey kind tag ++ ".") ↔ ¬ opensWithSigma tag.toList := by
  rw [← String.toList_inj, lower_familyPrefix hkind htag, lower_writtenKey_dot hkind, List.append_cancel_right_eq,
    List.append_cancel_left_eq, eq_comm, lowerBetween_before_iff, Bool.not_eq_true]

/-- A resource type that continues a written one begins with the key's own beginning exactly if the type of the element
is lowered alike in both. -/
theorem familyPrefix_isPrefix_iff {kind tag : String} (hkind : kind ∈ elementKinds) (htag : tag ≠ "") (rest : String) :
    (lower (familyPrefix (key kind (some tag)))).toList <+: (lower (writtenKey kind tag ++ "." ++ rest)).toList ↔
      lowerBetween true (meetsCased rest.toList) tag.toList = lowerBetween false false tag.toList := by
  rw [lower_familyPrefix hkind htag, lower_writtenKey_append hkind, List.append_assoc, List.append_assoc,
    List.prefix_append_right_inj]
  constructor
  · rintro ⟨cs, hcs⟩
    rw [List.append_assoc] at hcs
    exact (List.append_inj_left hcs (length_lowerBetween ..)).symm
  · intro heq
    rw [heq, List.prefix_append_right_inj]
    exact List.prefix_append ['.'] _

theorem nested_iff {kind tag : String} (hkind : kind ∈ elementKinds) (htag : tag ≠ "") :
    (∀ rest, (lower (familyPrefix (key kind (some tag)))).toList <+:
      (lower (writtenKey kind tag ++ "." ++ rest)).toList) ↔
      ¬ opensWithSigma tag.toList ∧ ¬ closesWithSigma true tag.toList := by
  simp only [familyPrefix_isPrefix_iff hkind htag, Bool.not_eq_true]
  rw [← lowerBetween_before_iff, ← lowerBetween_after_iff]
  constructor
  · intro hall
    have hend : lowerBetween true false tag.toList = lowerBetween false false tag.toList := hall ""
    have hletter : lowerBetween true true tag.toList = lowerBetween false false tag.toList := by
      simpa only [meetsCased_letter] using hall "x"
    exact ⟨hend, hletter.trans hend.symm⟩
  · rintro ⟨hopens, hcloses⟩ rest
    cases meetsCased rest.toList with
    | true => exact hcloses.trans hopens
    | false => exact hopens

theorem not_isUnder_of_isPrefix {kind tag : String} (hkind : kind ∈ elementKinds) (htag : tag ≠ "") {s : Snippet}
    (hs : (lower (familyPrefix (key kind (some tag)))).toList <+: (lower s.resourceType).toList) :
    ¬ isUnder (writtenKey kind tag) s := by
  intro hunder
  have hlength := hs.length_le
  rw [eq_of_beq hunder, lower_familyPrefix hkind htag, lower_writtenKey hkind, List.length_append, List.length_append,
    List.length_append, length_lowerBetween true false false false] at hlength
  exact absurd hlength (Nat.not_succ_le_self _)

theorem sigma_of_opensWithSigma {cs : List Char} (h : opensWithSigma cs) : 'ς' ∈ lowerBetween true false cs := by
  induction cs with
  | nil => simp [opensWithSigma] at h
  | cons c rest ih =>
    rw [opensWithSigma] at h
    rw [lowerBetween, List.mem_append]
    split at h
    case isTrue hcaseless =>
      rw [if_pos hcaseless]
      exact .inr (ih h)
    case isFalse hcaseless =>
      obtain ⟨hsigma, meetsCased_letter⟩ := Bool.and_eq_true_iff.mp h
      rw [meetsCased_eq_meetsCasedOr] at meetsCased_letter
      rw [if_pos hsigma, meetsCased_letter]
      exact .inl List.mem_cons_self

theorem lower_placeholderKey_ne {kind tag : String} (hkind : kind ∈ elementKinds) (h : opensWithSigma tag.toList) :
    lower (placeholderKey kind) ≠ lower (writtenKey kind tag) := by
  intro heq
  have hplaceholder : placeholderKey kind = key kind (some "placeholder") := rfl
  have hplain : 'ς' ∉ lowerBetween false false "placeholder".toList := by decide
  rw [← String.toList_inj, hplaceholder, lower_key hkind (by decide), lower_writtenKey hkind,
    List.append_cancel_left_eq] at heq
  exact hplain (heq ▸ sigma_of_opensWithSigma h)

end Snippet

namespace ProcessManager

open Snippet Text

/-- The manager with one snippet, registered under a resource type. -/
def withOnly (type : String) : ProcessManager := { (default : ProcessManager) with snippets := [⟨type, "", none⟩] }

theorem resolve_eq (p : ProcessManager) (kind : String) {tag : String} (htag : tag ≠ "") :
    p.resolve kind (some tag) =
      (p.snippets.find? (isUnder (Snippet.key kind (some tag)))).or
        (p.snippets.find? (isUnder (placeholderKey kind))) := by
  simp only [resolve, beq_iff_eq, if_neg htag]
  rfl

theorem resolve_of_opensWithSigma {kind tag : String} (hkind : kind ∈ elementKinds) (htag : tag ≠ "")
    (hopens : opensWithSigma tag.toList) : (withOnly (writtenKey kind tag)).resolve kind (some tag) = none := by
  have hkey : lower (Snippet.key kind (some tag)) ≠ lower (writtenKey kind tag) :=
    fun heq => (key_agrees_iff hkind htag).mp heq hopens
  simp [resolve_eq _ _ htag, withOnly, isUnder, hkey.symm, (lower_placeholderKey_ne hkind hopens).symm]

theorem resolve_agrees_iff {kind tag : String} (hkind : kind ∈ elementKinds) (htag : tag ≠ "") :
    (∀ p : ProcessManager, p.resolve kind (some tag) =
        (p.snippets.find? (isUnder (writtenKey kind tag))).or (p.snippets.find? (isUnder (placeholderKey kind)))) ↔
      ¬ opensWithSigma tag.toList := by
  constructor
  · intro hall hopens
    have hone := hall (withOnly (writtenKey kind tag))
    rw [resolve_of_opensWithSigma hkind htag hopens] at hone
    simp [withOnly, isUnder] at hone
  · intro hopens p
    rw [resolve_eq p kind htag]
    unfold isUnder
    rw [(key_agrees_iff hkind htag).mpr hopens]

theorem mem_snippetsBelow_iff (p : ProcessManager) (beginning : String) (s : Snippet) :
    s ∈ p.snippetsBelow beginning ↔ s ∈ p.snippets ∧ (lower beginning).toList <+: (lower s.resourceType).toList := by
  simp [snippetsBelow]

theorem snippetsBelow_agrees_iff {kind tag : String} (hkind : kind ∈ elementKinds) (htag : tag ≠ "") :
    (∀ p : ProcessManager, p.snippetsBelow (familyPrefix (Snippet.key kind (some tag))) =
        p.snippets.filter (isBelow (writtenKey kind tag))) ↔
      ¬ opensWithSigma tag.toList := by
  constructor
  · intro hall hopens
    -- A snippet registered under the written key and a dot is left out.
    have hmem : ⟨writtenKey kind tag ++ "." ++ "", "", none⟩ ∈
        (withOnly (writtenKey kind tag ++ "." ++ "")).snippets.filter (isBelow (writtenKey kind tag)) := by
      simp [withOnly, isBelow]
    rw [← hall] at hmem
    have hsame := (familyPrefix_isPrefix_iff hkind htag "").mp ((mem_snippetsBelow_iff _ _ _).mp hmem).2
    exact absurd hopens (Bool.not_eq_true _ ▸ (lowerBetween_before_iff _).mp hsame)
  · intro hopens p
    unfold snippetsBelow isBelow
    rw [(familyPrefix_agrees_iff hkind htag).mpr hopens]

/-- An element's type in any case finds its snippet, or else the placeholder of its kind, and the snippets registered
below it in order, exactly unless the type begins with a capital sigma that no letter follows. All snippets registered
below the type as it is written are among them exactly unless it also ends with a capital sigma; the one registered
under it never is. -/
theorem lookup_ignores_case {kind tag : String} (hkind : kind ∈ elementKinds) (htag : tag ≠ "") :
    ((∀ p : ProcessManager, p.resolve kind (some tag) =
        (p.snippets.find? (isUnder (writtenKey kind tag))).or (p.snippets.find? (isUnder (placeholderKey kind)))) ↔
      ¬ opensWithSigma tag.toList) ∧
    ((∀ p : ProcessManager, p.snippetsBelow (familyPrefix (Snippet.key kind (some tag))) =
        p.snippets.filter (isBelow (writtenKey kind tag))) ↔
      ¬ opensWithSigma tag.toList) ∧
    ((∀ p : ProcessManager, ∀ s ∈ p.snippets, (∃ rest, s.resourceType = writtenKey kind tag ++ "." ++ rest) →
        s ∈ p.snippetsBelow (familyPrefix (Snippet.key kind (some tag)))) ↔
      ¬ opensWithSigma tag.toList ∧ ¬ closesWithSigma true tag.toList) ∧
    ∀ p : ProcessManager, ∀ s ∈ p.snippetsBelow (familyPrefix (Snippet.key kind (some tag))),
      ¬ isUnder (writtenKey kind tag) s := by
  refine ⟨resolve_agrees_iff hkind htag, snippetsBelow_agrees_iff hkind htag, ?_, ?_⟩
  · rw [← nested_iff hkind htag]
    constructor
    · intro hall rest
      have hmem := hall (withOnly (writtenKey kind tag ++ "." ++ rest)) _ List.mem_cons_self ⟨rest, rfl⟩
      exact ((mem_snippetsBelow_iff _ _ _).mp hmem).2
    · rintro hnested p s hs ⟨rest, hrest⟩
      exact (mem_snippetsBelow_iff _ _ _).mpr ⟨hs, hrest ▸ hnested rest⟩
  · intro p s hs
    exact not_isUnder_of_isPrefix hkind htag ((mem_snippetsBelow_iff _ _ _).mp hs).2

/-- A type that ends with a capital sigma is found in any case, but not all that is registered below it. -/
theorem lookup_ignores_case_odysseus :
    "activitycontainer" ∈ elementKinds ∧ "ΟΔΥΣΣΕΥΣ" ≠ "" ∧
    (∀ p : ProcessManager, p.resolve "activitycontainer" (some "ΟΔΥΣΣΕΥΣ") =
      (p.snippets.find? (isUnder (writtenKey "activitycontainer" "ΟΔΥΣΣΕΥΣ"))).or
        (p.snippets.find? (isUnder (placeholderKey "activitycontainer")))) ∧
    ¬ ∀ p : ProcessManager, ∀ s ∈ p.snippets,
      (∃ rest, s.resourceType = writtenKey "activitycontainer" "ΟΔΥΣΣΕΥΣ" ++ "." ++ rest) →
        s ∈ p.snippetsBelow (familyPrefix (Snippet.key "activitycontainer" (some "ΟΔΥΣΣΕΥΣ"))) := by
  have hkind : "activitycontainer" ∈ elementKinds := by decide
  have hlookup := @lookup_ignores_case "activitycontainer" "ΟΔΥΣΣΕΥΣ" hkind (by decide)
  refine ⟨hkind, by decide, hlookup.1.mpr (by decide +kernel), fun hall => ?_⟩
  exact absurd (hlookup.2.2.1.mp hall).2 (by decide +kernel)

/-- The snippet of the type `Σ` is not found, and neither is what is registered below `ΑΣ`. -/
theorem sigma_types_are_not_found :
    (withOnly (writtenKey "activity" "Σ")).resolve "activity" (some "Σ") = none ∧
    (withOnly (writtenKey "activitycontainer" "ΑΣ" ++ "." ++ "x")).snippetsBelow
      (familyPrefix (Snippet.key "activitycontainer" (some "ΑΣ"))) = [] := by
  constructor
  · exact resolve_of_opensWithSigma (by decide) (by decide) (by decide +kernel)
  · refine List.eq_nil_iff_forall_not_mem.mpr fun s hs => ?_
    obtain ⟨honly, hprefix⟩ := (mem_snippetsBelow_iff _ _ s).mp hs
    rw [List.mem_singleton.mp honly, familyPrefix_isPrefix_iff (by decide) (by decide)] at hprefix
    exact absurd hprefix (by decide +kernel)

end ProcessManager

end WorkflowForge
