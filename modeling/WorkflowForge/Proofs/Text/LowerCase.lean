import WorkflowForge.Text.Casing

/-!
Lower case of a text as part of a longer one. What stands around a text decides only its capital sigmas, and of the
surroundings only this counts: whether going back, or going on, the first character not passed over has a case. So a
text is lowered alike alone and inside a longer one unless a capital sigma stands at its beginning or at its end.
-/

namespace WorkflowForge.Text

/-! ## Characters -/

/-- A character that is its own lower case. -/
def isLowered (c : Char) : Bool := lowerChar c == [c] && c != 'Σ'

/-- Whether no image of the first run is mapped by the second one. -/
def passesBy (r q : Nat × Nat × Nat × Nat) : Bool :=
  Nat.blt (r.2.2.2 + (r.2.1 - r.1)) q.1 || Nat.blt q.2.1 r.2.2.2 ||
    (Nat.beq q.2.2.1 2 && (Nat.beq r.2.2.1 2 || Nat.beq r.1 r.2.1) && Nat.beq ((r.2.2.2 + q.1) % 2) 1)

/-- The table maps nothing that it maps to. -/
theorem passesBy_table {r : Nat × Nat × Nat × Nat} (hr : r ∈ lowerRuns) :
    (∀ q ∈ lowerRuns, passesBy r q) ∧ ∀ e ∈ lowerExpansions, passesBy r (e.1, e.1, 1, e.1) := by
  -- Runs are compared as a whole: going through the characters of the table would take the kernel a minute.
  have hall : (lowerRuns.all fun r =>
      lowerRuns.all (passesBy r) && lowerExpansions.all fun e => passesBy r (e.1, e.1, 1, e.1)) = true := by
    decide +kernel
  have h := List.all_eq_true.mp hall r hr
  rwa [Bool.and_eq_true, List.all_eq_true, List.all_eq_true] at h

theorem not_mapped_of_passesBy {first last step image first' last' step' image' n : Nat}
    (hpass : passesBy (first, last, step, image) (first', last', step', image'))
    (hlast : n ≤ last) (hmod : (n - first) % step = 0) :
    ¬ ((first' ≤ image + (n - first) ∧ image + (n - first) ≤ last') ∧ (image + (n - first) - first') % step' = 0) := by
  simp only [passesBy, Nat.blt_eq, Nat.beq_eq, Bool.or_eq_true, Bool.and_eq_true] at hpass
  obtain (hbehind | hbefore) | ⟨⟨rfl, rfl | rfl⟩, hparity⟩ := hpass <;> omega

theorem shifted?_eq_some {n m : Nat} (h : shifted? lowerRuns n = some m) :
    ∃ first last step image, (first, last, step, image) ∈ lowerRuns ∧ n ≤ last ∧ (n - first) % step = 0 ∧
      m = image + (n - first) := by
  obtain ⟨⟨first, last, step, image⟩, hfind, rfl⟩ := Option.map_eq_some_iff.mp h
  have hhit := List.find?_some hfind
  simp only [Bool.and_eq_true, decide_eq_true_eq, beq_iff_eq] at hhit
  exact ⟨first, last, step, image, List.mem_of_find?_eq_some hfind, hhit.1.2, hhit.2, rfl⟩

theorem shifted?_shifted {n m : Nat} (h : shifted? lowerRuns n = some m) : shifted? lowerRuns m = none := by
  obtain ⟨first, last, step, image, hmem, hlast, hmod, rfl⟩ := shifted?_eq_some h
  refine Option.map_eq_none_iff.mpr (List.find?_eq_none.mpr ?_)
  rintro ⟨first', last', step', image'⟩ hmem' hhit
  simp only [Bool.and_eq_true, decide_eq_true_eq, beq_iff_eq] at hhit
  exact not_mapped_of_passesBy ((passesBy_table hmem).1 _ hmem') hlast hmod hhit

theorem lookup_shifted {n m : Nat} (h : shifted? lowerRuns n = some m) : lowerExpansions.lookup m = none := by
  obtain ⟨first, last, step, image, hmem, hlast, hmod, rfl⟩ := shifted?_eq_some h
  refine List.lookup_eq_none_iff.mpr fun e he => ?_
  have hmiss := not_mapped_of_passesBy ((passesBy_table hmem).2 e he) hlast hmod
  simp only [bne_iff_ne]
  omega

theorem isLowered_of_expansion : ∀ e ∈ lowerExpansions, ∀ n ∈ e.2, isLowered (Char.ofNat n) := by
  decide

theorem isLowered_ascii : ∀ n < 0x80, isLowered (Char.ofNat n).toLower := by
  decide

theorem isLowered_ascii_of_not_capital : ∀ n < 0x80, ¬ (0x41 ≤ n ∧ n ≤ 0x5a) → isLowered (Char.ofNat n) := by
  decide

theorem isLowered_of_unmapped {c : Char} (hlookup : lowerExpansions.lookup c.toNat = none)
    (hshift : shifted? lowerRuns c.toNat = none) : isLowered c := by
  by_cases hsmall : c.toNat < 0x80
  · have hcapitals : (0x41, 0x5a, 1, 0x61) ∈ lowerRuns := List.mem_cons_self
    have hmiss := List.find?_eq_none.mp (Option.map_eq_none_iff.mp hshift) _ hcapitals
    rw [← Char.ofNat_toNat c]
    refine isLowered_ascii_of_not_capital _ hsmall fun hcapital => hmiss ?_
    simp [hcapital, Nat.mod_one]
  · have hsigma : c ≠ 'Σ' := by
      rintro rfl
      exact absurd hshift (by decide)
    simp [isLowered, lowerChar, mapChar, hsmall, hlookup, hshift, hsigma]

theorem isLowered_of_shifted {n m : Nat} (h : shifted? lowerRuns n = some m) : isLowered (Char.ofNat m) := by
  by_cases hvalid : m.isValidChar
  · have hm : (Char.ofNat m).toNat = m := by
      rw [Char.ofNat, dif_pos hvalid]
      rfl
    exact isLowered_of_unmapped (hm.symm ▸ lookup_shifted h) (hm.symm ▸ shifted?_shifted h)
  · have hzero : Char.ofNat m = '\x00' := by
      rw [Char.ofNat, dif_neg hvalid]
      rfl
    rw [hzero]
    decide

/-- Lowering a character a second time changes nothing. -/
theorem isLowered_of_mem_lowerChar {c d : Char} (hd : d ∈ lowerChar c) : isLowered d := by
  unfold lowerChar at hd
  split at hd
  case isTrue hsmall =>
    rw [List.mem_singleton.mp hd, ← Char.ofNat_toNat c]
    exact isLowered_ascii _ hsmall
  case isFalse hbig =>
    unfold mapChar at hd
    cases hlookup : lowerExpansions.lookup c.toNat with
    | some ns =>
      rw [hlookup] at hd
      obtain ⟨n, hn, rfl⟩ := List.mem_map.mp hd
      obtain ⟨_, _, heq, -⟩ := List.lookup_eq_some_iff.mp hlookup
      exact isLowered_of_expansion (c.toNat, ns) (by rw [heq]; simp) n hn
    | none =>
      rw [hlookup] at hd
      cases hshift : shifted? lowerRuns c.toNat with
      | some n =>
        rw [hshift] at hd
        exact List.mem_singleton.mp hd ▸ isLowered_of_shifted hshift
      | none =>
        rw [hshift] at hd
        exact List.mem_singleton.mp hd ▸ isLowered_of_unmapped hlookup hshift

/-! ## Surroundings -/

/-- Whether the first character not passed over has a case, `after` telling it of what follows. -/
def meetsCasedOr (after : Bool) : List Char → Bool
  | [] => after
  | c :: rest => if isCaseless c then meetsCasedOr after rest else isCased c

@[simp] theorem meetsCased_nil : meetsCased [] = false := rfl

theorem meetsCased_cons (c : Char) (cs : List Char) :
    meetsCased (c :: cs) = if isCaseless c then meetsCased cs else isCased c := by
  unfold meetsCased
  by_cases hc : isCaseless c <;> simp [hc]

theorem meetsCased_append (xs ys : List Char) : meetsCased (xs ++ ys) = meetsCasedOr (meetsCased ys) xs := by
  induction xs with
  | nil => rfl
  | cons x xs ih => rw [List.cons_append, meetsCased_cons, meetsCasedOr, ih]

theorem meetsCased_eq_meetsCasedOr (xs : List Char) : meetsCased xs = meetsCasedOr false xs := by
  simpa using meetsCased_append xs []

/-- Lower case of a part of a text: `before` and `after` tell whether a cased letter is met going back from it and
going on behind it. -/
def lowerBetween (before after : Bool) : List Char → List Char
  | [] => []
  | c :: rest =>
    (if c == 'Σ' then [if before && !meetsCasedOr after rest then 'ς' else 'σ'] else lowerChar c) ++
      lowerBetween (if isCaseless c then before else isCased c) after rest

theorem lowerAfter_append (before xs ys : List Char) :
    lowerAfter before (xs ++ ys) =
      lowerBetween (meetsCased before) (meetsCased ys) xs ++ lowerAfter (xs.reverse ++ before) ys := by
  induction xs generalizing before with
  | nil => rfl
  | cons x xs ih =>
    simp only [List.cons_append, lowerAfter, lowerBetween, ih, meetsCased_append, meetsCased_cons, List.reverse_cons,
      List.append_assoc, List.nil_append]

theorem lowerAfter_eq_lowerBetween (before xs : List Char) :
    lowerAfter before xs = lowerBetween (meetsCased before) false xs := by
  simpa [lowerAfter] using lowerAfter_append before xs []

theorem length_lowerBetween (before after before' after' : Bool) (cs : List Char) :
    (lowerBetween before after cs).length = (lowerBetween before' after' cs).length := by
  induction cs generalizing before before' with
  | nil => rfl
  | cons c rest ih =>
    rw [lowerBetween, lowerBetween, List.length_append, List.length_append,
      ih _ (if isCaseless c then before' else isCased c)]
    by_cases hc : c == 'Σ' <;> simp [hc]

theorem isLowered_of_mem_lowerBetween {before after : Bool} {cs : List Char} {d : Char}
    (hd : d ∈ lowerBetween before after cs) : isLowered d := by
  induction cs generalizing before with
  | nil => simp [lowerBetween] at hd
  | cons c rest ih =>
    rw [lowerBetween, List.mem_append] at hd
    obtain hhere | hrest := hd
    · split at hhere
      · rw [List.mem_singleton.mp hhere]
        split <;> decide
      · exact isLowered_of_mem_lowerChar hhere
    · exact ih hrest

theorem lowerBetween_eq_self {before after : Bool} {cs : List Char} (hcs : ∀ c ∈ cs, isLowered c) :
    lowerBetween before after cs = cs := by
  induction cs generalizing before with
  | nil => rfl
  | cons c rest ih =>
    have hc := hcs c List.mem_cons_self
    simp only [isLowered, Bool.and_eq_true, beq_iff_eq, bne_iff_ne] at hc
    rw [lowerBetween, ih fun d hd => hcs d (List.mem_cons_of_mem c hd), if_neg (by simpa using hc.2), hc.1]
    rfl

theorem lowerChars_eq_self {cs : List Char} (hcs : ∀ c ∈ cs, isLowered c) : lowerChars cs = cs := by
  rw [lowerChars, lowerAfter_eq_lowerBetween, lowerBetween_eq_self hcs]

theorem toList_lower (s : String) : (lower s).toList = lowerBetween false false s.toList := by
  rw [lower, String.toList_ofList, lowerChars, lowerAfter_eq_lowerBetween, meetsCased_nil]

theorem isLowered_of_mem_lower {s : String} {c : Char} (hc : c ∈ (lower s).toList) : isLowered c := by
  rw [toList_lower] at hc
  exact isLowered_of_mem_lowerBetween hc

/-! ## Capital sigmas at the ends -/

/-- Whether the first character not passed over is a capital sigma that no cased letter follows. -/
def opensWithSigma : List Char → Bool
  | [] => false
  | c :: rest => if isCaseless c then opensWithSigma rest else c == 'Σ' && !meetsCased rest

/-- Whether the last character not passed over is a capital sigma with a cased letter before it, `before` telling of
what precedes the text. -/
def closesWithSigma (before : Bool) : List Char → Bool
  | [] => false
  | c :: rest =>
    (c == 'Σ' && before && rest.all isCaseless) ||
      closesWithSigma (if isCaseless c then before else isCased c) rest

set_option maxRecDepth 2000 in
theorem isCaseless_sigma : isCaseless 'Σ' = false := by decide

/-- What precedes a text matters only for a capital sigma at its beginning. -/
theorem lowerBetween_before_iff (cs : List Char) :
    lowerBetween true false cs = lowerBetween false false cs ↔ opensWithSigma cs = false := by
  induction cs with
  | nil => simp [lowerBetween, opensWithSigma]
  | cons c rest ih =>
    by_cases hcaseless : isCaseless c
    · have hsigma : c ≠ 'Σ' := by
        rintro rfl
        simp [isCaseless_sigma] at hcaseless
      simp [lowerBetween, opensWithSigma, hcaseless, hsigma, ih]
    · by_cases hsigma : c = 'Σ'
      · subst hsigma
        cases hmeets : meetsCased rest <;>
          simp [lowerBetween, opensWithSigma, isCaseless_sigma, hmeets, ← meetsCased_eq_meetsCasedOr]
      · simp [lowerBetween, opensWithSigma, hcaseless, hsigma]

theorem meetsCasedOr_of_all_caseless {cs : List Char} (hcs : cs.all isCaseless) (after : Bool) :
    meetsCasedOr after cs = after := by
  induction cs with
  | nil => rfl
  | cons c rest ih =>
    rw [List.all_cons, Bool.and_eq_true] at hcs
    rw [meetsCasedOr, if_pos hcs.1, ih hcs.2]

theorem meetsCasedOr_of_not_all_caseless {cs : List Char} (hcs : ¬ cs.all isCaseless) (after after' : Bool) :
    meetsCasedOr after cs = meetsCasedOr after' cs := by
  induction cs with
  | nil => simp at hcs
  | cons c rest ih =>
    by_cases hc : isCaseless c
    · simp only [meetsCasedOr, if_pos hc]
      exact ih (by simpa [hc] using hcs)
    · simp only [meetsCasedOr, if_neg hc]

theorem closesWithSigma_of_all_caseless {cs : List Char} (hcs : cs.all isCaseless) (before : Bool) :
    closesWithSigma before cs = false := by
  induction cs generalizing before with
  | nil => rfl
  | cons c rest ih =>
    rw [List.all_cons, Bool.and_eq_true] at hcs
    have hsigma : c ≠ 'Σ' := by
      rintro rfl
      simp [isCaseless_sigma] at hcs
    simp [closesWithSigma, hsigma, ih hcs.2]

/-- What follows a text matters only for a capital sigma at its end. -/
theorem lowerBetween_after_iff (before : Bool) (cs : List Char) :
    lowerBetween before true cs = lowerBetween before false cs ↔ closesWithSigma before cs = false := by
  induction cs generalizing before with
  | nil => simp [lowerBetween, closesWithSigma]
  | cons c rest ih =>
    by_cases hsigma : c = 'Σ'
    · subst hsigma
      by_cases hrest : rest.all isCaseless
      · cases before <;>
          simp [lowerBetween, closesWithSigma, meetsCasedOr_of_all_caseless hrest, hrest, ih, isCaseless_sigma,
            closesWithSigma_of_all_caseless hrest]
      · simp [lowerBetween, closesWithSigma, meetsCasedOr_of_not_all_caseless hrest true false, hrest, ih]
    · simp [lowerBetween, closesWithSigma, hsigma, ih]

end WorkflowForge.Text
