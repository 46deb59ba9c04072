import Mathlib.Data.List.Infix
import WorkflowForge.Files.Disk

/-!
Resolution of paths by their text. The steps of a path lead from a location to another, a double dot to the directory
above; where the disk can be walked along a path at all, it is walked to the place that the steps lead to. Steps stay
inside the location they start from if each step up leaves a directory that was entered on the way. This is exactly
when they lead to it or below it from wherever they start.
-/

namespace WorkflowForge

namespace Path

/-- Where steps lead from a location, whether anything is there or not. -/
def follow : Location → List String → Location
  | here, [] => here
  | here, step :: steps => if step == ".." then follow here.dropLast steps else follow (here ++ [step]) steps

theorem follow_append (here : Location) (steps more : List String) :
    follow here (steps ++ more) = follow (follow here steps) more := by
  induction steps generalizing here with
  | nil => rfl
  | cons step steps ih =>
      simp only [List.cons_append, follow]
      split
      · exact ih _
      · exact ih _

@[simp] theorem follow_up (here : Location) (steps : List String) :
    follow here (".." :: steps) = follow here.dropLast steps := rfl

theorem follow_name {step : String} (h : step ≠ "..") (here : Location) (steps : List String) :
    follow here (step :: steps) = follow (here ++ [step]) steps := by
  simp [follow, h]

/-- Whether steps that start so many directories below a location never lead above that location. -/
def staysInside : (depth : Nat) → List String → Bool
  | _, [] => true
  | depth, step :: steps =>
    if step == ".." then depth != 0 && staysInside (depth - 1) steps else staysInside (depth + 1) steps

theorem staysInside_name {step : String} (h : step ≠ "..") (depth : Nat) (steps : List String) :
    staysInside depth (step :: steps) = staysInside (depth + 1) steps := by
  simp [staysInside, h]

/-- A name at the end makes no difference. -/
theorem staysInside_append_name {step : String} (h : step ≠ "..") (depth : Nat) (steps : List String) :
    staysInside depth (steps ++ [step]) = staysInside depth steps := by
  induction steps generalizing depth with
  | nil => simp [staysInside, h]
  | cons first steps ih =>
      simp only [List.cons_append, staysInside]
      split
      · rw [ih]
      · exact ih _

theorem staysInside_append_congr {steps more : List String}
    (h : ∀ depth, staysInside depth steps = staysInside depth more) (first : List String) (depth : Nat) :
    staysInside depth (first ++ steps) = staysInside depth (first ++ more) := by
  induction first generalizing depth with
  | nil => exact h depth
  | cons step first ih =>
      simp only [List.cons_append, staysInside]
      split
      · rw [ih]
      · exact ih _

theorem follow_of_staysInside {depth : Nat} {steps : List String} (h : staysInside depth steps = true)
    (base here : Location) (hdepth : here.length = depth) :
    follow (base ++ here) steps = base ++ follow here steps := by
  induction steps generalizing depth here with
  | nil => rfl
  | cons step steps ih =>
      by_cases hup : step = ".."
      · subst hup
        have ⟨hpositive, hrest⟩ : depth ≠ 0 ∧ staysInside (depth - 1) steps = true := by
          simpa [staysInside] using h
        have hne : here ≠ [] := by
          intro hnil
          apply hpositive
          rw [← hdepth, hnil, List.length_nil]
        rw [follow_up, follow_up, List.dropLast_append_of_ne_nil hne]
        exact ih hrest here.dropLast (by rw [List.length_dropLast, hdepth])
      · rw [staysInside_name hup] at h
        rw [follow_name hup, follow_name hup, List.append_assoc]
        exact ih h (here ++ [step]) (by rw [List.length_append, hdepth, List.length_singleton])

/-- Steps that do not stay inside come back to where they started and then go up. -/
theorem exists_up_of_not_staysInside {depth : Nat} {steps : List String} (h : staysInside depth steps = false) :
    ∃ before after, steps = before ++ ".." :: after ∧ staysInside depth before = true ∧
      ∀ here : Location, here.length = depth → follow here before = [] := by
  induction steps generalizing depth with
  | nil => cases h
  | cons step steps ih =>
      by_cases hup : step = ".."
      · subst hup
        cases depth with
        | zero =>
            refine ⟨[], steps, rfl, rfl, ?_⟩
            intro here hlength
            exact List.eq_nil_of_length_eq_zero hlength
        | succ depth =>
            have hrest : staysInside depth steps = false := by simpa [staysInside] using h
            obtain ⟨before, after, rfl, hinside, hback⟩ := ih hrest
            refine ⟨".." :: before, after, rfl, by simpa [staysInside] using hinside, ?_⟩
            intro here hlength
            apply hback
            rw [List.length_dropLast, hlength, Nat.add_sub_cancel]
      · rw [staysInside_name hup] at h
        obtain ⟨before, after, rfl, hinside, hback⟩ := ih h
        refine ⟨step :: before, after, rfl, by rw [staysInside_name hup, hinside], ?_⟩
        intro here hlength
        rw [follow_name hup]
        apply hback
        rw [List.length_append, hlength, List.length_singleton]

/-- A name that does not come first in a location. -/
theorem exists_other_name (here : Location) : ∃ name, name ≠ ".." ∧ ¬ [name] <+: here := by
  cases here with
  | nil => exact ⟨"x", by decide, by simp⟩
  | cons first rest =>
      by_cases h : first = "x"
      · exact ⟨"y", by decide, by simp [h]⟩
      · exact ⟨"x", by decide, by simp [Ne.symm h]⟩

theorem prefix_follow_of_staysInside {steps : List String} (h : staysInside 0 steps = true) (base : Location) :
    base <+: follow base steps := by
  have hfollow := follow_of_staysInside h base [] rfl
  rw [List.append_nil] at hfollow
  exact ⟨_, hfollow.symm⟩

/-- Steps stay inside if they lead below every directory at the top of the tree. -/
theorem staysInside_of_prefix_follow {steps : List String}
    (hbelow : ∀ name, name ≠ ".." → [name] <+: follow [name] steps) : staysInside 0 steps = true := by
  by_contra hout
  obtain ⟨before, after, rfl, hinside, hback⟩ := exists_up_of_not_staysInside (Bool.eq_false_iff.mpr hout)
  obtain ⟨name, hname, hnot⟩ := exists_other_name (follow [] after)
  apply hnot
  have hfollow := follow_of_staysInside hinside [name] [] rfl
  rw [hback [] rfl, List.append_nil] at hfollow
  have hbase := hbelow name hname
  rwa [follow_append, hfollow, follow_up] at hbase

end Path

namespace Disk

/-- The place that a path leads to by its steps alone. -/
def place (d : Disk) (p : Path) : Location := Path.follow (d.start p) p.parts

theorem start_join_of_relative (d : Disk) (p : Path) {q : Path} (h : q.isAbsolute = false) :
    d.start (p.join q) = d.start p := by
  have hjoin : p.join q = ⟨p.slashes, p.parts ++ q.parts⟩ := by simp [Path.join, h]
  rw [hjoin]
  rfl

/-- A relative path below another is followed from the place of that. -/
theorem place_join_of_relative (d : Disk) (p : Path) {q : Path} (h : q.isAbsolute = false) :
    d.place (p.join q) = Path.follow (d.place p) q.parts := by
  rw [place, start_join_of_relative d p h, place, ← Path.follow_append]
  simp [Path.join, h]

theorem place_join_of_absolute (d : Disk) (p : Path) {q : Path} (h : q.isAbsolute = true) :
    d.place (p.join q) = Path.follow [] q.parts := by
  simp [Path.join, h, place, start]

theorem place_absolute (d : Disk) {name : String} (h : name ≠ "..") : d.place ⟨1, [name]⟩ = [name] := by
  simp [place, start, Path.isAbsolute, Path.follow, h]

end Disk

end WorkflowForge
