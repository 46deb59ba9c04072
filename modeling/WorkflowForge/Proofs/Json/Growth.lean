import WorkflowForge.Proofs.Json.Places

/-!
Growth of values. A value grows into another if it is no object and stays as it is, or if it is an object and keeps
its names in front, in their order, while the value under each of them grows. What has grown has lost nothing: every
place that was there is there still, and holds what the old value there has grown into.
-/

namespace WorkflowForge

namespace Json

/-- The second value is the first with fields added at the end of objects, at any depth. -/
inductive Grows : Json → Json → Prop
  | other {v : Json} (h : v.asObject? = none) : Grows v v
  | object {old new : Fields} (names : Fields.names old <+: Fields.names new)
      (values : ∀ name v w, Fields.get? old name = some v → Fields.get? new name = some w → Grows v w) :
      Grows (.object old) (.object new)

namespace Grows

theorem refl (v : Json) : Grows v v := by
  induction v using fieldInduction with
  | other v h => exact .other h
  | object fields ih =>
      refine .object (List.prefix_refl _) fun name v w hv hw => ?_
      rw [hv] at hw
      cases hw
      exact ih name v (Fields.mem_of_get? hv)

theorem trans {u v w : Json} (huv : Grows u v) (hvw : Grows v w) : Grows u w := by
  induction huv generalizing w with
  | other _ => exact hvw
  | object hnames _ ih =>
      cases hvw with
      | other h => cases h
      | object hnames' values' =>
          refine .object (hnames.trans hnames') fun name x z hx hz => ?_
          obtain ⟨y, hy⟩ := Fields.exists_get?_of_mem_names (hnames.subset (Fields.mem_names_of_get? hx))
          exact ih name x y hx hy (values' name y z hy hz)

theorem names_isPrefix {old new : Fields} (h : Grows (.object old) (.object new)) :
    Fields.names old <+: Fields.names new := by
  cases h with
  | other hother => cases hother
  | object hnames _ => exact hnames

/-- Adding fields to an object. -/
theorem append (fields more : Fields) : Grows (.object fields) (.object (fields ++ more)) := by
  refine .object (by simp) fun other x y hx hy => ?_
  rw [Fields.get?_append_of_mem _ (Fields.mem_names_of_get? hx), hx] at hy
  cases hy
  exact refl x

/-- A value grows if what is at one place of it grows. -/
theorem modifyAt (place : List String) {f : Json → Json} (v : Json) (hf : ∀ w, v.at? place = some w → Grows w (f w)) :
    Grows v (v.modifyAt place f) := by
  induction place generalizing v with
  | nil => simpa using hf v rfl
  | cons name rest ih =>
      cases v with
      | object fields =>
          refine .object (by simp) fun other x y hx hy => ?_
          by_cases heq : other = name
          · subst heq
            rw [Fields.get?_modify_self, hx, Option.map_some] at hy
            cases hy
            refine ih x fun w hw => hf w ?_
            change (Fields.get? fields other).bind _ = some w
            rw [hx]
            exact hw
          · rw [Fields.get?_modify_of_ne _ fields heq, hx] at hy
            cases hy
            exact refl x
      | _ => exact refl _

theorem addAt (v : Json) (place : List String) (name : String) (value : Json) :
    Grows v (v.addAt place name value) := by
  refine modifyAt place v fun w _ => ?_
  cases w with
  | object fields => exact append fields [(name, value)]
  | _ => exact refl _

theorem field? {old new : Json} (h : Grows old new) {name : String} {v : Json} (hv : old.field? name = some v) :
    ∃ w, new.field? name = some w ∧ Grows v w := by
  cases h with
  | other _ => exact ⟨v, hv, refl v⟩
  | object hnames values =>
      obtain ⟨w, hw⟩ := Fields.exists_get?_of_mem_names (hnames.subset (Fields.mem_names_of_get? hv))
      exact ⟨w, hw, values name v w hv hw⟩

/-- Every place of the old value is there still, and what it holds has grown. -/
theorem at? {old new : Json} (h : Grows old new) {place : List String} {v : Json} (hv : old.at? place = some v) :
    ∃ w, new.at? place = some w ∧ Grows v w := by
  induction place generalizing old new with
  | nil =>
      cases hv
      exact ⟨new, rfl, h⟩
  | cons name rest ih =>
      rw [at?_cons, Option.bind_eq_some_iff] at hv
      obtain ⟨below, hbelow, hrest⟩ := hv
      obtain ⟨grown, hgrown, hle⟩ := h.field? hbelow
      obtain ⟨w, hw, hvw⟩ := ih hle hrest
      exact ⟨w, by rw [at?_cons, hgrown]; exact hw, hvw⟩

theorem objectAt? {old new : Json} (h : Grows old new) {place : List String} {fields : Fields}
    (hfields : old.objectAt? place = some fields) :
    ∃ grown, new.objectAt? place = some grown ∧ Grows (.object fields) (.object grown) := by
  rw [objectAt?_eq_some_iff] at hfields
  obtain ⟨w, hw, hle⟩ := h.at? hfields
  cases hle with
  | other h => cases h
  | object hnames values => exact ⟨_, (objectAt?_eq_some_iff _ _ _).mpr hw, .object hnames values⟩

end Grows

end Json

end WorkflowForge
