import WorkflowForge.Data.Checked

/-!
What a check accepts. Steps that can fail give a result exactly if each of them does, and a check that is put together
from others accepts exactly what all of those accept.
-/

namespace WorkflowForge

theorem bind_eq_ok {x : Except ε α} {f : α → Except ε β} {b : β} :
    x >>= f = .ok b ↔ ∃ a, x = .ok a ∧ f a = .ok b := by
  cases x with
  | error e => exact ⟨nofun, nofun⟩
  | ok a => exact ⟨fun h => ⟨a, rfl, h⟩, fun ⟨_, hx, h⟩ => Except.ok.inj hx ▸ h⟩

theorem isOk_bind {x : Except ε α} {f : α → Except ε β} :
    (x >>= f).isOk = true ↔ ∃ a, x = .ok a ∧ (f a).isOk = true := by
  cases x with
  | error e => exact ⟨nofun, nofun⟩
  | ok a => exact ⟨fun h => ⟨a, rfl, h⟩, fun ⟨_, hx, h⟩ => Except.ok.inj hx ▸ h⟩

theorem isOk_iff {x : Except ε α} : x.isOk = true ↔ ∃ a, x = .ok a := by
  cases x with
  | error e => exact ⟨nofun, nofun⟩
  | ok a => exact ⟨fun _ => ⟨a, rfl⟩, fun _ => rfl⟩

/-- Steps that fail whatever came before them all have to succeed. -/
theorem isOk_foldlM {f : β → α → Except ε β} {P : α → Prop} (hf : ∀ b a, (f b a).isOk = true ↔ P a) (l : List α)
    (b : β) : (l.foldlM f b).isOk = true ↔ ∀ a ∈ l, P a := by
  induction l generalizing b with
  | nil => exact ⟨fun _ => nofun, fun _ => rfl⟩
  | cons a l ih =>
      rw [List.foldlM_cons, isOk_bind, List.forall_mem_cons, ← hf b a, isOk_iff]
      exact ⟨fun ⟨next, hnext, h⟩ => ⟨⟨next, hnext⟩, (ih next).mp h⟩,
        fun ⟨⟨next, hnext⟩, h⟩ => ⟨next, hnext, (ih next).mpr h⟩⟩

theorem map_eq_ok {x : Except ε α} {f : α → β} {b : β} : x.map f = .ok b ↔ ∃ a, x = .ok a ∧ f a = b := by
  cases x with
  | error e => exact ⟨nofun, nofun⟩
  | ok a => exact ⟨fun h => ⟨a, rfl, Except.ok.inj h⟩, fun ⟨_, hx, h⟩ => h ▸ Except.ok.inj hx ▸ rfl⟩

theorem mapError_eq_ok {x : Except ε α} {f : ε → ε'} {a : α} : x.mapError f = .ok a ↔ x = .ok a := by
  cases x with
  | error e => exact ⟨nofun, nofun⟩
  | ok b => exact ⟨fun h => congrArg _ (Except.ok.inj h), fun h => congrArg _ (Except.ok.inj h)⟩

theorem toOption_eq_some {x : Except ε α} {a : α} : x.toOption = some a ↔ x = .ok a := by
  cases x with
  | error e => exact ⟨nofun, nofun⟩
  | ok b => exact ⟨fun h => congrArg _ (Option.some.inj h), fun h => congrArg _ (Except.ok.inj h)⟩

namespace Checked

variable {α β : Type}

theorem under_eq_ok {step : Step} {x : Checked α} {a : α} : under step x = .ok a ↔ x = .ok a := by
  cases x with
  | error violations => exact ⟨nofun, nofun⟩
  | ok b => exact Iff.rfl

theorem both_eq_ok {x : Checked α} {y : Checked β} {a : α} {b : β} :
    both x y = .ok (a, b) ↔ x = .ok a ∧ y = .ok b := by
  cases x <;> cases y <;> simp [both]

theorem field_eq_ok {entries : Datum.Entries} {name : String} {check : Datum → Checked α} {default a : α} :
    field entries name check default = .ok a ↔
      (Datum.lookup entries name = none ∧ a = default) ∨
        ∃ v, Datum.lookup entries name = some v ∧ check v = .ok a := by
  unfold field
  cases Datum.lookup entries name with
  | none => simp [eq_comm]
  | some v => simp [under_eq_ok]

theorem required_eq_ok {entries : Datum.Entries} {name : String} {check : Datum → Checked α} {a : α} :
    required entries name check = .ok a ↔ ∃ v, Datum.lookup entries name = some v ∧ check v = .ok a := by
  unfold required
  cases Datum.lookup entries name with
  | none => exact ⟨nofun, nofun⟩
  | some v => simp [under_eq_ok]

theorem structured_eq_ok {name : String} {check : Datum.Entries → Checked α} {v : Datum} {a : α} :
    structured name check v = .ok a ↔ ∃ entries, v = .map entries ∧ check entries = .ok a := by
  unfold structured
  split
  · exact ⟨fun h => ⟨_, rfl, h⟩, fun ⟨_, hv, h⟩ => Datum.map.inj hv ▸ h⟩
  · next hv => exact ⟨nofun, fun ⟨entries, heq, _⟩ => absurd heq (hv entries)⟩

end Checked

end WorkflowForge
