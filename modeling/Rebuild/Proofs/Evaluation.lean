import Rebuild.Analysis.ArchiveUnit

/-!
# What an inquiry answers, step by step

On files that do not change an inquiry is a value, an action is a value and the world that it
leaves, and a step of a comparison leaves its contexts too.
-/

namespace Rebuild

variable {ω α β : Type}

instance decidableEqExcept {ε : Type} [DecidableEq ε] [DecidableEq α] : DecidableEq (Except ε α)
  | .error a, .error b => decidable_of_iff (a = b) ⟨congrArg _, Except.error.inj⟩
  | .ok a, .ok b => decidable_of_iff (a = b) ⟨congrArg _, Except.ok.inj⟩
  | .error _, .ok _ => isFalse nofun
  | .ok _, .error _ => isFalse nofun

theorem toOption_eq_some_iff {ε : Type} {result : Except ε α} {value : α} :
    result.toOption = some value ↔ result = .ok value := by
  cases result <;> simp [Except.toOption]

theorem exists_of_bind_eq_ok {ε : Type} {known : Except ε α} {next : α → Except ε β} {value : β}
    (h : known >>= next = .ok value) : ∃ found, known = .ok found ∧ next found = .ok value := by
  cases known with
  | error error => exact nomatch h
  | ok found => exact ⟨found, rfl, h⟩

namespace Inquiry

theorem value_bind (x : Inquiry α) (f : α → Inquiry β) (disk : Disk) :
    ((x >>= f) disk).value = (f (x disk).value (disk.after (x disk).events)).value := rfl

theorem value_map (f : α → β) (x : Inquiry α) (disk : Disk) :
    ((f <$> x) disk).value = f (x disk).value := rfl

end Inquiry

theorem Act.bind_apply (x : Act ω α) (f : α → Act ω β) (w : ω) (disk : Disk) :
    (x >>= f).run w disk =
      let first := x.run w disk
      let second := (f first.value.1).run first.value.2 (disk.after first.events)
      ⟨second.value, first.events ++ second.events⟩ := rfl

/-- The answer of an action on files that stay as they are, and the world that it leaves. -/
def Act.on (x : Act ω α) (files : FileSystem) (w : ω) : α × ω := ((x.run w).on files).value

namespace Act

variable (files : FileSystem) (w : ω)

@[simp] theorem on_pure (value : α) : on (pure value) files w = (value, w) := rfl

@[simp] theorem on_map (f : α → β) (x : Act ω α) :
    on (f <$> x) files w = (f (on x files w).1, (on x files w).2) := by
  simp [on]

@[simp] theorem on_bind (x : Act ω α) (f : α → Act ω β) :
    on (x >>= f) files w = on (f (on x files w).1) files (on x files w).2 := by
  simp [on]

@[simp] theorem on_inquiry (x : Inquiry α) :
    on (x : Act ω α) files w = ((x.on files).value, w) := by
  simp [on]

end Act

/-- The answer of a step on files that stay as they are, the contexts and the world. -/
def Walk.on (x : Walk ω α) (files : FileSystem) (contexts : Contexts) (w : ω) :
    (α × Contexts) × ω :=
  Act.on (x.run contexts) files w

namespace Walk

variable (files : FileSystem) (contexts : Contexts) (w : ω)

@[simp] theorem on_pure (value : α) :
    on (pure value) files contexts w = ((value, contexts), w) := rfl

@[simp] theorem on_map (f : α → β) (x : Walk ω α) :
    on (f <$> x) files contexts w =
      ((f (on x files contexts w).1.1, (on x files contexts w).1.2),
        (on x files contexts w).2) := by
  simp [on]

@[simp] theorem on_bind (x : Walk ω α) (f : α → Walk ω β) :
    on (x >>= f) files contexts w = on (f (on x files contexts w).1.1) files
      (on x files contexts w).1.2 (on x files contexts w).2 := by
  simp [on]

@[simp] theorem on_get : on get files contexts w = ((contexts, contexts), w) := rfl

@[simp] theorem on_set (kept : Contexts) : on (set kept) files contexts w = (((), kept), w) := rfl

@[simp] theorem on_act (x : Act ω α) :
    on (x : Walk ω α) files contexts w =
      (((Act.on x files w).1, contexts), (Act.on x files w).2) := by
  simp [on]

@[simp] theorem on_inquiry (x : Inquiry α) :
    on (x : Walk ω α) files contexts w = (((x.on files).value, contexts), w) := by
  simp [on]

@[simp] theorem on_say (event : LogEvent) :
    on (say event) files contexts w = (((), contexts), w) := by
  simp [say]

theorem on_loadPrevious (name : String) :
    on (loadPrevious name) files contexts w =
      ((((contexts.previous.load name).on files).value.1,
        ⟨((contexts.previous.load name).on files).value.2, contexts.current⟩), w) := by
  simp [loadPrevious]

theorem on_loadCurrent (name : String) :
    on (loadCurrent name) files contexts w =
      ((((contexts.current.load name).on files).value.1,
        ⟨contexts.previous, ((contexts.current.load name).on files).value.2⟩), w) := by
  simp [loadCurrent]

end Walk

end Rebuild
