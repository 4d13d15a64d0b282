import Rebuild.FileSystem
import Rebuild.Log.Event

/-!
# Inquiries

An inquiry looks at a disk and says what it does. What it says may be written to a log on the same
disk, so it can come upon its own words. On a disk without a log nothing changes while an inquiry
runs, and then its answer does not depend on what is said.
-/

namespace Rebuild

/-- A log that is kept in a file: where it lies, and what is written for an event. -/
structure LogFile where
  place : Place
  written : LogEvent → ByteArray

/-- A file system, with a log on it or without. -/
structure Disk where
  files : FileSystem
  log : Option LogFile

namespace Disk

/-- A disk without a log. -/
def still (files : FileSystem) : Disk := ⟨files, none⟩

/-- The disk once an event was said. -/
def note (disk : Disk) (event : LogEvent) : Disk :=
  match disk.log with
  | none => disk
  | some log => { disk with files := disk.files.append log.place (log.written event) }

/-- The disk once all these events were said. -/
def after (disk : Disk) (events : List LogEvent) : Disk := events.foldl note disk

@[simp] theorem note_still (files : FileSystem) (event : LogEvent) :
    (still files).note event = still files := rfl

@[simp] theorem after_nil (disk : Disk) : disk.after [] = disk := rfl

theorem after_append (disk : Disk) (first second : List LogEvent) :
    disk.after (first ++ second) = (disk.after first).after second :=
  List.foldl_append

@[simp] theorem after_still (files : FileSystem) (events : List LogEvent) :
    (still files).after events = still files := by
  induction events with
  | nil => rfl
  | cons event events ih => exact ih

end Disk

/-- An answer and the events on the way to it. -/
structure Answer (α : Type) where
  value : α
  events : List LogEvent := []

@[ext] theorem Answer.ext {x y : Answer α} (value : x.value = y.value)
    (events : x.events = y.events) : x = y := by
  cases x; cases y; simp_all

/-- A computation that looks at a disk and says what it does. -/
def Inquiry (α : Type) := Disk → Answer α

namespace Inquiry

instance : Monad Inquiry where
  pure value := fun _ => ⟨value, []⟩
  bind x f := fun disk =>
    let first := x disk
    let second := f first.value (disk.after first.events)
    ⟨second.value, first.events ++ second.events⟩

/-- Says one thing. -/
def emit (event : LogEvent) : Inquiry Unit := fun _ => ⟨(), [event]⟩

/-- The file system as it is now. -/
def files : Inquiry FileSystem := fun disk => ⟨disk.files, []⟩

instance : LawfulMonad Inquiry :=
  .mk' Inquiry (fun _ => funext fun _ => Answer.ext rfl (List.append_nil _))
    (fun _ _ => funext fun _ => by ext1 <;> simp [bind, pure])
    (fun _ _ _ => funext fun _ => by ext1 <;> simp [bind, Disk.after_append])

/-! ## On files that do not change -/

/-- The answer on a file system that stays as it is. -/
def on (inquiry : Inquiry α) (files : FileSystem) : Answer α := inquiry (.still files)

@[simp] theorem on_pure (value : α) (files : FileSystem) :
    (pure value : Inquiry α).on files = ⟨value, []⟩ := rfl

@[simp] theorem on_emit (event : LogEvent) (files : FileSystem) :
    (emit event).on files = ⟨(), [event]⟩ := rfl

@[simp] theorem on_files (found : FileSystem) : files.on found = ⟨found, []⟩ := rfl

@[simp] theorem on_map (f : α → β) (x : Inquiry α) (files : FileSystem) :
    (f <$> x).on files = ⟨f (x.on files).value, (x.on files).events⟩ :=
  Answer.ext rfl (List.append_nil _)

@[simp] theorem on_bind (x : Inquiry α) (f : α → Inquiry β) (files : FileSystem) :
    (x >>= f).on files = ⟨((f (x.on files).value).on files).value,
      (x.on files).events ++ ((f (x.on files).value).on files).events⟩ := by
  simp [on, bind]

end Inquiry

/-- An inquiry that may use and change a world. -/
abbrev Act (ω : Type) := StateT ω Inquiry

end Rebuild
