import Rebuild.Archive.Jar

/-!
# What a jar remembers

A jar that was asked before knows where the data of some entries starts. On files that do not
change it has found these places itself, so it answers like a jar that was just opened.
-/

namespace Rebuild

/-- The entry with the start that is known under its name. -/
def Zip.Entry.located (known : String → Option Nat) (entry : Zip.Entry) : Zip.Entry :=
  { entry with dataStart := (known entry.name).or entry.dataStart }

namespace Jar

/-- The jar is `fresh` with some starts looked up, each of them as `fresh` would find it. -/
structure Knows (files : FileSystem) (fresh jar : Jar) (known : String → Option Nat) : Prop where
  path : jar.path = fresh.path
  file : jar.file = fresh.file
  entries : jar.entries = fresh.entries.map (Zip.Entry.located known)
  start : ∀ name start entry, known name = some start →
    (fresh.archive files).find? name = some entry →
      (fresh.archive files).dataOffset entry = .ok start

/-- The jar is `fresh` after some questions. -/
def IsFaithful (files : FileSystem) (fresh jar : Jar) : Prop := ∃ known, Knows files fresh jar known

theorem isFaithful_self (files : FileSystem) (jar : Jar) : IsFaithful files jar jar := by
  refine ⟨fun _ => none, rfl, rfl, ?_, fun _ _ _ h => nomatch h⟩
  exact (List.map_id' jar.entries).symm

theorem name_of_find? {files : FileSystem} {jar : Jar} {name : String} {entry : Zip.Entry}
    (h : (jar.archive files).find? name = some entry) : entry.name = name :=
  beq_iff_eq.1 (List.find?_some (p := fun other : Zip.Entry => other.name == name) h)

section Knows

variable {files : FileSystem} {fresh jar : Jar} {known : String → Option Nat}

theorem Knows.find?_eq (h : Knows files fresh jar known) (name : String) :
    (jar.archive files).find? name =
      ((fresh.archive files).find? name).map (Zip.Entry.located known) := by
  unfold Zip.Archive.find? archive
  rw [h.entries, List.find?_map]
  rfl

theorem Knows.dataOffset_eq (h : Knows files fresh jar known) {name : String} {entry : Zip.Entry}
    (hfind : (fresh.archive files).find? name = some entry) :
    (jar.archive files).dataOffset (entry.located known) =
      (fresh.archive files).dataOffset entry := by
  have hname := name_of_find? hfind
  cases hknown : known entry.name with
  | none =>
    have hlocated : entry.located known = entry := by simp [Zip.Entry.located, hknown]
    rw [hlocated]
    unfold Zip.Archive.dataOffset archive
    rw [h.file]
  | some start =>
    rw [h.start entry.name start entry hknown (hname ▸ hfind)]
    simp [Zip.Archive.dataOffset, Zip.Entry.located, hknown]

theorem Knows.contentAt_eq (h : Knows files fresh jar known) (entry : Zip.Entry) (start : Nat) :
    jar.contentAt files (entry.located known) start = fresh.contentAt files entry start := by
  unfold contentAt Zip.Archive.storedAt archive
  rw [h.file]
  rfl

theorem Knows.remember (h : Knows files fresh jar known) {name : String} {entry : Zip.Entry}
    {start : Nat} (hfind : (fresh.archive files).find? name = some entry)
    (hstart : (fresh.archive files).dataOffset entry = .ok start) :
    IsFaithful files fresh (jar.remember (entry.located known) start) := by
  have hname := name_of_find? hfind
  refine ⟨fun other => if other = name then some start else known other, h.path, h.file, ?_, ?_⟩
  · unfold Jar.remember
    simp only [h.entries, List.map_map]
    refine List.map_congr_left fun other _ => ?_
    by_cases heq : other.name = name
    · simp [Zip.Entry.located, hname, heq]
    · simp [Zip.Entry.located, hname, heq]
  · intro other found candidate hknown hcandidate
    by_cases heq : other = name
    · simp only [heq, ↓reduceIte, Option.some.injEq] at hknown
      rw [heq, hfind, Option.some.injEq] at hcandidate
      rw [← hcandidate, hstart, hknown]
    · simp only [heq, ↓reduceIte] at hknown
      exact h.start other found candidate hknown hcandidate

end Knows

theorem IsFaithful.read {files : FileSystem} {fresh jar : Jar} (h : IsFaithful files fresh jar)
    (name : String) :
    (jar.read files name).1 = (fresh.read files name).1 ∧
      IsFaithful files fresh (jar.read files name).2 := by
  obtain ⟨known, hknown⟩ := h
  unfold Jar.read
  rw [hknown.find?_eq]
  cases hfind : (fresh.archive files).find? name with
  | none => exact ⟨rfl, known, hknown⟩
  | some entry =>
    have hencrypted : (entry.located known).isEncrypted = entry.isEncrypted := rfl
    simp only [Option.map_some, hencrypted]
    cases entry.isEncrypted with
    | true => exact ⟨by rw [hknown.path]; rfl, known, hknown⟩
    | false =>
      simp only [Bool.false_eq_true, ↓reduceIte]
      unfold withData
      rw [hknown.dataOffset_eq hfind]
      cases hstart : (fresh.archive files).dataOffset entry with
      | error fault => exact ⟨by rw [hknown.path], known, hknown⟩
      | ok start =>
        refine ⟨?_, hknown.remember hfind hstart⟩
        simp only [hknown.contentAt_eq, hknown.path]

end Jar

end Rebuild
