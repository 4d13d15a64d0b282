import Rebuild.Proofs.ClassLookup
import Rebuild.Proofs.Evaluation

/-!
# Which classes a comparison asks about

A changed member is compared as the class that it is named for. The comparison is about the member
itself exactly if a lookup of the class reads the member, and the check that is made before does not
see dots in the name.
-/

namespace Rebuild

variable {ω ρ α : Type}

/-- A step that works with a comparator asks it about no other pairs than these. -/
def AsksOnly (step : Comparator ω → α) (asked : ClassPair → Prop) : Prop :=
  ∀ f g : Comparator ω, (∀ pair, asked pair → f pair = g pair) → step f = step g

theorem AsksOnly.mono {step : Comparator ω → α} {asked allowed : ClassPair → Prop}
    (h : AsksOnly step asked) (hsub : ∀ pair, asked pair → allowed pair) :
    AsksOnly step allowed :=
  fun f g hagree => h f g fun pair hasked => hagree pair (hsub pair hasked)

namespace ArchiveUnit

theorem nameCause?_eq_none_iff (member : Member) :
    nameCause? member = none ↔
      EntryName.isVersioned member.name = false ∧ EntryName.isLoadable member.name = true := by
  unfold nameCause?
  cases EntryName.isVersioned member.name <;> cases EntryName.isLoadable member.name <;> simp

theorem nameCause?_of_not_isLoadable {member : Member}
    (hversioned : EntryName.isVersioned member.name = false)
    (hloadable : ¬ EntryName.isLoadable member.name = true) :
    nameCause? member = some ("member not loadable by class name: " ++ member.name) := by
  unfold nameCause?
  simp [hversioned, hloadable]

theorem judgeClass_asksOnly (access : ArchiveAccess ω ρ) (qualified : String) :
    AsksOnly (fun compare => judgeClass ⟨access, compare⟩ qualified) fun pair =>
      pair.qualifiedName = qualified := by
  intro f g hagree
  have hpair (previous current : LoadedClass) := hagree ⟨qualified, previous, current⟩ rfl
  unfold judgeClass
  simp only [hpair]

theorem judge_asksOnly (unit : ArchiveUnit) (access : ArchiveAccess ω ρ) (current : ρ)
    (member : Member) :
    AsksOnly (fun compare => unit.judge ⟨access, compare⟩ current member) fun pair =>
      member.qualified? = some pair.qualifiedName ∧ nameCause? member = none := by
  intro f g hagree
  unfold judge
  cases hqualified : member.qualified? with
  | none => rfl
  | some qualified =>
    cases hcause : nameCause? member with
    | some cause => rfl
    | none =>
      have hclass := judgeClass_asksOnly access qualified f g fun pair hname =>
        hagree pair ⟨hname ▸ hqualified, hcause⟩
      simp only [hclass]

/-- The step finds the member in the other archive, with another checksum. -/
def FindsChanged (access : ArchiveAccess ω ρ) (current : ρ) (member : Member) (w : ω)
    (disk : Disk) : Prop :=
  ∃ counterpart, ((access.member current member.name).run w disk).value.1 = .ok (some counterpart) ∧
    counterpart.checksum ≠ member.checksum

theorem judge_value_of_nameCause? {unit : ArchiveUnit} {bench : Workbench ω ρ} {current : ρ}
    {member : Member} {qualified cause : String} {w : ω} {disk : Disk}
    (hqualified : member.qualified? = some qualified) (hcause : nameCause? member = some cause)
    (hchanged : FindsChanged bench.access current member w disk) (contexts : Contexts) :
    (((unit.judge bench current member).run contexts).run w disk).value.1.1 =
      .ok (.fullRebuild cause) := by
  obtain ⟨counterpart, hfound, hchecksum⟩ := hchanged
  unfold judge
  simp only [hqualified, hcause]
  simp [Walk.say, Inquiry.value_bind, Inquiry.value_map, hfound, hchecksum]

theorem judge_asksOnly_reached (unit : ArchiveUnit) (access : ArchiveAccess ω ρ) (current : ρ)
    (member : Member) :
    AsksOnly (fun compare => unit.judge ⟨access, compare⟩ current member) fun pair =>
      member.qualified? = some pair.qualifiedName ∧
        (EntryName.ofQualified pair.qualifiedName = member.name ↔
          ¬ EntryName.IsMisread member.name) := by
  refine (judge_asksOnly unit access current member).mono ?_
  rintro pair ⟨hqualified, hcause⟩
  have hloadable := ((nameCause?_eq_none_iff member).1 hcause).2
  refine ⟨hqualified, ?_⟩
  rw [← EntryName.isReached_iff_of_isLoadable hloadable]
  refine ⟨fun hreads => ⟨_, hqualified, hreads⟩, ?_⟩
  exact fun hreached => hreached.ofQualified_eq hqualified

theorem judge_value_of_not_isReached {unit : ArchiveUnit} {bench : Workbench ω ρ} {current : ρ}
    {member : Member} {w : ω} {disk : Disk} (hclass : member.isClass = true)
    (hversioned : EntryName.isVersioned member.name = false)
    (hchanged : FindsChanged bench.access current member w disk)
    (hreached : ¬ EntryName.IsReached member.name) (hmisread : ¬ EntryName.IsMisread member.name)
    (contexts : Contexts) :
    (((unit.judge bench current member).run contexts).run w disk).value.1.1 =
      .ok (.fullRebuild ("member not loadable by class name: " ++ member.name)) := by
  obtain ⟨internal, hinternal⟩ := Option.isSome_iff_exists.1 hclass
  have hloadable : ¬ EntryName.isLoadable member.name = true := fun h =>
    hreached ((EntryName.isReached_iff_of_isLoadable h).2 hmisread)
  exact judge_value_of_nameCause? (EntryName.qualified?_of_internal? hinternal)
    (nameCause?_of_not_isLoadable hversioned hloadable) hchanged contexts

end ArchiveUnit

/-! ## Loadable and reached -/

/-- Archives of no entries, whose readers answer each name with a checksum that they are made of. -/
def ArchiveAccess.unlisted : ArchiveAccess Unit UInt32 where
  acquire _ := return .ok 0
  release _ := return ()
  path _ := ⟨[]⟩
  entryCount _ := 0
  memberAt _ _ := return .ok none
  member checksum name := return .ok (some ⟨name, checksum⟩)

def Contexts.bare : Contexts := ⟨⟨"previous", [], []⟩, ⟨"current", [], []⟩⟩

def ArchiveUnit.bare : ArchiveUnit where
  previous := ⟨[]⟩
  current := ⟨[]⟩
  archive := ⟨[]⟩
  snapshot := none

open EntryName in
/-- Outside the misread entries, an entry is loadable exactly if a lookup of its class reads it, no
two loadable entries share a class, a comparison is about the member that changed, and a member that
no lookup reaches forces a full rebuild. Comparisons of misread members are about other entries. -/
theorem loadable_iff_reached_unless_misread (unit : ArchiveUnit) (bench : Workbench ω ρ)
    (current : ρ) (member other : Member) :
    ((isLoadable member.name = true ↔ IsReached member.name) ↔ ¬ IsMisread member.name) ∧
    (isLoadable member.name = true → isLoadable other.name = true →
      member.qualified? = other.qualified? → member.name ≠ other.name →
        IsMisread member.name ∨ IsMisread other.name) ∧
    (AsksOnly (fun compare => unit.judge ⟨bench.access, compare⟩ current member) fun pair =>
      member.qualified? = some pair.qualifiedName ∧
        (ofQualified pair.qualifiedName = member.name ↔ ¬ IsMisread member.name)) ∧
    (∀ (contexts : Contexts) (w : ω) (disk : Disk),
      member.isClass = true → isVersioned member.name = false →
        ArchiveUnit.FindsChanged bench.access current member w disk →
          ¬ IsReached member.name → ¬ IsMisread member.name →
            (((unit.judge bench current member).run contexts).run w disk).value.1.1 =
              .ok (.fullRebuild ("member not loadable by class name: " ++ member.name))) := by
  refine ⟨isLoadable_iff_isReached_iff member.name, ?_, ?_, ?_⟩
  · intro hmember hother hqualified hne
    exact isMisread_or_isMisread hmember hother hqualified hne
  · exact ArchiveUnit.judge_asksOnly_reached unit bench.access current member
  · intro contexts w disk hclass hversioned hchanged hreached hmisread
    exact ArchiveUnit.judge_value_of_not_isReached hclass hversioned hchanged hreached hmisread
      contexts

theorem rooted_class_forces_rebuild :
    (((ArchiveUnit.bare.judge ⟨.unlisted, .conservative⟩ 2 ⟨"/Top.class", 1⟩).run .bare).run ()
      (.still (.empty []))).value.1.1 =
        .ok (.fullRebuild "member not loadable by class name: /Top.class") := by
  have hmember := loadable_iff_reached_unless_misread .bare ⟨.unlisted, .conservative⟩ 2
    ⟨"/Top.class", 1⟩ ⟨"Top.class", 1⟩
  refine hmember.2.2.2 .bare () (.still (.empty [])) (by decide) (by decide)
    ⟨⟨"/Top.class", 2⟩, rfl, by decide⟩ ?_ ?_
  · rw [EntryName.isReached_iff]
    exact fun h => absurd h.1 (by decide)
  · exact fun h => absurd h.1 (by decide)

/-- A dot in the name of a folder passes the check, and the lookup then asks for another entry. So
the change is not seen for what it is: the class is said to be missing. -/
theorem dotted_folder_is_misread :
    EntryName.isLoadable "a.b/C.class" = true ∧
    EntryName.qualified? "a.b/C.class" = some "a.b.C" ∧
    EntryName.ofQualified "a.b.C" = "a/b/C.class" ∧
    (¬ ∀ entry, EntryName.isLoadable entry = true ↔ EntryName.IsReached entry) ∧
    (((ArchiveUnit.bare.judge ⟨.unlisted, .conservative⟩ 2 ⟨"a.b/C.class", 1⟩).run .bare).run ()
      (.still (.empty []))).value.1.1 =
        .error (.classpath (.classNotFound "a.b.C" "previous")) := by
  have hloadable : EntryName.isLoadable "a.b/C.class" = true := by decide
  have hqualified : EntryName.qualified? "a.b/C.class" = some "a.b.C" := by decide
  have hreads : EntryName.ofQualified "a.b.C" = "a/b/C.class" := by decide
  refine ⟨hloadable, hqualified, hreads, ?_, rfl⟩
  intro hiff
  have hreached := ((hiff "a.b/C.class").1 hloadable).ofQualified_eq hqualified
  rw [hreads] at hreached
  exact absurd hreached (by decide)

end Rebuild
