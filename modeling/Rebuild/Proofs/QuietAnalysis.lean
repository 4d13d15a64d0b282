import Mathlib.Data.List.Basic
import Rebuild.Command.Footprint
import Rebuild.Proofs.QuietLog
import Rebuild.Proofs.UpToDate

/-!
# One judgement of an archive

An analysis comes to one judgement on all disks that show the files: whatever the log is, the
archives are opened and asked alike, and the contexts find the same classes.
-/

namespace Rebuild

variable {ω α β : Type}

/-! ## Steps of a comparison -/

def Contexts.ReadFrom (files : FileSystem) (paths asked : List Path) (contexts : Contexts) : Prop :=
  contexts.previous.ReadsFrom files paths asked ∧ contexts.current.ReadsFrom files paths asked

/-- A step has one answer and leaves one pair of contexts, and these read from the paths if they did
before. -/
def Walk.Determines (files : FileSystem) (paths asked : List Path) (x : Walk ω α)
    (wanted : α → Prop) : Prop :=
  ∀ contexts : Contexts, contexts.ReadFrom files paths asked →
    Act.Determines files paths (x.run contexts) fun answer =>
      wanted answer.1 ∧ answer.2.ReadFrom files paths asked

namespace Walk.Determines

variable {files : FileSystem} {paths asked : List Path} {wanted : α → Prop}

theorem pure {value : α} (h : wanted value) :
    Determines files paths asked (Pure.pure value : Walk ω α) wanted :=
  fun _ hcontexts => Act.Determines.pure ⟨h, hcontexts⟩

theorem act {x : Act ω α} (hx : Act.Determines files paths x wanted) :
    Determines files paths asked (x : Walk ω α) wanted :=
  fun contexts hcontexts => hx.bind (f := fun value => Pure.pure (value, contexts))
    fun _ h => Act.Determines.pure ⟨h, hcontexts⟩

theorem bind {x : Walk ω α} {f : α → Walk ω β} {between : α → Prop} {wanted : β → Prop}
    (hx : Determines files paths asked x between)
    (hf : ∀ value, between value → Determines files paths asked (f value) wanted) :
    Determines files paths asked (x >>= f) wanted :=
  fun contexts hcontexts =>
    (hx contexts hcontexts).bind fun answer h => hf answer.1 h.1 answer.2 h.2

theorem get :
    Determines files paths asked (MonadState.get : Walk ω Contexts)
      fun contexts => contexts.ReadFrom files paths asked :=
  fun _ hcontexts => Act.Determines.pure ⟨hcontexts, hcontexts⟩

theorem set (kept : Contexts) (h : kept.ReadFrom files paths asked) :
    Determines files paths asked (MonadStateOf.set kept : Walk ω PUnit) fun _ => True :=
  fun _ _ => Act.Determines.pure ⟨trivial, h⟩

theorem said (event : LogEvent) :
    Determines files paths asked (Walk.say event : Walk ω Unit) fun _ => True :=
  act (Act.Determines.said _)

theorem loadPrevious {name : String}
    (hname : .ofString (EntryName.ofInternal (ClassName.unqualify name)) ∈ asked) :
    Determines files paths asked (Walk.loadPrevious name : Walk ω _) fun _ => True := by
  unfold Walk.loadPrevious
  refine get.bind fun contexts hcontexts => ?_
  refine (act (Act.Determines.inquiry (ClassContext.load_determines hcontexts.1 hname))).bind ?_
  rintro ⟨result, previous⟩ hprevious
  refine (set ⟨previous, contexts.current⟩ ⟨hprevious, hcontexts.2⟩).bind fun _ _ => ?_
  exact pure trivial

theorem loadCurrent {name : String}
    (hname : .ofString (EntryName.ofInternal (ClassName.unqualify name)) ∈ asked) :
    Determines files paths asked (Walk.loadCurrent name : Walk ω _) fun _ => True := by
  unfold Walk.loadCurrent
  refine get.bind fun contexts hcontexts => ?_
  refine (act (Act.Determines.inquiry (ClassContext.load_determines hcontexts.2 hname))).bind ?_
  rintro ⟨result, current⟩ hcurrent
  refine (set ⟨contexts.previous, current⟩ ⟨hcontexts.1, hcurrent⟩).bind fun _ _ => ?_
  exact pure trivial

end Walk.Determines

/-! ## What a classpath is read from -/

section Coverage

variable {files seen : FileSystem} {paths : List Path} {sides : ClasspathSides}

theorem FileSystem.isDirectory_iff (files : FileSystem) (path : Path) :
    files.isDirectory path = true ↔ files.lookup? path = some .directory := by
  rw [lookup?_eq_some_iff]
  unfold isDirectory
  rcases files.find path with error | (identity | _) <;> simp

theorem Jar.toOption_load_of_agreesOn {path : Path} (h : FileSystem.AgreesOn paths files seen)
    (hmem : path ∈ paths) : (Jar.load seen path).toOption = (Jar.load files path).toOption := by
  refine Option.ext fun jar => ?_
  rw [toOption_eq_some_iff, toOption_eq_some_iff]
  exact Jar.load_eq_ok_iff_of_agreesOn h hmem

namespace ClasspathSides

/-- The entries of the classes that archives of the previous side have. -/
def classEntries (files : FileSystem) (sides : ClasspathSides) : List Path :=
  (sides.previous.filterMap fun path => (Jar.load files path).toOption).flatMap
    Command.classEntries

/-- The paths hold those of both sides, and those at which directories are asked for classes. -/
structure IsCovered (files : FileSystem) (paths : List Path) (sides : ClasspathSides) : Prop where
  previous : ∀ path ∈ sides.previous, path ∈ paths
  current : ∀ path ∈ sides.current, path ∈ paths
  classes : ∀ directory ∈ sides.previous ++ sides.current, files.isDirectory directory = true →
    ∀ entry ∈ sides.classEntries files, directory.join entry ∈ paths

theorem mem_classEntries {files : FileSystem} (sides : ClasspathSides) {path : Path} {jar : Jar}
    (hmem : path ∈ sides.previous) (hload : Jar.load files path = .ok jar) {entry : Path}
    (hentry : entry ∈ Command.classEntries jar) : entry ∈ sides.classEntries files := by
  refine List.mem_flatMap.2 ⟨jar, List.mem_filterMap.2 ⟨path, hmem, ?_⟩, hentry⟩
  rw [hload]
  rfl

theorem IsCovered.of_agreesOn (hcovered : sides.IsCovered files paths)
    (h : FileSystem.AgreesOn paths files seen) : sides.IsCovered seen paths := by
  have hentries : sides.classEntries seen = sides.classEntries files := by
    unfold classEntries
    rw [List.filterMap_congr fun path hmem =>
      Jar.toOption_load_of_agreesOn h (hcovered.previous path hmem)]
  refine ⟨hcovered.previous, hcovered.current, ?_⟩
  intro directory hmem hdirectory
  have hpath : directory ∈ paths :=
    (List.mem_append.1 hmem).elim (hcovered.previous directory) (hcovered.current directory)
  rw [FileSystem.isDirectory_iff, ← (h directory hpath).1, ← FileSystem.isDirectory_iff]
    at hdirectory
  rw [hentries]
  exact hcovered.classes directory hmem hdirectory

end ClasspathSides

end Coverage

/-! ## One archive -/

namespace ArchiveUnit

def sides (unit : ArchiveUnit) : ClasspathSides := ⟨unit.previous.paths, unit.current.paths⟩

variable {files : FileSystem} {paths asked : List Path} {unit : ArchiveUnit}

/-- The entry that a class of a snapshot is looked for at. -/
def IsAsked (asked : List Path) (member : Member) : Prop :=
  ∀ qualified, member.qualified? = some qualified →
    .ofString (EntryName.ofInternal (ClassName.unqualify qualified)) ∈ asked

theorem judgeClass_determines {qualified : String}
    (hname : .ofString (EntryName.ofInternal (ClassName.unqualify qualified)) ∈ asked) :
    Walk.Determines files paths asked (judgeClass Command.workbench qualified) fun _ => True := by
  unfold judgeClass
  refine (Walk.Determines.loadPrevious hname).bind fun previous _ => ?_
  cases previous with
  | error error => exact Walk.Determines.pure trivial
  | ok previous =>
    refine (Walk.Determines.loadCurrent hname).bind fun current _ => ?_
    cases current with
    | error error => exact Walk.Determines.pure trivial
    | ok current => exact Walk.Determines.pure trivial

section Comparison

variable {snapshot : Path} {before after : Jar}

theorem judge_determines (hmem : unit.archive ∈ paths)
    (hload : Jar.load files unit.archive = .ok after) {member : Member}
    (hmember : IsAsked asked member) :
    Walk.Determines files paths asked (unit.judge Command.workbench after member)
      fun _ => True := by
  unfold judge
  cases hqualified : member.qualified? with
  | none => exact Walk.Determines.pure trivial
  | some qualified =>
    refine (Walk.Determines.act (Jar.member_determines hmem hload member.name)).bind ?_
    intro found _
    rcases found with error | (_ | counterpart)
    · exact Walk.Determines.pure trivial
    · exact Walk.Determines.pure trivial
    · simp only
      split
      · exact Walk.Determines.pure trivial
      · refine (Walk.Determines.said _).bind fun _ _ => ?_
        cases nameCause? member with
        | some cause => exact Walk.Determines.pure trivial
        | none => exact judgeClass_determines (hmember qualified hqualified)

theorem settle_determines (hmem : unit.archive ∈ paths)
    (hload : Jar.load files unit.archive = .ok after) {item : ArchiveAccess.Item}
    (hitem : ∀ member, item = .ok member → IsAsked asked member) :
    Walk.Determines files paths asked (unit.settle Command.workbench after item)
      fun _ => True := by
  unfold settle
  cases item with
  | error error => exact Walk.Determines.pure trivial
  | ok member =>
    refine (judge_determines hmem hload (hitem member rfl)).bind fun result _ => ?_
    rcases result with error | (_ | cause) <;> exact Walk.Determines.pure trivial

theorem isAsked_of_memberAt {index : Nat} {member : Member}
    (hasked : ∀ entry ∈ Command.classEntries before, entry ∈ asked)
    (hmember : (before.memberAt files index).1 = .ok (some member)) : IsAsked asked member := by
  intro qualified hqualified
  apply hasked
  obtain ⟨entry, hmem, hname⟩ := Jar.exists_entry_of_memberAt hmember
  refine List.mem_map_of_mem (List.mem_filterMap.2 ⟨entry, hmem, ?_⟩)
  rw [hname]
  exact hqualified

theorem visit_determines (hsnapshot : snapshot ∈ paths)
    (hbefore : Jar.load files snapshot = .ok before) (hmem : unit.archive ∈ paths)
    (hafter : Jar.load files unit.archive = .ok after)
    (hasked : ∀ entry ∈ Command.classEntries before, entry ∈ asked) (indices : List Nat) :
    Walk.Determines files paths asked
      (Command.workbench.access.visit before (unit.settle Command.workbench after) indices)
      fun _ => True := by
  -- The contexts change from entry to entry; that they read from the paths is what carries over.
  induction indices with
  | nil => exact Walk.Determines.pure trivial
  | cons index indices ih =>
    rw [ArchiveAccess.visit_cons]
    refine (Walk.Determines.act (Jar.memberAt_determines hsnapshot hbefore index)).bind ?_
    intro entry hentry
    cases hshown : ArchiveAccess.shown? entry with
    | none => exact ih
    | some item =>
      refine (settle_determines hmem hafter fun member hmember => ?_).bind fun settled _ => ?_
      · exact isAsked_of_memberAt hasked
          (hentry.symm.trans (ArchiveAccess.eq_of_shown?_eq_ok (hmember ▸ hshown)))
      · cases settled with
        | some answer => exact Walk.Determines.pure trivial
        | none => exact ih

theorem compareReaders_determines (hsnapshot : snapshot ∈ paths)
    (hbefore : Jar.load files snapshot = .ok before) (hmem : unit.archive ∈ paths)
    (hafter : Jar.load files unit.archive = .ok after)
    (hasked : ∀ entry ∈ Command.classEntries before, entry ∈ asked) :
    Walk.Determines files paths asked (unit.compareReaders Command.workbench before after)
      fun _ => True := by
  unfold compareReaders
  refine (Walk.Determines.said _).bind fun _ _ => ?_
  refine (visit_determines hsnapshot hbefore hmem hafter hasked _).bind fun settled _ => ?_
  refine Walk.Determines.get.bind fun contexts _ => ?_
  refine (Walk.Determines.said _).bind fun _ _ => (Walk.Determines.said _).bind fun _ _ => ?_
  exact Walk.Determines.pure trivial

theorem withReader_determines {path : Path}
    {use : Jar → Walk Unit (Except AnalysisError Verdict)} (hmem : path ∈ paths)
    (huse : ∀ jar, Jar.load files path = .ok jar →
      Walk.Determines files paths asked (use jar) fun _ => True) :
    Walk.Determines files paths asked (Command.workbench.access.withReader path use)
      fun _ => True := by
  unfold ArchiveAccess.withReader
  refine (Walk.Determines.act (Act.Determines.inquiry (Jar.acquire_determines hmem))).bind ?_
  intro opened hopened
  cases opened with
  | error error => exact Walk.Determines.pure trivial
  | ok jar =>
    refine (huse jar hopened.symm).bind fun result _ => ?_
    refine (Walk.Determines.act (Act.Determines.said _)).bind ?_
    exact fun _ _ => Walk.Determines.pure trivial

end Comparison

section Units

variable {snapshot : Path} (hcovered : unit.sides.IsCovered files paths)
  (hmem : unit.archive ∈ unit.current.paths)

include hcovered hmem

theorem compareWith_determines (hsnapshot : snapshot ∈ unit.previous.paths) :
    Act.Determines files paths (unit.compareWith Command.workbench snapshot) fun _ => True := by
  have hopens : snapshot ∈ paths := hcovered.previous snapshot hsnapshot
  have harchive : unit.archive ∈ paths := hcovered.current unit.archive hmem
  have hclasses := List.forall_mem_append.1 hcovered.classes
  unfold compareWith
  -- Only this snapshot is walked, but the contexts are good for the classes of all of them.
  refine (Act.Determines.inquiry
    (ClassContext.create_determines "previous" hcovered.previous hclasses.1)).bind ?_
  intro previous hprevious
  refine (Act.Determines.inquiry
    (ClassContext.create_determines "current" hcovered.current hclasses.2)).bind ?_
  intro current hcurrent
  have hbody := withReader_determines hopens
    fun before (hbefore : Jar.load files snapshot = .ok before) =>
      withReader_determines harchive fun after (hafter : Jar.load files unit.archive = .ok after) =>
        compareReaders_determines hopens hbefore harchive hafter fun entry hentry =>
          unit.sides.mem_classEntries hsnapshot hbefore hentry
  refine (hbody ⟨previous, current⟩ ⟨hprevious, hcurrent⟩).bind fun answer _ => ?_
  refine (Act.Determines.said _).bind fun _ _ => ?_
  refine (Act.Determines.said _).bind fun _ _ => ?_
  exact Act.Determines.pure trivial

theorem run_determines (hsnapshot : ∀ snapshot ∈ unit.snapshot, snapshot ∈ unit.previous.paths) :
    Act.Determines files paths (unit.run Command.workbench) fun _ => True := by
  unfold run
  refine Act.Determines.look (fun seen hseen => by rw [hseen.doesExist_eq]) ?_
  cases hfound : unit.snapshot.filter files.doesExist with
  | none =>
    refine (Act.Determines.said _).bind fun _ _ => ?_
    exact Act.Determines.pure trivial
  | some snapshot =>
    exact compareWith_determines hcovered hmem
      (hsnapshot snapshot (Option.filter_eq_some_iff.1 hfound).1)

theorem analyze_determines
    (hsnapshot : ∀ snapshot ∈ unit.snapshot, snapshot ∈ unit.previous.paths) :
    Act.Determines files paths (unit.analyze Command.workbench) fun _ => True := by
  unfold analyze
  cases unit.verdict with
  | some verdict => exact Act.Determines.pure trivial
  | none =>
    refine (run_determines hcovered hmem hsnapshot).bind fun result _ => ?_
    rcases result with error | (_ | cause)
    · exact Act.Determines.pure trivial
    · exact Act.Determines.pure trivial
    · refine (Act.Determines.said _).bind fun _ _ => ?_
      exact Act.Determines.pure trivial

end Units

theorem create_determines (previous current : ResourceSet) {archive : Path} {name : String}
    (hname : Baseline.fileName? archive = some name) :
    Inquiry.Determines files paths (create previous current archive) fun created =>
      created = .ok ⟨previous, current, archive, previous.findByFileName? name, none⟩ := by
  unfold create
  rw [hname]
  exact (Inquiry.Determines.said _).bind fun _ _ => Inquiry.Determines.pure rfl

end ArchiveUnit

end Rebuild
