import Rebuild.Command.Run
import Rebuild.Proofs.SteadyDisk

/-!
# Answers on a steady disk

What holds of the answer of an inquiry on each disk that shows some paths as they were. What is said
on the way does not matter, as it leaves the disk steady.
-/

namespace Rebuild

variable {ω α β : Type}

/-! ## Inquiries -/

/-- The answer is as wanted, on each disk that has the paths as the files have them. -/
def Inquiry.Ensures (files : FileSystem) (paths : List Path) (x : Inquiry α) (wanted : α → Prop) :
    Prop :=
  ∀ disk : Disk, disk.IsSteady files paths → wanted (x disk).value

namespace Inquiry.Ensures

variable {files : FileSystem} {paths : List Path} {wanted : α → Prop}

theorem pure {value : α} (h : wanted value) :
    Ensures files paths (Pure.pure value : Inquiry α) wanted :=
  fun _ _ => h

theorem bind {x : Inquiry α} {f : α → Inquiry β} {between : α → Prop} {wanted : β → Prop}
    (hx : Ensures files paths x between)
    (hf : ∀ value, between value → Ensures files paths (f value) wanted) :
    Ensures files paths (x >>= f) wanted :=
  fun disk hdisk => hf _ (hx disk hdisk) _ (hdisk.after _)

theorem skip {x : Inquiry α} {f : α → Inquiry β} {wanted : β → Prop}
    (hf : ∀ value, Ensures files paths (f value) wanted) :
    Ensures files paths (x >>= f) wanted :=
  fun disk hdisk => hf (x disk).value _ (hdisk.after _)

theorem mono {x : Inquiry α} {between : α → Prop} (hx : Ensures files paths x between)
    (h : ∀ value, between value → wanted value) : Ensures files paths x wanted :=
  fun disk hdisk => h _ (hx disk hdisk)

theorem seen :
    Ensures files paths Inquiry.files fun seen => FileSystem.AgreesOn paths files seen :=
  fun _ hdisk => hdisk.agrees

end Inquiry.Ensures

/-! ## Actions and steps -/

/-- The answer of an action is as wanted, in whatever world it starts. -/
def Act.Ensures (files : FileSystem) (paths : List Path) (x : Act ω α) (wanted : α → Prop) : Prop :=
  ∀ w : ω, Inquiry.Ensures files paths (x.run w) fun answer => wanted answer.1

namespace Act.Ensures

variable {files : FileSystem} {paths : List Path} {wanted : α → Prop}

theorem pure {value : α} (h : wanted value) :
    Ensures files paths (Pure.pure value : Act ω α) wanted :=
  fun _ => Inquiry.Ensures.pure h

theorem inquiry {x : Inquiry α} (hx : Inquiry.Ensures files paths x wanted) :
    Ensures files paths (x : Act ω α) wanted :=
  fun _ => hx.bind fun _ h => Inquiry.Ensures.pure h

theorem bind {x : Act ω α} {f : α → Act ω β} {between : α → Prop} {wanted : β → Prop}
    (hx : Ensures files paths x between)
    (hf : ∀ value, between value → Ensures files paths (f value) wanted) :
    Ensures files paths (x >>= f) wanted :=
  fun w => (hx w).bind fun answer h => hf answer.1 h answer.2

theorem skip {x : Act ω α} {f : α → Act ω β} {wanted : β → Prop}
    (hf : ∀ value, Ensures files paths (f value) wanted) :
    Ensures files paths (x >>= f) wanted :=
  fun _ => Inquiry.Ensures.skip fun answer : α × ω => hf answer.1 answer.2

theorem mono {x : Act ω α} {between : α → Prop} (hx : Ensures files paths x between)
    (h : ∀ value, between value → wanted value) : Ensures files paths x wanted :=
  fun w => (hx w).mono fun answer => h answer.1

theorem and {x : Act ω α} {also : α → Prop} (hx : Ensures files paths x wanted)
    (halso : Ensures files paths x also) :
    Ensures files paths x fun value => wanted value ∧ also value :=
  fun w disk hdisk => ⟨hx w disk hdisk, halso w disk hdisk⟩

end Act.Ensures

/-- The answer of a step is as wanted, whatever the contexts have loaded. -/
def Walk.Ensures (files : FileSystem) (paths : List Path) (x : Walk ω α) (wanted : α → Prop) :
    Prop :=
  ∀ contexts : Contexts, Act.Ensures files paths (x.run contexts) fun answer => wanted answer.1

namespace Walk.Ensures

variable {files : FileSystem} {paths : List Path} {wanted : α → Prop}

theorem pure {value : α} (h : wanted value) :
    Ensures files paths (Pure.pure value : Walk ω α) wanted :=
  fun _ => Act.Ensures.pure h

theorem act {x : Act ω α} (hx : Act.Ensures files paths x wanted) :
    Ensures files paths (x : Walk ω α) wanted :=
  fun _ => hx.bind fun _ h => Act.Ensures.pure h

theorem bind {x : Walk ω α} {f : α → Walk ω β} {between : α → Prop} {wanted : β → Prop}
    (hx : Ensures files paths x between)
    (hf : ∀ value, between value → Ensures files paths (f value) wanted) :
    Ensures files paths (x >>= f) wanted :=
  fun contexts => (hx contexts).bind fun answer h => hf answer.1 h answer.2

theorem skip {x : Walk ω α} {f : α → Walk ω β} {wanted : β → Prop}
    (hf : ∀ value, Ensures files paths (f value) wanted) :
    Ensures files paths (x >>= f) wanted :=
  fun _ => Act.Ensures.skip fun answer : α × Contexts => hf answer.1 answer.2

end Walk.Ensures

/-! ## Jars -/

namespace Jar

variable {files seen : FileSystem} {paths : List Path} {path : Path} {jar : Jar}

theorem load_eq_ok_iff :
    Jar.load files path = .ok jar ↔ jar.path = path ∧ files.lookup? path = some (.file jar.file) ∧
      Zip.entriesOf (files.content jar.file) = .ok jar.entries := by
  rw [← FileSystem.findFile_eq_ok_iff]
  unfold Jar.load
  constructor
  · intro h
    split at h
    · exact nomatch h
    · exact nomatch h
    · next file hfile =>
      split at h
      · next entries hentries =>
        obtain rfl := Except.ok.inj h
        exact ⟨rfl, hfile, hentries⟩
      · exact nomatch h
  · rintro ⟨rfl, hfile, hentries⟩
    simp only [hfile, hentries]

theorem load_eq_of_content_eq (hfind : files.find path = seen.find path)
    (hcontent : ∀ identity, files.lookup? path = some (.file identity) →
      files.content identity = seen.content identity) :
    Jar.load files path = Jar.load seen path := by
  unfold Jar.load
  rw [← FileSystem.findFile_eq_of_find_eq hfind]
  cases hfile : files.findFile path with
  | error error => cases error <;> rfl
  | ok identity => simp only [hcontent identity (FileSystem.findFile_eq_ok_iff.1 hfile)]

theorem load_eq_ok_iff_of_agreesOn (h : FileSystem.AgreesOn paths files seen)
    (hmem : path ∈ paths) :
    Jar.load seen path = .ok jar ↔ Jar.load files path = .ok jar := by
  obtain ⟨hlookup, hcontent⟩ := h path hmem
  rw [load_eq_ok_iff, load_eq_ok_iff, ← hlookup]
  refine and_congr_right fun _ => and_congr_right fun hfile => ?_
  rw [hcontent jar.file hfile]

theorem archive_eq_of_agreesOn (h : FileSystem.AgreesOn paths files seen) (hmem : path ∈ paths)
    (hload : Jar.load files path = .ok jar) : jar.archive seen = jar.archive files := by
  unfold archive
  rw [(h path hmem).2 jar.file (load_eq_ok_iff.1 hload).2.1]

theorem record_eq_of_agreesOn (harchive : jar.archive seen = jar.archive files)
    (entry : Zip.Entry) :
    jar.record seen entry = jar.record files entry := by
  unfold record withData
  rw [harchive]

theorem acquire_ensures (hmem : path ∈ paths) :
    Inquiry.Ensures files paths (Jar.acquire path) fun result =>
      ∀ jar, result = .ok jar ↔ Jar.load files path = .ok jar := by
  unfold acquire
  refine Inquiry.Ensures.seen.bind fun seen hseen => ?_
  cases hload : Jar.load seen path with
  | error error =>
    refine Inquiry.Ensures.pure fun jar => ?_
    rw [← load_eq_ok_iff_of_agreesOn hseen hmem, hload]
  | ok opened =>
    refine Inquiry.Ensures.skip fun _ => Inquiry.Ensures.pure fun jar => ?_
    rw [← load_eq_ok_iff_of_agreesOn hseen hmem, hload]

theorem memberAt_ensures (hmem : path ∈ paths) (hload : Jar.load files path = .ok jar)
    (index : Nat) :
    Act.Ensures files paths ((ArchiveAccess.jars ω).memberAt jar index) fun result =>
      result = (jar.memberAt files index).1 := by
  refine Act.Ensures.bind (Act.Ensures.inquiry Inquiry.Ensures.seen) fun seen hseen => ?_
  refine Act.Ensures.pure ?_
  unfold memberAt
  simp only [record_eq_of_agreesOn (archive_eq_of_agreesOn hseen hmem hload)]

theorem member_ensures (hmem : path ∈ paths) (hload : Jar.load files path = .ok jar)
    (name : String) :
    Act.Ensures files paths ((ArchiveAccess.jars ω).member jar name) fun result =>
      result = (jar.member files name).1 := by
  refine Act.Ensures.bind (Act.Ensures.inquiry Inquiry.Ensures.seen) fun seen hseen => ?_
  refine Act.Ensures.pure ?_
  unfold member
  simp only [archive_eq_of_agreesOn hseen hmem hload,
    record_eq_of_agreesOn (archive_eq_of_agreesOn hseen hmem hload)]

end Jar

end Rebuild
