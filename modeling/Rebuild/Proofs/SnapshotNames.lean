import Rebuild.Proofs.Descriptors
import Rebuild.Proofs.Evaluation
import Rebuild.Proofs.PathSegments

/-!
# Names that tell snapshots apart

The name of a snapshot is a number, a dash and the name of a file. The number is read back from its
digits, so the name says both, although names of files may hold digits and dashes of their own. It
is also a name that ends a path, so a snapshot is found in whatever directory it lies.
-/

namespace Rebuild

/-! ## A number in front of a dash -/

section Dash

variable {m n : Nat} {i j : Int} {s t : List Char}

theorem dash_not_mem_toDigits (n : Nat) : '-' ∉ Nat.toDigits 10 n := by
  intro hdash
  have hdigit := Nat.isDigit_of_mem_toDigits (by decide) (by decide) hdash
  exact absurd hdigit (by decide)

theorem eq_of_digits_dash (h : Nat.toDigits 10 m ++ '-' :: s = Nat.toDigits 10 n ++ '-' :: t) :
    m = n ∧ s = t := by
  have hcut := congrArg (cutFirst? '-') h
  rw [cutFirst?_append_cons (dash_not_mem_toDigits m),
    cutFirst?_append_cons (dash_not_mem_toDigits n)] at hcut
  obtain ⟨hdigits, hrest⟩ := Prod.mk.inj (Option.some.inj hcut)
  have hnumber := congrArg (fun digits => Nat.ofDigitChars 10 digits 0) hdigits
  exact ⟨by simpa using hnumber, hrest⟩

theorem digits_ne_dash_cons (n : Nat) : Nat.toDigits 10 n ++ s ≠ '-' :: t := by
  obtain ⟨digit, digits, hdigits⟩ :=
    List.exists_cons_of_ne_nil (Nat.toDigits_ne_nil (n := n) (b := 10))
  have hdash := dash_not_mem_toDigits n
  rw [hdigits] at hdash ⊢
  intro heq
  obtain ⟨rfl, -⟩ := List.cons.inj heq
  exact hdash List.mem_cons_self

theorem toList_toString_ofNat (n : Nat) :
    (toString (Int.ofNat n)).toList = Nat.toDigits 10 n :=
  Nat.toList_repr

theorem toList_toString_negSucc (n : Nat) :
    (toString (Int.negSucc n)).toList = '-' :: Nat.toDigits 10 (n + 1) := by
  change ("-" ++ (n + 1).repr).toList = _
  rw [String.toList_append, Nat.toList_repr]
  rfl

theorem eq_of_number_dash (h : (toString i).toList ++ '-' :: s = (toString j).toList ++ '-' :: t) :
    i = j ∧ s = t := by
  -- The first dash may be a sign; it is the one behind the number exactly if a digit comes first.
  cases i with
  | ofNat m =>
    cases j with
    | ofNat n =>
      rw [toList_toString_ofNat, toList_toString_ofNat] at h
      obtain ⟨rfl, hrest⟩ := eq_of_digits_dash h
      exact ⟨rfl, hrest⟩
    | negSucc n =>
      rw [toList_toString_ofNat, toList_toString_negSucc] at h
      exact absurd h (digits_ne_dash_cons m)
  | negSucc m =>
    cases j with
    | ofNat n =>
      rw [toList_toString_ofNat, toList_toString_negSucc] at h
      exact absurd h.symm (digits_ne_dash_cons n)
    | negSucc n =>
      rw [toList_toString_negSucc, toList_toString_negSucc] at h
      obtain ⟨hnumber, hrest⟩ := eq_of_digits_dash (List.cons.inj h).2
      exact ⟨congrArg Int.negSucc (Nat.succ.inj hnumber), hrest⟩

end Dash

/-! ## Names of files -/

namespace Path

variable {path : Path} {segment : List Utf8.Piece} {text : String}

theorem mapM_char?_eq_some_iff {l : List Char} :
    segment.mapM Utf8.Piece.char? = some l ↔ segment = l.map .char := by
  induction segment generalizing l with
  | nil => cases l <;> simp
  | cons place segment ih =>
    rw [List.mapM_cons]
    cases place with
    | broken bytes =>
      cases l <;> simp [Utf8.Piece.char?]
    | char c =>
      simp only [Utf8.Piece.char?, Option.bind_eq_bind, Option.bind_some, Option.bind_eq_some_iff,
        ih, Option.pure_def, Option.some.injEq]
      constructor
      · rintro ⟨chars, rfl, rfl⟩
        rfl
      · intro h
        obtain ⟨d, chars, rfl, hd, rfl⟩ := List.map_eq_cons_iff.1 h.symm
        exact ⟨chars, rfl, by rw [Utf8.Piece.char.inj hd]⟩

theorem text?_eq_some_iff : text? segment = some text ↔ segment = text.toList.map .char := by
  unfold text?
  simp only [Option.map_eq_some_iff, mapM_char?_eq_some_iff]
  constructor
  · rintro ⟨l, rfl, rfl⟩
    rw [String.toList_ofList]
  · rintro rfl
    exact ⟨text.toList, rfl, String.ofList_toList⟩

theorem slash_not_mem_of_fileName? (h : path.fileName? = some segment) : slash ∉ segment :=
  not_mem_of_mem_cut (mem_segments_of_fileName? h)

/-- The text is the name of what a path leads to, and no way to it. -/
structure IsName (text : String) : Prop where
  slash : '/' ∉ text.toList
  ne_empty : text ≠ ""
  ne_dot : text ≠ "."
  ne_parent : text ≠ ".."

theorem map_char_inj {other : String} :
    text.toList.map Utf8.Piece.char = other.toList.map .char ↔ text = other := by
  rw [List.map_inj_right fun _ _ => Utf8.Piece.char.inj]
  exact String.toList_inj

theorem map_char_ne {other : String} (h : text ≠ other) :
    text.toList.map Utf8.Piece.char ≠ other.toList.map .char :=
  mt map_char_inj.1 h

theorem IsName.slash_not_mem (h : IsName text) :
    Path.slash ∉ text.toList.map Utf8.Piece.char := by
  simpa [Path.slash] using h.slash

theorem IsName.isAbsolute_ofString (h : IsName text) : (ofString text).isAbsolute = false := by
  unfold isAbsolute ofString
  rw [beq_eq_false_iff_ne]
  exact fun hhead => h.slash_not_mem (List.mem_of_head? hhead)

theorem IsName.names_ofString (h : IsName text) :
    (ofString text).names = [text.toList.map .char] := by
  have hempty : text.toList.map Utf8.Piece.char ≠ [] := map_char_ne h.ne_empty
  have hdot : text.toList.map Utf8.Piece.char ≠ [Path.dot] := map_char_ne h.ne_dot
  unfold names segments ofString
  rw [cut_eq_singleton h.slash_not_mem, List.filter_cons_of_pos, List.filter_nil]
  rw [Bool.and_eq_true, bne_iff_ne, Bool.not_eq_true', List.isEmpty_eq_false_iff]
  exact ⟨hempty, hdot⟩

theorem IsName.fileName?_join (h : IsName text) (directory : Path) (k : Nat) :
    fileName? ⟨(directory.join (ofString text)).places ++ List.replicate k Path.slash⟩ =
      some (text.toList.map .char) := by
  have hnames : (directory.join (ofString text)).names =
      directory.names ++ [text.toList.map .char] := by
    rw [names_join h.isAbsolute_ofString, h.names_ofString]
  have hparent : text.toList.map Utf8.Piece.char ≠ [Path.dot, Path.dot] :=
    map_char_ne h.ne_parent
  exact fileName?_of_names ((names_append_slashes _ k).trans hnames) hparent

end Path

namespace ResourceSet

theorem findByFileName?_eq_some_iff {set : ResourceSet} {name : String} {path : Path} :
    set.findByFileName? name = some path ↔
      ∃ before after, set.paths = before ++ path :: after ∧
        path.fileName? = some (name.toList.map .char) ∧
        ∀ earlier ∈ before, earlier.fileName? ≠ some (name.toList.map .char) := by
  unfold findByFileName?
  rw [List.find?_eq_some_iff_append]
  simp only [beq_iff_eq, Bool.not_eq_true', beq_eq_false_iff_ne]
  constructor
  · rintro ⟨hname, before, after, hpaths, hbefore⟩
    exact ⟨before, after, hpaths, hname, hbefore⟩
  · rintro ⟨before, after, hpaths, hname, hbefore⟩
    exact ⟨hname, before, after, hpaths, hbefore⟩

theorem isSome_findByFileName? {set : ResourceSet} {name : String} {path : Path}
    (hmem : path ∈ set.paths) (hname : path.fileName? = some (name.toList.map .char)) :
    (set.findByFileName? name).isSome := by
  unfold findByFileName?
  rw [List.find?_isSome]
  exact ⟨path, hmem, by rw [hname, beq_self_eq_true]⟩

end ResourceSet

namespace ArchiveUnit

theorem create_value (previous current : ResourceSet) {archive : Path} {name : String}
    (h : Baseline.fileName? archive = some name) (disk : Disk) :
    (create previous current archive disk).value =
      .ok { previous, current, archive, snapshot := previous.findByFileName? name } := by
  unfold create
  rw [h, Inquiry.value_bind]
  rfl

end ArchiveUnit

namespace Baseline

variable {archive other : Path} {name otherName : String}

theorem fileName?_eq_some_iff :
    fileName? archive = some name ↔
      ∃ base : String, archive.fileName? = some (base.toList.map .char) ∧
        name = toString (pathHash archive).abs.toInt ++ "-" ++ base := by
  unfold fileName?
  simp only [Option.bind_eq_bind, Option.bind_eq_some_iff, Path.text?_eq_some_iff,
    Option.pure_def, Option.some.injEq]
  constructor
  · rintro ⟨segment, hsegment, base, rfl, rfl⟩
    exact ⟨base, hsegment, rfl⟩
  · rintro ⟨base, hbase, rfl⟩
    exact ⟨_, hbase, base, rfl, rfl⟩

theorem toList_number_dash (i : Int) (base : String) :
    (toString i ++ "-" ++ base).toList = (toString i).toList ++ '-' :: base.toList := by
  rw [String.toList_append, String.toList_append, List.append_assoc]
  rfl

theorem slash_not_mem_number (i : Int) : '/' ∉ (toString i).toList := by
  have hdigits : ∀ n, '/' ∉ Nat.toDigits 10 n := by
    intro n hslash
    have hdigit := Nat.isDigit_of_mem_toDigits (by decide) (by decide) hslash
    exact absurd hdigit (by decide)
  cases i with
  | ofNat n => exact toList_toString_ofNat n ▸ hdigits n
  | negSucc n =>
    rw [toList_toString_negSucc, List.mem_cons, not_or]
    exact ⟨by decide, hdigits (n + 1)⟩

theorem isName (h : fileName? archive = some name) : Path.IsName name := by
  obtain ⟨base, hbase, rfl⟩ := fileName?_eq_some_iff.1 h
  have hslash : Path.slash ∉ base.toList.map Utf8.Piece.char :=
    Path.slash_not_mem_of_fileName? hbase
  -- The dash is in the name, so it is neither empty nor made of dots.
  have hdash : '-' ∈ (toString (pathHash archive).abs.toInt ++ "-" ++ base).toList := by
    simp
  refine ⟨?_, ?_, ?_, ?_⟩
  · rw [toList_number_dash, List.mem_append, List.mem_cons, not_or, not_or]
    exact ⟨slash_not_mem_number _, by decide, by simpa [Path.slash] using hslash⟩
  all_goals
    intro heq
    rw [heq] at hdash
    exact absurd hdash (by decide)

theorem fileName?_eq_iff (h : fileName? archive = some name)
    (hother : fileName? other = some otherName) :
    name = otherName ↔
      archive.fileName? = other.fileName? ∧ (pathHash archive).abs = (pathHash other).abs := by
  obtain ⟨base, hbase, rfl⟩ := fileName?_eq_some_iff.1 h
  obtain ⟨otherBase, hotherBase, rfl⟩ := fileName?_eq_some_iff.1 hother
  rw [hbase, hotherBase]
  constructor
  · intro heq
    have hlist := congrArg String.toList heq
    rw [toList_number_dash, toList_number_dash] at hlist
    obtain ⟨hnumber, hrest⟩ := eq_of_number_dash hlist
    exact ⟨by rw [hrest], Int32.toInt_inj.1 hnumber⟩
  · rintro ⟨hsame, hhash⟩
    obtain rfl := Path.map_char_inj.1 (Option.some.inj hsame)
    rw [hhash]

/-- Archives share the name of their snapshot exactly if they share the name of their file and the
number. The name is one name of a path, so the snapshot is found in every directory, whatever
slashes end the path of it, and it is the first path with that name. -/
theorem snapshot_names_tell_apart (h : fileName? archive = some name)
    (hother : fileName? other = some otherName) :
    (name = otherName ↔
      archive.fileName? = other.fileName? ∧ (pathHash archive).abs = (pathHash other).abs) ∧
    Path.IsName name ∧
    ∀ (previous current : ResourceSet) (disk : Disk), ∃ snapshot,
      (ArchiveUnit.create previous current archive disk).value =
        .ok { previous, current, archive, snapshot } ∧
      (∀ (directory : Path) (k : Nat),
        ⟨(directory.join (.ofString name)).places ++ List.replicate k Path.slash⟩ ∈
            previous.paths → snapshot.isSome) ∧
      ∀ path, snapshot = some path ↔
        ∃ before after, previous.paths = before ++ path :: after ∧
          path.fileName? = some (name.toList.map .char) ∧
          ∀ earlier ∈ before, earlier.fileName? ≠ some (name.toList.map .char) := by
  refine ⟨fileName?_eq_iff h hother, isName h, fun previous current disk => ?_⟩
  refine ⟨previous.findByFileName? name, ArchiveUnit.create_value previous current h disk, ?_, ?_⟩
  · intro directory k hmem
    exact ResourceSet.isSome_findByFileName? hmem ((isName h).fileName?_join directory k)
  · exact fun path => ResourceSet.findByFileName?_eq_some_iff

/-- Two directories with the same hash, the least one, and a file name that looks like a number
with a dash. -/
theorem least_hash_tells_apart :
    let archive : Path := .ofString "/Aa/ikdtmtv/1-2.jar"
    let other : Path := .ofString "/BB/ikdtmtv/1-2.jar"
    let name := "-2147483648-1-2.jar"
    let kept : Path := .ofString "/old/-2147483648-1-2.jar//"
    let previous : ResourceSet := ⟨[.ofString "/old/2-1-2.jar", kept]⟩
    pathHash archive = Int32.minValue ∧ fileName? archive = some name ∧
      fileName? other = some name ∧ Path.IsName name ∧
      (archive.fileName? = other.fileName? ∧ (pathHash archive).abs = (pathHash other).abs) ∧
      ∃ unit, (ArchiveUnit.create previous ⟨[archive]⟩ archive (.still (.empty []))).value =
        .ok unit ∧ unit.snapshot.isSome ∧ unit.snapshot = some kept := by
  intro archive other name kept previous
  have h : fileName? archive = some name := by decide
  have hother : fileName? other = some name := by decide
  obtain ⟨hsame, hname, hfound⟩ := snapshot_names_tell_apart h hother
  obtain ⟨snapshot, hcreate, hsome, hfirst⟩ := hfound previous ⟨[archive]⟩ (.still (.empty []))
  have hkept := hsome (.ofString "/old") 2 (by decide)
  refine ⟨by decide, h, hother, hname, hsame.1 rfl, _, hcreate, hkept, (hfirst kept).2 ?_⟩
  exact ⟨[.ofString "/old/2-1-2.jar"], [], rfl, by decide, by decide⟩

end Baseline

end Rebuild
