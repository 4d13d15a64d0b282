import Mathlib.Data.List.Count
import Rebuild.Proofs.IdleEntries
import Rebuild.Proofs.PathSegments

/-!
# Files below a directory

A class directory is asked for the file of a class at a path that is joined from its own and the
name of the class. Unless that name starts at the root, the path leads through the directory and
from there only further down.
-/

namespace Rebuild

/-! ## Paths -/

namespace Path

/-- The path starts where the directory does and names more, with no way back up. -/
structure IsBelow (path directory : Path) : Prop where
  isAbsolute : path.isAbsolute = directory.isAbsolute
  names : ∃ inner, inner ≠ [] ∧ [dot, dot] ∉ inner ∧ path.names = directory.names ++ inner

theorem isAbsolute_join {directory path : Path} (hrelative : path.isAbsolute = false) :
    (directory.join path).isAbsolute = directory.isAbsolute := by
  obtain ⟨places⟩ := directory
  unfold join
  rw [hrelative, if_neg Bool.false_ne_true]
  cases places with
  | nil => exact hrelative
  | cons place places => split <;> rfl

theorem join_isBelow {directory path : Path} (hrelative : path.isAbsolute = false)
    (hnames : path.names ≠ []) (hdown : [dot, dot] ∉ path.names) :
    (directory.join path).IsBelow directory :=
  ⟨isAbsolute_join hrelative, path.names, hnames, hdown, names_join hrelative⟩

theorem ne_of_mem_names {path : Path} {name : List Utf8.Piece} (h : name ∈ path.names) :
    name ≠ [] ∧ name ≠ [dot] := by
  have hname := (List.mem_filter.1 h).2
  rw [Bool.and_eq_true, bne_iff_ne, Bool.not_eq_true', List.isEmpty_eq_false_iff] at hname
  exact hname

end Path

/-! ## The way to a file -/

namespace FileSystem

variable {files : FileSystem} {place found : Place} {segments : List (List Utf8.Piece)}

/-- The path leads to a file in the place of the directory or further down. -/
def HasBelow (files : FileSystem) (directory path : Path) : Prop :=
  ∃ place inner identity, inner ≠ [] ∧
    files.walk (files.start directory) directory.segments = .ok place ∧
    files.walk (files.start path) path.segments = .ok (place ++ inner) ∧
    files.node? (place ++ inner) = some (.file identity)

theorem walk_append (front back : List (List Utf8.Piece)) :
    files.walk place (front ++ back) =
      files.walk place front >>= fun between => files.walk between back := by
  induction front generalizing place with
  | nil => rfl
  | cons segment front ih =>
    rw [List.cons_append, walk, walk]
    split
    · rfl
    · rfl
    · split
      · exact ih
      split
      · exact ih
      split
      · rfl
      split
      · rfl
      · exact ih

theorem walk_cons (segment : List Utf8.Piece) :
    files.walk place (segment :: segments) =
      files.walk place [segment] >>= fun between => files.walk between segments :=
  walk_append [segment] segments

theorem node?_of_walk_cons {segment : List Utf8.Piece}
    (h : files.walk place (segment :: segments) = .ok found) :
    files.node? place = some .directory := by
  rw [walk] at h
  split at h
  · cases h
  · cases h
  · assumption

theorem node?_of_walk (hfound : files.node? found = some .directory)
    (h : files.walk place segments = .ok found) : files.node? place = some .directory := by
  cases segments with
  | nil => exact Except.ok.inj h ▸ hfound
  | cons segment segments => exact node?_of_walk_cons h

theorem walk_nothing {segment : List Utf8.Piece} (hplace : files.node? place = some .directory)
    (hnothing : segment = [] ∨ segment = [Path.dot]) : files.walk place [segment] = .ok place := by
  rw [walk, hplace]
  simp only [hnothing, Bool.or_eq_true, decide_eq_true_eq, ↓reduceIte]
  rfl

theorem walk_name {segment : List Utf8.Piece} (hname : segment ≠ [] ∧ segment ≠ [Path.dot])
    (hparent : segment ≠ [Path.dot, Path.dot]) (h : files.walk place [segment] = .ok found) :
    found = place ++ [segment] := by
  rw [walk, node?_of_walk_cons h] at h
  simp only [hname.1, hname.2, hparent, decide_false, Bool.or_self, Bool.false_eq_true,
    ↓reduceIte] at h
  split at h
  · exact nomatch h
  split at h
  · exact nomatch h
  · exact (Except.ok.inj h).symm

theorem walk_filter (h : files.walk place segments = .ok found) :
    files.walk place (segments.filter fun segment => !segment.isEmpty && segment != [Path.dot]) =
      .ok found := by
  induction segments generalizing place with
  | nil => exact h
  | cons segment segments ih =>
    have hplace := node?_of_walk_cons h
    rw [walk_cons] at h
    obtain ⟨between, hfirst, hothers⟩ := exists_of_bind_eq_ok h
    by_cases hnothing : segment = [] ∨ segment = [Path.dot]
    · rw [walk_nothing hplace hnothing] at hfirst
      obtain rfl := Except.ok.inj hfirst
      rw [List.filter_cons_of_neg (by rcases hnothing with rfl | rfl <;> simp)]
      exact ih hothers
    · rw [not_or] at hnothing
      rw [List.filter_cons_of_pos (by simpa using hnothing), walk_cons, hfirst]
      exact ih hothers

theorem walk_of_filter (hfound : files.node? found = some .directory)
    (h : files.walk place
      (segments.filter fun segment => !segment.isEmpty && segment != [Path.dot]) = .ok found) :
    files.walk place segments = .ok found := by
  induction segments generalizing place with
  | nil => exact h
  | cons segment segments ih =>
    by_cases hnothing : segment = [] ∨ segment = [Path.dot]
    · rw [List.filter_cons_of_neg (by rcases hnothing with rfl | rfl <;> simp)] at h
      have hplace := node?_of_walk hfound h
      rw [walk_cons, walk_nothing hplace hnothing]
      exact ih h
    · rw [not_or] at hnothing
      rw [List.filter_cons_of_pos (by simpa using hnothing), walk_cons] at h
      obtain ⟨between, hfirst, hothers⟩ := exists_of_bind_eq_ok h
      rw [walk_cons, hfirst]
      exact ih hothers

theorem walk_down {inner : List (List Utf8.Piece)}
    (hnames : ∀ name ∈ inner, name ≠ [] ∧ name ≠ [Path.dot])
    (hdown : [Path.dot, Path.dot] ∉ inner) (h : files.walk place inner = .ok found) :
    found = place ++ inner := by
  induction inner generalizing place with
  | nil => exact (List.append_nil place ▸ Except.ok.inj h).symm
  | cons name inner ih =>
    obtain ⟨hname, hothers⟩ := List.forall_mem_cons.1 hnames
    rw [List.mem_cons, not_or] at hdown
    rw [walk_cons] at h
    obtain ⟨between, hfirst, hrest⟩ := exists_of_bind_eq_ok h
    obtain rfl := walk_name hname (Ne.symm hdown.1) hfirst
    rw [ih hothers hdown.2 hrest, List.append_assoc, List.singleton_append]

theorem walk_of_find {path : Path} {node : FileNode} (h : files.find path = .ok node) :
    ∃ found, files.walk (files.start path) path.segments = .ok found ∧
      files.node? found = some node := by
  unfold find at h
  split at h
  · exact nomatch h
  · obtain ⟨found, hwalk, h⟩ := exists_of_bind_eq_ok h
    refine ⟨found, hwalk, ?_⟩
    split at h
    · next hnode => exact Except.ok.inj h ▸ hnode
    · exact nomatch h

theorem hasBelow_of_find {directory path : Path} {identity : FileIdentity}
    (hbelow : path.IsBelow directory) (h : files.find path = .ok (.file identity)) :
    files.HasBelow directory path := by
  obtain ⟨found, hwalk, hnode⟩ := walk_of_find h
  obtain ⟨inner, hinner, hdown, hnames⟩ := hbelow.names
  have hstart : files.start path = files.start directory := by
    unfold start
    rw [hbelow.isAbsolute]
  -- By names alone the way to the file goes on where the way to the directory ends.
  have hwalked : files.walk (files.start directory) (directory.names ++ inner) = .ok found := by
    rw [← hnames, ← hstart]
    exact walk_filter hwalk
  rw [walk_append] at hwalked
  obtain ⟨place, hdirectory, hrest⟩ := exists_of_bind_eq_ok hwalked
  have hplace : files.node? place = some .directory := by
    obtain ⟨name, others, rfl⟩ := List.exists_cons_of_ne_nil hinner
    exact node?_of_walk_cons hrest
  have hmem : ∀ name ∈ inner, name ≠ [] ∧ name ≠ [Path.dot] := fun name hname =>
    Path.ne_of_mem_names (hnames ▸ List.mem_append_right directory.names hname)
  obtain rfl := walk_down hmem hdown hrest
  exact ⟨place, inner, identity, hinner, walk_of_filter hplace hdirectory, hwalk, hnode⟩

end FileSystem

/-! ## The file of a class -/

namespace EntryName

open ClassName

theorem count_dot_ofQualified (name : String) : (ofQualified name).toList.count '.' = 1 := by
  have hslashed : '.' ∉ name.toList.map slashed := by
    intro hdot
    obtain ⟨c, -, hc⟩ := List.mem_map.1 hdot
    exact slashed_ne_dot c hc
  rw [toList_ofQualified, List.count_append, List.count_eq_zero_of_not_mem hslashed]
  decide

theorem head?_ne_slash_of_isLoadable {entry : String} (h : isLoadable entry = true) :
    entry.toList.head? ≠ some '/' := by
  obtain ⟨internal, hinternal, hentry⟩ := (isLoadable_iff entry).1 h
  obtain ⟨name, hname, rfl⟩ := Option.map_eq_some_iff.1 hinternal
  intro hslash
  obtain ⟨rest, hrest⟩ := List.head?_eq_some_iff.1 hslash
  -- The slash is dropped, so the entry of the class is shorter than this one.
  have hback := (Option.filter_eq_some_iff.1 hname).1
  rw [dropFront?_eq_some.2 hrest, Option.getD_some, dropBack?_eq_some] at hback
  have hlength := congrArg List.length (hrest.symm.trans (congrArg String.toList hentry))
  rw [toList_ofInternal, String.toList_ofList, ← hback, List.length_cons] at hlength
  omega

theorem IsReached.not_isRooted {entry qualified : String} (h : IsReached entry)
    (hqualified : qualified? entry = some qualified) : ¬ IsRooted qualified := by
  rw [← head?_ofQualified_eq_slash_iff, h.ofQualified_eq hqualified]
  exact head?_ne_slash_of_isLoadable ((isReached_iff entry).1 h).1

end EntryName

namespace Path

/-- The path at which a class directory is asked for a class. -/
def classFile (directory : Path) (name : String) : Path :=
  directory.join (.ofString (EntryName.ofQualified name))

theorem isAbsolute_ofQualified_iff (name : String) :
    (ofString (EntryName.ofQualified name)).isAbsolute = true ↔ ClassName.IsRooted name := by
  rw [isAbsolute_ofString, beq_iff_eq, EntryName.head?_ofQualified_eq_slash_iff]

theorem names_ofQualified_ne_nil (name : String) :
    (ofString (EntryName.ofQualified name)).names ≠ [] := by
  have hletter : Utf8.Piece.char 'c' ∈ (ofString (EntryName.ofQualified name)).places := by
    unfold ofString
    rw [EntryName.toList_ofQualified]
    exact List.mem_map_of_mem (List.mem_append_right _ (by decide))
  obtain ⟨segment, hsegment, hmem⟩ := exists_mem_cut hletter (by decide : _ ≠ slash)
  refine List.ne_nil_of_mem (List.mem_filter.2 ⟨hsegment, ?_⟩)
  rw [Bool.and_eq_true, bne_iff_ne, Bool.not_eq_true', List.isEmpty_eq_false_iff]
  refine ⟨List.ne_nil_of_mem hmem, ?_⟩
  rintro rfl
  exact absurd (List.mem_singleton.1 hmem) (by decide)

theorem parent_not_mem_names_ofQualified (name : String) :
    [dot, dot] ∉ (ofString (EntryName.ofQualified name)).names := by
  intro hmem
  -- Two dots would have to come from a text that has one.
  have htwo := (sublist_of_mem_cut (List.mem_filter.1 hmem).1).count_le dot
  have hone : (ofString (EntryName.ofQualified name)).places.count dot = 1 := by
    rw [ofString, dot, List.count_map_of_injective _ _ (fun _ _ h => Utf8.Piece.char.inj h)]
    exact EntryName.count_dot_ofQualified name
  rw [hone] at htwo
  exact absurd htwo (by decide)

theorem classFile_isBelow {name : String} (h : ¬ ClassName.IsRooted name) (directory : Path) :
    (directory.classFile name).IsBelow directory := by
  have hrelative := Bool.eq_false_iff.2 (mt (isAbsolute_ofQualified_iff name).1 h)
  exact join_isBelow hrelative (names_ofQualified_ne_nil name)
    (parent_not_mem_names_ofQualified name)

theorem classFile_of_isRooted {name : String} (h : ClassName.IsRooted name) (directory : Path) :
    directory.classFile name = .ofString (EntryName.ofQualified name) := by
  unfold classFile join
  rw [if_pos ((isAbsolute_ofQualified_iff name).2 h)]

theorem forall_classFile_isBelow_iff (name : String) :
    (∀ directory : Path, (directory.classFile name).IsBelow directory) ↔
      ¬ ClassName.IsRooted name := by
  refine ⟨?_, classFile_isBelow⟩
  intro hbelow hrooted
  -- The empty path is relative, and the file of the class is not.
  have hstart := (hbelow ⟨[]⟩).isAbsolute
  rw [classFile_of_isRooted hrooted, (isAbsolute_ofQualified_iff name).2 hrooted] at hstart
  exact nomatch hstart

end Path

end Rebuild
