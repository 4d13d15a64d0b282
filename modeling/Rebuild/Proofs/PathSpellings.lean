import Mathlib.Algebra.BigOperators.Fin
import Mathlib.Data.Nat.ModEq
import Mathlib.Tactic.Ring
import Rebuild.Analysis.Baseline

/-!
# Spellings of one path

A path is hashed in its shortest spelling: repeated slashes and a slash at the end say nothing. So
the name of a snapshot depends on where the path starts and on its segments alone.
-/

namespace Rebuild

theorem cut_map {α β : Type} [DecidableEq α] [DecidableEq β] {f : α → β} {separator : α}
    {other : β} (h : ∀ a, f a = other ↔ a = separator) (l : List α) :
    cut other (l.map f) = (cut separator l).map (List.map f) := by
  induction l with
  | nil => rfl
  | cons a rest ih =>
    obtain ⟨piece, pieces, hcut⟩ := List.exists_cons_of_ne_nil (cut_ne_nil separator rest)
    rw [List.map_cons, cut, cut, ih, hcut]
    by_cases ha : a = separator
    · rw [if_pos ((h a).2 ha), if_pos ha]
      rfl
    · rw [if_neg (mt (h a).1 ha), if_neg ha]
      rfl

namespace Path

def nonemptySegments (path : Path) : List (List Utf8.Piece) :=
  path.segments.filter fun segment => !segment.isEmpty

theorem names_eq (path : Path) :
    path.names = path.nonemptySegments.filter fun segment => segment != [dot] := by
  unfold names nonemptySegments
  rw [List.filter_filter]
  simp only [Bool.and_comm]

end Path

namespace Baseline

/-! ## The shortest spelling -/

def stretches (text : List Char) : List (List Char) :=
  (cut '/' text).filter fun stretch => !stretch.isEmpty

/-- The segments with one slash between them. -/
def joined (text : List Char) : List Char := ['/'].intercalate (stretches text)

/-- The slash that an absolute path starts with. -/
def lead (text : List Char) : List Char := if text.head? = some '/' then ['/'] else []

def canonical (text : List Char) : List Char := lead text ++ joined text

theorem stretches_slash_cons (rest : List Char) : stretches ('/' :: rest) = stretches rest := by
  unfold stretches
  rw [cut, if_pos rfl, List.filter_cons_of_neg (by simp)]

theorem stretches_cons {c : Char} (hc : c ≠ '/') (rest : List Char) :
    stretches (c :: rest) =
      if rest = [] ∨ rest.head? = some '/' then [c] :: stretches rest
      else match stretches rest with
        | [] => [[c]]
        | stretch :: others => (c :: stretch) :: others := by
  unfold stretches
  rw [cut, if_neg hc]
  cases rest with
  | nil => simp [cut]
  | cons d rest =>
    rw [cut]
    by_cases hd : d = '/'
    · simp [hd]
    · rw [if_neg hd]
      obtain ⟨piece, pieces, hcut⟩ := List.exists_cons_of_ne_nil (cut_ne_nil '/' rest)
      simp [hd, hcut]

theorem joined_slash_cons (rest : List Char) : joined ('/' :: rest) = joined rest := by
  rw [joined, stretches_slash_cons, joined]

theorem joined_cons {c : Char} (hc : c ≠ '/') (rest : List Char) :
    joined (c :: rest) =
      c :: ((if rest.head? = some '/' ∧ joined rest ≠ [] then ['/'] else []) ++ joined rest) := by
  unfold joined
  rw [stretches_cons hc]
  cases hstretches : stretches rest with
  | nil => simp
  | cons stretch others =>
    have hmem : stretch ∈ stretches rest := hstretches ▸ List.mem_cons_self
    have hstretch : stretch ≠ [] := by simpa using (List.mem_filter.1 hmem).2
    have hne : rest ≠ [] := by
      rintro rfl
      cases hstretches
    by_cases hslash : rest.head? = some '/'
    · cases others <;> simp [hslash, hstretch, List.intercalate]
    · simp only [hne, hslash, or_self, ↓reduceIte, false_and, List.nil_append]
      cases others <;> simp [List.intercalate]

theorem joined_eq_nil_iff (text : List Char) : joined text = [] ↔ ∀ c ∈ text, c = '/' := by
  induction text with
  | nil => simp [joined, stretches, cut]
  | cons c rest ih =>
    rw [List.forall_mem_cons, ← ih]
    by_cases hc : c = '/'
    · rw [hc, joined_slash_cons]
      simp
    · rw [joined_cons hc]
      simp [hc]

theorem getLast?_joined_ne (text : List Char) : (joined text).getLast? ≠ some '/' := by
  induction text with
  | nil => simp [joined, stretches, cut]
  | cons c rest ih =>
    by_cases hc : c = '/'
    · rwa [hc, joined_slash_cons]
    · rw [joined_cons hc]
      cases hjoined : joined rest with
      | nil => simp [hc]
      | cons d others =>
        rw [hjoined] at ih
        split <;> simpa using ih

/-! ## Slashes that say nothing -/

/-- The slash that is left at the end of a path, unless it is the root. -/
def trail (text : List Char) : List Char :=
  if text.getLast? = some '/' ∧ joined text ≠ [] then ['/'] else []

theorem trail_slash_cons (rest : List Char) : trail ('/' :: rest) = trail rest := by
  unfold trail
  rw [joined_slash_cons]
  cases rest with
  | nil => simp [joined, stretches, cut]
  | cons d rest => rw [List.getLast?_cons_cons]

theorem joined_append_trail_cons {c : Char} (hc : c ≠ '/') (rest : List Char) :
    joined (c :: rest) ++ trail (c :: rest) = c :: (lead rest ++ joined rest ++ trail rest) := by
  unfold trail lead
  rw [joined_cons hc]
  cases rest with
  | nil => simp [hc, joined, stretches, cut]
  | cons d rest =>
    rw [List.getLast?_cons_cons]
    by_cases hjoined : joined (d :: rest) = []
    · have hall := (joined_eq_nil_iff _).1 hjoined
      have hlast : (d :: rest).getLast? = some '/' := by
        rw [List.getLast?_eq_some_getLast (List.cons_ne_nil d rest)]
        exact congrArg some (hall _ (List.getLast_mem _))
      have hfirst : (d :: rest).head? = some '/' := congrArg some (hall d List.mem_cons_self)
      simp [hlast, hfirst, hjoined]
    · simp [hjoined]

/-- Runs of slashes become one slash, also the run at the end. -/
theorem collapse_eq (text : List Char) :
    collapse text = lead text ++ joined text ++ trail text := by
  induction text with
  | nil => simp [collapse, lead, joined, trail, stretches, cut]
  | cons c rest ih =>
    rw [collapse, ih]
    by_cases hc : c = '/'
    · rw [hc, joined_slash_cons, trail_slash_cons]
      by_cases hslash : rest.head? = some '/' <;> simp [lead, hslash]
    · have hlead : lead (c :: rest) = [] := by simp [lead, hc]
      rw [hlead, List.nil_append, joined_append_trail_cons hc]
      simp [hc]

theorem normalize_eq_canonical (text : List Char) : normalize text = canonical text := by
  have hlast := getLast?_joined_ne text
  unfold normalize canonical
  rw [collapse_eq]
  dsimp only
  by_cases hjoined : joined text = []
  · -- The root, or nothing at all.
    have htrail : trail text = [] := by simp [trail, hjoined]
    rw [hjoined, htrail]
    unfold lead
    split <;> simp
  · by_cases hslash : text.getLast? = some '/'
    · have htrail : trail text = ['/'] := by simp [trail, hjoined, hslash]
      have hlength := List.length_pos_iff.2 hjoined
      rw [htrail, List.dropLast_concat, List.getLast?_concat, if_pos]
      simp
      omega
    · have htrail : trail text = [] := by simp [trail, hslash]
      rw [htrail, List.append_nil, List.getLast?_append_of_ne_nil _ hjoined]
      simp [hlast]

/-! ## The hash -/

/-- The sum of the units, each times a power of 31 that falls to zero at the last one. -/
def polynomial (units : List UInt16) : Nat :=
  ∑ i : Fin units.length, units[i].toNat * 31 ^ (units.length - 1 - i)

theorem polynomial_cons (unit : UInt16) (units : List UInt16) :
    polynomial (unit :: units) = unit.toNat * 31 ^ units.length + polynomial units := by
  unfold polynomial
  change ∑ i : Fin (units.length + 1), (unit :: units)[i].toNat * 31 ^ (units.length - i) = _
  rw [Fin.sum_univ_succ]
  congr 1
  refine Finset.sum_congr rfl fun i _ => ?_
  rw [Fin.val_succ, Nat.sub_add_eq, Nat.sub_right_comm]
  rfl

theorem foldl_toNat (units : List UInt16) (hash : UInt32) :
    (units.foldl (fun hash unit => hash * 31 + unit.toUInt32) hash).toNat =
      (hash.toNat * 31 ^ units.length + polynomial units) % 2 ^ 32 := by
  induction units generalizing hash with
  | nil => simp [polynomial]
  | cons unit units ih =>
    have hstep : (hash * 31 + unit.toUInt32).toNat = (hash.toNat * 31 + unit.toNat) % 2 ^ 32 := by
      simp
    rw [List.foldl_cons, ih, hstep, polynomial_cons]
    calc ((hash.toNat * 31 + unit.toNat) % 2 ^ 32 * 31 ^ units.length + polynomial units) % 2 ^ 32
        = ((hash.toNat * 31 + unit.toNat) * 31 ^ units.length + polynomial units) % 2 ^ 32 :=
          ((Nat.mod_modEq _ _).mul_right _).add_right _
      _ = _ := by rw [List.length_cons]; congr 1; ring

theorem textHash_toNat (text : List Char) :
    (textHash text).toNat = polynomial (Utf16.encode text) % 2 ^ 32 := by
  unfold textHash
  rw [foldl_toNat, UInt32.toNat_zero, Nat.zero_mul, Nat.zero_add]

theorem pathHash_toInt (path : Path) :
    (pathHash path).toInt =
      Int.bmod (polynomial (Utf16.encode (canonical path.shown.toList)) % 2 ^ 32 ^^^ 1234321 : Nat)
        (2 ^ 32) := by
  have hsalt : salt.toNat = 1234321 := rfl
  unfold pathHash
  rw [normalize_eq_canonical, ← textHash_toNat, ← hsalt, ← UInt32.toNat_xor]
  exact BitVec.toInt_eq_toNat_bmod _

/-! ## Spellings -/

theorem shown_eq_slash_iff (place : Utf8.Piece) : place.shown = '/' ↔ place = Path.slash := by
  cases place <;> simp [Utf8.Piece.shown, Path.slash]

theorem stretches_shown (path : Path) :
    stretches path.shown.toList = path.nonemptySegments.map (List.map Utf8.Piece.shown) := by
  unfold stretches Path.shown Path.nonemptySegments Path.segments
  rw [String.toList_ofList, cut_map shown_eq_slash_iff, List.filter_map]
  simp [Function.comp_def]

theorem lead_shown (path : Path) :
    lead path.shown.toList = if path.isAbsolute then ['/'] else [] := by
  unfold lead Path.shown Path.isAbsolute
  rw [String.toList_ofList]
  cases path.places with
  | nil => rfl
  | cons place places => simp [shown_eq_slash_iff]

section

variable {path other : Path} (hstart : path.isAbsolute = other.isAbsolute)
  (hsegments : path.nonemptySegments = other.nonemptySegments)

include hstart hsegments

theorem pathHash_eq_of_nonemptySegments_eq : pathHash path = pathHash other := by
  unfold pathHash
  rw [normalize_eq_canonical, normalize_eq_canonical, canonical, canonical, joined, joined,
    lead_shown, lead_shown, stretches_shown, stretches_shown, hstart, hsegments]

theorem fileName?_eq_of_nonemptySegments_eq : fileName? path = fileName? other := by
  unfold fileName?
  rw [pathHash_eq_of_nonemptySegments_eq hstart hsegments, Path.fileName?, Path.fileName?,
    path.names_eq, other.names_eq, hsegments]

end

/-- The hash is the polynomial over the shortest spelling, salted and read as a signed number. Paths
that start alike and have the same segments share it, and the name of the snapshot with it. -/
theorem name_fixed_by_start_and_segments (path other : Path) :
    (pathHash path).toInt =
      Int.bmod (polynomial (Utf16.encode (canonical path.shown.toList)) % 2 ^ 32 ^^^ 1234321 : Nat)
        (2 ^ 32) ∧
    (path.isAbsolute = other.isAbsolute → path.nonemptySegments = other.nonemptySegments →
      pathHash path = pathHash other ∧ fileName? path = fileName? other) := by
  refine ⟨pathHash_toInt path, fun hstart hsegments => ⟨?_, ?_⟩⟩
  · exact pathHash_eq_of_nonemptySegments_eq hstart hsegments
  · exact fileName?_eq_of_nonemptySegments_eq hstart hsegments

theorem doubled_slashes_keep_name :
    let path : Path := .ofString "/tmp//build/lib-42.jar"
    let other : Path := .ofString "/tmp/build/lib-42.jar/"
    path.isAbsolute = other.isAbsolute ∧ path.nonemptySegments = other.nonemptySegments ∧
      (pathHash path).toInt = -149945270 ∧ pathHash path = pathHash other ∧
        fileName? path = fileName? other ∧ fileName? other = some "149945270-lib-42.jar" := by
  intro path other
  have hstart : path.isAbsolute = other.isAbsolute := by decide
  have hsegments : path.nonemptySegments = other.nonemptySegments := by decide
  obtain ⟨hhash, hname⟩ := (name_fixed_by_start_and_segments path other).2 hstart hsegments
  exact ⟨hstart, hsegments, by decide, hhash, hname, by decide⟩

end Baseline

end Rebuild
