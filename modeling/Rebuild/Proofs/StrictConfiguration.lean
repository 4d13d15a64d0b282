import Mathlib
import Rebuild.Config.Basic
import Rebuild.Proofs.Evaluation
import Rebuild.Proofs.TomlTrees

/-!
# Strict configuration

A configuration is read exactly from the documents that have declared fields with values of the
declared kinds. Each field then holds what its own key gives, or what is usual, whatever else
stands in the document.
-/

namespace Rebuild

open Toml (Value)

variable {α β σ ε : Type}

/-! ## Tables of fields -/

/-- What the value of a field may be. -/
inductive FieldKind
  | text | boolean | texts
deriving DecidableEq, Repr

def FieldKind.Admits : FieldKind → Value → Prop
  | text, value => ∃ text, value = .string text
  | boolean, value => ∃ truth, value = .boolean truth
  | texts, value => ∃ texts : List String, value = .array (texts.map .string)

/-- The field is one of the declared ones, with a value of its kind. -/
def Declares (kinds : List (String × FieldKind)) (field : String × Value) : Prop :=
  ∃ kind, (field.1, kind) ∈ kinds ∧ kind.Admits field.2

theorem declares_nil_iff {field : String × Value} : Declares [] field ↔ False :=
  ⟨fun ⟨_, hkind, _⟩ => absurd hkind List.not_mem_nil, False.elim⟩

theorem declares_cons_iff {name : String} {kind : FieldKind} {kinds : List (String × FieldKind)}
    {key : String} {value : Value} :
    Declares ((name, kind) :: kinds) (key, value) ↔
      (key = name ∧ kind.Admits value) ∨ Declares kinds (key, value) := by
  simp only [Declares, List.mem_cons, Prod.mk.injEq, or_and_right, exists_or, and_assoc,
    exists_and_left, exists_eq_left]

/-- What is held is what the key gives, if it is there, and what is usual otherwise. -/
def IsGivenOr (spells : Value → α → Prop) (usual : α) (key : String)
    (entries : List (String × Value)) (held : α) : Prop :=
  (∀ value, (key, value) ∈ entries → spells value held) ∧
  (key ∉ entries.map Prod.fst → held = usual)

theorem IsGivenOr.imp {spells stands : Value → α → Prop} {usual : α} {key : String}
    {entries : List (String × Value)} {held : α} (h : IsGivenOr spells usual key entries held)
    (hstands : ∀ value, (key, value) ∈ entries → spells value held → stands value held) :
    IsGivenOr stands usual key entries held :=
  ⟨fun value hvalue => hstands value hvalue (h.1 value hvalue), h.2⟩

theorem IsGivenOr.unique {spells : Value → α → Prop} {usual : α} {key : String}
    {entries : List (String × Value)} {held other : α}
    (hspells : ∀ {value held other}, spells value held → spells value other → held = other)
    (hheld : IsGivenOr spells usual key entries held)
    (hother : IsGivenOr spells usual key entries other) : held = other := by
  by_cases hkey : key ∈ entries.map Prod.fst
  · obtain ⟨⟨_, value⟩, hvalue, rfl⟩ := List.mem_map.mp hkey
    exact hspells (hheld.1 value hvalue) (hother.1 value hvalue)
  · rw [hheld.2 hkey, hother.2 hkey]

/-- Of all fields, only the one with the key sets what is read, and it sets what its value
spells. -/
structure Sets (put : σ → String × Value → Except ε σ) (key : String) (read : σ → α)
    (spells : Value → α → Prop) : Prop where
  own : ∀ {state next value}, put state (key, value) = .ok next → spells value (read next)
  other : ∀ {state next name value}, put state (name, value) = .ok next → name ≠ key →
    read next = read state

section Fields

variable {put : σ → String × Value → Except ε σ} {fields : List (String × Value)}

theorem exists_foldlM_iff {accepted : String × Value → Prop}
    (h : ∀ field ∈ fields, ∀ state, (∃ next, put state field = .ok next) ↔ accepted field)
    (state : σ) :
    (∃ final, fields.foldlM put state = .ok final) ↔ ∀ field ∈ fields, accepted field := by
  induction fields generalizing state with
  | nil => exact ⟨fun _ _ hfield => absurd hfield List.not_mem_nil, fun _ => ⟨state, rfl⟩⟩
  | cons field rest ih =>
    obtain ⟨hfield, hfields⟩ := List.forall_mem_cons.mp h
    rw [List.forall_mem_cons, ← hfield state]
    constructor
    · rintro ⟨final, hfinal⟩
      obtain ⟨next, hnext, hrest⟩ := exists_of_bind_eq_ok hfinal
      exact ⟨⟨next, hnext⟩, (ih hfields next).1 ⟨final, hrest⟩⟩
    · rintro ⟨⟨next, hnext⟩, hrest⟩
      obtain ⟨final, hfinal⟩ := (ih hfields next).2 hrest
      refine ⟨final, ?_⟩
      rw [List.foldlM_cons, hnext]
      exact hfinal

variable {key : String} {read : σ → α} {spells : Value → α → Prop}

theorem Sets.foldlM (h : Sets put key read spells) (hkeys : (fields.map Prod.fst).Nodup)
    {state final : σ} (hfinal : fields.foldlM put state = .ok final) :
    IsGivenOr spells (read state) key fields (read final) := by
  induction fields generalizing state with
  | nil =>
    cases hfinal
    exact ⟨fun _ hvalue => absurd hvalue List.not_mem_nil, fun _ => rfl⟩
  | cons field rest ih =>
    obtain ⟨name, found⟩ := field
    obtain ⟨hname, hkeys⟩ := List.nodup_cons.mp hkeys
    obtain ⟨next, hnext, hrest⟩ := exists_of_bind_eq_ok hfinal
    obtain ⟨hgiven, husual⟩ := ih hkeys hrest
    refine ⟨fun value hvalue => ?_, fun habsent => ?_⟩
    · rcases List.mem_cons.mp hvalue with heq | hvalue
      · -- The key stands here and, as keys stand once, nowhere behind.
        cases heq
        rw [husual hname]
        exact h.own hnext
      · exact hgiven value hvalue
    · obtain ⟨hname, habsent⟩ := not_or.mp (mt List.mem_cons.mpr habsent)
      rw [husual habsent, h.other hnext (Ne.symm hname)]

end Fields

/-! ## Values -/

theorem map_eq_ok_iff {known : Except ε β} {make : β → σ} {made : σ} :
    make <$> known = .ok made ↔ ∃ value, known = .ok value ∧ made = make value := by
  cases known with
  | error error => simp [Functor.map, Except.map]
  | ok value => simp [Functor.map, Except.map, eq_comm]

namespace Toml.Value

variable {value : Value}

theorem asString_eq_ok_iff {wanted : Wanted} {text : String} :
    value.asString wanted = .ok text ↔ value = .string text := by
  cases value <;> simp [asString]

theorem asBoolean_eq_ok_iff {truth : Bool} :
    value.asBoolean = .ok truth ↔ value = .boolean truth := by
  cases value <;> simp [asBoolean]

theorem mapM_asString_eq_ok_iff {items : List Value} {texts : List String} :
    items.mapM (asString .string) = .ok texts ↔ items = texts.map .string := by
  induction items generalizing texts with
  | nil => cases texts <;> simp [pure, Except.pure]
  | cons item rest ih =>
    rw [List.mapM_cons]
    constructor
    · intro h
      obtain ⟨text, htext, h⟩ := exists_of_bind_eq_ok h
      obtain ⟨others, hothers, h⟩ := exists_of_bind_eq_ok h
      cases h
      rw [asString_eq_ok_iff.1 htext, ih.1 hothers]
      rfl
    · intro h
      obtain ⟨text, others, rfl, rfl, rfl⟩ := List.map_eq_cons_iff.1 h.symm
      rw [ih.2 rfl]
      rfl

theorem asStrings_eq_ok_iff {texts : List String} :
    value.asStrings = .ok texts ↔ value = .array (texts.map .string) := by
  cases value with
  | array items => simp [asStrings, mapM_asString_eq_ok_iff]
  | _ => simp [asStrings]

end Toml.Value

/-! ## The tables -/

namespace LoggingConfig

def kinds : List (String × FieldKind) :=
  [("level", .text), ("json", .boolean), ("stderr", .boolean), ("file", .text)]

/-- What each field holds that is read from the entries. -/
structure IsGivenBy (entries : List (String × Value)) (config : LoggingConfig) : Prop where
  level : IsGivenOr (fun value text => value = .string text) "warn" "level" entries config.level
  json : IsGivenOr (fun value truth => value = .boolean truth) false "json" entries config.json
  stderr : IsGivenOr (fun value truth => value = .boolean truth) true "stderr" entries
    config.stderr
  file : IsGivenOr (fun value file => ∃ text, value = .string text ∧ file = some (.ofString text))
    none "file" entries config.file

variable {config next : LoggingConfig}

theorem IsGivenBy.unique {entries : List (String × Value)} {other : LoggingConfig}
    (h : config.IsGivenBy entries) (hother : other.IsGivenBy entries) : config = other := by
  cases config
  cases other
  rw [LoggingConfig.mk.injEq]
  refine ⟨h.level.unique ?_ hother.level, h.json.unique ?_ hother.json,
    h.stderr.unique ?_ hother.stderr, h.file.unique ?_ hother.file⟩ <;> grind

theorem setField_eq_ok_iff {key : String} {value : Value} :
    setField config (key, value) = .ok next ↔
      (key = "level" ∧ ∃ text, value = .string text ∧ next = { config with level := text }) ∨
      (key = "json" ∧ ∃ truth, value = .boolean truth ∧ next = { config with json := truth }) ∨
      (key = "stderr" ∧ ∃ truth, value = .boolean truth ∧ next = { config with stderr := truth }) ∨
      (key = "file" ∧
        ∃ text, value = .string text ∧ next = { config with file := some (.ofString text) }) := by
  unfold setField
  split
  next heq => cases heq; simp [map_eq_ok_iff, Value.asString_eq_ok_iff]
  next heq => cases heq; simp [map_eq_ok_iff, Value.asBoolean_eq_ok_iff]
  next heq => cases heq; simp [map_eq_ok_iff, Value.asBoolean_eq_ok_iff]
  next heq => cases heq; simp [map_eq_ok_iff, Value.asString_eq_ok_iff]
  next hlevel hjson hstderr hfile heq =>
    cases heq
    simp_all [throw, throwThe, MonadExceptOf.throw]

theorem exists_setField_iff (config : LoggingConfig) (field : String × Value) :
    (∃ next, setField config field = .ok next) ↔ Declares kinds field := by
  obtain ⟨key, value⟩ := field
  simp only [setField_eq_ok_iff, kinds, declares_cons_iff, declares_nil_iff, FieldKind.Admits]
  grind

theorem sets_level : Sets setField "level" level fun value text => value = .string text where
  own h := by grind [setField_eq_ok_iff]
  other h hname := by grind [setField_eq_ok_iff]

theorem sets_json : Sets setField "json" json fun value truth => value = .boolean truth where
  own h := by grind [setField_eq_ok_iff]
  other h hname := by grind [setField_eq_ok_iff]

theorem sets_stderr : Sets setField "stderr" stderr fun value truth => value = .boolean truth where
  own h := by grind [setField_eq_ok_iff]
  other h hname := by grind [setField_eq_ok_iff]

theorem sets_file : Sets setField "file" file
    fun value file => ∃ text, value = .string text ∧ file = some (.ofString text) where
  own h := by grind [setField_eq_ok_iff]
  other h hname := by grind [setField_eq_ok_iff]

theorem exists_ofFields_iff {entries : List (String × Value)} :
    (∃ config, ofFields entries = .ok config) ↔ ∀ entry ∈ entries, Declares kinds entry :=
  exists_foldlM_iff (fun field _ config => exists_setField_iff config field) {}

theorem isGivenBy_of_ofFields {entries : List (String × Value)} {config : LoggingConfig}
    (hkeys : (entries.map Prod.fst).Nodup) (h : ofFields entries = .ok config) :
    config.IsGivenBy entries where
  level := sets_level.foldlM hkeys h
  json := sets_json.foldlM hkeys h
  stderr := sets_stderr.foldlM hkeys h
  file := sets_file.foldlM hkeys h

end LoggingConfig

namespace AnalysisOptions

def kinds : List (String × FieldKind) :=
  [("errors_as_full_rebuild", .boolean), ("archive_extensions", .texts)]

structure IsGivenBy (entries : List (String × Value)) (options : AnalysisOptions) : Prop where
  errorsAsFullRebuild : IsGivenOr (fun value truth => value = .boolean truth) true
    "errors_as_full_rebuild" entries options.errorsAsFullRebuild
  archiveExtensions : IsGivenOr
    (fun value (texts : List String) => value = .array (texts.map .string)) ["jar"]
    "archive_extensions" entries options.archiveExtensions

variable {options next : AnalysisOptions}

theorem IsGivenBy.unique {entries : List (String × Value)} {other : AnalysisOptions}
    (h : options.IsGivenBy entries) (hother : other.IsGivenBy entries) : options = other := by
  cases options
  cases other
  rw [AnalysisOptions.mk.injEq]
  refine ⟨h.errorsAsFullRebuild.unique ?_ hother.errorsAsFullRebuild,
    h.archiveExtensions.unique ?_ hother.archiveExtensions⟩
  · grind
  · intro value texts others htexts hothers
    have hsame := Value.array.inj (htexts.symm.trans hothers)
    exact (List.map_inj_right fun _ _ => Value.string.inj).1 hsame

theorem setField_eq_ok_iff {key : String} {value : Value} :
    setField options (key, value) = .ok next ↔
      (key = "errors_as_full_rebuild" ∧
        ∃ truth, value = .boolean truth ∧ next = { options with errorsAsFullRebuild := truth }) ∨
      (key = "archive_extensions" ∧ ∃ texts : List String, value = .array (texts.map .string) ∧
        next = { options with archiveExtensions := texts }) := by
  unfold setField
  split
  next heq => cases heq; simp [map_eq_ok_iff, Value.asBoolean_eq_ok_iff]
  next heq => cases heq; simp [map_eq_ok_iff, Value.asStrings_eq_ok_iff]
  next herrors hextensions heq =>
    cases heq
    simp_all [throw, throwThe, MonadExceptOf.throw]

theorem exists_setField_iff (options : AnalysisOptions) (field : String × Value) :
    (∃ next, setField options field = .ok next) ↔ Declares kinds field := by
  obtain ⟨key, value⟩ := field
  simp only [setField_eq_ok_iff, kinds, declares_cons_iff, declares_nil_iff, FieldKind.Admits]
  grind

theorem sets_errorsAsFullRebuild : Sets setField "errors_as_full_rebuild" errorsAsFullRebuild
    fun value truth => value = .boolean truth where
  own h := by grind [setField_eq_ok_iff]
  other h hname := by grind [setField_eq_ok_iff]

theorem sets_archiveExtensions : Sets setField "archive_extensions" archiveExtensions
    fun value (texts : List String) => value = .array (texts.map .string) where
  own h := by grind [setField_eq_ok_iff]
  other h hname := by grind [setField_eq_ok_iff]

theorem exists_ofFields_iff {entries : List (String × Value)} :
    (∃ options, ofFields entries = .ok options) ↔ ∀ entry ∈ entries, Declares kinds entry :=
  exists_foldlM_iff (fun field _ options => exists_setField_iff options field) {}

theorem isGivenBy_of_ofFields {entries : List (String × Value)} {options : AnalysisOptions}
    (hkeys : (entries.map Prod.fst).Nodup) (h : ofFields entries = .ok options) :
    options.IsGivenBy entries where
  errorsAsFullRebuild := sets_errorsAsFullRebuild.foldlM hkeys h
  archiveExtensions := sets_archiveExtensions.foldlM hkeys h

end AnalysisOptions

/-! ## The document -/

namespace Config

/-- The tables of a configuration and what is declared in them. -/
def tables : List (String × List (String × FieldKind)) :=
  [("logging", LoggingConfig.kinds), ("analysis", AnalysisOptions.kinds)]

/-- The field is one of the tables, and all that is in it is declared. -/
def DeclaresTable (field : String × Value) : Prop :=
  ∃ kinds, (field.1, kinds) ∈ tables ∧
    ∃ entries, field.2 = .table entries ∧ ∀ entry ∈ entries, Declares kinds entry

/-- Every key at the top level and in the tables is declared, and every value has its kind. -/
def IsDeclared (document : List (String × Value)) : Prop :=
  ∀ field ∈ document, DeclaresTable field

structure IsGivenBy (document : List (String × Value)) (config : Config) : Prop where
  logging : IsGivenOr (fun value logging => ∃ entries, value = .table entries ∧
      LoggingConfig.IsGivenBy entries logging)
    { level := "warn", json := false, stderr := true, file := none } "logging" document
    config.logging
  analysis : IsGivenOr (fun value analysis => ∃ entries, value = .table entries ∧
      AnalysisOptions.IsGivenBy entries analysis)
    { errorsAsFullRebuild := true, archiveExtensions := ["jar"] } "analysis" document
    config.analysis

variable {config next : Config}

theorem IsGivenBy.unique {document : List (String × Value)} {other : Config}
    (h : config.IsGivenBy document) (hother : other.IsGivenBy document) : config = other := by
  cases config
  cases other
  rw [Config.mk.injEq]
  refine ⟨h.logging.unique ?_ hother.logging, h.analysis.unique ?_ hother.analysis⟩
  · rintro _ logging others ⟨entries, rfl, hlogging⟩ ⟨_, ⟨⟩, hothers⟩
    exact hlogging.unique hothers
  · rintro _ analysis others ⟨entries, rfl, hanalysis⟩ ⟨_, ⟨⟩, hothers⟩
    exact hanalysis.unique hothers

theorem setField_eq_ok_iff {key : String} {value : Value} :
    setField config (key, value) = .ok next ↔
      (key = "logging" ∧ ∃ logging, LoggingConfig.ofValue value = .ok logging ∧
        next = { config with logging := logging }) ∨
      (key = "analysis" ∧ ∃ analysis, AnalysisOptions.ofValue false value = .ok analysis ∧
        next = { config with analysis := analysis }) := by
  unfold setField
  split
  next heq => cases heq; simp [map_eq_ok_iff]
  next heq => cases heq; simp [map_eq_ok_iff]
  next hlogging hanalysis heq =>
    cases heq
    simp_all [throw, throwThe, MonadExceptOf.throw]

theorem sets_logging : Sets setField "logging" logging
    fun value logging => LoggingConfig.ofValue value = .ok logging where
  own h := by grind [setField_eq_ok_iff]
  other h hname := by grind [setField_eq_ok_iff]

theorem sets_analysis : Sets setField "analysis" analysis
    fun value analysis => AnalysisOptions.ofValue false value = .ok analysis where
  own h := by grind [setField_eq_ok_iff]
  other h hname := by grind [setField_eq_ok_iff]

theorem exists_setField_iff {field : String × Value}
    (htable : field.1 ∈ fieldNames → ∃ entries, field.2 = .table entries) (config : Config) :
    (∃ next, setField config field = .ok next) ↔ DeclaresTable field := by
  obtain ⟨key, value⟩ := field
  constructor
  · rintro ⟨next, h⟩
    rcases setField_eq_ok_iff.1 h with ⟨rfl, logging, hvalue, -⟩ | ⟨rfl, analysis, hvalue, -⟩
    · obtain ⟨entries, rfl⟩ := htable List.mem_cons_self
      exact ⟨_, .head _, entries, rfl, LoggingConfig.exists_ofFields_iff.1 ⟨logging, hvalue⟩⟩
    · obtain ⟨entries, rfl⟩ := htable (.tail _ List.mem_cons_self)
      exact ⟨_, .tail _ (.head _), entries, rfl,
        AnalysisOptions.exists_ofFields_iff.1 ⟨analysis, hvalue⟩⟩
  · rintro ⟨kinds, hkinds, entries, rfl, hentries⟩
    simp only [tables, List.mem_cons, Prod.mk.injEq, List.not_mem_nil, or_false] at hkinds
    rcases hkinds with ⟨rfl, rfl⟩ | ⟨rfl, rfl⟩
    · obtain ⟨logging, hlogging⟩ := LoggingConfig.exists_ofFields_iff.2 hentries
      exact ⟨_, setField_eq_ok_iff.2 (.inl ⟨rfl, logging, hlogging, rfl⟩)⟩
    · obtain ⟨analysis, hanalysis⟩ := AnalysisOptions.exists_ofFields_iff.2 hentries
      exact ⟨_, setField_eq_ok_iff.2 (.inr ⟨rfl, analysis, hanalysis, rfl⟩)⟩

section Tree

variable {document : List (String × Value)}
  (htables : ∀ field ∈ document, field.1 ∈ fieldNames → ∃ entries, field.2 = .table entries)

include htables

theorem exists_ofFields_iff : (∃ config, ofFields document = .ok config) ↔ IsDeclared document :=
  exists_foldlM_iff (fun field hfield => exists_setField_iff (htables field hfield)) {}

theorem isGivenBy_of_ofFields (htree : (Value.table document).IsTree)
    (h : ofFields document = .ok config) : config.IsGivenBy document where
  logging := (sets_logging.foldlM htree.keys h).imp fun value hvalue hlogging => by
    obtain ⟨entries, rfl⟩ := htables _ hvalue List.mem_cons_self
    exact ⟨entries, rfl,
      LoggingConfig.isGivenBy_of_ofFields (htree.entries _ hvalue).keys hlogging⟩
  analysis := (sets_analysis.foldlM htree.keys h).imp fun value hvalue hanalysis => by
    obtain ⟨entries, rfl⟩ := htables _ hvalue (.tail _ List.mem_cons_self)
    exact ⟨entries, rfl,
      AnalysisOptions.isGivenBy_of_ofFields (htree.entries _ hvalue).keys hanalysis⟩

end Tree

theorem parse_eq_ok_iff {text : String} {document : List (String × Value)}
    (h : Toml.parse? text = some document) :
    parse text = .ok config ↔ ofFields document = .ok config := by
  simp only [parse, h]
  cases ofFields document with
  | error problem => simp [Except.mapError]
  | ok config => simp [Except.mapError]

/-- A document whose tables are tables is accepted exactly if all that it says is declared. The
configuration is then the one whose fields hold what their keys give, or what is usual where the key
is not there: nothing else in the document has a part in it, and no order. -/
theorem accepted_iff_declared {text : String} {document : List (String × Value)}
    (h : Toml.parse? text = some document)
    (htables : ∀ field ∈ document, field.1 ∈ fieldNames → ∃ entries, field.2 = .table entries) :
    ((∃ config, parse text = .ok config) ↔ IsDeclared document) ∧
    ∀ config, parse text = .ok config ↔ IsDeclared document ∧ config.IsGivenBy document := by
  simp only [parse_eq_ok_iff h]
  have haccepted := exists_ofFields_iff htables
  have hgiven {config : Config} (hconfig : ofFields document = .ok config) :
      config.IsGivenBy document :=
    isGivenBy_of_ofFields htables (Toml.parse?_isTree h) hconfig
  refine ⟨haccepted, fun config => ⟨fun hconfig => ?_, fun ⟨hdeclared, hconfig⟩ => ?_⟩⟩
  · exact ⟨haccepted.1 ⟨config, hconfig⟩, hgiven hconfig⟩
  · obtain ⟨found, hfound⟩ := haccepted.2 hdeclared
    rw [hfound, (hgiven hfound).unique hconfig]

theorem declared_level_and_flag_are_taken :
    parse "[analysis]\nerrors_as_full_rebuild = false\n\n[logging]\nlevel = \"info\"\n" =
      .ok { logging := { level := "info", json := false, stderr := true, file := none }
            analysis := { errorsAsFullRebuild := false, archiveExtensions := ["jar"] } } := by
  have hparse :
      Toml.parse? "[analysis]\nerrors_as_full_rebuild = false\n\n[logging]\nlevel = \"info\"\n" =
        some [("analysis", .table [("errors_as_full_rebuild", .boolean false)]),
          ("logging", .table [("level", .string "info")])] := by
    cbv
  have hlogging : LoggingConfig.IsGivenBy [("level", .string "info")]
      { level := "info", json := false, stderr := true, file := none } := by
    constructor <;> simp [IsGivenOr]
  have hanalysis : AnalysisOptions.IsGivenBy [("errors_as_full_rebuild", .boolean false)]
      { errorsAsFullRebuild := false, archiveExtensions := ["jar"] } := by
    constructor <;> simp [IsGivenOr]
  refine ((accepted_iff_declared hparse ?_).2 _).2 ⟨?_, ?_, ?_⟩
  · simp
  · simp [IsDeclared, DeclaresTable, tables, LoggingConfig.kinds, AnalysisOptions.kinds, Declares,
      FieldKind.Admits]
  · simpa [IsGivenOr] using hlogging
  · simpa [IsGivenOr] using hanalysis

end Config

end Rebuild
