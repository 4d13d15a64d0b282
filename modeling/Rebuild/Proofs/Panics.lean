import Rebuild.Proofs.UpToDate

/-!
# When a run gives up

One thing makes an analysis panic: a class is read from an entry of a jar that is stated to be
larger than a buffer can be. Its fault goes up to the outcome of the analysis, so that the outcome
tells whether there was a panic.
-/

namespace Rebuild

variable {ω ρ α β : Type}

/-! ## Faults that stand for a panic -/

def ArchiveError.isPanic (error : ArchiveError) : Bool := error.fault = .overflow

def ClasspathError.isPanic : ClasspathError → Bool
  | archive error => error.isPanic
  | _ => false

/-- Archives that are compared are never read, so a panic is over a class. -/
def AnalysisError.isPanic : AnalysisError → Bool
  | classpath error => error.isPanic
  | _ => false

/-- The result is an error that stands for a panic. -/
def stopsBy {ε : Type} (isPanic : ε → Bool) : Except ε α → Bool
  | .error error => isPanic error
  | .ok _ => false

/-! ## Panics on the way to an answer -/

def Answer.panics (answer : Answer α) : Bool := answer.events.any LogEvent.isPanic

theorem LogEvent.isSome_panic? (events : List LogEvent) :
    (panic? events).isSome = events.any isPanic := by
  unfold panic?
  rw [Option.isSome_map]
  induction events with
  | nil => rfl
  | cons event events ih =>
    rw [List.find?_cons, List.any_cons, ← ih]
    cases event.isPanic <;> rfl

theorem Inquiry.panics_bind (x : Inquiry α) (f : α → Inquiry β) (disk : Disk) :
    ((x >>= f) disk).panics =
      ((x disk).panics || (f (x disk).value (disk.after (x disk).events)).panics) :=
  List.any_append

/-- What holds of the answer and of whether there is a panic on the way to it, on any disk. -/
def Inquiry.Tells (x : Inquiry α) (wanted : α → Bool → Prop) : Prop :=
  ∀ disk : Disk, wanted (x disk).value (x disk).panics

abbrev Inquiry.IsCalm (x : Inquiry α) : Prop := x.Tells fun _ panics => panics = false

namespace Inquiry.Tells

variable {wanted : α → Bool → Prop}

theorem pure {value : α} (h : wanted value false) : Tells (Pure.pure value : Inquiry α) wanted :=
  fun _ => h

theorem bind {x : Inquiry α} {f : α → Inquiry β} {between : α → Bool → Prop}
    {wanted : β → Bool → Prop} (hx : Tells x between)
    (hf : ∀ value panics, between value panics →
      Tells (f value) fun result later => wanted result (panics || later)) :
    Tells (x >>= f) wanted := by
  intro disk
  rw [panics_bind]
  exact hf _ _ (hx disk) _

theorem skip {x : Inquiry α} {f : α → Inquiry β} {wanted : β → Bool → Prop} (hx : x.IsCalm)
    (hf : ∀ value, Tells (f value) wanted) : Tells (x >>= f) wanted :=
  hx.bind fun value _ h => h ▸ hf value

theorem files : Inquiry.files.IsCalm := fun _ => rfl

theorem emit {event : LogEvent} (h : event.target ≠ LogEvent.panicTarget) :
    (Inquiry.emit event).IsCalm := by
  intro _
  have hevent : event.isPanic = false := beq_false_of_ne h
  simp [Inquiry.emit, Answer.panics, hevent]

theorem emitAll {events : List LogEvent}
    (h : ∀ event ∈ events, event.target ≠ LogEvent.panicTarget) :
    (events.forM Inquiry.emit).IsCalm := by
  induction events with
  | nil => exact pure rfl
  | cons event events ih =>
    obtain ⟨hevent, hevents⟩ := List.forall_mem_cons.1 h
    exact (emit hevent).skip fun _ => ih hevents

end Inquiry.Tells

/-- What holds of the answer of an action and of whether there is a panic, in any world. -/
def Act.Tells (x : Act ω α) (wanted : α → Bool → Prop) : Prop :=
  ∀ w : ω, Inquiry.Tells (x.run w) fun answer panics => wanted answer.1 panics

abbrev Act.IsCalm (x : Act ω α) : Prop := x.Tells fun _ panics => panics = false

namespace Act.Tells

variable {wanted : α → Bool → Prop}

theorem pure {value : α} (h : wanted value false) : Tells (Pure.pure value : Act ω α) wanted :=
  fun _ => Inquiry.Tells.pure h

theorem bind {x : Act ω α} {f : α → Act ω β} {between : α → Bool → Prop}
    {wanted : β → Bool → Prop} (hx : Tells x between)
    (hf : ∀ value panics, between value panics →
      Tells (f value) fun result later => wanted result (panics || later)) :
    Tells (x >>= f) wanted :=
  fun w => (hx w).bind fun answer panics h => hf answer.1 panics h answer.2

theorem skip {x : Act ω α} {f : α → Act ω β} {wanted : β → Bool → Prop} (hx : x.IsCalm)
    (hf : ∀ value, Tells (f value) wanted) : Tells (x >>= f) wanted :=
  hx.bind fun value _ h => h ▸ hf value

theorem inquiry {x : Inquiry α} (hx : x.Tells wanted) : Tells (x : Act ω α) wanted := by
  intro w
  refine hx.bind (f := fun value => Pure.pure (value, w)) fun value panics h => ?_
  exact Inquiry.Tells.pure ((Bool.or_false panics).symm ▸ h)

end Act.Tells

/-- What holds of the answer of a step and of whether there is a panic, in any contexts. -/
def Walk.Tells (x : Walk ω α) (wanted : α → Bool → Prop) : Prop :=
  ∀ contexts : Contexts, Act.Tells (x.run contexts) fun answer panics => wanted answer.1 panics

abbrev Walk.IsCalm (x : Walk ω α) : Prop := x.Tells fun _ panics => panics = false

namespace Walk.Tells

variable {wanted : α → Bool → Prop}

theorem pure {value : α} (h : wanted value false) : Tells (Pure.pure value : Walk ω α) wanted :=
  fun _ => Act.Tells.pure h

theorem bind {x : Walk ω α} {f : α → Walk ω β} {between : α → Bool → Prop}
    {wanted : β → Bool → Prop} (hx : Tells x between)
    (hf : ∀ value panics, between value panics →
      Tells (f value) fun result later => wanted result (panics || later)) :
    Tells (x >>= f) wanted :=
  fun contexts => (hx contexts).bind fun answer panics h => hf answer.1 panics h answer.2

theorem skip {x : Walk ω α} {f : α → Walk ω β} {wanted : β → Bool → Prop} (hx : x.IsCalm)
    (hf : ∀ value, Tells (f value) wanted) : Tells (x >>= f) wanted :=
  hx.bind fun value _ h => h ▸ hf value

theorem act {x : Act ω α} (hx : Act.Tells x wanted) : Tells (x : Walk ω α) wanted := by
  intro contexts
  refine hx.bind (f := fun value => Pure.pure (value, contexts)) fun value panics h => ?_
  exact Act.Tells.pure ((Bool.or_false panics).symm ▸ h)

theorem get : IsCalm (MonadState.get : Walk ω Contexts) := fun _ => Act.Tells.pure rfl

theorem set (contexts : Contexts) : IsCalm (MonadStateOf.set contexts : Walk ω PUnit) :=
  fun _ => Act.Tells.pure rfl

theorem say {event : LogEvent} (h : event.target ≠ LogEvent.panicTarget) :
    IsCalm (Walk.say event : Walk ω Unit) :=
  act (Act.Tells.inquiry (Inquiry.Tells.emit h))

end Walk.Tells

/-! ## Jars and contexts -/

theorem Jar.logTarget_ne : logTarget ≠ LogEvent.panicTarget := by decide

theorem ClassContext.logTarget_ne : logTarget ≠ LogEvent.panicTarget := by decide

theorem analysisTarget_ne : analysisTarget ≠ LogEvent.panicTarget := by decide

theorem LogSetup.logTarget_ne : logTarget ≠ LogEvent.panicTarget := by decide

namespace Jar

theorem load_stopsBy (files : FileSystem) (path : Path) :
    stopsBy ArchiveError.isPanic (load files path) = false := by
  unfold load
  split
  · rfl
  · rfl
  · split <;> rfl

theorem acquire_tells (path : Path) :
    (acquire path).Tells fun result panics =>
      panics = false ∧ stopsBy ArchiveError.isPanic result = false := by
  unfold acquire
  refine Inquiry.Tells.files.skip fun files => ?_
  have hload := load_stopsBy files path
  cases hresult : load files path with
  | error error => exact Inquiry.Tells.pure ⟨rfl, hresult ▸ hload⟩
  | ok jar => exact (Inquiry.Tells.emit logTarget_ne).skip fun _ => Inquiry.Tells.pure ⟨rfl, rfl⟩

theorem release_isCalm (jar : Jar) : jar.release.IsCalm := Inquiry.Tells.emit logTarget_ne

theorem fetch_tells (jar : Jar) (name : String) :
    (jar.fetch name).Tells fun answer panics =>
      panics = stopsBy ArchiveError.isPanic answer.1 := by
  unfold fetch
  refine Inquiry.Tells.files.skip fun files => ?_
  generalize read files name jar = answer
  obtain ⟨⟨path, fault⟩ | content, jar⟩ := answer
  · cases fault <;> exact fun _ => rfl
  · exact fun _ => rfl

end Jar

namespace ClassSource

theorem readDirectory_stopsBy (files : FileSystem) (path : Path) (entry : String) :
    stopsBy ClasspathError.isPanic (readDirectory files path entry) = false := by
  unfold readDirectory
  dsimp only
  split <;> rfl

theorem readJar_tells (path : Path) (entry : String) (opened : Jar) :
    (readJar path entry opened).Tells fun answer panics =>
      panics = stopsBy ClasspathError.isPanic answer.1 := by
  unfold readJar
  refine (opened.fetch_tells entry).bind ?_
  rintro ⟨result, opened⟩ panics rfl
  cases result <;> exact Inquiry.Tells.pure (Bool.or_false _)

theorem read_tells (entry : String) (source : ClassSource) :
    (source.read entry).Tells fun answer panics =>
      panics = stopsBy ClasspathError.isPanic answer.1 := by
  cases source with
  | directory path =>
    refine Inquiry.Tells.files.skip fun files => Inquiry.Tells.pure ?_
    exact (readDirectory_stopsBy files path entry).symm
  | jar path opened =>
    cases opened with
    | some opened => exact readJar_tells path entry opened
    | none =>
      refine (Jar.acquire_tells path).bind ?_
      rintro result panics ⟨rfl, hresult⟩
      cases result with
      | error error => exact Inquiry.Tells.pure hresult.symm
      | ok opened => exact readJar_tells path entry opened

theorem firstWith_tells (entry : String) (sources : List ClassSource) :
    (firstWith entry sources).Tells fun answer panics =>
      panics = stopsBy ClasspathError.isPanic answer.1 := by
  induction sources with
  | nil => exact Inquiry.Tells.pure rfl
  | cons source others ih =>
    refine (source.read_tells entry).bind ?_
    rintro ⟨found, source⟩ panics rfl
    rcases found with error | (_ | bytes)
    · exact Inquiry.Tells.pure (Bool.or_false _)
    · exact ih.bind fun answer panics h => Inquiry.Tells.pure ((Bool.or_false _).trans h)
    · exact Inquiry.Tells.pure rfl

theorem release_isCalm (source : ClassSource) : source.release.IsCalm := by
  cases source with
  | directory path => exact Inquiry.Tells.pure rfl
  | jar path opened =>
    cases opened with
    | none => exact Inquiry.Tells.pure rfl
    | some opened => exact opened.release_isCalm

end ClassSource

theorem LoadedClass.define_stopsBy (name : String) (origin : Path) (bytes : ByteArray) :
    stopsBy ClasspathError.isPanic (define name origin bytes) = false := by
  unfold define
  split
  · rfl
  · split <;> rfl

namespace ClassContext

theorem sourcesOf_isCalm (label : String) (paths : List Path) : (sourcesOf label paths).IsCalm := by
  induction paths with
  | nil => exact Inquiry.Tells.pure rfl
  | cons path paths ih =>
    unfold sourcesOf
    refine Inquiry.Tells.files.skip fun files => ?_
    cases ClasspathEntry.ofPath files path with
    | classDirectory path => exact ih.skip fun _ => Inquiry.Tells.pure rfl
    | jar path =>
      simp only
      split
      · exact ih.skip fun _ => Inquiry.Tells.pure rfl
      · exact (Inquiry.Tells.emit logTarget_ne).skip fun _ => ih

theorem create_isCalm (label : String) (resources : ResourceSet) :
    (create label resources).IsCalm :=
  (sourcesOf_isCalm label resources.paths).skip fun _ => Inquiry.Tells.pure rfl

theorem load_tells (name : String) (context : ClassContext) :
    (context.load name).Tells fun answer panics =>
      panics = stopsBy ClasspathError.isPanic answer.1 := by
  unfold load
  cases context.loaded.lookup name with
  | some found => exact Inquiry.Tells.pure rfl
  | none =>
    refine (ClassSource.firstWith_tells _ context.sources).bind ?_
    rintro ⟨found, sources⟩ panics rfl
    rcases found with error | (_ | ⟨origin, bytes⟩)
    · exact Inquiry.Tells.pure (Bool.or_false _)
    · exact Inquiry.Tells.pure rfl
    · have hdefine := LoadedClass.define_stopsBy name origin bytes
      simp only
      cases hresult : LoadedClass.define name origin bytes with
      | error error => exact Inquiry.Tells.pure (hresult ▸ hdefine).symm
      | ok loaded =>
        exact (Inquiry.Tells.emit logTarget_ne).skip fun _ => Inquiry.Tells.pure rfl

theorem release_isCalm (context : ClassContext) : context.release.IsCalm := by
  unfold release
  induction context.sources with
  | nil => exact Inquiry.Tells.pure rfl
  | cons source sources ih =>
    exact source.release_isCalm.skip fun _ => ih

end ClassContext

/-! ## Analyses -/

namespace Walk.Tells

theorem loadPrevious (name : String) :
    (Walk.loadPrevious name : Walk ω _).Tells fun result panics =>
      panics = stopsBy ClasspathError.isPanic result := by
  refine get.skip fun contexts => ?_
  refine (act (Act.Tells.inquiry (contexts.previous.load_tells name))).bind ?_
  rintro ⟨result, previous⟩ panics rfl
  exact (set _).skip fun _ => pure (Bool.or_false _)

theorem loadCurrent (name : String) :
    (Walk.loadCurrent name : Walk ω _).Tells fun result panics =>
      panics = stopsBy ClasspathError.isPanic result := by
  refine get.skip fun contexts => ?_
  refine (act (Act.Tells.inquiry (contexts.current.load_tells name))).bind ?_
  rintro ⟨result, current⟩ panics rfl
  exact (set _).skip fun _ => pure (Bool.or_false _)

end Walk.Tells

namespace ArchiveUnit

theorem judgeClass_tells (qualified : String) :
    (judgeClass Command.workbench qualified).Tells fun result panics =>
      panics = stopsBy AnalysisError.isPanic result := by
  unfold judgeClass
  refine (Walk.Tells.loadPrevious qualified).bind ?_
  rintro previous panics rfl
  cases previous with
  | error error => exact Walk.Tells.pure (Bool.or_false _)
  | ok previous =>
    refine (Walk.Tells.loadCurrent qualified).bind ?_
    rintro current panics rfl
    cases current with
    | error error => exact Walk.Tells.pure (Bool.or_false _)
    | ok current => exact Walk.Tells.pure rfl

theorem judge_tells (unit : ArchiveUnit) (current : Jar) (member : Member) :
    (unit.judge Command.workbench current member).Tells fun result panics =>
      panics = stopsBy AnalysisError.isPanic result := by
  unfold judge
  cases member.qualified? with
  | none => exact Walk.Tells.pure rfl
  | some qualified =>
    have hmember : Act.IsCalm (Command.workbench.access.member current member.name) :=
      (Act.Tells.inquiry Inquiry.Tells.files).skip fun _ => Act.Tells.pure rfl
    refine (Walk.Tells.act hmember).skip fun answer => ?_
    rcases answer with error | (_ | counterpart)
    · exact Walk.Tells.pure rfl
    · exact Walk.Tells.pure rfl
    · simp only
      split
      · exact Walk.Tells.pure rfl
      · refine (Walk.Tells.say analysisTarget_ne).skip fun _ => ?_
        cases nameCause? member with
        | some cause => exact Walk.Tells.pure rfl
        | none => exact judgeClass_tells qualified

/-- The analysis is settled by a panic. -/
def isSettledByPanic : Option (Except AnalysisError Verdict) → Bool
  | some result => stopsBy AnalysisError.isPanic result
  | none => false

theorem settle_tells (unit : ArchiveUnit) (current : Jar) (item : ArchiveAccess.Item) :
    (unit.settle Command.workbench current item).Tells fun settled panics =>
      panics = isSettledByPanic settled := by
  unfold settle
  cases item with
  | error error => exact Walk.Tells.pure rfl
  | ok member =>
    refine (unit.judge_tells current member).bind ?_
    rintro result panics rfl
    rcases result with error | (_ | cause) <;> exact Walk.Tells.pure (Bool.or_false _)

theorem visit_tells (unit : ArchiveUnit) (previous current : Jar) (indices : List Nat) :
    Walk.Tells (Command.workbench.access.visit previous (unit.settle Command.workbench current)
      indices) fun settled panics => panics = isSettledByPanic settled := by
  induction indices with
  | nil => exact Walk.Tells.pure rfl
  | cons index indices ih =>
    rw [ArchiveAccess.visit_cons]
    have hentry : Act.IsCalm (Command.workbench.access.memberAt previous index) :=
      (Act.Tells.inquiry Inquiry.Tells.files).skip fun _ => Act.Tells.pure rfl
    refine (Walk.Tells.act hentry).skip fun entry => ?_
    cases ArchiveAccess.shown? entry with
    | none => exact ih
    | some item =>
      refine (unit.settle_tells current item).bind ?_
      rintro settled panics rfl
      cases settled with
      | none => exact ih
      | some answer => exact Walk.Tells.pure (Bool.or_false _)

theorem compareReaders_tells (unit : ArchiveUnit) (previous current : Jar) :
    (unit.compareReaders Command.workbench previous current).Tells fun result panics =>
      panics = stopsBy AnalysisError.isPanic result := by
  unfold compareReaders
  refine (Walk.Tells.say analysisTarget_ne).skip fun _ => ?_
  refine (unit.visit_tells previous current _).bind ?_
  rintro settled panics rfl
  refine Walk.Tells.get.skip fun contexts => ?_
  refine (Walk.Tells.say analysisTarget_ne).skip fun _ => ?_
  refine (Walk.Tells.say analysisTarget_ne).skip fun _ => Walk.Tells.pure ?_
  rw [Bool.or_false]
  cases settled <;> rfl

theorem withReader_tells (path : Path) {use : Jar → Walk Unit (Except AnalysisError Verdict)}
    (huse : ∀ jar, (use jar).Tells fun result panics =>
      panics = stopsBy AnalysisError.isPanic result) :
    (Command.workbench.access.withReader path use).Tells fun result panics =>
      panics = stopsBy AnalysisError.isPanic result := by
  unfold ArchiveAccess.withReader
  refine (Walk.Tells.act (Act.Tells.inquiry (Jar.acquire_tells path))).bind ?_
  rintro opened panics ⟨rfl, -⟩
  cases opened with
  | error error => exact Walk.Tells.pure rfl
  | ok jar =>
    refine (huse jar).bind ?_
    rintro result panics rfl
    refine (Walk.Tells.act (Act.Tells.inquiry jar.release_isCalm)).skip fun _ => ?_
    exact Walk.Tells.pure (Bool.or_false _)

theorem compareWith_tells (unit : ArchiveUnit) (snapshot : Path) :
    (unit.compareWith Command.workbench snapshot).Tells fun result panics =>
      panics = stopsBy AnalysisError.isPanic result := by
  unfold compareWith
  refine (Act.Tells.inquiry (ClassContext.create_isCalm _ unit.previous)).skip fun previous => ?_
  refine (Act.Tells.inquiry (ClassContext.create_isCalm _ unit.current)).skip fun current => ?_
  have hbody := withReader_tells snapshot fun before =>
    withReader_tells unit.archive (unit.compareReaders_tells before)
  refine (hbody ⟨previous, current⟩).bind ?_
  rintro ⟨result, contexts⟩ panics rfl
  refine (Act.Tells.inquiry contexts.previous.release_isCalm).skip fun _ => ?_
  refine (Act.Tells.inquiry contexts.current.release_isCalm).skip fun _ => ?_
  exact Act.Tells.pure (Bool.or_false _)

theorem run_tells (unit : ArchiveUnit) :
    (unit.run Command.workbench).Tells fun result panics =>
      panics = stopsBy AnalysisError.isPanic result := by
  unfold run
  refine (Act.Tells.inquiry Inquiry.Tells.files).skip fun files => ?_
  cases unit.snapshot.filter files.doesExist with
  | none =>
    refine (Act.Tells.inquiry (Inquiry.Tells.emit analysisTarget_ne)).skip fun _ => ?_
    exact Act.Tells.pure rfl
  | some snapshot => exact unit.compareWith_tells snapshot

/-- The analysis of an archive panics exactly if its outcome is a fault that stands for a panic. -/
theorem analyze_tells (unit : ArchiveUnit) :
    (unit.analyze Command.workbench).Tells fun answer panics =>
      panics = stopsBy AnalysisError.isPanic answer.1 := by
  unfold analyze
  cases unit.verdict with
  | some verdict => exact Act.Tells.pure rfl
  | none =>
    refine unit.run_tells.bind ?_
    rintro result panics rfl
    rcases result with error | (_ | cause)
    · exact Act.Tells.pure (Bool.or_false _)
    · exact Act.Tells.pure rfl
    · refine (Act.Tells.inquiry (Inquiry.Tells.emit analysisTarget_ne)).skip fun _ => ?_
      exact Act.Tells.pure rfl

theorem create_tells (previous current : ResourceSet) (archive : Path) :
    (create previous current archive).Tells fun result panics =>
      panics = false ∧ stopsBy AnalysisError.isPanic result = false := by
  unfold create
  cases Baseline.fileName? archive with
  | none => exact Inquiry.Tells.pure ⟨rfl, rfl⟩
  | some name =>
    exact (Inquiry.Tells.emit analysisTarget_ne).skip fun _ => Inquiry.Tells.pure ⟨rfl, rfl⟩

end ArchiveUnit

/-! ## Before a command runs -/

theorem LogSetup.opening_ne (config : LoggingConfig) (environment : Option String)
    (files : FileSystem) :
    ∀ event ∈ (create config environment files).2.2, event.target ≠ LogEvent.panicTarget := by
  unfold create
  intro event hmem
  dsimp only at hmem
  split at hmem
  · exact nomatch hmem
  · split at hmem
    · exact nomatch hmem
    · obtain rfl := List.mem_singleton.1 hmem
      exact logTarget_ne

theorem Invocation.configEvent_isCalm (source : Option Path) :
    (source.forM fun path => Inquiry.emit (configEvent path)).IsCalm := by
  cases source with
  | none => exact Inquiry.Tells.pure rfl
  | some path => exact Inquiry.Tells.emit LogSetup.logTarget_ne

end Rebuild
