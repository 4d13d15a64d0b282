/-!
# Verdicts

Changes are safe to compile incrementally, or they force a full rebuild for a stated cause. A full
rebuild is final: the first cause stays.
-/

namespace Rebuild

inductive Verdict
  | incremental
  | fullRebuild (cause : String)
deriving DecidableEq, Repr, Inhabited

namespace Verdict

def isFullRebuild : Verdict → Bool
  | incremental => false
  | fullRebuild _ => true

def cause? : Verdict → Option String
  | incremental => none
  | fullRebuild cause => some cause

/-- The verdict reached earlier, unless it leaves the question open. -/
def andThen : Verdict → Verdict → Verdict
  | incremental, later => later
  | fullRebuild cause, _ => fullRebuild cause

/-- Escalates to a full rebuild. Also says whether the cause was taken: an earlier one stays. -/
def record (verdict : Verdict) (cause : String) : Bool × Verdict :=
  match verdict with
  | incremental => (true, fullRebuild cause)
  | fullRebuild earlier => (false, fullRebuild earlier)

/-- The verdict in words, for a report on a terminal. -/
def describe : Verdict → String
  | incremental => "incremental"
  | fullRebuild cause => "full rebuild: " ++ cause

theorem cause?_isSome (verdict : Verdict) : verdict.cause?.isSome = verdict.isFullRebuild := by
  cases verdict <;> rfl

theorem record_snd (verdict : Verdict) (cause : String) :
    (verdict.record cause).2 = verdict.andThen (fullRebuild cause) := by
  cases verdict <;> rfl

@[simp]
theorem incremental_andThen (verdict : Verdict) : incremental.andThen verdict = verdict := rfl

@[simp]
theorem andThen_incremental (verdict : Verdict) : verdict.andThen incremental = verdict := by
  cases verdict <;> rfl

theorem andThen_assoc (a b c : Verdict) : (a.andThen b).andThen c = a.andThen (b.andThen c) := by
  cases a <;> rfl

end Verdict

end Rebuild
