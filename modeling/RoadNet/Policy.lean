import RoadNet.Failure

/-!
# RoadNet.Policy

What to do when a single record fails. A strict run ends with the first failure. A robust run
notes failures of single records and goes on; any other failure ends it too.
-/

namespace RoadNet

/-- How a run treats the failure of a single record. -/
inductive Policy where
  | strict
  | robust
deriving DecidableEq, Repr

/-- A computation that may fail and that collects messages about skipped records. What was
collected before a failure stays. -/
abbrev Run := ExceptT Failure (StateM (List String))

namespace Policy

/-- Deal with the failure of a record: a robust run notes the `message` and goes on, a strict run
ends. A robust run ends with failures that are not `isRecordLevel`, too. -/
def report (policy : Policy) (failure : Failure) : Run Unit :=
  match policy with
  | .robust =>
    if failure.isRecordLevel then modify fun messages => messages ++ [failure.message]
    else throw failure
  | .strict => throw failure

/-- Deal with `failures` one after the other, with `report`. -/
def reportAll (policy : Policy) (failures : List Failure) : Run Unit :=
  failures.forM policy.report

/-- The results of the attempts that succeed, each failure passed to `report`. -/
def keepGood (policy : Policy) : List (Except Failure α) → Run (List α)
  | [] => return []
  | .ok a :: rest => return a :: (← policy.keepGood rest)
  | .error e :: rest => do
    policy.report e
    policy.keepGood rest

end Policy

end RoadNet
