import Rulebook.Proofs.Admin.Work

/-!
# Rulebook.Proofs.Admin.Imports

What becomes of each record of an import.

An import answers a report, and the report only says which records were refused.  `importOutcomes`
are the answers behind it, one for each record in order; the report is read off them
(`report_importWork`).
-/

namespace Rulebook.Admin

open Prioritized RuleKind

variable {E : Type} [RuleKind E]

/-- The answer that each record of an import would have got on its own, in order. -/
def importOutcomes [PatternEngine] (a : Admin) (type : String) :
    List E → Desk → List (Except AdminError E)
  | [], _ => []
  | e :: rest, d =>
    (importOne a type e d).1 :: importOutcomes a type rest (importOne a type e d).2

/-- The report of an import with these outcomes: the identifiers of the records that were saved, as
they were saved, and of those that were refused, as they were brought. -/
def reportOf (records : List E) (outcomes : List (Except AdminError E)) : ImportReport where
  imported := outcomes.filterMap fun outcome => outcome.toOption.map key
  notImported := ((records.zip outcomes).filter fun entry => !entry.2.isOk).map fun entry =>
    key entry.1

/-- **An import reports its outcomes**, one for each record. -/
theorem report_importWork [PatternEngine] (a : Admin) (type : String) (records : List E)
    (d : Desk) :
    (importWork a type records d).1 = reportOf records (importOutcomes a type records d) := by
  induction records generalizing d with
  | nil => rfl
  | cons e rest ih =>
      have hrest := ih (importOne a type e d).2
      rw [importWork, importOutcomes]
      dsimp only
      rw [hrest]
      cases (importOne a type e d).1 <;> rfl

/-- With the lock free, an import does its work and answers the report. -/
theorem importAll_of_free [PatternEngine] (a : Admin) (type owner : String) (records : List E)
    {w : World} (hfree : (w.lock a.config (table (E := E)).name).owner = none)
    (hsyncs : w.desk.store.faults.syncs = false) :
    ∃ w', importAll a records type owner w = (.ok (importWork a type records w.desk.synced).1, w') ∧
      w'.desk = (importWork a type records w.desk.synced).2 :=
  underLock_of_free owner _ hfree hsyncs

end Rulebook.Admin
