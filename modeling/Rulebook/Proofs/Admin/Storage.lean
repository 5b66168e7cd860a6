import Rulebook.Proofs.Admin.Contents
import Rulebook.Proofs.Validation.Shape

/-!
# Rulebook.Proofs.Admin.Storage

Whether a record that was accepted is still valid when it is read back.

What is stored is the document of a record, and a document has no numbers that are not finite: a
condition that compares with one is read back without anything to compare with.  The checks let such
numbers pass, for only the percentages are held against bounds:

* `readsBack_of_request` — what is read back after a record was created or updated, and that its
  tree is valid exactly if it is durable;
* `lost_thresholdRule` — an accepted rule that is not valid when it is read back.
-/

namespace Rulebook.Admin

open Prioritized RuleKind

variable {E : Type} [RuleKind E] {s s' : Store} {c : Config}

/-- The record is found as its document has it, and is then valid exactly if its tree is durable. -/
structure ReadsBack [PatternEngine] (s : Store) (r : E) : Prop where
  found : get? s (key r) = .ok (some (withRule r (rule r).written))
  valid_iff : Validation.validateRule (rule r).written (allowed E) = .ok () ↔ (rule r).Durable

/-- A plan writes its answer, which is a prepared record, and no identifier twice. -/
structure Plan.WritesAnswer [PatternEngine] (c : Config) (plan : Plan E) : Prop where
  result : plan.result ∈ plan.writes
  nodup : (plan.writes.map key).Nodup
  prepared : Prepared c plan.result
  inRange : Json.IsInt32 (priority plan.result)

/-- Saving does not change whether the store can be read. -/
theorem reads_of_save {es : List E} (h : save es s = (.ok (), s')) :
    s'.faults.reads = s.faults.reads := by
  induction es generalizing s with
  | nil =>
      cases h
      rfl
  | cons e rest ih =>
      rw [save] at h
      split at h
      · cases h
      · next s₁ hwrite =>
          rw [ih h]
          rw [Table.write, Store.write] at hwrite
          split at hwrite <;> cases hwrite <;> rfl

section Lawful

variable [LawfulKind E] [PatternEngine]

/-- A prepared record is valid. -/
theorem Prepared.valid {e : E} (h : Prepared c e) :
    Validation.validateRule (rule e) (allowed E) = .ok () := by
  obtain ⟨s, type, e₀, r, p, hprepare, rfl⟩ := h
  obtain ⟨-, hrecord, rfl⟩ := prepare_eq_ok_iff.1 hprepare
  rw [LawfulKind.rule_withPriority]
  exact (checkRecord_eq_ok_iff.1 hrecord).1

omit [LawfulKind E] in
theorem prepared_of_prepare {type : String} {e r : E} (h : prepare c s type e = .ok r) (p : Int) :
    Prepared c (withPriority r p) :=
  ⟨s, type, e, r, p, h, rfl⟩

/-! ## What is written -/

variable {type : String} {plan : Plan E}

/-- A plan that is a move writes the acting record, if that is its answer. -/
theorem writesAnswer_of_move {scope items : List E} {e r : E} {j : Nat} {old new : Int}
    {change : Priority.Reordered E} (hprepare : prepare c s type e = .ok r)
    (hacting : Priority.Acting scope items r j) (hmove : Priority.move items old new = .ok change)
    (hresult : plan.result ∈ change.altered) (hid : key plan.result = key r)
    (hwrites : plan.writes = change.altered) :
    plan.WritesAnswer c := by
  have hrewrite := hacting.rewrite hmove ⟨plan.result, hresult, hid⟩
  obtain ⟨b, -, p, hp, hp', hb⟩ :=
    (Priority.moved_of_move hmove).2.exists_of_mem_altered hresult
  refine ⟨hwrites ▸ hresult, hwrites ▸ hrewrite.nodup_written, ?_, ?_⟩
  · rw [hacting.priority_eq hmove hresult hid]
    exact prepared_of_prepare hprepare _
  · rw [hb, LawfulPrioritized.priority_withPriority]
    exact isInt32_of_le_largest hp hp'

theorem Keyed.writesAnswer_of_planCreate (h : Keyed E s) {fresh : String} {e : E}
    (hfresh : Text.isBlank (key e) = true → (rows E s).get? fresh = none)
    (hplan : planCreate c s fresh type e = .ok plan) :
    s.faults.reads = false ∧ plan.WritesAnswer c := by
  obtain ⟨e', r, change, -, hprepare, hreads, -, hacting, hmove, hresult, hid, hwrites⟩ :=
    h.move_of_planCreate hfresh hplan
  exact ⟨hreads, writesAnswer_of_move hprepare hacting hmove hresult hid hwrites⟩

theorem Keyed.writesAnswer_of_planUpdate (h : Keyed E s) {e : E}
    (he : Json.IsInt32 (priority e)) (hplan : planUpdate c s type e = .ok plan) :
    s.faults.reads = false ∧ plan.WritesAnswer c := by
  obtain ⟨r, stored, j, hprepare, hreads, -, -, -, -, hacting, hplan⟩ := h.move_of_planUpdate hplan
  refine ⟨hreads, ?_⟩
  split at hplan
  · have hpriority : priority r = priority e := by
      obtain ⟨-, -, rfl⟩ := prepare_eq_ok_iff.1 hprepare
      exact priority_ready c type e
    have hprepared := prepared_of_prepare hprepare (priority r)
    rw [LawfulPrioritized.withPriority_priority] at hprepared
    subst hplan
    exact ⟨List.mem_singleton_self r, List.nodup_singleton _, hprepared, hpriority ▸ he⟩
  · obtain ⟨change, hmove, hresult, hid, hwrites⟩ := hplan
    exact writesAnswer_of_move hprepare hacting hmove hresult hid hwrites

/-- The answer of a plan that is carried out is read back as its document has it. -/
theorem Plan.WritesAnswer.readsBack (h : plan.WritesAnswer c) (hreads : s.faults.reads = false)
    (hsave : save plan.writes s = (.ok (), s')) : ReadsBack s' plan.result := by
  have hsaved := saved_of_save h.nodup hsave
  have hstored : stored? E s' (key plan.result) =
      some (withRule plan.result (rule plan.result).written) := by
    rw [stored?, hsaved.written plan.result h.result, Option.bind_some,
      LawfulKind.decode_encode h.inRange]
  have hfound := get?_eq_ok_iff.2 ⟨(reads_of_save hsave).trans hreads, hstored, fun h => by cases h⟩
  exact ⟨hfound, Validation.validateRule_written_iff h.prepared.valid⟩

end Lawful

/-! ## Creating and updating -/

/-- **What is read back** after a record was created or updated, in any world in which every
document of the table is a record under its own identifier: the record but for its numbers that are
not finite, and so a valid one exactly if its tree is durable. -/
theorem readsBack_of_request [PatternEngine] {a : Admin} {w : World} {k : Kind}
    (h : Keyed k.Record w.desk.store) :
    (∀ (e r : k.Record) (type owner : String) (w' : World),
      (Text.isBlank (key e) = true →
        (rows k.Record w.desk.store).get? (a.newId w.desk.issued) = none) →
      create a e type owner w = (.ok r, w') → ReadsBack w'.desk.store r) ∧
    (∀ (e r : k.Record) (type owner : String) (w' : World), Json.IsInt32 (priority e) →
      update a e type owner w = (.ok r, w') → ReadsBack w'.desk.store r) := by
  have hsynced : Keyed k.Record w.desk.synced.store := h
  constructor
  · intro e r type owner w' hfresh hrun
    obtain ⟨plan, hplan, rfl, hsave⟩ := createWork_eq_ok (underLock_eq_ok hrun)
    obtain ⟨hreads, hwrites⟩ := hsynced.writesAnswer_of_planCreate hfresh hplan
    exact hwrites.readsBack hreads hsave
  · intro e r type owner w' he hrun
    obtain ⟨plan, hplan, rfl, hsave⟩ := updateWork_eq_ok (underLock_eq_ok hrun)
    obtain ⟨hreads, hwrites⟩ := hsynced.writesAnswer_of_planUpdate he hplan
    exact hwrites.readsBack hreads hsave

/-! ## A threshold that is not finite -/

/-- A rule for the devices whose load is at least a given number. -/
def thresholdRule (x : Number) : Kind.firmwareRule.Record :=
  ({ id := "a", name := "a", applicationType := "stb", priority := 1
     rule := { condition := some (({ name := "load" } : FreeArg).gte (.number x)) } } :
    FirmwareRule)

/-- The rule is accepted although the number is infinite. -/
theorem exists_create_thresholdRule :
    ∃ r w', create { newId := toString } (thresholdRule (.infinite false)) "stb" "admin" {} =
        (.ok r, w') ∧ key r = "a" := by
  have hok : (create { newId := toString } (thresholdRule (.infinite false)) "stb" "admin"
      {}).1.toOption.map key = some "a" := by decide +kernel
  rcases hrun : create { newId := toString } (thresholdRule (.infinite false)) "stb" "admin" {} with
    ⟨outcome, w'⟩
  rw [hrun] at hok
  cases outcome with
  | error error => cases hok
  | ok r => exact ⟨r, w', rfl, Option.some.inj hok⟩

theorem readsBack_thresholdRule :
    ∃ r w', create { newId := toString } (thresholdRule (.infinite false)) "stb" "admin" {} =
        (.ok r, w') ∧ ReadsBack w'.desk.store r := by
  obtain ⟨r, w', hrun, -⟩ := exists_create_thresholdRule
  have hkeyed : Keyed Kind.firmwareRule.Record ({} : World).desk.store := fun id doc hrow => by
    cases hrow
  exact ⟨r, w', hrun, (readsBack_of_request hkeyed).1 (thresholdRule (.infinite false)) r "stb"
    "admin" w' (fun hblank => absurd hblank (by decide +kernel)) hrun⟩

/-- Not every record that is created is still valid when it is read back: the rule with an infinite
threshold has lost it. -/
theorem lost_thresholdRule :
    ¬∀ (a : Admin) (k : Kind) (e r : k.Record) (type owner : String) (w' : World),
      create a e type owner {} = (.ok r, w') →
        ∃ e' : k.Record, get? w'.desk.store (key r) = .ok (some e') ∧
          Validation.validateRule (rule e') (allowed k.Record) = .ok () := by
  intro h
  obtain ⟨r, w', hrun, hkey⟩ := exists_create_thresholdRule
  obtain ⟨e', hget, hvalid⟩ := h _ .firmwareRule _ r _ _ w' hrun
  -- The document has null where the number was: the condition is read without a fixed argument.
  have hlost : (stored? Kind.firmwareRule.Record (create { newId := toString }
      (thresholdRule (.infinite false)) "stb" "admin" {}).2.desk.store "a").map
        (fun e => (Validation.validateRule (rule e) (allowed Kind.firmwareRule.Record)).isOk) =
      some false := by decide +kernel
  rw [hkey] at hget
  rw [hrun, (get?_eq_ok_iff.1 hget).2.1, Option.map_some, hvalid] at hlost
  cases hlost

end Rulebook.Admin
