import Rulebook.Proofs.Admin.Steps

/-!
# Rulebook.Proofs.Admin.Reachable

What holds in every state that requests can lead to.

A run starts with empty rule tables and makes requests for records of any kind, in any order, with
records that were read from documents; all else in the store, and the locks, may change in between
(`Reachable`).  Every request leaves every table of rule records orderly (`inv_perform`), so in
every state of a run each record stands under its own identifier and each scope is dense
(`dense_of_reachable`).
-/

namespace Rulebook.Admin

open Prioritized RuleKind

variable {E : Type} [RuleKind E]

/-! ## Requests -/

/-- A request for records of a kind. -/
inductive Request (E : Type) where
  | create (e : E) (type owner : String)
  | update (e : E) (type owner : String)
  | delete (id owner : String)
  | changePriority (id : String) (new : Int) (owner : String)
  | importAll (records : List E) (type owner : String)

/-- The record is one that a document of finite numbers holds. -/
def FromJson (e : E) : Prop :=
  ∃ doc : Json, doc.IsProper ∧ table.decode doc = some e

namespace Request

/-- The world after a request, whatever its outcome. -/
def perform [PatternEngine] (a : Admin) : Request E → World → World
  | create e type owner, w => (a.create e type owner w).2
  | update e type owner, w => (a.update e type owner w).2
  | delete id owner, w => (Admin.delete E a id owner w).2
  | changePriority id new owner, w => (Admin.changePriority E a id new owner w).2
  | importAll records type owner, w => (a.importAll records type owner w).2

/-- The records of the request were read from documents. -/
def IsDecoded : Request E → Prop
  | create e _ _ => FromJson e
  | update e _ _ => FromJson e
  | importAll records _ _ => ∀ e ∈ records, FromJson e
  | _ => True

/-- The identifiers that the request would issue are fresh. -/
def Fresh [PatternEngine] (a : Admin) : Request E → Desk → Prop
  | create e _ _, d => Text.isBlank (key e) = true → d.Fresh a E
  | importAll records type _, d => FreshImport a type records d
  | _, _ => True

end Request

/-- A world in which a run of requests can end. -/
inductive Reachable [PatternEngine] (a : Admin) : World → Prop where
  /-- At first there are no rule records; operations of the store do not fail. -/
  | start {w : World} (hempty : ∀ k : Kind, rows k.Record w.desk.store = ∅)
      (hfaults : w.desk.store.faults = {}) : Reachable a w
  | request {w : World} (h : Reachable a w) (k : Kind) (r : Request k.Record)
      (hdecoded : r.IsDecoded) (hfresh : r.Fresh a w.desk.synced) : Reachable a (r.perform a w)
  /-- Other tables and the locks change at any time. -/
  | outside {w w' : World} (h : Reachable a w)
      (hrows : ∀ k : Kind, rows k.Record w'.desk.store = rows k.Record w.desk.store)
      (hfaults : w'.desk.store.faults = {}) : Reachable a w'

/-! ## The invariant -/

/-- No operation of the store fails, and the tables of all kinds are orderly. -/
structure Inv (w : World) : Prop where
  faults : w.desk.store.faults = {}
  orderly : ∀ k : Kind, Orderly k.Record w.desk.store

variable {a : Admin} {w : World}

/-- What a work does to a table, an operation does, or nothing. -/
theorem step_underLock {α : Type} (c : Config) (owner : String)
    {work : Desk → Except AdminError α × Desk} (h : Orderly E w.desk.store)
    (hstep : Step E w.desk.synced.store (work w.desk.synced).2.store) :
    Step E w.desk.store (underLock c (table (E := E)).name owner work w).2.desk.store :=
  desk_underLock (P := fun d => Step E w.desk.store d.store) c _ owner (Step.refl h)
    ⟨hstep.orderly, hstep.faults, hstep.others⟩

section Lawful

variable [LawfulKind E]

theorem FromJson.storable {e : E} (h : FromJson e) : Storable e := by
  obtain ⟨doc, hdoc, hdecode⟩ := h
  exact storable_of_decode hdoc hdecode

/-- Every request leaves the table of its kind orderly, and the others alone. -/
theorem step_perform [PatternEngine] (h : Orderly E w.desk.store)
    (hfaults : w.desk.store.faults = {}) (r : Request E) (hdecoded : r.IsDecoded)
    (hfresh : r.Fresh a w.desk.synced) :
    Step E w.desk.store (r.perform a w).desk.store := by
  have hsynced : Orderly E w.desk.synced.store := h.of_rows_eq rfl
  cases r with
  | create e type owner =>
      exact step_underLock a.config owner h
        (step_createWork hsynced hfaults hdecoded.storable hfresh)
  | update e type owner =>
      exact step_underLock a.config owner h (step_updateWork hsynced hfaults hdecoded.storable)
  | delete id owner =>
      exact step_underLock a.config owner h (step_deleteWork hsynced hfaults id)
  | changePriority id new owner =>
      rw [Request.perform, Admin.changePriority]
      split
      · exact Step.refl h
      · exact step_underLock a.config owner h (step_moveWork hsynced hfaults id new)
  | importAll records type owner =>
      exact step_underLock a.config owner h
        (step_importWork hsynced hfaults (fun e he => (hdecoded e he).storable) hfresh)

end Lawful

/-- **Every request keeps the invariant.** -/
theorem inv_perform [PatternEngine] {a : Admin} {w : World} (h : Inv w) {k : Kind}
    {r : Request k.Record} (hdecoded : r.IsDecoded) (hfresh : r.Fresh a w.desk.synced) :
    Inv (r.perform a w) := by
  have hstep := step_perform (h.orderly k) h.faults r hdecoded hfresh
  refine ⟨hstep.faults.trans h.faults, fun k' => ?_⟩
  by_cases hk : k' = k
  · subst hk
    exact hstep.orderly
  · exact (h.orderly k').of_rows_eq
      (hstep.others k'.tableName fun hname => hk (Kind.tableName_injective hname))

theorem inv_of_reachable [PatternEngine] {a : Admin} {w : World} (h : Reachable a w) : Inv w := by
  induction h with
  | start hempty hfaults => exact ⟨hfaults, fun k => orderly_of_rows_eq_empty (hempty k)⟩
  | request _ k r hdecoded hfresh ih => exact inv_perform ih hdecoded hfresh
  | outside _ hrows hfaults ih => exact ⟨hfaults, fun k => (ih.orderly k).of_rows_eq (hrows k)⟩

/-! ## Density -/

/-- **Density over runs**: in every state that requests can lead to, every document of a table of
rule records is a record under its own identifier, which is not blank, and the priorities of every
scope are the numbers from one up to the number of its records, in order. -/
theorem dense_of_reachable [PatternEngine] {a : Admin} {w : World} (h : Reachable a w) (k : Kind) :
    (∀ id doc, (w.desk.store.table k.tableName).get? id = some doc →
      ∃ e : k.Record, table.decode doc = some e ∧ key e = id ∧ Text.isBlank id = false) ∧
    ∀ e : k.Record, ∃ es, scopeOf w.desk.store e = .ok es ∧
      es.map priority = (List.range es.length).map fun i : Nat => (i : Int) + 1 := by
  have hinv := inv_of_reachable h
  have horderly := hinv.orderly k
  constructor
  · intro id doc hrow
    obtain ⟨e, rfl, hstorable, hkey, hblank⟩ := horderly.documented id doc hrow
    exact ⟨e, hstorable.decode_encode, hkey, hblank⟩
  · intro e
    exact ⟨scope w.desk.store e, scopeOf_eq horderly.documented.keyed (by rw [hinv.faults]) e,
      Priority.dense_iff_map_priority.1 (horderly.dense e)⟩

/-! ## A run -/

/-- The request only brings records that have identifiers. -/
def Request.IsNamed : Request E → Prop
  | create e _ _ => Text.isBlank (key e) = false
  | importAll records _ _ => ∀ e ∈ records, Text.isBlank (key e) = false
  | _ => True

/-- No identifier is issued to records that have their own. -/
theorem Request.IsNamed.fresh [PatternEngine] {r : Request E} (h : r.IsNamed) (d : Desk) :
    r.Fresh a d := by
  have hnot : ∀ {e : E} {d : Desk}, Text.isBlank (key e) = false →
      Text.isBlank (key e) = true → d.Fresh a E := fun hnamed hblank => by simp [hnamed] at hblank
  cases r with
  | create e type owner => exact hnot h
  | update e type owner => trivial
  | delete id owner => trivial
  | changePriority id new owner => trivial
  | importAll records type owner =>
      have hrecords : ∀ e ∈ records, Text.isBlank (key e) = false := h
      show FreshImport a type records d
      clear h
      induction records generalizing d with
      | nil => trivial
      | cons e rest ih =>
          rw [List.forall_mem_cons] at hrecords
          exact ⟨hnot hrecords.1, ih _ hrecords.2⟩

/-- The world after requests for the records of a kind, one after the other. -/
def Request.performEach [PatternEngine] (a : Admin) (rs : List (Request E)) (w : World) : World :=
  rs.foldl (fun w r => r.perform a w) w

theorem Reachable.performEach [PatternEngine] (h : Reachable a w) {k : Kind}
    {rs : List (Request k.Record)} (hrs : ∀ r ∈ rs, r.IsDecoded ∧ r.IsNamed) :
    Reachable a (Request.performEach a rs w) := by
  induction rs generalizing w with
  | nil => exact h
  | cons r rest ih =>
      rw [List.forall_mem_cons] at hrs
      obtain ⟨⟨hdecoded, hnamed⟩, hrest⟩ := hrs
      exact ih (h.request k r hdecoded (hnamed.fresh _)) hrest

/-- A rule for the devices that say something under its own name. -/
def plainRule (id name type : String) (priority : Int) : FirmwareRule :=
  { id, name, applicationType := type, priority
    rule := { condition := some ({ name } : FreeArg).present } }

theorem fromJson_plainRule (id name type : String) {priority : Int}
    (hpriority : Json.IsInt32 priority) : FromJson (plainRule id name type priority) := by
  refine ⟨(plainRule id name type priority).toJson, ?_, FirmwareRule.ofJson?_toJson hpriority⟩
  simp [plainRule, FirmwareRule.toJson, Rule.toJson, Condition.toJson, FreeArg.toJson,
    FreeArg.present, FreeArgType.toJson, Json.optionalMember, Json.IsProper, Json.MembersProper]
  obtain ⟨hlow, hhigh⟩ := hpriority
  omega

/-- Requests for rules of two application types.  Three of them ask for places that there are not,
the last but one would create a rule that there already is under another identifier, and the last
one moves a rule.  The names are made of the one letter whose lower case needs no table. -/
def rollout : List (Request Kind.firmwareRule.Record) :=
  [.create (plainRule "a" "İ" "stb" 7) "stb" "admin",
    .create (plainRule "b" "İİ" "stb" 1) "stb" "admin",
    .create (plainRule "c" "İİİ" "stb" 0) "stb" "admin",
    .create (plainRule "x" "İ" "rdkcloud" 7) "rdkcloud" "admin",
    .create (plainRule "y" "İİ" "rdkcloud" 1) "rdkcloud" "admin",
    .create (plainRule "d" "İ" "stb" 1) "stb" "admin",
    .changePriority "c" 2 "admin"]

/-- The world after these requests. -/
def rolledOut [PatternEngine] (a : Admin) : World :=
  Request.performEach a rollout {}

theorem reachable_rolledOut [PatternEngine] (a : Admin) : Reachable a (rolledOut a) := by
  have hstart : Reachable a {} := .start (fun _ => rfl) rfl
  refine hstart.performEach fun r hr => ?_
  simp only [rollout, List.mem_cons, List.not_mem_nil, or_false] at hr
  rcases hr with rfl | rfl | rfl | rfl | rfl | rfl | rfl
  iterate 6
    exact ⟨fromJson_plainRule _ _ _ (by decide), show Text.isBlank _ = false by decide +kernel⟩
  exact ⟨trivial, trivial⟩

/-- The scopes after the run: the third rule was put last and then moved up, and the one that was
refused is not there. -/
theorem dense_rolledOut :
    (∃ es, scopeOf (rolledOut { newId := toString }).desk.store (plainRule "" "" "stb" 1) =
        .ok es ∧ es.map key = ["b", "c", "a"] ∧ es.map priority = [1, 2, 3]) ∧
      ∃ es, scopeOf (rolledOut { newId := toString }).desk.store (plainRule "" "" "rdkcloud" 1) =
        .ok es ∧ es.map key = ["y", "x"] ∧ es.map priority = [1, 2] := by
  have hdense := (dense_of_reachable (reachable_rolledOut { newId := toString }) .firmwareRule).2
  constructor
  · obtain ⟨es, hscope, hpriorities⟩ := hdense (plainRule "" "" "stb" 1)
    have hkeys : es.map key = ["b", "c", "a"] := by
      rw [(scopeOf_eq_ok_iff.1 hscope).2.2]
      decide +kernel
    rw [← List.length_map key, hkeys] at hpriorities
    exact ⟨es, hscope, hkeys, hpriorities⟩
  · obtain ⟨es, hscope, hpriorities⟩ := hdense (plainRule "" "" "rdkcloud" 1)
    have hkeys : es.map key = ["y", "x"] := by
      rw [(scopeOf_eq_ok_iff.1 hscope).2.2]
      decide +kernel
    rw [← List.length_map key, hkeys] at hpriorities
    exact ⟨es, hscope, hkeys, hpriorities⟩

end Rulebook.Admin
