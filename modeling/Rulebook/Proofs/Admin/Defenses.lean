import Rulebook.Proofs.Admin.Imports
import Rulebook.Proofs.Admin.Served

/-!
# Rulebook.Proofs.Admin.Defenses

Failures that no request meets.

Some failures only stand guard over what the rest of the program is to keep up: that there is a
record at every priority that is moved from, that a changed record is among those reported, and that
every document reads (`AdminError.isDefensive`).  An outcome is `Sound` if it is none of these.  The
outcomes of all requests are sound as long as the store is intact, which it is in every state of a
run; so each work is gone through once, check by check:

* `Intact.sound_createWork`, `Intact.sound_updateWork` and their like — the works on rules;
* `Intact.sound_addList`, `Intact.sound_dropList` — the works on lists;
* `sound_of_served` — all requests.
-/

namespace Rulebook

open Prioritized RuleKind

/-- The failure stands guard over what the program itself keeps up. -/
def AdminError.isDefensive : AdminError → Bool
  | .order _ => true
  | .conflict (.createdMissing _ _) => true
  | .conflict (.updatedMissing _ _) => true
  | .store .serialization => true
  | _ => false

namespace Admin

/-! ## Sound outcomes -/

/-- The outcome is no failure that stands guard. -/
def Sound {α : Type} (outcome : Except AdminError α) : Prop :=
  ∀ error, outcome = .error error → error.isDefensive = false

section Sound

variable {α β : Type} {x : Except AdminError α}

theorem sound_ok (a : α) : Sound (.ok a) :=
  failsOnly_ok a

theorem sound_error {error : AdminError} (h : error.isDefensive = false) :
    Sound (.error error : Except AdminError α) :=
  failsOnly_error h

theorem sound_of_exists (h : ∃ a, x = .ok a) : Sound x := by
  obtain ⟨a, rfl⟩ := h
  exact sound_ok a

theorem sound_validation (x : Except ValidationError α) : Sound (x.mapError .validation) :=
  FailsOnly.mapError fun _ _ => rfl

theorem Sound.bind {f : α → Except AdminError β} (hx : Sound x)
    (hf : ∀ a, x = .ok a → Sound (f a)) : Sound (x >>= f) :=
  FailsOnly.bind hx hf

theorem Sound.map {f : α → β} (hx : Sound x) : Sound (x.map f) :=
  FailsOnly.map hx

theorem sound_forM {f : α → Except AdminError Unit} {items : List α}
    (h : ∀ a ∈ items, Sound (f a)) : Sound (items.forM f) :=
  failsOnly_forM h

end Sound

theorem sound_underLock {α : Type} (c : Config) (t owner : String)
    {work : Desk → Except AdminError α × Desk} {w : World} (h : Sound (work w.desk.synced).1) :
    Sound (underLock c t owner work w).1 :=
  failsOnly_underLock c t owner rfl rfl h

/-! ## Look-up and checks -/

section Checks

variable {E : Type} [RuleKind E] {s : Store} {c : Config} {type : String}

theorem Keyed.sound_get? (h : Keyed E s) (hreads : s.faults.reads = false) (id : String) :
    Sound (get? (E := E) s id) :=
  sound_of_exists ⟨stored? E s id, get?_eq_ok_iff.2 ⟨hreads, rfl, h.stored?_eq_none_iff.1⟩⟩

theorem Keyed.sound_find (h : Keyed E s) (hreads : s.faults.reads = false) (id : String) :
    Sound (find (E := E) s id) := by
  rw [find]
  split
  · exact sound_error rfl
  · refine (h.sound_get? hreads id).bind fun found _ => ?_
    cases found with
    | none => exact sound_error rfl
    | some e => exact sound_ok e

theorem Keyed.sound_identify (h : Keyed E s) (hreads : s.faults.reads = false) (fresh : String)
    (e : E) : Sound (identify s fresh e) := by
  rw [identify]
  split
  · exact sound_ok _
  · refine (h.sound_get? hreads (key e)).bind fun found _ => ?_
    cases found with
    | none => exact sound_ok e
    | some stored => exact sound_error rfl

theorem Keyed.sound_scopeOf (h : Keyed E s) (hreads : s.faults.reads = false) (e : E) :
    Sound (scopeOf s e) :=
  sound_of_exists ⟨_, scopeOf_eq h hreads e⟩

theorem sound_checkDuplicates (e : E) (scope : List E) : Sound (checkDuplicates e scope) :=
  failsOnly_checkDuplicates (fun _ => rfl) (fun _ => rfl) e scope

theorem sound_checkUnchanged (e stored : E) : Sound (checkUnchanged e stored) := by
  rw [checkUnchanged]
  split
  · exact sound_error rfl
  · exact sound_ok ()

theorem sound_prepare [PatternEngine] {e : E}
    (hcheck : ∀ r : E, Sound (RuleKind.check ⟨s, c, requestType c type⟩ r)) :
    Sound (prepare c s type e) := by
  refine (sound_validation _).bind fun _ _ => ?_
  refine Sound.bind ?_ fun _ _ => sound_ok _
  rw [checkRecord]
  refine (sound_validation _).bind fun _ _ => ?_
  dsimp only
  split
  · exact sound_error rfl
  · exact hcheck _

end Checks

theorem sound_checkProperties (t : Template) : Sound t.checkProperties := by
  rw [Template.checkProperties]
  split
  · exact sound_error rfl
  · exact sound_ok ()

namespace Intact

variable {s : Store} {k : Kind} (h : Intact s)

include h

/-- A feature that a rule names is read, if there is one. -/
theorem sound_checkFeature (r : FeatureRule) (id : String) : Sound (r.checkFeature s id) := by
  obtain ⟨found, hget⟩ := h.features.exists_get? h.reads id
  rw [FeatureRule.checkFeature, hget]
  cases found with
  | none => exact sound_error rfl
  | some feature =>
      show Sound (if feature.applicationType != r.applicationType then _ else _)
      split
      · exact sound_error rfl
      · exact sound_ok ()

theorem sound_check (c : Config) (type : String) (e : k.Record) :
    Sound (RuleKind.check ⟨s, c, type⟩ e) := by
  cases k with
  | firmwareRule => exact sound_ok ()
  | template => exact sound_checkProperties e
  | featureRule =>
      refine (sound_validation _).bind fun _ _ => ?_
      refine (sound_forM fun id _ => h.sound_checkFeature e id).bind fun _ _ => ?_
      exact (sound_validation _).bind fun _ _ => sound_validation _

/-- The firmware rules that a template is searched in are read. -/
theorem sound_checkUnused (t : Template) : Sound (t.checkUnused s) := by
  have hreadable : firmwareRules.Readable s := fun id doc hrow => by
    obtain ⟨r, hdecode, -⟩ := h.keyed .firmwareRule id doc hrow
    exact ⟨r, hdecode⟩
  obtain ⟨rules, hall⟩ := hreadable.exists_all h.reads
  rw [Template.checkUnused, hall]
  refine (sound_ok rules).bind fun _ _ => ?_
  split
  · exact sound_ok ()
  · exact sound_error rfl

theorem sound_checkDeletable (e : k.Record) : Sound (RuleKind.checkDeletable s e) := by
  cases k with
  | firmwareRule => exact sound_ok ()
  | template => exact h.sound_checkUnused e
  | featureRule => exact sound_ok ()

/-! ## Plans -/

variable {c : Config} {type : String}

theorem sound_planCreate [PatternEngine] {fresh : String} {e : k.Record}
    (hfresh : Text.isBlank (key e) = true → (rows k.Record s).get? fresh = none)
    (hroom : ∀ r : k.Record, ((scope s r).length : Int) < Priority.largest) :
    Sound (planCreate c s fresh type e) := by
  have hkeyed := h.keyed k
  refine (hkeyed.sound_identify h.reads fresh e).bind fun e' hidentify => ?_
  refine (sound_prepare (h.sound_check c _)).bind fun r hprepare => ?_
  refine (hkeyed.sound_scopeOf h.reads r).bind fun es hscope => ?_
  refine (sound_checkDuplicates r es).bind fun _ _ => ?_
  -- What is left is the order of the scope: all of its failures stand guard, so it has to succeed.
  obtain ⟨-, -, rfl⟩ := scopeOf_eq_ok_iff.1 hscope
  have hunused : (rows k.Record s).get? (key r) = none := by
    obtain ⟨-, -, rfl⟩ := prepare_eq_ok_iff.1 hprepare
    rw [key_ready]
    exact unused_of_identify hfresh hidentify
  exact sound_of_exists (hkeyed.exists_planScope_add hunused (hroom r) _)

theorem sound_planUpdate [PatternEngine] (e : k.Record) : Sound (planUpdate c s type e) := by
  have hkeyed := h.keyed k
  refine (hkeyed.sound_find h.reads (key e)).bind fun stored hfind => ?_
  refine (sound_prepare (h.sound_check c _)).bind fun r hprepare => ?_
  refine (sound_checkUnchanged r stored).bind fun _ hunchanged => ?_
  refine (hkeyed.sound_scopeOf h.reads r).bind fun es hscope => ?_
  refine (sound_checkDuplicates r es).bind fun _ _ => ?_
  obtain ⟨-, -, rfl⟩ := scopeOf_eq_ok_iff.1 hscope
  split
  · exact sound_ok _
  · have hstored : stored? k.Record s (key r) = some stored := by
      obtain ⟨-, -, rfl⟩ := prepare_eq_ok_iff.1 hprepare
      rw [key_ready]
      exact (find_eq_ok_iff.1 hfind).2.2
    have hsame : sameScope r stored = true :=
      LawfulKind.sameScope_of_changedField? (checkUnchanged_eq_ok_iff.1 hunchanged)
    exact sound_of_exists ((h.orderly k).exists_planScope_update hstored hsame _)

theorem sound_planMove (id : String) (new : Int) : Sound (planMove (E := k.Record) s id new) := by
  have hkeyed := h.keyed k
  refine (hkeyed.sound_find h.reads id).bind fun stored hfind => ?_
  refine (hkeyed.sound_scopeOf h.reads stored).bind fun es hscope => ?_
  refine Sound.bind ?_ fun _ _ => sound_ok _
  obtain ⟨-, -, rfl⟩ := scopeOf_eq_ok_iff.1 hscope
  obtain ⟨-, -, hstored⟩ := find_eq_ok_iff.1 hfind
  exact sound_of_exists ((h.orderly k).exists_planScope_change hstored new _)

end Intact

/-! ## Works on rules -/

namespace Intact

variable {a : Admin} {type : String} {d : Desk} {k : Kind} (h : Intact d.store)

include h

theorem sound_createWork [PatternEngine] {e : k.Record}
    (hfresh : Text.isBlank (key e) = true → d.Fresh a k.Record)
    (hroom : ∀ r : k.Record, ((scope d.store r).length : Int) < Priority.largest) :
    Sound (createWork a type e d).1 := by
  rw [fst_createWork h.writes]
  exact (h.sound_planCreate (fun hblank => (hfresh hblank).2) hroom).map

theorem sound_updateWork [PatternEngine] (e : k.Record) : Sound (updateWork a type e d).1 := by
  rw [fst_updateWork h.writes]
  exact (h.sound_planUpdate e).map

theorem sound_moveWork (id : String) (new : Int) : Sound (moveWork k.Record id new d).1 := by
  rw [fst_moveWork h.writes]
  exact h.sound_planMove id new

/-- A record that is found and may be deleted is deleted. -/
theorem sound_deleteWork (id : String) : Sound (deleteWork k.Record id d).1 := by
  have hfind : Sound (findDeletable (E := k.Record) d.store id) :=
    ((h.keyed k).sound_find h.reads id).bind fun stored _ =>
      (h.sound_checkDeletable stored).bind fun _ _ => sound_ok stored
  cases heq : findDeletable (E := k.Record) d.store id with
  | error error =>
      rw [deleteWork_of_error heq]
      exact sound_error (hfind error heq)
  | ok e =>
      rw [deleteWork_of_ok heq, Desk.after]
      -- The scope is read after the record is gone, and every document left in the table reads.
      refine sound_of_exists ((remove_ok_iff h.reads (by rw [h.faults]) e id).2 ⟨?_, ?_⟩)
      · intro n doc _ hrow hnone
        obtain ⟨e', hdecode, -⟩ := h.keyed k n doc hrow
        rw [hnone] at hdecode
        cases hdecode
      · intro n hn
        rw [h.writes] at hn
        cases hn

end Intact

/-! ## Imports -/

/-- When each record of an import is reached, there is a priority left in every scope. -/
def RoomyImport [PatternEngine] {E : Type} [RuleKind E] (a : Admin) (type : String) :
    List E → Desk → Prop
  | [], _ => True
  | e :: rest, d =>
    (∀ r : E, ((scope d.store r).length : Int) < Priority.largest) ∧
      RoomyImport a type rest (importOne a type e d).2

namespace Intact

variable {a : Admin} {type : String} {d : Desk} {k : Kind} [PatternEngine]

theorem sound_importOne (h : Intact d.store) {e : k.Record}
    (hfresh : Text.isBlank (key e) = true → d.Fresh a k.Record)
    (hroom : ∀ r : k.Record, ((scope d.store r).length : Int) < Priority.largest) :
    Sound (importOne a type e d).1 := by
  have hstored : Sound (isStored k.Record d.store (key e)) := by
    rw [isStored]
    split
    · exact sound_ok false
    · exact ((h.keyed k).sound_get? h.reads (key e)).bind fun found _ => sound_ok found.isSome
  rw [importOne]
  split
  · next error heq => exact sound_error (hstored error heq)
  · exact h.sound_updateWork e
  · exact h.sound_createWork hfresh hroom

/-- The outcome of each record of an import is sound. -/
theorem sound_importOutcomes (h : Intact d.store) {records : List k.Record}
    (hrecords : ∀ e ∈ records, FromJson e) (hfresh : FreshImport a type records d)
    (hroom : RoomyImport a type records d) :
    ∀ outcome ∈ importOutcomes a type records d, Sound outcome := by
  induction records generalizing d with
  | nil => simp [importOutcomes]
  | cons e rest ih =>
      rw [List.forall_mem_cons] at hrecords
      rw [importOutcomes, List.forall_mem_cons]
      have hstep : Step k.Record d.store (importOne a type e d).2.store :=
        step_importOne (h.orderly k) h.faults hrecords.1.storable hfresh.1
      exact ⟨h.sound_importOne hfresh.1 hroom.1,
        ih (h.of_step hstep) hrecords.2 hfresh.2 hroom.2⟩

end Intact

/-! ## Works on lists -/

theorem sound_findRule (list : String) {docs : List Json}
    (h : ∀ doc ∈ docs, ∃ r, RuleRecord.ofJson? doc = some r) : Sound (findRule list docs) := by
  induction docs with
  | nil => exact sound_ok none
  | cons doc rest ih =>
      rw [List.forall_mem_cons] at h
      obtain ⟨⟨r, hread⟩, hrest⟩ := h
      rw [findRule, hread]
      dsimp only
      split
      · exact sound_ok _
      · exact ih hrest

namespace Intact

variable {s : Store} (h : Intact s)

include h

theorem sound_findRuleUsage (list : String) {sources : List (String × String)}
    (hsources : ∀ source ∈ sources, ∃ k : Kind, source.1 = k.tableName) :
    Sound (findRuleUsage s list sources) := by
  induction sources with
  | nil => exact sound_ok none
  | cons source rest ih =>
      rw [List.forall_mem_cons] at hsources
      obtain ⟨⟨k, hname⟩, hrest⟩ := hsources
      obtain ⟨table, label⟩ := source
      have hall : s.all table = .ok (s.table table).values := by
        rw [Store.all, h.reads, if_neg (by simp)]
      rw [findRuleUsage, hall]
      refine (sound_ok _).bind fun docs hdocs => ?_
      cases hdocs
      have hread := h.ruleRecords k
      rw [← hname] at hread
      refine (sound_findRule list hread).bind fun found _ => ?_
      cases found with
      | some r => exact sound_ok _
      | none => exact ih hrest

theorem sound_findUsage (list : String) : Sound (findUsage s list) := by
  have hsources : ∀ source ∈ ruleSources, ∃ k : Kind, source.1 = k.tableName := by
    intro source hsource
    simp only [ruleSources, List.mem_cons, List.not_mem_nil, or_false] at hsource
    rcases hsource with rfl | rfl | rfl
    · exact ⟨.firmwareRule, rfl⟩
    · exact ⟨.template, rfl⟩
    · exact ⟨.featureRule, rfl⟩
  obtain ⟨all, hall⟩ := h.features.exists_all h.reads
  refine (h.sound_findRuleUsage list hsources).bind fun found _ => ?_
  cases found with
  | some usage => exact sound_ok _
  | none =>
      dsimp only
      rw [hall]
      exact sound_ok _

theorem sound_getList? (id : String) : Sound (getList? s id) := by
  obtain ⟨found, hget⟩ := h.lists.exists_get? h.reads id
  rw [getList?, hget]
  exact sound_ok found

theorem sound_addList (l : NamedList) : Sound (addList l s).1 := by
  have hget := h.sound_getList? l.id
  rw [addList]
  split
  · next error hfails => exact sound_error (hget error hfails)
  · exact sound_error rfl
  · rw [Table.write, Store.write, h.writes]
    exact sound_ok _

theorem sound_dropList (id : String) (type : Option ListType) : Sound (dropList id type s).1 := by
  have hfind : Sound (findUnusedList s id type) := by
    refine (h.sound_getList? id).bind fun stored _ => ?_
    split
    · exact sound_error rfl
    · refine (h.sound_findUsage id).bind fun usage _ => ?_
      cases usage with
      | some usage => exact sound_error rfl
      | none => exact sound_ok _
  rw [dropList]
  split
  · next error hfails => exact sound_error (hfind error hfails)
  · rw [Table.delete, Store.delete, h.faults, if_neg (by simp)]
    exact sound_ok _

end Intact

/-! ## All requests -/

/-- **No request meets a defensive failure**, in any state that requests for rules and lists can
lead to, as long as the features can be read: not as its answer and, if it is an import, not as one
of the outcomes that it reports on. -/
theorem sound_of_served [PatternEngine] {a : Admin} {w : World} (h : Served a w)
    (hfeatures : features.Readable w.desk.store) :
    (∀ (k : Kind) (e : k.Record) (type owner : String),
      (Text.isBlank (key e) = true → w.desk.Fresh a k.Record) →
      (∀ r : k.Record, ((scope w.desk.store r).length : Int) < Priority.largest) →
        Sound (create a e type owner w).1) ∧
    (∀ (k : Kind) (e : k.Record) (type owner : String), Sound (update a e type owner w).1) ∧
    (∀ (k : Kind) (id owner : String), Sound (delete k.Record a id owner w).1) ∧
    (∀ (k : Kind) (id : String) (new : Int) (owner : String),
      Sound (changePriority k.Record a id new owner w).1) ∧
    (∀ (k : Kind) (records : List k.Record) (type owner : String), (∀ e ∈ records, FromJson e) →
      FreshImport a type records w.desk.synced → RoomyImport a type records w.desk.synced →
        Sound (importAll a records type owner w).1 ∧
          (∀ outcome ∈ importOutcomes a type records w.desk.synced, Sound outcome) ∧
          ∀ (report : ImportReport) (w' : World),
            importAll a records type owner w = (.ok report, w') →
              report = reportOf records (importOutcomes a type records w.desk.synced)) ∧
    (∀ (l : NamedList) (owner : String), Sound (createList a l owner w).1) ∧
    ∀ (id : String) (type : Option ListType) (owner : String),
      Sound (deleteList a id type owner w).1 := by
  have hintact : Intact w.desk.synced.store := (intact_of_served h hfeatures).synced
  refine ⟨fun k e type owner hfresh hroom => ?_, fun k e type owner => ?_, fun k id owner => ?_,
    fun k id new owner => ?_, fun k records type owner hrecords hfresh hroom => ?_,
    fun l owner => ?_, fun id type owner => ?_⟩
  · exact sound_underLock a.config _ owner (hintact.sound_createWork hfresh hroom)
  · exact sound_underLock a.config _ owner (hintact.sound_updateWork e)
  · exact sound_underLock a.config _ owner (hintact.sound_deleteWork id)
  · rw [changePriority]
    split
    · exact sound_error rfl
    · exact sound_underLock a.config _ owner (hintact.sound_moveWork id new)
  · refine ⟨sound_underLock a.config _ owner (sound_ok _),
      hintact.sound_importOutcomes hrecords hfresh hroom, fun report w' hrun => ?_⟩
    rw [importAll] at hrun
    have hwork := underLock_eq_ok hrun
    obtain ⟨hreport, -⟩ := Prod.mk.inj hwork
    rw [← report_importWork, Except.ok.inj hreport]
  · rw [createList]
    split
    · exact sound_error rfl
    · exact sound_underLock a.config _ owner (hintact.sound_addList l)
  · exact sound_underLock a.config _ owner (hintact.sound_dropList id type)

/-! ## A list in use -/

/-- A rule for the devices whose model is in a list. -/
def listRule : FirmwareRule :=
  { plainRule "a" "a" "stb" 7 with
    rule := { condition := some (({ name := "model" } : FreeArg).inList "models") } }

/-- The world after a list was created, and a rule that refers to it. -/
def listed [PatternEngine] (a : Admin) : World :=
  Request.perform a (.create listRule "stb" "admin") (createList a { id := "models" } "admin" {}).2

theorem served_listed [PatternEngine] (a : Admin) : Served a (listed a) := by
  have hjson : FromJson listRule :=
    ⟨listRule.toJson, by decide +kernel,
      FirmwareRule.ofJson?_toJson (show Json.IsInt32 7 by decide)⟩
  have hstart : Served a {} := .start (fun _ => rfl) rfl rfl
  exact (hstart.createList { id := "models" } "admin").request .firmwareRule
    (.create listRule "stb" "admin") hjson (fun hblank => absurd hblank (by decide +kernel))

/-- The list cannot be deleted, and this is for no failure that stands guard. -/
theorem sound_listed :
    ∃ error, (deleteList { newId := toString } "models" none "admin"
        (listed { newId := toString })).1 = .error error ∧ error.isDefensive = false := by
  have hempty : ((listed { newId := toString }).desk.store.table features.name).values.length =
      0 := by decide +kernel
  have hfeatures : features.Readable (listed { newId := toString }).desk.store := by
    intro id doc hrow
    have hmem := mem_values_iff.2 ⟨id, hrow⟩
    rw [List.length_eq_zero_iff.1 hempty] at hmem
    cases hmem
  have hfails : (deleteList { newId := toString } "models" none "admin"
      (listed { newId := toString })).1.isOk = false := by decide +kernel
  obtain ⟨-, -, -, -, -, -, hdelete⟩ := sound_of_served (served_listed { newId := toString })
    hfeatures
  have hsound := hdelete "models" none "admin"
  cases hrun : (deleteList { newId := toString } "models" none "admin"
      (listed { newId := toString })).1 with
  | ok l =>
      rw [hrun] at hfails
      cases hfails
  | error error => exact ⟨error, rfl, hsound error hrun⟩

end Admin

end Rulebook
