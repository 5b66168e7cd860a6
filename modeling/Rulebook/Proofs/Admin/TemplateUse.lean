import Rulebook.Proofs.Admin.Batches
import Rulebook.Proofs.Admin.Visited

/-!
# Rulebook.Proofs.Admin.TemplateUse

Templates that are in use.

Rules come to name a template at any time before it is deleted: when they are created, updated or
imported.  But nothing that is written takes a record away, so a record only vanishes by being
deleted (`Settled.stands_transition`), and a template is not deleted while a firmware rule is made
from it:

* `Settled.exists_delete_iff`, `Settled.delete_leaves` — which records can be deleted, and what is
  left then;
* `checkUnused_eq_ok_iff` — the search for rules that are made from a template;
* `template_stays_while_used` — templates, after any requests at all and during them.
-/

namespace Rulebook.Admin

open Prioritized RuleKind

/-! ## What stays where it is -/

/-- Something stands under the identifier. -/
def Stands (E : Type) [RuleKind E] (id : String) (s : Store) : Prop :=
  (rows E s).get? id ≠ none

section Stands

variable {E : Type} [RuleKind E] {s s' : Store} {id : String} {a : Admin} {type : String} {e : E}
  {d : Desk}

/-- Saving puts records in the place of others, and takes none away. -/
theorem Stands.save (h : Stands E id s) (es : List E) : Stands E id (save es s).2 := by
  induction es generalizing s with
  | nil => exact h
  | cons e rest ih =>
      rw [Admin.save]
      cases hwrite : (table (E := E)).write s (key e) e with
      | error error => exact h
      | ok s₁ =>
          refine ih ?_
          rw [Stands, get?_rows_of_write hwrite]
          split
          · exact Option.some_ne_none _
          · exact h

theorem Stands.of_save (h : Stands E id s) {es : List E} {outcome : Except AdminError Unit}
    (hsave : Admin.save es s = (outcome, s')) : Stands E id s' := by
  have hstands := h.save es
  rwa [hsave] at hstands

theorem Stands.createWork [PatternEngine] (h : Stands E id d.store)
    (hwrites : d.store.faults.writesLeft = none) :
    Stands E id (createWork a type e d).2.store := by
  rcases store_createWork_cases hwrites e with hstore | ⟨plan, -, hsave⟩
  · exact hstore ▸ h
  · exact h.of_save hsave

theorem Stands.updateWork [PatternEngine] (h : Stands E id d.store)
    (hwrites : d.store.faults.writesLeft = none) :
    Stands E id (updateWork a type e d).2.store := by
  rcases store_updateWork_cases hwrites e with hstore | ⟨plan, -, hsave⟩
  · exact hstore ▸ h
  · exact h.of_save hsave

theorem Stands.moveWork (h : Stands E id d.store) (hwrites : d.store.faults.writesLeft = none)
    (n : String) (new : Int) : Stands E id (moveWork E n new d).2.store := by
  rcases store_moveWork_cases (E := E) hwrites n new with hstore | ⟨altered, -, hsave⟩
  · exact hstore ▸ h
  · exact h.of_save hsave

theorem Stands.importWork [PatternEngine] (h : Stands E id d.store) (records : List E) :
    Stands E id (importWork a type records d).2.store := by
  induction records generalizing d with
  | nil => exact h
  | cons e rest ih =>
      obtain ⟨es, hstore, -⟩ := savesUnlessRefused_importOne a type e d
      rw [desk_importWork_cons]
      refine ih ?_
      rw [hstore]
      exact h.save es

/-- A deletion takes away what it is asked to, if it succeeds, and nothing else. -/
theorem Stands.deleteWork (h : Stands E id d.store) (hkeyed : Keyed E d.store)
    (hfaults : d.store.faults = {}) (n : String) :
    Stands E id (deleteWork E n d).2.store ∨ n = id ∧ ∃ e, (deleteWork E n d).1 = .ok e := by
  rcases hrun : Admin.deleteWork E n d with ⟨outcome, d'⟩
  cases outcome with
  | error error =>
      exact .inl (store_of_deleteWork_error (hkeyed.not_stranded hfaults n) hrun ▸ h)
  | ok e =>
      by_cases hn : n = id
      · exact .inr ⟨hn, e, rfl⟩
      · obtain ⟨-, s, es, hdelete, -, hsave⟩ := deleteWork_eq_ok hrun
        have hstands : Stands E id s := by
          rw [Stands, get?_rows_of_delete hdelete, if_neg (Ne.symm hn)]
          exact h
        exact .inl (hstands.of_save hsave)

end Stands

/-! ## What takes a record away -/

section Runs

variable {a : Admin} {w w' : World} {k : Kind} {id : String}

theorem Settled.stands_iff (h : Settled w) :
    Stands k.Record id w.desk.store ↔ ∃ e, stored? k.Record w.desk.store id = some e := by
  rw [Stands, ← not_iff_not, not_not, ← (h.tidy k).keyed.stored?_eq_none_iff,
    Option.eq_none_iff_forall_ne_some, not_exists]

theorem Settled.stands_delete (h : Settled w) (hstands : Stands k.Record id w.desk.store)
    (n owner : String) :
    Stands k.Record id (delete k.Record a n owner w).2.desk.store ∨
      n = id ∧ ∃ e, (delete k.Record a n owner w).1 = .ok e := by
  have hkeyed : Keyed k.Record w.desk.synced.store := (h.tidy k).keyed
  have hsynced : Stands k.Record id w.desk.synced.store := hstands
  rw [delete]
  rcases underLock_cases a.config (table (E := k.Record)).name owner (deleteWork k.Record n) w with
    ⟨error, w', hrun, hdesk⟩ | ⟨w', hrun, hdesk⟩
  · rw [hrun, hdesk]
    exact .inl hstands
  · rw [hrun, hdesk]
    exact hsynced.deleteWork hkeyed h.faults n

/-- A request takes a record away only by deleting it. -/
theorem Settled.stands_perform [PatternEngine] (h : Settled w) (r : Request k.Record)
    (hstands : Stands k.Record id w.desk.store) :
    Stands k.Record id (r.perform a w).desk.store ∨
      ∃ owner e, (delete k.Record a id owner w).1 = .ok e := by
  have hwrites : w.desk.synced.store.faults.writesLeft = none := by
    rw [Desk.synced, h.faults]
  have hsynced : Stands k.Record id w.desk.synced.store := hstands
  have hkept : ∀ {α : Type} (owner : String) {work : Desk → Except AdminError α × Desk},
      Stands k.Record id (work w.desk.synced).2.store →
        Stands k.Record id (underLock a.config k.tableName owner work w).2.desk.store :=
    fun {_} owner {_} hwork =>
      desk_underLock (P := fun d => Stands k.Record id d.store) a.config _ owner hstands hwork
  cases r with
  | create e type owner => exact .inl (hkept owner (hsynced.createWork hwrites))
  | update e type owner => exact .inl (hkept owner (hsynced.updateWork hwrites))
  | delete n owner =>
      rcases h.stands_delete (a := a) hstands n owner with hstands | ⟨rfl, e, he⟩
      · exact .inl hstands
      · exact .inr ⟨owner, e, he⟩
  | changePriority n new owner =>
      rw [Request.perform, Admin.changePriority]
      split
      · exact .inl hstands
      · exact .inl (hkept owner (hsynced.moveWork hwrites n new))
  | importAll records type owner => exact .inl (hkept owner (hsynced.importWork records))

/-- **A record only vanishes by being deleted**, whatever happens. -/
theorem Settled.stands_transition [PatternEngine] (h : Settled w) (ht : Transition a w w')
    (hstands : Stands k.Record id w.desk.store) :
    Stands k.Record id w'.desk.store ∨ ∃ owner e, (delete k.Record a id owner w).1 = .ok e := by
  have hsame : rows k.Record w'.desk.store = rows k.Record w.desk.store →
      Stands k.Record id w'.desk.store := fun hrows => by
    rw [Stands, hrows]
    exact hstands
  cases ht with
  | request k' r htyped =>
      by_cases hk : k = k'
      · subst hk
        exact h.stands_perform r hstands
      · exact .inl (hsame ((h.tidyStep_perform (a := a) r htyped).others k.tableName
          fun hname => hk (Kind.tableName_injective hname)))
  | createList l owner =>
      exact .inl (hsame ((listStep_createList h.faults l owner).others k.tableName
        k.tableName_ne_namedLists))
  | deleteList n type owner =>
      exact .inl (hsame ((listStep_deleteList h.faults n type owner).others k.tableName
        k.tableName_ne_namedLists))
  | outside hrows hfaults => exact .inl (hsame (hrows k))

/-! ## Deleting a record -/

/-- A record can be deleted if it is stored and the check of its kind allows it. -/
theorem Settled.exists_delete_iff (h : Settled w)
    (hfree : (w.lock a.config k.tableName).owner = none) (id owner : String) :
    (∃ e, (delete k.Record a id owner w).1 = .ok e) ↔
      Text.isBlank id = false ∧ ∃ e, stored? k.Record w.desk.store id = some e ∧
        RuleKind.checkDeletable w.desk.synced.store e = .ok () := by
  have hreads : w.desk.synced.store.faults.reads = false := by rw [Desk.synced, h.faults]
  have hdeletes : w.desk.synced.store.faults.deletes = false := by rw [Desk.synced, h.faults]
  have hfind : ∀ e : k.Record, findDeletable w.desk.synced.store id = .ok e ↔
      Text.isBlank id = false ∧ stored? k.Record w.desk.store id = some e ∧
        RuleKind.checkDeletable w.desk.synced.store e = .ok () := fun e => by
    have hstored : stored? k.Record w.desk.synced.store id = stored? k.Record w.desk.store id := rfl
    rw [findDeletable_eq_ok_iff, find_eq_ok_iff, hstored, and_assoc, and_assoc,
      and_iff_right hreads]
  have hdelete := exists_underLock_iff owner (deleteWork k.Record id) hfree (by rw [h.faults])
  refine hdelete.trans ?_
  constructor
  · rintro ⟨e, he⟩
    obtain ⟨hfound, -⟩ := deleteWork_eq_ok (Prod.ext he rfl)
    obtain ⟨hblank, hstored⟩ := (hfind e).1 hfound
    exact ⟨hblank, e, hstored⟩
  · rintro ⟨hblank, e, hstored⟩
    rw [deleteWork_of_ok ((hfind e).2 ⟨hblank, hstored⟩)]
    refine (remove_ok_iff hreads hdeletes e id).2 ⟨fun n doc _ hrow => ?_, fun n hn => ?_⟩
    · obtain ⟨e', hdecode, -⟩ := (h.tidy k).keyed n doc hrow
      simp [hdecode]
    · rw [Desk.synced, h.faults] at hn
      cases hn

end Runs

section Renumbered

variable {k : Kind} {s s₁ s' : Store}

/-- Every record stays under its identifier, if with another priority. -/
def Renumbered (E : Type) [RuleKind E] (s s' : Store) : Prop :=
  ∀ (n : String) (r : E), stored? E s n = some r → ∃ p, stored? E s' n = some (withPriority r p)

/-- What is stored is read back at any other priority. -/
theorem Tidy.decode_withPriority (h : Tidy k.Record s) {n : String} {b : k.Record}
    (hb : stored? k.Record s n = some b) {p : Int} (hp : Json.IsInt32 p) :
    table.decode (table.encode (withPriority b p)) = some (withPriority b p) := by
  have hp' : Json.IsInt32 (priority (withPriority b p)) := by
    rwa [LawfulPrioritized.priority_withPriority]
  have hfinite : (rule b).IsFinite := by
    obtain ⟨e₀, -, rfl, -⟩ := h.of_stored? hb
    rw [LawfulKind.rule_withRule]
    exact Rule.isFinite_written _
  rw [← LawfulKind.rule_withPriority b p] at hfinite
  rw [LawfulKind.decode_encode hp', Rule.written_of_isFinite _ hfinite, LawfulKind.withRule_rule]

/-- Saving stored records with other priorities changes nothing else. -/
theorem Tidy.renumbered_of_save (h : Tidy k.Record s) (hs₁ : Renumbered k.Record s s₁)
    {es : List k.Record}
    (hes : ∀ e ∈ es, ∃ b, stored? k.Record s (key b) = some b ∧
      ∃ p, Json.IsInt32 p ∧ e = withPriority b p)
    (hsave : Admin.save es s₁ = (.ok (), s')) : Renumbered k.Record s s' := by
  induction es generalizing s₁ with
  | nil =>
      cases hsave
      exact hs₁
  | cons e rest ih =>
      rw [List.forall_mem_cons] at hes
      obtain ⟨⟨b, hb, p, hp, rfl⟩, hrest⟩ := hes
      rw [Admin.save] at hsave
      split at hsave
      · cases hsave
      · next s₂ hwrite =>
          refine ih (fun n r hr => ?_) hrest hsave
          rw [LawfulPrioritized.key_withPriority] at hwrite
          rw [stored?, get?_rows_of_write hwrite]
          split
          · next hn =>
              rw [hn, hb] at hr
              cases hr
              exact ⟨p, h.decode_withPriority hb hp⟩
          · exact hs₁ n r hr

/-- Closing a gap writes stored records with other priorities. -/
theorem Tidy.of_mem_pack (h : Tidy k.Record s) {e r : k.Record} {id : String}
    (hr : r ∈ Priority.pack (scope s e) id) :
    ∃ b, stored? k.Record s (key b) = some b ∧ ∃ p, Json.IsInt32 p ∧ r = withPriority b p := by
  obtain ⟨b, hb, p, hp, hp', rfl⟩ := Priority.exists_of_mem_pack hr
  have hbound := h.bounded e
  exact ⟨b, (h.keyed.mem_scope_iff.1 hb).1, p, isInt32_of_le_largest hp (by omega), rfl⟩

variable {a : Admin} {w w' : World} {id owner : String}

/-- **A deletion that succeeds** takes the record away, changes no more than the priorities of the
others, and touches no other table. -/
theorem Settled.delete_leaves (h : Settled w) {e : k.Record}
    (hdelete : delete k.Record a id owner w = (.ok e, w')) :
    stored? k.Record w'.desk.store id = none ∧
      (∀ (n : String) (r : k.Record), n ≠ id → stored? k.Record w.desk.store n = some r →
        ∃ p, stored? k.Record w'.desk.store n = some (withPriority r p)) ∧
      ∀ name, name ≠ k.tableName → w'.desk.store.table name = w.desk.store.table name := by
  have hsynced : Tidy k.Record w.desk.synced.store := (h.tidy k).of_rows_eq rfl
  have hstep : TidyStep k w.desk.store (delete k.Record a id owner w).2.desk.store :=
    tidyStep_underLock a.config owner (h.tidy k) (tidyStep_deleteWork hsynced h.faults id)
  rw [hdelete] at hstep
  obtain ⟨-, s, es, hremoved, hscope, hsave⟩ := deleteWork_eq_ok (underLock_eq_ok hdelete)
  obtain ⟨-, -, rfl⟩ := scopeOf_eq_ok_iff.1 hscope
  have htidy : Tidy k.Record s := hsynced.of_delete hremoved
  have hstored := stored?_of_delete (s := w.desk.synced.store) hremoved
  have hsame : Renumbered k.Record s s := fun n r hr =>
    ⟨priority r, by rw [LawfulPrioritized.withPriority_priority, hr]⟩
  refine ⟨?_, fun n r hn hr => ?_, hstep.others⟩
  · have hkept := (save_kept (Priority.pack (scope s e) id) s).1 id
      (Priority.not_mem_map_key_pack _ id)
    rw [hsave] at hkept
    have hgone := hstored id
    rw [if_pos rfl] at hgone
    rw [stored?, hkept]
    exact hgone
  · refine htidy.renumbered_of_save hsame (fun _ => htidy.of_mem_pack) hsave n r ?_
    rw [hstored n, if_neg hn]
    exact hr

end Renumbered

/-! ## Templates -/

/-- A stored firmware rule is made from the template. -/
def UsedByFirmwareRule (s : Store) (id : String) : Prop :=
  ∃ (n : String) (r : FirmwareRule), stored? FirmwareRule s n = some r ∧ r.templateId = id

/-- The search for rules that are made from a template misses none. -/
theorem checkUnused_eq_ok_iff {s : Store} (hkeyed : Keyed FirmwareRule s)
    (hreads : s.faults.reads = false) {t : Template} :
    t.checkUnused s = .ok () ↔ ¬UsedByFirmwareRule s t.id := by
  have hreadable : firmwareRules.Readable s := fun n doc hrow =>
    (hkeyed n doc hrow).imp fun _ h => h.1
  have hall : firmwareRules.all s = .ok (records FirmwareRule s) := hreadable.all_eq hreads
  have hused : UsedByFirmwareRule s t.id ↔ ∃ r ∈ records FirmwareRule s, r.templateId = t.id := by
    constructor
    · rintro ⟨n, r, hr, hid⟩
      obtain rfl := hkeyed.key_eq hr
      exact ⟨r, hkeyed.mem_records_iff.2 hr, hid⟩
    · rintro ⟨r, hr, hid⟩
      exact ⟨key r, r, hkeyed.mem_records_iff.1 hr, hid⟩
  rw [Template.checkUnused, hall, hused]
  simp only [Except.mapError, bind, Except.bind]
  cases husers : (records FirmwareRule s).filter fun r => r.templateId == t.id with
  | nil => simpa using List.filter_eq_nil_iff.1 husers
  | cons r rest =>
      have hr : r ∈ (records FirmwareRule s).filter fun r => r.templateId == t.id := by
        rw [husers]
        exact List.mem_cons_self
      rw [List.mem_filter, beq_iff_eq] at hr
      exact iff_of_false nofun (not_not.2 ⟨r, hr⟩)

section Templates

variable {a : Admin} {w w' : World} {id : String}

theorem Settled.exists_delete_template_iff (h : Settled w)
    (hfree : (w.lock a.config templates.name).owner = none) (id owner : String) :
    (∃ t, (delete Template a id owner w).1 = .ok t) ↔
      Text.isBlank id = false ∧ (∃ t, stored? Template w.desk.store id = some t) ∧
        ¬UsedByFirmwareRule w.desk.store id := by
  have hkeyed : Keyed FirmwareRule w.desk.store := (h.tidy .firmwareRule).keyed
  have hreads : w.desk.store.faults.reads = false := by rw [h.faults]
  have hunused : ∀ t : Template, stored? Template w.desk.store id = some t →
      (t.checkUnused w.desk.synced.store = .ok () ↔ ¬UsedByFirmwareRule w.desk.store id) := by
    intro t ht
    have hid : t.id = id := (h.tidy .template).keyed.key_eq ht
    rw [← hid]
    exact checkUnused_eq_ok_iff (s := w.desk.synced.store) hkeyed hreads
  refine (h.exists_delete_iff (k := .template) hfree id owner).trans (and_congr_right fun _ => ?_)
  constructor
  · rintro ⟨t, ht, hcheck⟩
    exact ⟨⟨t, ht⟩, (hunused t ht).1 hcheck⟩
  · rintro ⟨⟨t, ht⟩, hnone⟩
    exact ⟨t, ht, (hunused t ht).2 hnone⟩

/-- A deletion that succeeds found no rule made from the template, whether or not the lock was free
before. -/
theorem Settled.not_used_of_delete (h : Settled w) {owner : String} {t : Template}
    (hdelete : (delete Template a id owner w).1 = .ok t) :
    ¬UsedByFirmwareRule w.desk.store id := by
  by_cases hfree : (w.lock a.config templates.name).owner = none
  · exact ((h.exists_delete_template_iff hfree id owner).1 ⟨t, hdelete⟩).2.2
  · obtain ⟨error, w', hrun, -⟩ := underLock_of_not_free (c := a.config) (t := templates.name) owner
      (deleteWork Template id) fun hopen => hfree hopen.1
    have herror : (delete Template a id owner w).1 = .error error := congrArg Prod.fst hrun
    rw [herror] at hdelete
    cases hdelete

/-- One step of a run leaves a template where it is, if a firmware rule is made from it before. -/
theorem Settled.template_stands [PatternEngine] (h : Settled w) (ht : Transition a w w')
    (hused : UsedByFirmwareRule w.desk.store id) (hstands : Stands Template id w.desk.store) :
    Stands Template id w'.desk.store := by
  rcases h.stands_transition (k := .template) ht hstands with hstands | ⟨owner, t, hdelete⟩
  · exact hstands
  · exact absurd hused (h.not_used_of_delete hdelete)

/-- So does a run, if one is before each of its steps. -/
theorem Settled.template_stands_run [PatternEngine] (h : Settled w)
    (hrun : Relation.ReflTransGen
      (fun v v' => UsedByFirmwareRule v.desk.store id ∧ Transition a v v') w w')
    (hstands : Stands Template id w.desk.store) :
    Settled w' ∧ Stands Template id w'.desk.store := by
  induction hrun with
  | refl => exact ⟨h, hstands⟩
  | tail _ hstep ih => exact ⟨ih.1.transition hstep.2, ih.1.template_stands hstep.2 hstep.1 ih.2⟩

/-- **Templates in use cannot be deleted**, and all others can.  After any requests at all that
began without rules, the deletion of a template succeeds exactly if one is stored under an
identifier that is not blank, and no stored firmware rule is made from it; then the template is
gone, the others have at most other priorities, and no other table has changed.  And from then on a
stored template stays stored as long as there is always some firmware rule made from it. -/
theorem template_stays_while_used [PatternEngine] {w₀ : World} (hblank : Blank w₀)
    (hrun : Relation.ReflTransGen (Transition a) w₀ w) (id : String) :
    (∀ owner : String, (w.lock a.config templates.name).owner = none →
      ((∃ t, (delete Template a id owner w).1 = .ok t) ↔
        Text.isBlank id = false ∧ (∃ t, stored? Template w.desk.store id = some t) ∧
          ¬UsedByFirmwareRule w.desk.store id)) ∧
    (∀ (owner : String) (t : Template) (w' : World),
      delete Template a id owner w = (.ok t, w') →
        stored? Template w'.desk.store id = none ∧
        (∀ (n : String) (t' : Template), n ≠ id → stored? Template w.desk.store n = some t' →
          ∃ p, stored? Template w'.desk.store n = some (withPriority t' p)) ∧
        ∀ name, name ≠ templates.name → w'.desk.store.table name = w.desk.store.table name) ∧
    ∀ w' : World,
      Relation.ReflTransGen
        (fun v v' => UsedByFirmwareRule v.desk.store id ∧ Transition a v v') w w' →
      (∃ t, stored? Template w.desk.store id = some t) →
        ∃ t, stored? Template w'.desk.store id = some t := by
  have hsettled := hblank.settled.run hrun
  refine ⟨fun owner hfree => hsettled.exists_delete_template_iff hfree id owner,
    fun owner t w' hdelete => hsettled.delete_leaves (k := .template) hdelete,
    fun w' hused hstored => ?_⟩
  obtain ⟨hsettled', hstands⟩ := hsettled.template_stands_run hused
    ((hsettled.stands_iff (k := .template)).2 hstored)
  exact (hsettled'.stands_iff (k := .template)).1 hstands

end Templates

/-! ## With a rule and without it -/

def modelTemplate : Template :=
  { id := "t", applicationType := "stb", priority := 1
    rule := { condition := some (({ name := "model" } : FreeArg).is (.string "X1")) } }

/-- A rule that is made from the template. -/
def templateRule : FirmwareRule :=
  { plainRule "a" "a" "stb" 7 with templateId := "t" }

/-- The world after the template was created. -/
def templateAlone [PatternEngine] (a : Admin) : World :=
  Request.perform a (.create modelTemplate "stb" "admin") {}

/-- And after the rule was, too. -/
def templateUsed [PatternEngine] (a : Admin) : World :=
  Request.perform a (.create templateRule "stb" "admin") (templateAlone a)

theorem run_templateAlone [PatternEngine] (a : Admin) :
    Relation.ReflTransGen (Transition a) {} (templateAlone a) :=
  .single (.request .template (.create modelTemplate "stb" "admin")
    (show Json.IsInt32 1 by decide))

theorem run_templateUsed [PatternEngine] (a : Admin) :
    Relation.ReflTransGen (Transition a) {} (templateUsed a) :=
  (run_templateAlone a).tail
    (.request .firmwareRule (.create templateRule "stb" "admin") (show Json.IsInt32 7 by decide))

/-- No rule is made from the template that stands alone. -/
theorem not_used_templateAlone [PatternEngine] (a : Admin) (id : String) :
    ¬UsedByFirmwareRule (templateAlone a).desk.store id := by
  rintro ⟨n, r, hr, -⟩
  obtain ⟨doc, hrow, -⟩ := stored?_eq_some_iff.1 hr
  have hrequest := blank_default.settled.tidyStep_perform (a := a) (k := .template)
    (.create modelTemplate "stb" "admin") (show Json.IsInt32 1 by decide)
  have hempty : rows FirmwareRule (templateAlone a).desk.store = ∅ :=
    hrequest.others firmwareRules.name (by decide)
  rw [hempty] at hrow
  cases hrow

theorem used_templateUsed :
    UsedByFirmwareRule (templateUsed { newId := toString }).desk.store "t" := by
  have hany : (stored? FirmwareRule (templateUsed { newId := toString }).desk.store "a").any
      (fun r => r.templateId == "t") = true := by decide +kernel
  obtain ⟨r, hr, hid⟩ := (Option.any_eq_true _ _).1 hany
  exact ⟨"a", r, hr, beq_iff_eq.1 hid⟩

/-- The template can be deleted before the rule is created; after it, it cannot, and it is still
there when that was tried. -/
theorem delete_modelTemplate :
    (∃ t, (delete Template { newId := toString } "t" "admin"
      (templateAlone { newId := toString })).1 = .ok t) ∧
    (¬∃ t, (delete Template { newId := toString } "t" "admin"
      (templateUsed { newId := toString })).1 = .ok t) ∧
    ∃ t, stored? Template (delete Template { newId := toString } "t" "admin"
      (templateUsed { newId := toString })).2.desk.store "t" = some t := by
  obtain ⟨halone, -, -⟩ := template_stays_while_used blank_default
    (run_templateAlone { newId := toString }) "t"
  obtain ⟨hused, -, hstays⟩ := template_stays_while_used blank_default
    (run_templateUsed { newId := toString }) "t"
  have hstored : ∀ {w : World}, (stored? Template w.desk.store "t").isSome = true →
      ∃ t, stored? Template w.desk.store "t" = some t := fun h => Option.isSome_iff_exists.1 h
  refine ⟨(halone "admin" (by decide +kernel)).2 ⟨by decide +kernel, hstored (by decide +kernel),
    not_used_templateAlone _ "t"⟩, fun hdeleted => ?_, ?_⟩
  · exact ((hused "admin" (by decide +kernel)).1 hdeleted).2.2 used_templateUsed
  · exact hstays _ (.single ⟨used_templateUsed,
      .request .template (.delete "t" "admin") trivial⟩) (hstored (by decide +kernel))

end Rulebook.Admin
