import Rulebook.Proofs.Admin.Restoring
import Rulebook.Proofs.Admin.TemplateUse

/-!
# Rulebook.Proofs.Admin.Belonging

Where records belong.

Whatever a request writes belongs to one scope, and goes under identifiers of that scope, or under
one that is new.  So a record that is written again, by a request for it or for one of its
neighbours, stays in the scope that it was created in, as long as no identifier is issued that is
taken (`Event`):

* `stored?_save` — what saving leaves under an identifier;
* `Confined.kept_save`, `kept_createWork` and its like — no work takes a record out of its scope;
* `Settled.stays_event`, `Settled.stays_run` — only a deletion ends it;
* `belonging_of_run` — application types, and actions of templates, over a whole run.
-/

namespace Rulebook.Admin

open Prioritized RuleKind

/-! ## Records that stay in their scopes -/

/-- Every record is still there, in the scope that it was in. -/
def Kept (k : Kind) (s s' : Store) : Prop :=
  ∀ (n : String) (e : k.Record), stored? k.Record s n = some e →
    ∃ e', stored? k.Record s' n = some e' ∧ sameScope e' e = true

section Kept

variable {k : Kind} {s s' s'' : Store}

theorem Kept.of_rows_eq (hrows : rows k.Record s' = rows k.Record s) : Kept k s s' := by
  intro n e he
  rw [stored?, ← hrows] at he
  exact ⟨e, he, sameScope_refl e⟩

theorem Kept.trans (h : Kept k s s') (h' : Kept k s' s'') : Kept k s s'' := by
  intro n e he
  obtain ⟨e₁, he₁, hsame₁⟩ := h n e he
  obtain ⟨e₂, he₂, hsame₂⟩ := h' n e₁ he₁
  exact ⟨e₂, he₂, sameScope_trans hsame₂ hsame₁⟩

/-- What stands under an identifier after saving stood there before, or was saved there. -/
theorem stored?_save {es : List k.Record} (hes : ∀ e ∈ es, Json.IsInt32 (priority e)) (s : Store)
    (n : String) :
    stored? k.Record (save es s).2 n = stored? k.Record s n ∨
      ∃ e ∈ es, key e = n ∧
        stored? k.Record (save es s).2 n = some (withRule e (rule e).written) := by
  induction es generalizing s with
  | nil => exact .inl rfl
  | cons e rest ih =>
      rw [List.forall_mem_cons] at hes
      rw [save]
      cases hwrite : (table (E := k.Record)).write s (key e) e with
      | error error => exact .inl rfl
      | ok s₁ =>
          have hrow := get?_rows_of_write hwrite n
          cases ih hes.2 s₁ with
          | inl hkept =>
              dsimp only
              rw [hkept, stored?, hrow]
              by_cases hn : n = key e
              · right
                rw [if_pos hn, Option.bind_some, LawfulKind.decode_encode hes.1]
                exact ⟨e, List.mem_cons_self, hn.symm, rfl⟩
              · left
                rw [if_neg hn, stored?]
          | inr hsaved =>
              obtain ⟨e', he', hkey, hstored⟩ := hsaved
              exact .inr ⟨e', List.mem_cons_of_mem e he', hkey, hstored⟩

/-- Saving over the scope of `r` moves no record into that scope, unless one of another scope stands
under the identifier of `r`. -/
theorem Confined.kept_save (h : Tidy k.Record s) {r : k.Record} {writes : List k.Record}
    (hconfined : Confined s r writes)
    (hr : ∀ e, stored? k.Record s (key r) = some e → sameScope e r = true) :
    Kept k s (save writes s).2 := by
  intro n e he
  cases stored?_save hconfined.inRange s n with
  | inl hkept => exact ⟨e, hkept.trans he, sameScope_refl e⟩
  | inr hsaved =>
      obtain ⟨b, hb, rfl, hstored⟩ := hsaved
      have hsame : sameScope e r = true := by
        cases hconfined.key_eq_or_mem hb with
        | inl hkey => exact hr e (hkey ▸ he)
        | inr hmem =>
            obtain ⟨b', hb', hkey⟩ := List.mem_map.1 hmem
            obtain ⟨hstored', hsame⟩ := h.keyed.mem_scope_iff.1 hb'
            rw [hkey, he] at hstored'
            cases hstored'
            exact hsame
      exact ⟨_, hstored, sameScope_trans (sameScope_withRule b _)
        (sameScope_trans (hconfined.inScope hb) (sameScope_comm.1 hsame))⟩

theorem Confined.kept (h : Tidy k.Record s) {r : k.Record} {writes : List k.Record}
    (hconfined : Confined s r writes)
    (hr : ∀ e, stored? k.Record s (key r) = some e → sameScope e r = true)
    (hsave : save writes s = (.ok (), s')) : Kept k s s' := by
  have hkept := hconfined.kept_save h hr
  rwa [hsave] at hkept

/-! ## Works -/

variable {a : Admin} {type : String} {d : Desk} {e : k.Record}

/-- A record that is created takes the place of no other one. -/
theorem kept_createWork [PatternEngine] (h : Tidy k.Record d.store) (hfaults : d.store.faults = {})
    (hfresh : Text.isBlank (key e) = true → d.Fresh a k.Record) :
    Kept k d.store (createWork a type e d).2.store := by
  obtain hstore | ⟨plan, hplan, hsave⟩ := store_createWork_cases (by rw [hfaults]) e
  · exact .of_rows_eq (by rw [hstore])
  · obtain ⟨e', r, hidentify, hprepare, hconfined⟩ := h.confined_of_planCreate hplan
    obtain ⟨-, -, rfl⟩ := prepare_eq_ok_iff.1 hprepare
    have hunused := unused_of_identify (fun hblank => (hfresh hblank).2) hidentify
    have hnone : stored? k.Record d.store (key (ready a.config type e')) = none := by
      rw [key_ready]
      exact h.keyed.stored?_eq_none_iff.2 hunused
    refine hconfined.kept h (fun b hb => ?_) hsave
    rw [hnone] at hb
    cases hb

/-- A record that is updated stays where its stored version is. -/
theorem kept_updateWork [PatternEngine] (h : Tidy k.Record d.store) (hfaults : d.store.faults = {})
    (he : Json.IsInt32 (priority e)) : Kept k d.store (updateWork a type e d).2.store := by
  obtain hstore | ⟨plan, hplan, hsave⟩ := store_updateWork_cases (by rw [hfaults]) e
  · exact .of_rows_eq (by rw [hstore])
  · obtain ⟨r, stored, -, hstored, hsame, hconfined⟩ := h.confined_of_planUpdate he hplan
    refine hconfined.kept h (fun b hb => ?_) hsave
    rw [hstored] at hb
    cases hb
    exact sameScope_comm.1 hsame

theorem kept_moveWork (h : Tidy k.Record d.store) (hfaults : d.store.faults = {}) (id : String)
    (new : Int) : Kept k d.store (moveWork k.Record id new d).2.store := by
  obtain hstore | ⟨altered, hplan, hsave⟩ :=
    store_moveWork_cases (E := k.Record) (by rw [hfaults]) id new
  · exact .of_rows_eq (by rw [hstore])
  · obtain ⟨stored, hstored, hconfined⟩ := h.confined_of_planMove hplan
    have hkey := h.keyed.key_eq hstored
    refine hconfined.kept h (fun b hb => ?_) hsave
    rw [hkey, hstored] at hb
    cases hb
    exact sameScope_refl stored

theorem kept_importOne [PatternEngine] (h : Tidy k.Record d.store) (hfaults : d.store.faults = {})
    (he : Json.IsInt32 (priority e)) (hfresh : Text.isBlank (key e) = true → d.Fresh a k.Record) :
    Kept k d.store (importOne a type e d).2.store := by
  rw [importOne]
  split
  · exact .of_rows_eq rfl
  · exact kept_updateWork h hfaults he
  · exact kept_createWork h hfaults hfresh

theorem kept_importWork [PatternEngine] {records : List k.Record} (h : Tidy k.Record d.store)
    (hfaults : d.store.faults = {}) (hrecords : ∀ e ∈ records, Json.IsInt32 (priority e))
    (hfresh : FreshImport a type records d) :
    Kept k d.store (importWork a type records d).2.store := by
  induction records generalizing d with
  | nil => exact .of_rows_eq rfl
  | cons e rest ih =>
      rw [List.forall_mem_cons] at hrecords
      have hone : Kept k d.store (importOne a type e d).2.store :=
        kept_importOne h hfaults hrecords.1 hfresh.1
      have hstep : TidyStep k d.store (importOne a type e d).2.store :=
        tidyStep_importOne h hfaults hrecords.1
      rw [desk_importWork_cons]
      exact hone.trans (ih hstep.tidy (hstep.faults.trans hfaults) hrecords.2 hfresh.2)

end Kept

/-! ## Requests -/

section Requests

variable {a : Admin} {w w' : World} {k : Kind} {id : String} {e : k.Record}

/-- A record is still there in the scope of `e`, or it was deleted on the way from `w` to `w'`. -/
def StaysUnlessDeleted (a : Admin) (id : String) (e : k.Record) (w w' : World) : Prop :=
  (∃ e', stored? k.Record w'.desk.store id = some e' ∧ sameScope e' e = true) ∨
    ∃ owner e', delete k.Record a id owner w = (.ok e', w')

theorem StaysUnlessDeleted.of_kept (h : Kept k w.desk.store w'.desk.store)
    (he : stored? k.Record w.desk.store id = some e) : StaysUnlessDeleted a id e w w' :=
  .inl (h id e he)

/-- A deletion that fails leaves the table of its kind as it was. -/
theorem Settled.rows_of_delete_error (h : Settled w) {owner : String} {error : AdminError}
    (hrun : delete k.Record a id owner w = (.error error, w')) :
    rows k.Record w'.desk.store = rows k.Record w.desk.store := by
  have hkeyed : Keyed k.Record w.desk.synced.store := (h.tidy k).keyed
  cases underLock_cases a.config (table (E := k.Record)).name owner (deleteWork k.Record id) w with
  | inl hidle =>
      obtain ⟨error', w₁, hlocked, hdesk⟩ := hidle
      rw [delete, hlocked] at hrun
      cases hrun
      rw [hdesk]
  | inr hworked =>
      obtain ⟨w₁, hlocked, hdesk⟩ := hworked
      rw [delete, hlocked] at hrun
      obtain ⟨herror, rfl⟩ := Prod.mk.inj hrun
      rw [hdesk, store_of_deleteWork_error (hkeyed.not_stranded h.faults id)
        (Prod.ext herror rfl)]
      rfl

theorem Settled.stays_delete (h : Settled w) (he : stored? k.Record w.desk.store id = some e)
    (n owner : String) :
    StaysUnlessDeleted a id e w (delete k.Record a n owner w).2 := by
  cases hrun : delete k.Record a n owner w with
  | mk outcome w' =>
      cases outcome with
      | error error => exact .of_kept (.of_rows_eq (h.rows_of_delete_error hrun)) he
      | ok e' =>
          by_cases hn : n = id
          · subst hn
            exact .inr ⟨owner, e', hrun⟩
          · obtain ⟨-, hleft, -⟩ := h.delete_leaves hrun
            obtain ⟨p, hp⟩ := hleft id e (Ne.symm hn) he
            exact .inl ⟨_, hp, LawfulKind.sameScope_withPriority e p⟩

/-- **A request takes no record out of its scope**, unless it deletes it. -/
theorem Settled.stays_perform [PatternEngine] (h : Settled w) {r : Request k.Record}
    (htyped : r.IsTyped) (hfresh : r.Fresh a w.desk.synced)
    (he : stored? k.Record w.desk.store id = some e) :
    StaysUnlessDeleted a id e w (r.perform a w) := by
  have htidy : Tidy k.Record w.desk.synced.store := (h.tidy k).of_rows_eq rfl
  have hfaults : w.desk.synced.store.faults = {} := h.faults
  have hkept : ∀ {α : Type} (owner : String) {work : Desk → Except AdminError α × Desk},
      Kept k w.desk.synced.store (work w.desk.synced).2.store →
        Kept k w.desk.store (underLock a.config k.tableName owner work w).2.desk.store :=
    fun {_} owner {_} hwork =>
      desk_underLock (P := fun d => Kept k w.desk.store d.store) a.config _ owner
        (.of_rows_eq rfl) hwork
  cases r with
  | create e' type owner =>
      exact .of_kept (hkept owner (kept_createWork htidy hfaults hfresh)) he
  | update e' type owner =>
      exact .of_kept (hkept owner (kept_updateWork htidy hfaults htyped)) he
  | delete n owner => exact h.stays_delete he n owner
  | changePriority n new owner =>
      rw [Request.perform, Admin.changePriority]
      split
      · exact .of_kept (.of_rows_eq rfl) he
      · exact .of_kept (hkept owner (kept_moveWork htidy hfaults n new)) he
  | importAll records type owner =>
      exact .of_kept (hkept owner (kept_importWork htidy hfaults htyped hfresh)) he

end Requests

/-! ## Runs -/

/-- Something happens in a world, and every identifier that is issued is fresh. -/
inductive Event [PatternEngine] (a : Admin) : World → World → Prop where
  | request {w : World} (k : Kind) (r : Request k.Record) (htyped : r.IsTyped)
      (hfresh : r.Fresh a w.desk.synced) : Event a w (r.perform a w)
  | createList {w : World} (l : NamedList) (owner : String) :
      Event a w (createList a l owner w).2
  | deleteList {w : World} (id : String) (type : Option ListType) (owner : String) :
      Event a w (deleteList a id type owner w).2
  /-- Other tables and the locks change at any time. -/
  | outside {w w' : World}
      (hrows : ∀ k : Kind, rows k.Record w'.desk.store = rows k.Record w.desk.store)
      (hfaults : w'.desk.store.faults = {}) : Event a w w'

/-- Something happens that does not delete the record under the identifier. -/
def Sparing [PatternEngine] (a : Admin) (k : Kind) (id : String) (w w' : World) : Prop :=
  Event a w w' ∧ ¬∃ owner e, delete k.Record a id owner w = (.ok e, w')

section Runs

variable {a : Admin} {w w' : World} {k : Kind} {id : String} {e : k.Record}

theorem Event.transition [PatternEngine] (h : Event a w w') : Transition a w w' := by
  cases h with
  | request k r htyped hfresh => exact .request k r htyped
  | createList l owner => exact .createList l owner
  | deleteList id type owner => exact .deleteList id type owner
  | outside hrows hfaults => exact .outside hrows hfaults

theorem Settled.events [PatternEngine] (h : Settled w)
    (hrun : Relation.ReflTransGen (Event a) w w') :
    Settled w' :=
  h.run (Relation.ReflTransGen.mono (fun _ _ => Event.transition) _ _ hrun)

/-- Whatever happens takes no record out of its scope, unless it deletes it. -/
theorem Settled.stays_event [PatternEngine] (h : Settled w) (hevent : Event a w w')
    (he : stored? k.Record w.desk.store id = some e) : StaysUnlessDeleted a id e w w' := by
  cases hevent with
  | request k' r htyped hfresh =>
      by_cases hk : k = k'
      · subst hk
        exact h.stays_perform htyped hfresh he
      · have hothers := (h.tidyStep_perform (a := a) r htyped).others k.tableName
          fun hname => hk (Kind.tableName_injective hname)
        exact .of_kept (.of_rows_eq hothers) he
  | createList l owner =>
      exact .of_kept (.of_rows_eq ((listStep_createList h.faults l owner).others k.tableName
        k.tableName_ne_namedLists)) he
  | deleteList n type owner =>
      exact .of_kept (.of_rows_eq ((listStep_deleteList h.faults n type owner).others k.tableName
        k.tableName_ne_namedLists)) he
  | outside hrows hfaults => exact .of_kept (.of_rows_eq (hrows k)) he

/-- **A record stays in its scope** over every run that does not delete it. -/
theorem Settled.stays_run [PatternEngine] (h : Settled w)
    (he : stored? k.Record w.desk.store id = some e)
    (hrun : Relation.ReflTransGen (Sparing a k id) w w') :
    Settled w' ∧ ∃ e', stored? k.Record w'.desk.store id = some e' ∧ sameScope e' e = true := by
  induction hrun with
  | refl => exact ⟨h, e, he, sameScope_refl e⟩
  | @tail v v' _ hstep ih =>
      obtain ⟨hevent, hspared⟩ := hstep
      obtain ⟨hsettled, e₁, he₁, hsame₁⟩ := ih
      refine ⟨hsettled.transition hevent.transition, ?_⟩
      cases hsettled.stays_event hevent he₁ with
      | inl hstays =>
          obtain ⟨e₂, he₂, hsame₂⟩ := hstays
          exact ⟨e₂, he₂, sameScope_trans hsame₂ hsame₁⟩
      | inr hdeleted => exact absurd hdeleted hspared

/-- What is there afterwards was not deleted. -/
theorem Settled.sparing [PatternEngine] (h : Settled w) (hevent : Event a w w') {e' : k.Record}
    (he' : stored? k.Record w'.desk.store id = some e') : Sparing a k id w w' := by
  refine ⟨hevent, fun ⟨owner, e, hdelete⟩ => ?_⟩
  obtain ⟨hgone, -, -⟩ := h.delete_leaves hdelete
  rw [he'] at hgone
  cases hgone

theorem type_and_action_of_sameScope {t t' : Template} (h : sameScope t t' = true) :
    t.applicationType = t'.applicationType ∧ t.action = t'.action := by
  simpa [sameScope] using h

/-- **Records never change scope.**  In any run that begins without rules and in which issued
identifiers are fresh, a record of any kind that is once stored is there, under its identifier and
with the same application type, for as long as it is not deleted, whatever else is asked for, also
for itself.  A template moreover keeps its action. -/
theorem belonging_of_run [PatternEngine] {w₀ : World} (hblank : Blank w₀)
    (hrun : Relation.ReflTransGen (Event a) w₀ w) :
    (∀ (k : Kind) (id : String) (e : k.Record) (w' : World),
      stored? k.Record w.desk.store id = some e →
      Relation.ReflTransGen (Sparing a k id) w w' →
        ∃ e', stored? k.Record w'.desk.store id = some e' ∧
          applicationType e' = applicationType e) ∧
    ∀ (id : String) (t : Template) (w' : World),
      stored? Template w.desk.store id = some t →
      Relation.ReflTransGen (Sparing a .template id) w w' →
        ∃ t', stored? Template w'.desk.store id = some t' ∧
          t'.applicationType = t.applicationType ∧ t'.action = t.action := by
  have hsettled := hblank.settled.events hrun
  constructor
  · intro k id e w' he hspared
    obtain ⟨-, e', he', hsame⟩ := hsettled.stays_run he hspared
    exact ⟨e', he', applicationType_eq_of_sameScope hsame⟩
  · intro id t w' ht hspared
    obtain ⟨-, t', ht', hsame⟩ := hsettled.stays_run (k := .template) ht hspared
    exact ⟨t', ht', type_and_action_of_sameScope hsame⟩

end Runs

/-! ## A rule that is pushed aside -/

/-- The world after a rule without application type was created. -/
def looseAlone [PatternEngine] (a : Admin) : World :=
  Request.perform a (.create (looseRule "a" "İ" "model") "stb" "admin") {}

/-- And after another one was put in front of it. -/
def loosePushed [PatternEngine] (a : Admin) : World :=
  Request.perform a (.create (looseRule "b" "Σ" "env") "stb" "admin") (looseAlone a)

/-- And after someone of another application type asked to update it, again without one. -/
def looseClaimed [PatternEngine] (a : Admin) : World :=
  Request.perform a (.update (looseRule "a" "İ" "mac") "rdkcloud" "admin") (loosePushed a)

/-- The rule stays with the application type of the request that created it. -/
theorem belonging_looseClaimed :
    ∃ e : FirmwareRule, stored? FirmwareRule (looseClaimed { newId := toString }).desk.store "a" =
      some e ∧ e.applicationType = "stb" ∧ e.priority = 2 := by
  have hcreated : Event { newId := toString } {} (looseAlone { newId := toString }) :=
    .request .firmwareRule (.create (looseRule "a" "İ" "model") "stb" "admin")
      (show Json.IsInt32 1 by decide) fun hblank => absurd hblank (by decide +kernel)
  have hpushed : Event { newId := toString } (looseAlone { newId := toString })
      (loosePushed { newId := toString }) :=
    .request .firmwareRule (.create (looseRule "b" "Σ" "env") "stb" "admin")
      (show Json.IsInt32 1 by decide) fun hblank => absurd hblank (by decide +kernel)
  have hclaimed : Event { newId := toString } (loosePushed { newId := toString })
      (looseClaimed { newId := toString }) :=
    .request .firmwareRule (.update (looseRule "a" "İ" "mac") "rdkcloud" "admin")
      (show Json.IsInt32 1 by decide) trivial
  have hsettled := blank_default.settled.transition hcreated.transition
  have hsettled' := hsettled.transition hpushed.transition
  -- that the rule is there in each world shows that no step deleted it
  have hread : ∀ {w : World} {p : Int},
      (stored? FirmwareRule w.desk.store "a").any (fun r => r.priority == p) = true →
        ∃ r, stored? FirmwareRule w.desk.store "a" = some r ∧ r.priority = p := by
    intro w p hany
    obtain ⟨r, hr, hp⟩ := (Option.any_eq_true _ _).1 hany
    exact ⟨r, hr, beq_iff_eq.1 hp⟩
  obtain ⟨r, hr, -⟩ := hread (w := looseAlone { newId := toString }) (p := 1) (by decide +kernel)
  obtain ⟨r', hr', -⟩ := hread (w := loosePushed { newId := toString }) (p := 2)
    (by decide +kernel)
  obtain ⟨r'', hr'', hp⟩ := hread (w := looseClaimed { newId := toString }) (p := 2)
    (by decide +kernel)
  have htype : r.applicationType = "stb" := by
    have hmap : (stored? FirmwareRule (looseAlone { newId := toString }).desk.store "a").map
        FirmwareRule.applicationType = some "stb" := by decide +kernel
    simpa [hr] using hmap
  obtain ⟨e, he, hsame⟩ := (belonging_of_run blank_default (.single hcreated)).1 .firmwareRule "a" r
    (looseClaimed { newId := toString }) hr
    ((Relation.ReflTransGen.single (hsettled.sparing (k := .firmwareRule) hpushed hr')).tail
      (hsettled'.sparing (k := .firmwareRule) hclaimed hr''))
  have heq : e = r'' := Option.some.inj (he.symm.trans hr'')
  exact ⟨e, he, hsame.trans htype, heq ▸ hp⟩

end Rulebook.Admin
