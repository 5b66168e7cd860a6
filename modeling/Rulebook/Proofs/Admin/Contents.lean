import Rulebook.Proofs.Admin.Reachable
import Rulebook.Proofs.Rule.Normal

/-!
# Rulebook.Proofs.Admin.Contents

What the stored records are like, apart from their identifiers and priorities.

Only creating and updating bring anything new into a table, and both prepare the record and hold it
against its scope before (`Admitted`).  Whatever else a request writes is a stored record with
another priority (`KeepsOthers`).  So in every state of a run all records are prepared ones, and no
two of one scope have the same name or the same rule (`vetted_of_reachable`).
-/

namespace Rulebook.Admin

open Prioritized RuleKind

variable {E : Type} [RuleKind E] {s s' : Store} {c : Config}

/-! ## Records -/

/-- The record was prepared at some time; since then its priority may have changed. -/
def Prepared [PatternEngine] (c : Config) (e : E) : Prop :=
  ∃ (s : Store) (type : String) (e₀ r : E) (p : Int),
    prepare c s type e₀ = .ok r ∧ e = withPriority r p

/-- The records have neither the same name nor the same rule. -/
structure Distinct (e e' : E) : Prop where
  names : Text.lowerCase (name e) ≠ Text.lowerCase (name e')
  rules : (rule e).normalize.same (rule e').normalize = false

/-- The record may be stored under the identifier. -/
structure Admitted [PatternEngine] (c : Config) (s : Store) (id : String) (r : E) : Prop where
  prepared : Prepared c r
  distinct : ∀ {n : String} {o : E}, stored? E s n = some o → n ≠ id → sameScope o r = true →
    Distinct o r

/-- All records were prepared, and no two records of one scope have the same name or rule. -/
structure Vetted [PatternEngine] (c : Config) (E : Type) [RuleKind E] (s : Store) : Prop where
  prepared : ∀ {id : String} {e : E}, stored? E s id = some e → Prepared c e
  distinct : ∀ {id id' : String} {e e' : E}, stored? E s id = some e → stored? E s id' = some e' →
    id ≠ id' → sameScope e e' = true → Distinct e e'

/-- But for the one under `id`, every record of the second store is one of the first, if with
another priority. -/
def KeepsOthers (E : Type) [RuleKind E] (id : String) (s s' : Store) : Prop :=
  ∀ (n : String) (r : E), n ≠ id → stored? E s' n = some r →
    ∃ (b : E) (p : Int), stored? E s n = some b ∧ r = withPriority b p

theorem Distinct.symm {e e' : E} (h : Distinct e e') : Distinct e' e :=
  ⟨h.names.symm, Rule.same_comm _ _ ▸ h.rules⟩

/-- A candidate in normal form passes the check against a stored record if that is its own stored
version, or differs from it in name and rule. -/
theorem checkDistinct_eq_ok_iff {e other : E} (hnormal : (rule e).normalize = rule e) :
    checkDistinct e other = .ok () ↔ key other = key e ∨ Distinct other e := by
  rw [checkDistinct]
  by_cases hkey : key other = key e
  · simp [hkey]
  · rw [if_neg (by simpa using hkey), ite_error_eq_ok_iff, ite_error_eq_ok_iff, beq_iff_eq,
      Bool.not_eq_true, ← hnormal]
    constructor
    · rintro ⟨hnames, hrules, -⟩
      exact .inr ⟨hnames, hrules⟩
    · rintro (heq | ⟨hnames, hrules⟩)
      · exact absurd heq hkey
      · exact ⟨hnames, hrules, rfl⟩

theorem Vetted.of_rows_eq [PatternEngine] (h : Vetted c E s) (hrows : rows E s' = rows E s) :
    Vetted c E s' := by
  have hstored : ∀ id, stored? E s' id = stored? E s id := fun id => by
    rw [stored?, stored?, hrows]
  exact ⟨fun he => h.prepared (hstored _ ▸ he),
    fun he he' => h.distinct (hstored _ ▸ he) (hstored _ ▸ he')⟩

theorem vetted_of_rows_eq_empty [PatternEngine] (h : rows E s = ∅) : Vetted c E s := by
  have hnone : ∀ id, stored? E s id = none := fun id => by
    rw [stored?, h]
    rfl
  exact ⟨fun he => (by rw [hnone] at he; cases he), fun he => (by rw [hnone] at he; cases he)⟩

theorem vetted_underLock [PatternEngine] {α : Type} {a : Admin} {t owner : String}
    {work : Desk → Except AdminError α × Desk} {w : World} (h : Vetted a.config E w.desk.store)
    (hwork : Vetted a.config E (work w.desk.synced).2.store) :
    Vetted a.config E (underLock a.config t owner work w).2.desk.store :=
  desk_underLock (P := fun d => Vetted a.config E d.store) a.config t owner h hwork

section Lawful

variable [LawfulKind E]

/-! ## Priorities do not matter -/

theorem sameScope_withPriority_left (a b : E) (p : Int) :
    sameScope (withPriority a p) b = sameScope a b := by
  rw [Bool.eq_iff_iff, sameScope_comm, sameScope_congr (LawfulKind.sameScope_withPriority a p),
    sameScope_comm]

theorem sameScope_withPriority_right (a b : E) (p : Int) :
    sameScope a (withPriority b p) = sameScope a b :=
  sameScope_congr (LawfulKind.sameScope_withPriority b p) a

theorem Prepared.withPriority [PatternEngine] {e : E} (h : Prepared c e) (p : Int) :
    Prepared c (withPriority e p) := by
  obtain ⟨s, type, e₀, r, q, hprepare, rfl⟩ := h
  exact ⟨s, type, e₀, r, p, hprepare, LawfulPrioritized.withPriority_withPriority r q p⟩

theorem Distinct.withPriority_left {e e' : E} (h : Distinct e e') (p : Int) :
    Distinct (withPriority e p) e' :=
  ⟨by simpa using h.names, by simpa using h.rules⟩

theorem Distinct.withPriority_right {e e' : E} (h : Distinct e e') (p : Int) :
    Distinct e (withPriority e' p) :=
  (h.symm.withPriority_left p).symm

theorem Vetted.admitted [PatternEngine] (h : Vetted c E s) {id : String} {b : E}
    (hb : stored? E s id = some b) (p : Int) : Admitted c s id (withPriority b p) := by
  refine ⟨(h.prepared hb).withPriority p, fun {n o} ho hn hsame => ?_⟩
  rw [sameScope_withPriority_right] at hsame
  exact (h.distinct ho hb hn hsame).withPriority_right p

/-- **A table stays vetted** if the one record that may have changed is admitted. -/
theorem Vetted.of_keepsOthers [PatternEngine] (h : Vetted c E s) {id : String}
    (hothers : KeepsOthers E id s s') (hown : ∀ r, stored? E s' id = some r → Admitted c s id r) :
    Vetted c E s' := by
  -- the record that may have changed is distinct from any other one
  have hpair : ∀ {n : String} {r r' : E}, stored? E s' id = some r → stored? E s' n = some r' →
      n ≠ id → sameScope r' r = true → Distinct r' r := by
    intro n r r' hr hr' hn hsame
    obtain ⟨b, p, hb, rfl⟩ := hothers n r' hn hr'
    rw [sameScope_withPriority_left] at hsame
    exact ((hown r hr).distinct hb hn hsame).withPriority_left p
  refine ⟨fun {n r} hr => ?_, fun {n n' r r'} hr hr' hne hsame => ?_⟩
  · by_cases hn : n = id
    · subst hn
      exact (hown r hr).prepared
    · obtain ⟨b, p, hb, rfl⟩ := hothers n r hn hr
      exact (h.prepared hb).withPriority p
  · by_cases hn : n = id
    · subst hn
      exact (hpair hr hr' hne.symm (sameScope_comm.1 hsame)).symm
    · by_cases hn' : n' = id
      · subst hn'
        exact hpair hr' hr hn hsame
      · obtain ⟨b, p, hb, rfl⟩ := hothers n r hn hr
        obtain ⟨b', p', hb', rfl⟩ := hothers n' r' hn' hr'
        rw [sameScope_withPriority_left, sameScope_withPriority_right] at hsame
        exact ((h.distinct hb hb' hne hsame).withPriority_left p).withPriority_right p'

/-! ## Plans -/

variable {type : String} {e : E} {plan : Plan E}

/-- Preparing a record and holding it against its scope admits it, at any priority. -/
theorem admitted_of_checks [PatternEngine] (hkeyed : Keyed E s) {r : E}
    (hprepare : prepare c s type e = .ok r) (hdistinct : checkDuplicates r (scope s r) = .ok ())
    (p : Int) :
    Admitted c s (key r) (withPriority r p) := by
  refine ⟨⟨s, type, e, r, p, hprepare, rfl⟩, fun {n o} ho hn hsame => ?_⟩
  have hnormal : (rule r).normalize = rule r := by
    obtain ⟨-, -, rfl⟩ := prepare_eq_ok_iff.1 hprepare
    rw [rule_ready, Rule.normalize_normalize]
  have hkey : key o = n := hkeyed.key_eq ho
  rw [sameScope_withPriority_right] at hsame
  have hmem : o ∈ scope s r := hkeyed.mem_scope_iff.2 ⟨hkey.symm ▸ ho, hsame⟩
  -- the check skips the stored version of the record itself, and no other record of the scope
  rcases (checkDistinct_eq_ok_iff hnormal).1 (forM_eq_ok_iff.1 hdistinct o hmem) with
    heq | hdistinct
  · exact absurd (hkey.symm.trans heq) hn
  · exact hdistinct.withPriority_right p

theorem Documented.admitted_of_planCreate [PatternEngine] (h : Documented E s) {fresh : String}
    (hfresh : Text.isBlank (key e) = true →
      Text.isBlank fresh = false ∧ (rows E s).get? fresh = none)
    (hplan : planCreate c s fresh type e = .ok plan) :
    Admitted c s (key plan.result) plan.result := by
  obtain ⟨e', r, change, -, hprepare, -, hdistinct, hacting, hmove, hresult, hid, -⟩ :=
    h.keyed.move_of_planCreate (fun hblank => (hfresh hblank).2) hplan
  rw [hid, hacting.priority_eq hmove hresult hid]
  exact admitted_of_checks h.keyed hprepare hdistinct _

theorem Orderly.admitted_of_planUpdate [PatternEngine] (h : Orderly E s) (he : Storable e)
    (hplan : planUpdate c s type e = .ok plan) :
    Admitted c s (key plan.result) plan.result := by
  obtain ⟨r, stored, j, hprepare, -, -, hdistinct, -, hin, hplan⟩ := h.move_of_planUpdate he hplan
  split at hplan
  · have hadmitted := admitted_of_checks h.documented.keyed hprepare hdistinct (priority r)
    rw [LawfulPrioritized.withPriority_priority] at hadmitted
    subst hplan
    exact hadmitted
  · obtain ⟨change, hmove, hresult, hid, -⟩ := hplan
    rw [hid, (hin r (sameScope_refl r)).2.1.priority_eq hmove hresult hid]
    exact admitted_of_checks h.documented.keyed hprepare hdistinct _

/-! ## Works -/

section Change

variable {id : String} {after writes : List E} {ids : List String}

theorem Change.keepsOthers (h : Change s e id after writes ids) (hsaved : Saved writes s s') :
    KeepsOthers E id s s' := by
  intro n r hn hr
  by_cases hw : n ∈ writes.map key
  · obtain ⟨w, hmem, rfl⟩ := List.mem_map.1 hw
    rw [h.toRewriting.stored?_of_mem hsaved hmem] at hr
    cases hr
    obtain ⟨b, hb, p, rfl⟩ := h.others _ (h.rewrite.wanted.subset hmem) hn
    rw [LawfulPrioritized.key_withPriority]
    exact ⟨b, p, (h.keyed.mem_scope_iff.1 hb).1, rfl⟩
  · rw [hsaved.stored?_of_not_mem hw] at hr
    exact ⟨r, priority r, hr, (LawfulPrioritized.withPriority_priority r).symm⟩

/-- A change whose own record is admitted leaves the table vetted. -/
theorem Change.vetted [PatternEngine] (h : Change s e id after writes ids) (hvetted : Vetted c E s)
    (hsave : save writes s = (.ok (), s')) {r : E} (hr : r ∈ writes) (hid : key r = id)
    (hadmitted : Admitted c s id r) : Vetted c E s' := by
  have hsaved := saved_of_save h.rewrite.nodup_written hsave
  refine hvetted.of_keepsOthers (h.keepsOthers hsaved) fun r' hr' => ?_
  rw [← hid, h.toRewriting.stored?_of_mem hsaved hr] at hr'
  cases hr'
  exact hadmitted

end Change

variable {a : Admin} {d : Desk}

theorem vetted_createWork [PatternEngine] (h : Orderly E d.store) (hfaults : d.store.faults = {})
    (hvetted : Vetted a.config E d.store) (he : Storable e)
    (hfresh : Text.isBlank (key e) = true → d.Fresh a E) :
    Vetted a.config E (createWork a type e d).2.store := by
  rcases store_createWork_cases (by rw [hfaults]) e with hstore | ⟨plan, hplan, hsave⟩
  · exact hstore ▸ hvetted
  · obtain ⟨-, hresult, after, hchange⟩ := h.change_of_planCreate he hfresh hplan
    exact hchange.vetted hvetted hsave hresult rfl
      (h.documented.admitted_of_planCreate hfresh hplan)

theorem vetted_updateWork [PatternEngine] (h : Orderly E d.store) (hfaults : d.store.faults = {})
    (hvetted : Vetted a.config E d.store) (he : Storable e) :
    Vetted a.config E (updateWork a type e d).2.store := by
  rcases store_updateWork_cases (by rw [hfaults]) e with hstore | ⟨plan, hplan, hsave⟩
  · exact hstore ▸ hvetted
  · obtain ⟨hkey, hresult, stored, -, -, after, hchange⟩ := h.change_of_planUpdate he hplan
    exact hchange.vetted hvetted hsave hresult hkey (hkey ▸ h.admitted_of_planUpdate he hplan)

theorem vetted_moveWork [PatternEngine] (h : Orderly E d.store) (hfaults : d.store.faults = {})
    (hvetted : Vetted c E d.store) (id : String) (new : Int) :
    Vetted c E (moveWork E id new d).2.store := by
  rcases store_moveWork_cases (E := E) (by rw [hfaults]) id new with
    hstore | ⟨altered, hplan, hsave⟩
  · exact hstore ▸ hvetted
  · obtain ⟨stored, hstored, hkey, ⟨p, hp⟩, after, hchange⟩ := h.change_of_planMove hplan
    exact hchange.vetted hvetted hsave hp (by rw [LawfulPrioritized.key_withPriority, hkey])
      (hvetted.admitted hstored p)

theorem keepsOthers_of_delete {id : String} (hdelete : (table (E := E)).delete s id = .ok s') :
    KeepsOthers E id s s' := by
  intro n r hn hr
  rw [stored?_of_delete hdelete, if_neg hn] at hr
  exact ⟨r, priority r, hr, (LawfulPrioritized.withPriority_priority r).symm⟩

theorem vetted_deleteWork [PatternEngine] (h : Orderly E d.store) (hfaults : d.store.faults = {})
    (hvetted : Vetted c E d.store) (id : String) : Vetted c E (deleteWork E id d).2.store := by
  rcases hrun : deleteWork E id d with ⟨outcome, d'⟩
  cases outcome with
  | error error => exact store_of_deleteWork_error (h.not_stranded hfaults id) hrun ▸ hvetted
  | ok e =>
      obtain ⟨-, s, hdelete, -, hsave, hchange⟩ := h.change_of_deleteWork hfaults hrun
      have hsaved := saved_of_save hchange.rewrite.nodup_written hsave
      -- neither taking the record out nor closing the gap puts anything under its identifier
      have hgone : stored? E s id = none := by rw [stored?_of_delete hdelete, if_pos rfl]
      have hvetted' : Vetted c E s :=
        hvetted.of_keepsOthers (keepsOthers_of_delete hdelete) fun r hr => by
          rw [hgone] at hr
          cases hr
      refine hvetted'.of_keepsOthers (hchange.keepsOthers hsaved) fun r hr => ?_
      rw [hsaved.stored?_of_not_mem (Priority.not_mem_map_key_pack _ id), hgone] at hr
      cases hr

theorem vetted_importWork [PatternEngine] {records : List E} (h : Orderly E d.store)
    (hfaults : d.store.faults = {}) (hvetted : Vetted a.config E d.store)
    (hrecords : ∀ e ∈ records, Storable e) (hfresh : FreshImport a type records d) :
    Vetted a.config E (importWork a type records d).2.store := by
  induction records generalizing d with
  | nil => exact hvetted
  | cons e rest ih =>
      rw [List.forall_mem_cons] at hrecords
      have hstep : Step E d.store (importOne a type e d).2.store :=
        step_importOne h hfaults hrecords.1 hfresh.1
      have hone : Vetted a.config E (importOne a type e d).2.store := by
        rw [importOne]
        split
        · exact hvetted
        · exact vetted_updateWork h hfaults hvetted hrecords.1
        · exact vetted_createWork h hfaults hvetted hrecords.1 hfresh.1
      rw [desk_importWork_cons]
      exact ih hstep.orderly (hstep.faults.trans hfaults) hone hrecords.2 hfresh.2

/-! ## Runs -/

/-- Every request leaves the table of its kind vetted. -/
theorem vetted_perform [PatternEngine] {w : World} (h : Orderly E w.desk.store)
    (hfaults : w.desk.store.faults = {}) (hvetted : Vetted a.config E w.desk.store)
    (r : Request E) (hdecoded : r.IsDecoded) (hfresh : r.Fresh a w.desk.synced) :
    Vetted a.config E (r.perform a w).desk.store := by
  have hsynced : Orderly E w.desk.synced.store := h.of_rows_eq rfl
  have hvetted' : Vetted a.config E w.desk.synced.store := hvetted.of_rows_eq rfl
  cases r with
  | create e type owner =>
      exact vetted_underLock hvetted
        (vetted_createWork hsynced hfaults hvetted' hdecoded.storable hfresh)
  | update e type owner =>
      exact vetted_underLock hvetted
        (vetted_updateWork hsynced hfaults hvetted' hdecoded.storable)
  | delete id owner =>
      exact vetted_underLock hvetted (vetted_deleteWork hsynced hfaults hvetted' id)
  | changePriority id new owner =>
      rw [Request.perform, Admin.changePriority]
      split
      · exact hvetted
      · exact vetted_underLock hvetted
          (vetted_moveWork hsynced hfaults hvetted' id new)
  | importAll records type owner =>
      exact vetted_underLock hvetted
        (vetted_importWork hsynced hfaults hvetted' (fun e he => (hdecoded e he).storable) hfresh)

end Lawful

/-- **In every state of a run** the tables of all kinds are vetted. -/
theorem vetted_of_reachable [PatternEngine] {a : Admin} {w : World} (h : Reachable a w) (k : Kind) :
    Vetted a.config k.Record w.desk.store := by
  induction h with
  | start hempty hfaults => exact vetted_of_rows_eq_empty (hempty k)
  | @request w h k' r hdecoded hfresh ih =>
      have hinv := inv_of_reachable h
      by_cases hk : k = k'
      · subst hk
        exact vetted_perform (hinv.orderly k) hinv.faults ih r hdecoded hfresh
      · exact ih.of_rows_eq ((step_perform (hinv.orderly k') hinv.faults r hdecoded hfresh).others
          k.tableName fun hname => hk (Kind.tableName_injective hname))
  | outside _ hrows hfaults ih => exact ih.of_rows_eq (hrows k)

theorem prepared_of_reachable [PatternEngine] {a : Admin} {w : World} (h : Reachable a w)
    (k : Kind) {id : String} {doc : Json} (hrow : (rows k.Record w.desk.store).get? id = some doc) :
    ∃ e : k.Record, table.decode doc = some e ∧ Prepared a.config e := by
  obtain ⟨e, hdecode, -⟩ := ((inv_of_reachable h).orderly k).documented.keyed id doc hrow
  exact ⟨e, hdecode,
    (vetted_of_reachable h k).prepared (stored?_eq_some_iff.2 ⟨doc, hrow, hdecode⟩)⟩

end Rulebook.Admin
