import Rulebook.Proofs.Admin.Imports
import Rulebook.Proofs.Admin.Stored
import Rulebook.Proofs.Lock.Holds

/-!
# Rulebook.Proofs.Admin.Batches

A batch is its requests, one by one.

An import holds the lock once and brings the store up to date once; requests that are made one after
the other do both each time.  Neither makes a difference to the records: no work reads how often the
store was brought up to date (`importOne_counted`), and a request leaves its lock as free as it was
(`owner_lock_underLock`).  So an import ends in the tables that the single requests end in, and
reports their answers:

* `requestEach` — the single requests, in order;
* `store_importWork_of_refused` — a record that is refused is as good as not there;
* `importAll_eq_requestEach` — the batch, in any store.
-/

namespace Rulebook.Admin

open Prioritized RuleKind

/-! ## How often a store was brought up to date -/

/-- The store, with another count of how often it was brought up to date. -/
def counted (s : Store) (n : Nat) : Store :=
  { s with syncs := n }

/-- The desk, with another count of how often its store was brought up to date. -/
def Desk.counted (d : Desk) (n : Nat) : Desk :=
  { d with store := Admin.counted d.store n }

section Counted

variable {k : Kind} {c : Config}

theorem check_counted (s : Store) (n : Nat) (type : String) (e : k.Record) :
    RuleKind.check ⟨counted s n, c, type⟩ e = RuleKind.check ⟨s, c, type⟩ e := by
  cases k <;> rfl

theorem prepare_counted [PatternEngine] (s : Store) (n : Nat) (type : String) (e : k.Record) :
    prepare c (counted s n) type e = prepare c s type e := by
  simp only [prepare, checkRecord, check_counted]

theorem planCreate_counted [PatternEngine] (s : Store) (n : Nat) (fresh type : String)
    (e : k.Record) :
    planCreate c (counted s n) fresh type e = planCreate c s fresh type e := by
  have hidentify : identify (counted s n) fresh e = identify s fresh e := rfl
  have hscope : ∀ r : k.Record, scopeOf (counted s n) r = scopeOf s r := fun _ => rfl
  simp only [planCreate, hidentify, prepare_counted, hscope]

theorem planUpdate_counted [PatternEngine] (s : Store) (n : Nat) (type : String) (e : k.Record) :
    planUpdate c (counted s n) type e = planUpdate c s type e := by
  have hfind : find (E := k.Record) (counted s n) (key e) = find s (key e) := rfl
  have hscope : ∀ r : k.Record, scopeOf (counted s n) r = scopeOf s r := fun _ => rfl
  simp only [planUpdate, hfind, prepare_counted, hscope]

theorem write_counted (s : Store) (n : Nat) (e : k.Record) :
    table.write (counted s n) (key e) e = (table.write s (key e) e).map (counted · n) := by
  unfold Table.write Store.write counted
  cases hwrites : s.faults.writesLeft with
  | none => rfl
  | some left => cases left <;> rfl

theorem save_counted (s : Store) (n : Nat) (es : List k.Record) :
    save es (counted s n) = ((save es s).1, counted (save es s).2 n) := by
  induction es generalizing s with
  | nil => rfl
  | cons e rest ih =>
      rw [save, save, write_counted]
      cases table.write s (key e) e with
      | error error => rfl
      | ok s₁ => exact ih s₁

theorem carryOut_counted (plan : Plan k.Record) (s : Store) (n : Nat) :
    plan.carryOut (counted s n) = ((plan.carryOut s).1, counted (plan.carryOut s).2 n) := by
  rw [Plan.carryOut, Plan.carryOut, save_counted]
  rcases save plan.writes s with ⟨outcome, s'⟩
  cases outcome <;> rfl

variable (a : Admin) (type : String) [PatternEngine]

theorem createWork_counted (e : k.Record) (d : Desk) (n : Nat) :
    createWork a type e (d.counted n) =
      ((createWork a type e d).1, (createWork a type e d).2.counted n) := by
  have hplan : planCreate a.config (d.counted n).store (a.newId (d.counted n).issued) type e =
      planCreate a.config d.store (a.newId d.issued) type e :=
    planCreate_counted d.store n _ type e
  rw [createWork, createWork, hplan]
  cases planCreate a.config d.store (a.newId d.issued) type e with
  | error error => cases Text.isBlank (key e) <;> simp [Desk.counted]
  | ok plan =>
      have hcarry := carryOut_counted plan d.store n
      cases Text.isBlank (key e) <;> simp [Desk.counted, Desk.after, hcarry]

theorem updateWork_counted (e : k.Record) (d : Desk) (n : Nat) :
    updateWork a type e (d.counted n) =
      ((updateWork a type e d).1, (updateWork a type e d).2.counted n) := by
  have hplan : planUpdate a.config (d.counted n).store type e =
      planUpdate a.config d.store type e := planUpdate_counted d.store n type e
  rw [updateWork, updateWork, hplan]
  cases planUpdate a.config d.store type e with
  | error error => rfl
  | ok plan =>
      have hcarry := carryOut_counted plan d.store n
      simp [Desk.counted, Desk.after, hcarry]

/-- **No work of an import reads the count**, nor changes it. -/
theorem importOne_counted (e : k.Record) (d : Desk) (n : Nat) :
    importOne a type e (d.counted n) =
      ((importOne a type e d).1, (importOne a type e d).2.counted n) := by
  have hstored : isStored k.Record (d.counted n).store (key e) =
      isStored k.Record d.store (key e) := rfl
  rw [importOne, importOne, hstored]
  cases isStored k.Record d.store (key e) with
  | error error => rfl
  | ok found =>
      cases found with
      | true => exact updateWork_counted a type e d n
      | false => exact createWork_counted a type e d n

end Counted

/-! ## A record that is refused -/

section Refused

variable {E : Type} [RuleKind E] {a : Admin} {type : String}

/-- Saving only fails where a write does. -/
theorem eq_diskFull_of_save {es : List E} {s : Store} {error : AdminError}
    (h : (save es s).1 = .error error) : error = .store (.backend .diskFull) := by
  induction es generalizing s with
  | nil => cases h
  | cons e rest ih =>
      rw [save] at h
      cases hwrite : (table (E := E)).write s (key e) e with
      | error fault =>
          rw [hwrite] at h
          cases h
          unfold Table.write Store.write at hwrite
          split at hwrite <;> cases hwrite
          rfl
      | ok s₁ =>
          rw [hwrite] at h
          exact ih h

/-- Saving does not change whether the store can be brought up to date. -/
theorem syncs_save (es : List E) (s : Store) : (save es s).2.faults.syncs = s.faults.syncs := by
  induction es generalizing s with
  | nil => rfl
  | cons e rest ih =>
      rw [save]
      cases hwrite : (table (E := E)).write s (key e) e with
      | error fault => rfl
      | ok s₁ =>
          have hsyncs : s₁.faults.syncs = s.faults.syncs := by
            unfold Table.write Store.write at hwrite
            split at hwrite <;> cases hwrite <;> rfl
          exact (ih s₁).trans hsyncs

/-- It was not for a write that failed that a request was refused with this error. -/
def NotForWriting (s : Store) (error : AdminError) : Prop :=
  s.faults.writesLeft = none ∨ error ≠ .store (.backend .diskFull)

/-- Where writes do not fail, they do not fail after saving either. -/
theorem writesLeft_save {s : Store} (hwrites : s.faults.writesLeft = none) (es : List E) :
    (save es s).2.faults.writesLeft = none := by
  obtain ⟨s', hsave⟩ := exists_save_eq_ok hwrites es
  rw [hsave, faults_of_save hwrites hsave, hwrites]

/-- A work with this outcome has saved records, and none if it was refused for anything but a write
that failed. -/
def SavesUnlessRefused (s : Store) (outcome : Except AdminError E × Desk) : Prop :=
  ∃ es : List E, outcome.2.store = (save es s).2 ∧
    ∀ error, outcome.1 = .error error → NotForWriting s error → es = []

theorem savesUnlessRefused_of_plan {d : Desk} (plan : Plan E) :
    SavesUnlessRefused d.store (d.after (plan.carryOut d.store)) := by
  rw [Desk.after, Plan.carryOut]
  cases hsave : save plan.writes d.store with
  | mk outcome s' =>
      refine ⟨plan.writes, ?_, fun error herror hwriting => ?_⟩
      · cases outcome <;> simp [hsave]
      · cases outcome with
        | ok _ => cases herror
        | error error' =>
            cases herror
            rcases hwriting with hwrites | hne
            · obtain ⟨s'', hok⟩ := exists_save_eq_ok hwrites plan.writes
              rw [hok] at hsave
              cases hsave
            · exact absurd (eq_diskFull_of_save (congrArg Prod.fst hsave)) hne

theorem savesUnlessRefused_importOne [PatternEngine] (a : Admin) (type : String) (e : E)
    (d : Desk) :
    SavesUnlessRefused d.store (importOne a type e d) := by
  have hnothing : ∀ (d' : Desk) (error : AdminError), d'.store = d.store →
      SavesUnlessRefused (E := E) d.store (.error error, d') := fun d' error hstore =>
    ⟨[], hstore, fun _ _ _ => rfl⟩
  rw [importOne]
  cases isStored E d.store (key e) with
  | error error => exact hnothing d error rfl
  | ok found =>
      cases found with
      | true =>
          simp only [updateWork]
          cases planUpdate a.config d.store type e with
          | error error => exact hnothing d error rfl
          | ok plan => exact savesUnlessRefused_of_plan plan
      | false =>
          simp only [createWork]
          have hissued := store_issued d e
          generalize (if Text.isBlank (key e) then _ else d : Desk) = d' at hissued ⊢
          cases planCreate a.config d.store (a.newId d.issued) type e with
          | error error => exact hnothing d' error hissued
          | ok plan =>
              rw [← hissued]
              exact savesUnlessRefused_of_plan plan

/-- **A record that is refused** leaves the store as it found it, so that the import goes on as if
it had not been there; only a write that fails may leave others behind. -/
theorem store_importWork_of_refused [PatternEngine] {records : List E} {d : Desk} {i : Nat}
    {error : AdminError} (h : (importOutcomes a type records d)[i]? = some (.error error))
    (hwriting : NotForWriting d.store error) :
    (importWork a type (records.take (i + 1)) d).2.store =
      (importWork a type (records.take i) d).2.store := by
  induction records generalizing d i with
  | nil => cases h
  | cons e rest ih =>
      obtain ⟨es, hstore, hrefused⟩ := savesUnlessRefused_importOne a type e d
      rw [importOutcomes] at h
      cases i with
      | zero =>
          have houtcome : (importOne a type e d).1 = .error error := by simpa using h
          rw [hrefused error houtcome hwriting] at hstore
          rw [List.take_succ_cons, desk_importWork_cons]
          exact hstore
      | succ i =>
          rw [List.getElem?_cons_succ] at h
          rw [List.take_succ_cons, desk_importWork_cons, List.take_succ_cons, desk_importWork_cons]
          refine ih h (hwriting.imp_left fun hwrites => ?_)
          rw [hstore]
          exact writesLeft_save hwrites es

end Refused

/-! ## The lock between requests -/

theorem get?_holds_withLock (w : World) (l : Lock) : (w.withLock l).holds.get? l.name = l.hold := by
  unfold World.withLock
  cases l.hold with
  | none => exact (SortedMap.get?_erase _ _ _).trans (if_pos rfl)
  | some hold => exact (SortedMap.get?_insert _ _ _ _).trans (if_pos rfl)

theorem lock_withLock (w : World) (c : Config) (t : String) (hold : Option Hold) :
    (w.withLock { w.lock c t with hold }).lock c t = { w.lock c t with hold } := by
  have hget := get?_holds_withLock w { w.lock c t with hold }
  rw [World.lock]
  exact congrArg (fun hold => (⟨t, c.lockSeconds, hold⟩ : Lock)) hget

/-- The owner of a hold gives it back. -/
theorem owner_lock_unlock {w : World} {c : Config} {t owner : String}
    (h : (w.lock c t).holder = some owner) : ((w.unlock c t owner).lock c t).owner = none := by
  rw [World.unlock, Lock.letGo_of_holder h, lock_withLock]
  rfl

/-- **A request leaves its lock as free as it was**, whatever its work does. -/
theorem owner_lock_underLock {α : Type} (c : Config) (t owner : String)
    (work : Desk → Except AdminError α × Desk) (w : World) :
    ((underLock c t owner work w).2.lock c t).owner = (w.lock c t).owner := by
  rw [underLock, Lock.acquire]
  cases hfree : (w.lock c t).owner with
  | some holder => exact hfree
  | none =>
      have hheld : ((w.withLock { w.lock c t with hold := some { owner } }).lock c t).holder =
          some owner := by
        rw [lock_withLock]
        rfl
      dsimp only
      cases (w.withLock { w.lock c t with hold := some { owner } }).desk.store.sync with
      | error error => exact owner_lock_unlock hheld
      | ok s => exact owner_lock_unlock hheld

/-! ## One by one -/

variable {k : Kind}

/-- The single request for a record of an import: to update it if it is stored, and to create it if
it is not. -/
def requestOne [PatternEngine] (a : Admin) (e : k.Record) (type owner : String) (w : World) :
    Except AdminError k.Record × World :=
  match isStored k.Record w.desk.store (key e) with
  | .error error => (.error error, w)
  | .ok true => update a e type owner w
  | .ok false => create a e type owner w

/-- The single requests for the records of an import, one after the other, with their answers. -/
def requestEach [PatternEngine] (a : Admin) (type owner : String) :
    List k.Record → World → List (Except AdminError k.Record) × World
  | [], w => ([], w)
  | e :: rest, w =>
    let (outcome, w) := requestOne a e type owner w
    let (outcomes, w) := requestEach a type owner rest w
    (outcome :: outcomes, w)

variable {a : Admin} {type : String}

theorem length_requestEach [PatternEngine] (owner : String) (records : List k.Record) (w : World) :
    (requestEach a type owner records w).1.length = records.length := by
  induction records generalizing w with
  | nil => rfl
  | cons e rest ih => simp only [requestEach, List.length_cons, ih]

/-- The lock of the kind can be taken, and the store can be brought up to date. -/
def Open (a : Admin) (k : Kind) (w : World) : Prop :=
  (w.lock a.config k.tableName).owner = none ∧ w.desk.store.faults.syncs = false

/-- In an open world a single request does the work that the import does, and leaves it open. -/
theorem requestOne_of_open [PatternEngine] {w : World} (hopen : Open a k w) {d : Desk} {n : Nat}
    (hdesk : w.desk = d.counted n) (e : k.Record) (type owner : String) :
    ∃ w' n', requestOne a e type owner w = ((importOne a type e d).1, w') ∧
      w'.desk = (importOne a type e d).2.counted n' ∧ Open a k w' := by
  have hsynced : w.desk.synced = d.counted (n + 1) := by
    rw [hdesk]
    rfl
  have hstored : isStored k.Record w.desk.store (key e) = isStored k.Record d.store (key e) := by
    rw [hdesk]
    rfl
  -- what is left to show once the request is seen to be a work under the lock
  have hwork : ∀ (work : Desk → Except AdminError k.Record × Desk),
      work (d.counted (n + 1)) =
        ((importOne a type e d).1, (importOne a type e d).2.counted (n + 1)) →
      ∃ w' n', underLock a.config k.tableName owner work w = ((importOne a type e d).1, w') ∧
        w'.desk = (importOne a type e d).2.counted n' ∧ Open a k w' := by
    intro work hwork
    obtain ⟨w', hrun, hdesk'⟩ := underLock_of_free owner work hopen.1 hopen.2
    have hlock := owner_lock_underLock a.config k.tableName owner work w
    rw [hsynced, hwork] at hrun hdesk'
    rw [hrun] at hlock
    obtain ⟨es, hstore, -⟩ := savesUnlessRefused_importOne a type e d
    refine ⟨w', n + 1, hrun, hdesk', hlock.trans hopen.1, ?_⟩
    have hsyncs := syncs_save es d.store
    rw [← hstore] at hsyncs
    rw [hdesk']
    refine hsyncs.trans ?_
    have hopen' := hopen.2
    rwa [hdesk] at hopen'
  rw [requestOne, hstored]
  have hone := importOne_counted a type e d (n + 1)
  have hstored' : isStored k.Record (d.counted (n + 1)).store (key e) =
      isStored k.Record d.store (key e) := rfl
  rw [importOne, hstored'] at hone
  cases hfound : isStored k.Record d.store (key e) with
  | error error =>
      refine ⟨w, n, ?_, ?_, hopen⟩
      · simp only [importOne, hfound]
      · simp only [importOne, hfound, hdesk]
  | ok found =>
      rw [hfound] at hone
      cases found with
      | true => exact hwork _ hone
      | false => exact hwork _ hone

/-- In a world that is not open, single requests do nothing. -/
theorem desk_requestEach_of_not_open [PatternEngine] {w : World} (hopen : ¬Open a k w)
    (owner : String) (records : List k.Record) :
    (requestEach a type owner records w).2.desk = w.desk := by
  have hwork : ∀ {w : World}, ¬Open a k w → ∀ work : Desk → Except AdminError k.Record × Desk,
      (underLock a.config k.tableName owner work w).2.desk = w.desk ∧
        ¬Open a k (underLock a.config k.tableName owner work w).2 := by
    intro w hopen work
    have hlock := owner_lock_underLock a.config k.tableName owner work w
    obtain ⟨error, w', hrun, hdesk⟩ := underLock_of_not_free owner work hopen
    rw [hrun] at hlock ⊢
    refine ⟨hdesk, fun hopen' => hopen ⟨hlock.symm.trans hopen'.1, ?_⟩⟩
    rw [← hdesk]
    exact hopen'.2
  induction records generalizing w with
  | nil => rfl
  | cons e rest ih =>
      have hone : (requestOne a e type owner w).2.desk = w.desk ∧
          ¬Open a k (requestOne a e type owner w).2 := by
        rw [requestOne]
        cases isStored k.Record w.desk.store (key e) with
        | error error => exact ⟨rfl, hopen⟩
        | ok found =>
            cases found with
            | true => exact hwork hopen _
            | false => exact hwork hopen _
      exact (ih hone.2).trans hone.1

/-- In an open world the single requests end where the works of the import do. -/
theorem requestEach_of_open [PatternEngine] {w : World} (hopen : Open a k w) {d : Desk} {n : Nat}
    (hdesk : w.desk = d.counted n) (type owner : String)
    (records : List k.Record) :
    (requestEach a type owner records w).1 = importOutcomes a type records d ∧
      ∃ n', (requestEach a type owner records w).2.desk =
        (importWork a type records d).2.counted n' := by
  induction records generalizing w d n with
  | nil => exact ⟨rfl, n, hdesk⟩
  | cons e rest ih =>
      obtain ⟨w', n', hone, hdesk', hopen'⟩ := requestOne_of_open hopen hdesk e type owner
      obtain ⟨hrest, n'', hdesk''⟩ := ih hopen' hdesk'
      rw [desk_importWork_cons]
      simp only [requestEach, importOutcomes, hone, hrest]
      exact ⟨trivial, n'', hdesk''⟩

/-! ## The batch -/

/-- **A batch is its requests, one by one**: an import leaves the tables, and the supply of
identifiers, as the single requests for its records leave them, made in order.  If the lock is free
it answers a report of their answers, of which there is one for each record.  And a record that is
refused leaves every table as it found it, unless it is refused because a write failed. -/
theorem importAll_eq_requestEach [PatternEngine] (a : Admin) (records : List k.Record)
    (type owner : String) (w : World) :
    (∀ name, (importAll a records type owner w).2.desk.store.table name =
      (requestEach a type owner records w).2.desk.store.table name) ∧
    (importAll a records type owner w).2.desk.issued =
      (requestEach a type owner records w).2.desk.issued ∧
    ((w.lock a.config k.tableName).owner = none → w.desk.store.faults.syncs = false →
      (importAll a records type owner w).1 =
        .ok (reportOf records (requestEach a type owner records w).1)) ∧
    (requestEach a type owner records w).1.length = records.length ∧
    ∀ i error, (requestEach a type owner records w).1[i]? = some (.error error) →
      NotForWriting w.desk.store error → ∀ name,
        (importAll a (records.take (i + 1)) type owner w).2.desk.store.table name =
          (importAll a (records.take i) type owner w).2.desk.store.table name := by
  by_cases hopen : Open a k w
  · obtain ⟨hanswers, n, hdesk⟩ := requestEach_of_open hopen
      (d := w.desk.synced) (n := w.desk.store.syncs) rfl type owner records
    obtain ⟨w', hrun, hdesk'⟩ :=
      importAll_of_free a type owner records hopen.1 hopen.2
    rw [hrun, hdesk, hanswers, ← report_importWork]
    refine ⟨fun name => ?_, ?_, fun _ _ => rfl, ?_, fun i error herror hwriting name => ?_⟩
    · rw [hdesk']
      rfl
    · rw [hdesk']
      rfl
    · rw [← hanswers]
      exact length_requestEach owner records w
    · obtain ⟨w₁, hrun₁, hdesk₁⟩ :=
        importAll_of_free a type owner (records.take (i + 1)) hopen.1 hopen.2
      obtain ⟨w₂, hrun₂, hdesk₂⟩ :=
        importAll_of_free a type owner (records.take i) hopen.1 hopen.2
      rw [hrun₁, hrun₂, hdesk₁, hdesk₂, store_importWork_of_refused herror hwriting]
  · have himport : ∀ rs : List k.Record,
        (importAll a rs type owner w).2.desk = w.desk := by
      intro rs
      obtain ⟨error, w', hrun, hdesk⟩ := underLock_of_not_free owner
        (fun d => (Except.ok (importWork a type rs d).1, (importWork a type rs d).2)) hopen
      exact (congrArg (·.2.desk) hrun).trans hdesk
    rw [himport, desk_requestEach_of_not_open hopen]
    refine ⟨fun _ => rfl, rfl, fun hfree hsyncs => absurd ⟨hfree, hsyncs⟩ hopen,
      length_requestEach owner records w, fun i error _ _ name => ?_⟩
    rw [himport, himport]

/-- Records to import where there are none: one without identifier, one with the name of that, and
one that comes twice. -/
def mixedRules : List Kind.firmwareRule.Record :=
  [looseRule "a" "İ" "model", looseRule "" "Σ" "env", looseRule "c" "Σ" "mac",
    looseRule "a" "İ" "mac"]

/-- The third one is refused for the name of the second, and changes nothing. -/
theorem importAll_mixedRules :
    (importAll { newId := fun _ => "b" } mixedRules "stb" "admin" {}).1 =
        .ok ⟨["a", "b", "a"], ["c"]⟩ ∧
      ∀ name, (importAll { newId := fun _ => "b" } (mixedRules.take 3) "stb" "admin"
          {}).2.desk.store.table name =
        (importAll { newId := fun _ => "b" } (mixedRules.take 2) "stb" "admin"
          {}).2.desk.store.table name := by
  obtain ⟨-, -, hreport, -, hrefused⟩ :=
    importAll_eq_requestEach { newId := fun _ => "b" } mixedRules "stb" "admin" {}
  constructor
  · rw [hreport (by decide +kernel) (by decide +kernel)]
    exact congrArg Except.ok (by decide +kernel)
  · have hconflict : ((requestEach { newId := fun _ => "b" } "stb" "admin" mixedRules {}).1[2]?.any
        fun | .error (.conflict _) => true | _ => false) = true := by decide +kernel
    obtain ⟨outcome, houtcome, hconflict⟩ := (Option.any_eq_true _ _).1 hconflict
    split at hconflict
    · next cause => exact hrefused 2 (.conflict cause) houtcome (.inl rfl)
    · cases hconflict

end Rulebook.Admin
