import Rulebook.Proofs.Admin.Changes
import Rulebook.Proofs.Admin.Work

/-!
# Rulebook.Proofs.Admin.Placement

Where a record lands in a scope with any priorities.

A move takes the item that stands at the stored priority of a record, read as a position of the
ordered scope.  In a dense scope that is the record itself.  After a write that failed a scope can
have ties and gaps, and then it may be a neighbour: the move takes the neighbour to the place asked
for, and the record, which must be among the altered ones, moves up or down by one.

* `placement` — where the record lands, and that this is the place asked for exactly if the record
  stands at its stored priority;
* `misplaced_tiedRules` — a scope with a tie, in which the wrong record is moved.
-/

namespace Rulebook.Admin

open Prioritized RuleKind

variable {E : Type} [RuleKind E] [LawfulKind E] {s s' : Store}

/-- The priority that a request stands for in a scope of `n` records: itself where there is such a
place, and else that of the last place. -/
def target (p : Int) (n : Nat) : Int :=
  if 1 ≤ p ∧ p ≤ Priority.ofCount n then p else Priority.ofCount n

theorem clamp_eq_target (p : Int) (n : Nat) : Priority.clamp p n = target p n := by
  unfold Priority.clamp target
  repeat' split
  all_goals omega

/-- The priority that a move gives to the record at position `j` of a scope of `n` records. -/
def landing (j : Nat) (old new : Int) (n : Nat) : Int :=
  if old = (j : Int) + 1 then target new n
  else if old < target new n then (j : Int) else (j : Int) + 2

/-- A record that is moved in a keyed table is among the records that are stored. -/
theorem stored?_of_move {scope items altered : List E} {item : E} {j : Nat} {old new : Int}
    {r : Priority.Reordered E} (hacting : Priority.Acting scope items item j)
    (hmove : Priority.move items old new = .ok r) (haltered : altered = r.altered) {a : E}
    (ha : a ∈ altered) (hkey : key a = key item) (hsave : save altered s = (.ok (), s')) :
    ∃ e, stored? E s' (key item) = some e ∧ priority e = landing j old new items.length ∧
      (priority e = target new items.length ↔ old = (j : Int) + 1) := by
  subst haltered
  have hsaved := saved_of_save (hacting.rewrite hmove ⟨a, ha, hkey⟩).nodup_written hsave
  obtain ⟨b, -, p, hp, hp', hab⟩ :=
    (Priority.moved_of_move hmove).2.exists_of_mem_altered ha
  have hint : Json.IsInt32 (priority a) := by
    rw [hab, LawfulPrioritized.priority_withPriority]
    exact isInt32_of_le_largest hp hp'
  have hpriority := congrArg priority (hacting.priority_eq hmove ha hkey)
  have hiff := hacting.priority_eq_iff hmove ha hkey
  rw [LawfulPrioritized.priority_withPriority, clamp_eq_target] at hpriority
  rw [clamp_eq_target] at hiff
  refine ⟨withRule a (rule a).written, ?_, ?_, ?_⟩
  · rw [← hkey, stored?, hsaved.written a ha, Option.bind_some, LawfulKind.decode_encode hint]
  · rw [LawfulKind.priority_withRule, hpriority, landing]
    simp only [eq_comm]
  · rw [LawfulKind.priority_withRule, hiff, eq_comm]

/-- In a keyed table a record has a position in its scope. -/
theorem Keyed.exists_getElem?_scope (h : Keyed E s) {id : String} {stored : E}
    (hstored : stored? E s id = some stored) : ∃ j : Nat, (scope s stored)[j]? = some stored :=
  List.mem_iff_getElem?.1 (h.mem_scope_self hstored)

/-! ## Moving and updating -/

theorem Keyed.landing_of_moveWork {d d' : Desk} (h : Keyed E d.store) {id : String} {new : Int}
    {altered : List E} (hrun : moveWork E id new d = (.ok altered, d')) :
    ∃ (stored : E) (es : List E) (j : Nat), stored? E d.store id = some stored ∧
      scopeOf d.store stored = .ok es ∧ es[j]? = some stored ∧
      ∃ e, stored? E d'.store id = some e ∧
        priority e = landing j (priority stored) new es.length ∧
        (priority e = target new es.length ↔ priority stored = (j : Int) + 1) := by
  obtain ⟨hplan, hsave⟩ := moveWork_eq_ok hrun
  obtain ⟨stored, es, change, hfind, hscope, hchange, ⟨a, ha, hid⟩, haltered⟩ :=
    planMove_eq_ok_iff.1 hplan
  obtain ⟨-, -, hstored⟩ := find_eq_ok_iff.1 hfind
  have hkey := h.key_eq hstored
  have hes := (scopeOf_eq_ok_iff.1 hscope).2.2
  obtain ⟨j, hj⟩ := h.exists_getElem?_scope hstored
  have hacting := Priority.acting_self (h.nodup_map_key_scope stored) hj
  rw [← hes] at hacting hj
  rw [Priority.change, hes, sort_scope, ← hes] at hchange
  have hlands := stored?_of_move hacting hchange haltered (haltered ▸ ha)
    (hid.trans hkey.symm) hsave
  rw [hkey] at hlands
  exact ⟨stored, es, j, hstored, hscope, hj, hlands⟩

theorem Keyed.landing_of_updateWork [PatternEngine] {a : Admin} {type : String} {d d' : Desk}
    (h : Keyed E d.store) {e r : E} (hrun : updateWork a type e d = (.ok r, d')) :
    ∃ (stored : E) (es : List E) (j : Nat), stored? E d.store (key e) = some stored ∧
      scopeOf d.store stored = .ok es ∧ es[j]? = some stored ∧
      (priority e ≠ priority stored → ∃ e', stored? E d'.store (key e) = some e' ∧
        priority e' = landing j (priority stored) (priority e) es.length ∧
        (priority e' = target (priority e) es.length ↔ priority stored = (j : Int) + 1)) := by
  obtain ⟨plan, hplan, -, hsave⟩ := updateWork_eq_ok hrun
  obtain ⟨r, stored, j, hprepare, hreads, hstored, hsame, -, hj, hacting, hplan⟩ :=
    h.move_of_planUpdate hplan
  obtain ⟨-, -, hr⟩ := prepare_eq_ok_iff.1 hprepare
  have hkeyr : key r = key e := by rw [hr, key_ready]
  have hpriorityr : priority r = priority e := by rw [hr, priority_ready]
  rw [hkeyr] at hstored
  refine ⟨stored, scope d.store r, j, hstored, ?_, hj, fun hne => ?_⟩
  · rw [scopeOf_eq h hreads stored, scope_congr d.store hsame]
  · rw [if_neg (by rwa [hpriorityr])] at hplan
    obtain ⟨change, hmove, hresult, hid, hwrites⟩ := hplan
    have hlands := stored?_of_move hacting hmove hwrites (hwrites ▸ hresult) hid hsave
    have hlength : (Priority.replace r (scope d.store r)).length = (scope d.store r).length := by
      rw [← List.length_map key, Priority.map_key_replace, List.length_map]
    rwa [hkeyr, hpriorityr, hlength] at hlands

/-- **Where a record lands**: in a table of any priorities, in which every document is a record
under its own identifier, a record that is moved, or updated with another priority, gets the
priority that was asked for exactly if it stands at its stored priority in the order of its scope.
Otherwise a neighbour is moved, and the record makes room by one place. -/
theorem placement [PatternEngine] {a : Admin} {w : World} {k : Kind}
    (h : Keyed k.Record w.desk.store) :
    (∀ (id : String) (new : Int) (owner : String) (altered : List k.Record) (w' : World),
      changePriority k.Record a id new owner w = (.ok altered, w') →
        ∃ (stored : k.Record) (es : List k.Record) (j : Nat),
          stored? k.Record w.desk.store id = some stored ∧
          scopeOf w.desk.store stored = .ok es ∧ es[j]? = some stored ∧
          ∃ e, stored? k.Record w'.desk.store id = some e ∧
            priority e = landing j (priority stored) new es.length ∧
            (priority e = target new es.length ↔ priority stored = (j : Int) + 1)) ∧
    (∀ (e r : k.Record) (type owner : String) (w' : World),
      update a e type owner w = (.ok r, w') →
        ∃ (stored : k.Record) (es : List k.Record) (j : Nat),
          stored? k.Record w.desk.store (key e) = some stored ∧
          scopeOf w.desk.store stored = .ok es ∧ es[j]? = some stored ∧
          (priority e ≠ priority stored →
            ∃ e', stored? k.Record w'.desk.store (key e) = some e' ∧
              priority e' = landing j (priority stored) (priority e) es.length ∧
              (priority e' = target (priority e) es.length ↔
                priority stored = (j : Int) + 1))) := by
  have hsynced : Keyed k.Record w.desk.synced.store := h
  constructor
  · intro id new owner altered w' hrun
    rw [changePriority] at hrun
    split at hrun
    · cases hrun
    · exact hsynced.landing_of_moveWork (underLock_eq_ok hrun)
  · intro e r type owner w' hrun
    exact hsynced.landing_of_updateWork (underLock_eq_ok hrun)

/-! ## A scope with a tie -/

/-- A firmware rule in the first place. -/
def firstRule (id : String) : Kind.firmwareRule.Record :=
  ({ id, name := id, applicationType := "stb", priority := 1 } : FirmwareRule)

/-- The world with rules `a` and `b` that both have the first place, as after a creation of `b`
whose second write failed. -/
def tiedRules : World :=
  { desk := { store := seeded [firstRule "a", firstRule "b"] } }

theorem keyed_tiedRules : Keyed Kind.firmwareRule.Record tiedRules.desk.store := by
  refine keyed_seeded fun e he => ?_
  have hpriority : priority e = 1 := by
    simp only [List.mem_cons, List.not_mem_nil, or_false] at he
    rcases he with rfl | rfl <;> rfl
  rw [hpriority]
  decide

/-- In the scope with a tie, `b` is asked to the second place and stays in the first; it is `a` that
moves to the second place. -/
theorem exists_changePriority_tiedRules :
    ∃ altered w', changePriority Kind.firmwareRule.Record { newId := toString } "b" 2 "admin"
        tiedRules = (.ok altered, w') ∧
      altered.map (fun e => (key e, priority e)) = [("b", 1), ("a", 2)] ∧
      (stored? Kind.firmwareRule.Record w'.desk.store "b").map priority = some 1 := by
  have hok : (changePriority Kind.firmwareRule.Record { newId := toString } "b" 2 "admin"
      tiedRules).1.toOption.map (List.map fun e => (key e, priority e)) =
        some [("b", 1), ("a", 2)] := by decide +kernel
  have hafter : (stored? Kind.firmwareRule.Record (changePriority Kind.firmwareRule.Record
      { newId := toString } "b" 2 "admin" tiedRules).2.desk.store "b").map priority = some 1 := by
    decide +kernel
  rcases hrun : changePriority Kind.firmwareRule.Record { newId := toString } "b" 2 "admin"
    tiedRules with ⟨outcome, w'⟩
  rw [hrun] at hok hafter
  cases outcome with
  | error error => cases hok
  | ok altered => exact ⟨altered, w', rfl, Option.some.inj hok, hafter⟩

theorem placement_tiedRules :
    ∃ altered w', changePriority Kind.firmwareRule.Record { newId := toString } "b" 2 "admin"
        tiedRules = (.ok altered, w') ∧
      ∃ (stored : Kind.firmwareRule.Record) (es : List Kind.firmwareRule.Record) (j : Nat),
        stored? Kind.firmwareRule.Record tiedRules.desk.store "b" = some stored ∧
        scopeOf tiedRules.desk.store stored = .ok es ∧ es[j]? = some stored ∧
        ∃ e, stored? Kind.firmwareRule.Record w'.desk.store "b" = some e ∧
          priority e = landing j (priority stored) 2 es.length ∧
          (priority e = target 2 es.length ↔ priority stored = (j : Int) + 1) := by
  obtain ⟨altered, w', hrun, -⟩ := exists_changePriority_tiedRules
  exact ⟨altered, w', hrun, (placement keyed_tiedRules).1 "b" 2 "admin" altered w' hrun⟩

/-- Not every move that succeeds takes the record to the place that was asked for, not even where
every document is a record under its own identifier. -/
theorem misplaced_tiedRules :
    ¬∀ (a : Admin) (w : World) (k : Kind) (id : String) (new : Int) (owner : String)
      (altered : List k.Record) (w' : World) (stored : k.Record) (es : List k.Record),
      Keyed k.Record w.desk.store → changePriority k.Record a id new owner w = (.ok altered, w') →
      stored? k.Record w.desk.store id = some stored → scopeOf w.desk.store stored = .ok es →
      (stored? k.Record w'.desk.store id).map priority = some (target new es.length) := by
  intro h
  obtain ⟨altered, w', hrun, -, hafter⟩ := exists_changePriority_tiedRules
  have hstored : ∃ stored, stored? Kind.firmwareRule.Record tiedRules.desk.store "b" = some stored ∧
      (scope tiedRules.desk.store stored).length = 2 := by
    have hlength : (stored? Kind.firmwareRule.Record tiedRules.desk.store "b").map
        (fun e => (scope tiedRules.desk.store e).length) = some 2 := by decide +kernel
    exact Option.map_eq_some_iff.1 hlength
  obtain ⟨stored, hstored, hlength⟩ := hstored
  have hplaced := h { newId := toString } tiedRules .firmwareRule "b" 2 "admin" altered w' stored
    (scope tiedRules.desk.store stored) keyed_tiedRules hrun hstored
    (scopeOf_eq keyed_tiedRules rfl stored)
  rw [hafter, hlength] at hplaced
  revert hplaced
  decide

end Rulebook.Admin
