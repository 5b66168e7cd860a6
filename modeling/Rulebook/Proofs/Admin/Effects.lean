import Rulebook.Proofs.Admin.Reachable

/-!
# Rulebook.Proofs.Admin.Effects

What a request that succeeds does, in every state that requests can lead to.

Seen as the list of its identifiers in order of priority, a scope is changed by one list operation:
creating inserts, updating and moving take out and insert again, deleting takes out.  The records of
the other identifiers keep everything but their priority, and nothing is touched outside of the
scope (`Effect`).  A record that is created or updated is stored as it is answered, and one that is
moved changes in its priority only.
-/

namespace Rulebook.Admin

open Prioritized RuleKind

/-- Bringing the store up to date is no part of an effect. -/
theorem Effect.of_synced {E : Type} [RuleKind E] {d : Desk} {s' : Store} {e : E} {id : String}
    {ids : List String → List String} (h : Effect d.synced.store s' e id ids) :
    Effect d.store s' e id ids :=
  ⟨h.scope, h.others⟩

/-- **The effect of requests that succeed**, in the order of identifiers and on everything else. -/
theorem effect_of_reachable [PatternEngine] {a : Admin} {w : World} (h : Reachable a w) (k : Kind) :
    (∀ (e r : k.Record) (type owner : String) (w' : World), FromJson e →
      (Text.isBlank (key e) = true → w.desk.Fresh a k.Record) →
      create a e type owner w = (.ok r, w') →
        key r = (if Text.isBlank (key e) then a.newId w.desk.issued else key e) ∧
        stored? k.Record w'.desk.store (key r) = some r ∧
        Effect w.desk.store w'.desk.store r (key r) fun ids =>
          ids.insertIdx (position (priority e) (ids.length + 1)) (key r)) ∧
    (∀ (e r : k.Record) (type owner : String) (w' : World), FromJson e →
      update a e type owner w = (.ok r, w') →
        key r = key e ∧ stored? k.Record w'.desk.store (key e) = some r ∧
        ∃ stored, stored? k.Record w.desk.store (key e) = some stored ∧
          sameScope r stored = true ∧
          Effect w.desk.store w'.desk.store r (key e) fun ids =>
            if priority e = priority stored then ids
            else (ids.erase (key e)).insertIdx (position (priority e) ids.length) (key e)) ∧
    (∀ (id : String) (new : Int) (owner : String) (altered : List k.Record) (w' : World),
      changePriority k.Record a id new owner w = (.ok altered, w') →
        ∃ stored, stored? k.Record w.desk.store id = some stored ∧
          (∃ p, stored? k.Record w'.desk.store id = some (withPriority stored p)) ∧
          Effect w.desk.store w'.desk.store stored id fun ids =>
            (ids.erase id).insertIdx (position new ids.length) id) ∧
    (∀ (id owner : String) (e : k.Record) (w' : World),
      delete k.Record a id owner w = (.ok e, w') →
        stored? k.Record w.desk.store id = some e ∧
        stored? k.Record w'.desk.store id = none ∧
        Effect w.desk.store w'.desk.store e id fun ids => ids.erase id) := by
  have hinv := inv_of_reachable h
  have horderly : Orderly k.Record w.desk.synced.store := (hinv.orderly k).of_rows_eq rfl
  refine ⟨fun e r type owner w' he hfresh hrun => ?_, fun e r type owner w' he hrun => ?_,
    fun id new owner altered w' hrun => ?_, fun id owner e w' hrun => ?_⟩
  · obtain ⟨hkey, hstored, heffect⟩ :=
      effect_createWork horderly hinv.faults he.storable hfresh (underLock_eq_ok hrun)
    exact ⟨hkey, hstored, heffect.of_synced⟩
  · obtain ⟨hkey, hafter, stored, hstored, hsame, heffect⟩ :=
      effect_updateWork horderly hinv.faults he.storable (underLock_eq_ok hrun)
    exact ⟨hkey, hafter, stored, hstored, hsame, heffect.of_synced⟩
  · rw [changePriority] at hrun
    split at hrun
    · cases hrun
    · obtain ⟨stored, hstored, hafter, heffect⟩ :=
        effect_moveWork horderly hinv.faults (underLock_eq_ok hrun)
      exact ⟨stored, hstored, hafter, heffect.of_synced⟩
  · obtain ⟨hstored, hgone, heffect⟩ :=
      effect_deleteWork (d := w.desk.synced) horderly hinv.faults (underLock_eq_ok hrun)
    exact ⟨hstored, hgone, heffect.of_synced⟩

/-- What an effect does to a scope whose identifiers are known, and to the rows outside of it. -/
theorem Effect.of_map_key {E : Type} [RuleKind E] {s s' : Store} {e : E} {id : String}
    {ids : List String → List String} (h : Effect s s' e id ids) {before : List String}
    (hbefore : (Admin.scope s e).map key = before) :
    (Admin.scope s' e).map key = ids before ∧
      ∀ n, n ≠ id → n ∉ before → (rows E s').get? n = (rows E s).get? n := by
  obtain ⟨es, es', hscope, hscope', hkeys, -, houtside⟩ := h.scope
  obtain ⟨-, -, rfl⟩ := scopeOf_eq_ok_iff.1 hscope
  obtain ⟨-, -, rfl⟩ := scopeOf_eq_ok_iff.1 hscope'
  rw [hbefore] at hkeys houtside
  exact ⟨hkeys, houtside⟩

/-! ## Requests after a run -/

/-- A change after the run that leaves the scope of `e` in this order, and the two rules of the
other application type as they are. -/
structure Rearranged (w' : World) (e : Kind.firmwareRule.Record) (ids : List String) : Prop where
  scope : (scope w'.desk.store e).map key = ids
  others : ∀ n ∈ ["y", "x"], (rows Kind.firmwareRule.Record w'.desk.store).get? n =
    (rows Kind.firmwareRule.Record (rolledOut { newId := toString }).desk.store).get? n

theorem Effect.rearranged {w' : World} {e : Kind.firmwareRule.Record} {id : String}
    {ids : List String → List String}
    (h : Effect (rolledOut { newId := toString }).desk.store w'.desk.store e id ids)
    (hbefore : (Admin.scope (rolledOut { newId := toString }).desk.store e).map key =
      ["b", "c", "a"])
    (hid : id ∉ ["y", "x"]) : Rearranged w' e (ids ["b", "c", "a"]) := by
  obtain ⟨hafter, hothers⟩ := h.of_map_key hbefore
  refine ⟨hafter, fun n hn => hothers n (fun heq => hid (heq ▸ hn)) ?_⟩
  revert n
  decide

/-- One request of each sort, where `b`, `c` and `a` stand in this order, next to `y` and `x` of
another application type: `d` is created in the second place, `b` gets another name and is to be
moved behind the end, `a` is moved to the front, and `b` is deleted. -/
theorem effect_rolledOut :
    (∃ (r : Kind.firmwareRule.Record) (w' : World),
      create { newId := toString } (plainRule "d" "İİİİ" "stb" 2) "stb" "admin"
        (rolledOut { newId := toString }) = (.ok r, w') ∧
      stored? Kind.firmwareRule.Record w'.desk.store "d" = some r ∧
      Rearranged w' r ["b", "d", "c", "a"]) ∧
    (∃ (r : Kind.firmwareRule.Record) (w' : World),
      update { newId := toString } (plainRule "b" "Σ" "stb" 9) "stb" "admin"
        (rolledOut { newId := toString }) = (.ok r, w') ∧
      stored? Kind.firmwareRule.Record w'.desk.store "b" = some r ∧
      Rearranged w' r ["c", "a", "b"]) ∧
    (∃ (altered : List Kind.firmwareRule.Record) (w' : World) (stored : Kind.firmwareRule.Record)
      (p : Int),
      changePriority Kind.firmwareRule.Record { newId := toString } "a" 1 "admin"
        (rolledOut { newId := toString }) = (.ok altered, w') ∧
      stored? Kind.firmwareRule.Record w'.desk.store "a" = some (withPriority stored p) ∧
      Rearranged w' stored ["a", "b", "c"]) ∧
    ∃ (e : Kind.firmwareRule.Record) (w' : World),
      delete Kind.firmwareRule.Record { newId := toString } "b" "admin"
        (rolledOut { newId := toString }) = (.ok e, w') ∧
      stored? Kind.firmwareRule.Record w'.desk.store "b" = none ∧
      Rearranged w' e ["c", "a"] := by
  obtain ⟨hcreate, hupdate, hmove, hdelete⟩ :=
    effect_of_reachable (reachable_rolledOut { newId := toString }) .firmwareRule
  refine ⟨?_, ?_, ?_, ?_⟩
  · obtain ⟨r, w', hrun, hscope⟩ := exists_eq_ok_of_map_toOption
      (r := create (E := Kind.firmwareRule.Record) { newId := toString }
        (plainRule "d" "İİİİ" "stb" 2) "stb" "admin" (rolledOut { newId := toString }))
      (f := fun r => (key r, (scope (rolledOut { newId := toString }).desk.store r).map key))
      (b := ("d", ["b", "c", "a"])) (by decide +kernel)
    obtain ⟨hkey, hbefore⟩ := Prod.mk.inj hscope
    obtain ⟨-, hstored, heffect⟩ := hcreate _ r "stb" "admin" w'
      (fromJson_plainRule "d" "İİİİ" "stb" (by decide))
      (fun hblank => absurd hblank (by decide +kernel)) hrun
    rw [hkey] at hstored heffect
    exact ⟨r, w', hrun, hstored, heffect.rearranged hbefore (by decide)⟩
  · obtain ⟨r, w', hrun, hbefore⟩ := exists_eq_ok_of_map_toOption
      (r := update (E := Kind.firmwareRule.Record) { newId := toString }
        (plainRule "b" "Σ" "stb" 9) "stb" "admin" (rolledOut { newId := toString }))
      (f := fun r => (scope (rolledOut { newId := toString }).desk.store r).map key)
      (b := ["b", "c", "a"]) (by decide +kernel)
    obtain ⟨-, hstored, stood, hstood, -, heffect⟩ := hupdate _ r "stb" "admin" w'
      (fromJson_plainRule "b" "Σ" "stb" (by decide)) hrun
    have hfirst : (stored? Kind.firmwareRule.Record (rolledOut { newId := toString }).desk.store
        "b").map priority = some 1 := by decide +kernel
    have hmoves : @priority Kind.firmwareRule.Record _ (plainRule "b" "Σ" "stb" 9) ≠
        priority stood := by
      have hpriority : priority stood = 1 :=
        Option.some.inj ((congrArg (Option.map priority) hstood).symm.trans hfirst)
      rw [hpriority]
      decide
    have hrearranged := heffect.rearranged hbefore (by decide)
    rw [if_neg hmoves] at hrearranged
    exact ⟨r, w', hrun, hstored, hrearranged⟩
  · obtain ⟨altered, w', hrun, -⟩ := exists_eq_ok_of_map_toOption
      (r := changePriority Kind.firmwareRule.Record { newId := toString } "a" 1 "admin"
        (rolledOut { newId := toString }))
      (f := List.length) (b := 3) (by decide +kernel)
    obtain ⟨stored, hstood, ⟨p, hstored⟩, heffect⟩ := hmove "a" 1 "admin" altered w' hrun
    have hbefore : (stored? Kind.firmwareRule.Record (rolledOut { newId := toString }).desk.store
        "a").map (fun e => (scope (rolledOut { newId := toString }).desk.store e).map key) =
        some ["b", "c", "a"] := by decide +kernel
    rw [hstood] at hbefore
    exact ⟨altered, w', stored, p, hrun, hstored,
      heffect.rearranged (Option.some.inj hbefore) (by decide)⟩
  · obtain ⟨e, w', hrun, hbefore⟩ := exists_eq_ok_of_map_toOption
      (r := delete Kind.firmwareRule.Record { newId := toString } "b" "admin"
        (rolledOut { newId := toString }))
      (f := fun e => (scope (rolledOut { newId := toString }).desk.store e).map key)
      (b := ["b", "c", "a"]) (by decide +kernel)
    obtain ⟨-, hgone, heffect⟩ := hdelete "b" "admin" e w' hrun
    exact ⟨e, w', hrun, hgone, heffect.rearranged hbefore (by decide)⟩

end Rulebook.Admin
