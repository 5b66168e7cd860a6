import Rulebook.Proofs.Admin.Drafts

/-!
# Rulebook.Proofs.Admin.Independence

Requests that have nothing to do with each other.

Two requests for different records of a kind are independent if no scope is involved in both of them
(`Independent`), though all records stand in one table and under one lock.  What the one touches is
then out of the other's reach (`Apart.not_reaches`), so that each finds what it would find without
the other, does the same, and neither undoes what the other did:

* `Draft.Within.stored?_apply_iff` — a draft leaves all other scopes as they were;
* `Draft.Within.agrees` — so the other request cannot tell whether the draft was carried out;
* `run_commute` — the order of independent requests makes no difference.
-/

namespace Rulebook.Admin

open Prioritized RuleKind

/-- No scope is involved in both requests. -/
def Independent {E : Type} [RuleKind E] (c : Config) (s : Store) (r r' : Request E) : Prop :=
  ∀ x ∈ r.involved c s, ∀ y ∈ r'.involved c s, sameScope x y = false

instance {E : Type} [RuleKind E] (c : Config) (s : Store) (r r' : Request E) :
    Decidable (Independent c s r r') :=
  inferInstanceAs (Decidable (∀ x ∈ r.involved c s, ∀ y ∈ r'.involved c s, sameScope x y = false))

variable {k : Kind}

/-! ## Reach -/

section Reach

variable {xs ys : List k.Record} {id id' n : String} {s s' : Store}

/-- The identifier is the one that is addressed, or that of a record in one of the scopes. -/
def Reaches (xs : List k.Record) (id : String) (s : Store) (n : String) : Prop :=
  n = id ∨ ∃ e, stored? k.Record s n = some e ∧ ∃ x ∈ xs, sameScope e x = true

theorem Reaches.exists_sameScope (h : Reaches xs id s n)
    (hxs : ∀ e, stored? k.Record s id = some e → e ∈ xs) {e : k.Record}
    (he : stored? k.Record s n = some e) : ∃ x ∈ xs, sameScope e x = true := by
  cases h with
  | inl hid => exact ⟨e, hxs e (hid ▸ he), sameScope_refl e⟩
  | inr hscope =>
      obtain ⟨e', he', hsame⟩ := hscope
      obtain rfl : e' = e := Option.some.inj (he'.symm.trans he)
      exact hsame

theorem Reaches.eq_of_stored?_eq_none (h : Reaches xs id s n)
    (hnone : stored? k.Record s n = none) : n = id := by
  cases h with
  | inl hid => exact hid
  | inr hscope =>
      obtain ⟨e, he, -⟩ := hscope
      rw [he] at hnone
      cases hnone

/-- Two requests with these scopes and identifiers have nothing in common. -/
structure Apart (xs ys : List k.Record) (id id' : String) (s : Store) : Prop where
  ids : id ≠ id'
  scopes : ∀ x ∈ xs, ∀ y ∈ ys, sameScope x y = false
  /-- What is stored under an identifier is involved. -/
  left : ∀ e, stored? k.Record s id = some e → e ∈ xs
  right : ∀ e, stored? k.Record s id' = some e → e ∈ ys

theorem sameScope_eq_false {x y e : k.Record} (hxy : sameScope x y = false)
    (hex : sameScope e x = true) : sameScope e y = false := by
  rw [← Bool.not_eq_true] at hxy ⊢
  exact fun hey => hxy (sameScope_trans (sameScope_comm.1 hex) hey)

namespace Apart

theorem symm (h : Apart xs ys id id' s) : Apart ys xs id' id s := by
  refine ⟨Ne.symm h.ids, fun y hy x hx => ?_, h.right, h.left⟩
  have hxy := h.scopes x hx y hy
  rw [← Bool.not_eq_true] at hxy ⊢
  exact fun hyx => hxy (sameScope_comm.1 hyx)

/-- **Nothing is within the reach of both.** -/
theorem not_reaches (h : Apart xs ys id id' s) (hreaches : Reaches xs id s n) :
    ¬Reaches ys id' s n := by
  intro hreaches'
  cases hstored : stored? k.Record s n with
  | some e =>
      obtain ⟨x, hx, hex⟩ := hreaches.exists_sameScope h.left hstored
      obtain ⟨y, hy, hey⟩ := hreaches'.exists_sameScope h.right hstored
      have hne := sameScope_eq_false (h.scopes x hx y hy) hex
      rw [hey] at hne
      cases hne
  | none =>
      have hid := hreaches.eq_of_stored?_eq_none hstored
      have hid' := hreaches'.eq_of_stored?_eq_none hstored
      exact h.ids (hid.symm.trans hid')

end Apart

namespace Draft.Within

variable {draft : Draft k.Record}

theorem reaches (h : draft.Within xs id s) (hkeyed : Keyed k.Record s) (hn : draft.Touches n) :
    Reaches xs id s n := by
  cases hn with
  | inl hremoved => exact .inl (h.removed n hremoved)
  | inr hwritten =>
      obtain ⟨e, he, rfl⟩ := List.mem_map.1 hwritten
      cases h.named e he with
      | inl hid => exact .inl hid
      | inr hmem =>
          obtain ⟨x, hx, hmem⟩ := hmem
          obtain ⟨b, hb, hkey⟩ := List.mem_map.1 hmem
          obtain ⟨hstored, hsame⟩ := hkeyed.mem_scope_iff.1 hb
          exact .inr ⟨b, hkey ▸ hstored, x, hx, hsame⟩

/-- **Other scopes stay**: a record that is in none of the scopes is stored after the draft is
carried out exactly if it was before. -/
theorem stored?_apply_iff (h : draft.Within xs id s) (hkeyed : Keyed k.Record s)
    (hleft : ∀ e, stored? k.Record s id = some e → e ∈ xs) {e : k.Record}
    (he : ∀ x ∈ xs, sameScope e x = false) :
    stored? k.Record (draft.apply s) n = some e ↔ stored? k.Record s n = some e := by
  constructor
  · intro hstored
    cases stored?_save h.inRange (draft.clear s) n with
    | inl hkept =>
        have hclear : stored? k.Record (draft.clear s) n = some e := hkept.symm.trans hstored
        rw [stored?, get?_rows_clear] at hclear
        split at hclear
        · cases hclear
        · exact hclear
    | inr hsaved =>
        obtain ⟨b, hb, -, hread⟩ := hsaved
        obtain rfl : withRule b (rule b).written = e := Option.some.inj (hread.symm.trans hstored)
        obtain ⟨x, hx, hsame⟩ := h.inScope b hb
        have hsame' := sameScope_trans (sameScope_withRule b (rule b).written) hsame
        rw [he x hx] at hsame'
        cases hsame'
  · intro hstored
    have hn : ¬draft.Touches n := by
      intro htouches
      obtain ⟨x, hx, hsame⟩ := (h.reaches hkeyed htouches).exists_sameScope hleft hstored
      rw [he x hx] at hsame
      cases hsame
    rw [stored?, draft.get?_rows_apply_of_not_touches hn]
    exact hstored

/-- **A draft is carried out unnoticed** by a request that has nothing in common with it. -/
theorem agrees (h : draft.Within xs id s) (hkeyed : Keyed k.Record s)
    (hapart : Apart xs ys id id' s) (hrows : rows k.Record s' = rows k.Record (draft.apply s))
    (hkeyed' : Keyed k.Record s') (hfaults : s'.faults = {})
    (hothers : ∀ n, n ≠ k.tableName → s'.table n = s.table n) : Agrees ys id' s s' := by
  have hstored : ∀ n, stored? k.Record s' n = stored? k.Record (draft.apply s) n := fun n => by
    rw [stored?, hrows, stored?]
  refine ⟨hkeyed', hfaults, ?_, fun y hy => ?_, hothers⟩
  · have hn : ¬draft.Touches id' := fun htouches =>
      hapart.not_reaches (h.reaches hkeyed htouches) (.inl rfl)
    rw [stored?, hrows, draft.get?_rows_apply_of_not_touches hn, stored?]
  · rw [← sort_scope s y]
    refine hkeyed'.scope_eq_sort (hkeyed.nodup_map_key_scope y) fun r => ?_
    rw [hkeyed.mem_scope_iff, hstored]
    refine and_congr_left fun hr => (h.stored?_apply_iff hkeyed hapart.left fun x hx => ?_).symm
    exact sameScope_eq_false (hapart.symm.scopes y hy x hx) hr

end Draft.Within

/-- **Drafts commute** if nothing is touched by both. -/
theorem Draft.rows_apply_comm {draft draft' : Draft k.Record}
    (hdisjoint : ∀ n, draft.Touches n → ¬draft'.Touches n) {s₁ s₂ : Store}
    (hwrites : s.faults.writesLeft = none) (hwrites₁ : s₁.faults.writesLeft = none)
    (hwrites₂ : s₂.faults.writesLeft = none)
    (hrows₁ : rows k.Record s₁ = rows k.Record (draft.apply s))
    (hrows₂ : rows k.Record s₂ = rows k.Record (draft'.apply s)) :
    rows k.Record (draft'.apply s₁) = rows k.Record (draft.apply s₂) := by
  refine SortedMap.ext_get? fun n => ?_
  by_cases htouches : draft.Touches n
  · obtain ⟨row, hrow⟩ := draft.get?_rows_apply htouches
    rw [draft'.get?_rows_apply_of_not_touches (hdisjoint n htouches), hrows₁, hrow s hwrites,
      hrow s₂ hwrites₂]
  · rw [draft.get?_rows_apply_of_not_touches htouches, hrows₂]
    by_cases htouches' : draft'.Touches n
    · obtain ⟨row, hrow⟩ := draft'.get?_rows_apply htouches'
      rw [hrow s hwrites, hrow s₁ hwrites₁]
    · rw [draft'.get?_rows_apply_of_not_touches htouches', hrows₁,
        draft.get?_rows_apply_of_not_touches htouches,
        draft'.get?_rows_apply_of_not_touches htouches']

end Reach

/-! ## Requests under the lock -/

variable {a : Admin} {w w₀ : World} {id id' : String} {r r' : Request k.Record}

/-- A request that gets its lock does what its draft says. -/
theorem Settled.exists_draft_run [PatternEngine] (h : Settled w) (htyped : r.IsTyped)
    (haddress : r.address = some id) (hblank : Text.isBlank id = false) :
    ∃ draft : Draft k.Record,
      draft.Within (r.involved a.config w.desk.store) id w.desk.synced.store ∧
      ∀ w' : World, (w'.lock a.config k.tableName).owner = none →
        Agrees (r.involved a.config w.desk.store) id w.desk.synced.store w'.desk.synced.store →
          (r.run a w').1 = draft.answer ∧
          rows k.Record (r.run a w').2.desk.store =
            rows k.Record (draft.apply w'.desk.synced.store) := by
  cases hfault : r.fault? with
  | some fault =>
      refine ⟨⟨.error (.validation fault), none, []⟩, Draft.within_error _, fun w' _ _ => ?_⟩
      rw [r.run_eq, hfault]
      exact ⟨rfl, rfl⟩
  | none =>
      have htidy : Tidy k.Record w.desk.synced.store := (h.tidy k).of_rows_eq rfl
      obtain ⟨draft, hwithin, hwork⟩ :=
        Request.exists_draft (a := a) htidy h.faults htyped haddress hblank
      refine ⟨draft, hwithin, fun w' hfree hagrees => ?_⟩
      have hfaults : w'.desk.store.faults = {} := hagrees.faults
      obtain ⟨hanswer, hstore⟩ := hwork w'.desk.synced hagrees
      obtain ⟨w₁, hrun, hdesk⟩ := underLock_of_free r.owner (r.work a) hfree (by rw [hfaults])
      have hrun' : r.run a w' = ((r.work a w'.desk.synced).1, w₁) := by
        rw [r.run_eq, hfault]
        exact hrun
      rw [hrun', hdesk, hstore]
      exact ⟨hanswer, rfl⟩

theorem Settled.run_request [PatternEngine] (h : Settled w) (htyped : r.IsTyped) :
    Settled (r.run a w).2 ∧
      ∀ n, n ≠ k.tableName → (r.run a w).2.desk.store.table n = w.desk.store.table n := by
  rw [r.snd_run]
  exact ⟨h.transition (.request k r htyped), (h.tidyStep_perform r htyped).others⟩

/-- After a request another one that has nothing in common with it finds what it would have found
before. -/
theorem Settled.agrees_run [PatternEngine] (h : Settled w)
    (hfree : (w.lock a.config k.tableName).owner = none)
    (htyped : r.IsTyped) {xs ys : List k.Record}
    (hapart : Apart xs ys id id' w.desk.synced.store) {draft : Draft k.Record}
    (hwithin : draft.Within xs id w.desk.synced.store)
    (hrows : rows k.Record (r.run a w).2.desk.store =
      rows k.Record (draft.apply w.desk.synced.store)) :
    ((r.run a w).2.lock a.config k.tableName).owner = none ∧
      Agrees ys id' w.desk.synced.store (r.run a w).2.desk.synced.store := by
  obtain ⟨hsettled, hothers⟩ := h.run_request (a := a) htyped
  have hkeyed : Keyed k.Record w.desk.synced.store := (h.tidy k).keyed
  have hkeyed' : Keyed k.Record (r.run a w).2.desk.synced.store := (hsettled.tidy k).keyed
  have hlock := Call.owner_lock_run a (.rules k r) w k.tableName
  exact ⟨hlock.trans hfree, hwithin.agrees hkeyed hapart hrows hkeyed' hsettled.faults hothers⟩

/-- **Independent requests commute.**  After any requests at all that began without rules, let two
requests of one kind create, update, delete or move records under different identifiers, neither of
them blank, and let no scope be involved in both.  If the lock of the kind can be taken, each is
answered the same whichever comes first, and they lead to the same tables. -/
theorem run_commute [PatternEngine] (hstart : Blank w₀)
    (hrun : Relation.ReflTransGen (Transition a) w₀ w)
    (hfree : (w.lock a.config k.tableName).owner = none) (htyped : r.IsTyped)
    (htyped' : r'.IsTyped) (haddress : r.address = some id) (haddress' : r'.address = some id')
    (hne : id ≠ id') (hblank : Text.isBlank id = false) (hblank' : Text.isBlank id' = false)
    (hindependent : Independent a.config w.desk.store r r') :
    (r.run a (r'.run a w).2).1 = (r.run a w).1 ∧
    (r'.run a (r.run a w).2).1 = (r'.run a w).1 ∧
    ∀ name, (r'.run a (r.run a w).2).2.desk.store.table name =
      (r.run a (r'.run a w).2).2.desk.store.table name := by
  have h := hstart.settled.run hrun
  have hkeyed : Keyed k.Record w.desk.synced.store := (h.tidy k).keyed
  have hapart : Apart (r.involved a.config w.desk.store) (r'.involved a.config w.desk.store)
      id id' w.desk.synced.store :=
    ⟨hne, hindependent, fun _ => Request.mem_involved_of_stored haddress,
      fun _ => Request.mem_involved_of_stored haddress'⟩
  obtain ⟨draft, hwithin, hdraft⟩ := h.exists_draft_run (a := a) htyped haddress hblank
  obtain ⟨draft', hwithin', hdraft'⟩ := h.exists_draft_run (a := a) htyped' haddress' hblank'
  obtain ⟨hanswer, hrows⟩ := hdraft w hfree (.refl hkeyed h.faults _ _)
  obtain ⟨hanswer', hrows'⟩ := hdraft' w hfree (.refl hkeyed h.faults _ _)
  obtain ⟨hsettled, hothers⟩ := h.run_request (a := a) htyped
  obtain ⟨hsettled', hothers'⟩ := h.run_request (a := a) htyped'
  obtain ⟨hfirst, hagrees'⟩ := h.agrees_run hfree htyped hapart hwithin hrows
  obtain ⟨hfirst', hagrees⟩ := h.agrees_run hfree htyped' hapart.symm hwithin' hrows'
  obtain ⟨hsecond, hlast⟩ := hdraft _ hfirst' hagrees
  obtain ⟨hsecond', hlast'⟩ := hdraft' _ hfirst hagrees'
  refine ⟨hsecond.trans hanswer.symm, hsecond'.trans hanswer'.symm, fun name => ?_⟩
  by_cases hname : name = k.tableName
  · subst hname
    show rows k.Record _ = rows k.Record _
    rw [hlast, hlast']
    have hdisjoint : ∀ n, draft.Touches n → ¬draft'.Touches n := fun n htouches htouches' =>
      hapart.not_reaches (hwithin.reaches hkeyed htouches) (hwithin'.reaches hkeyed htouches')
    exact Draft.rows_apply_comm hdisjoint (by rw [Desk.synced, h.faults])
      (by rw [hagrees'.faults]) (by rw [hagrees.faults]) hrows hrows'
  · rw [(hsettled.run_request (a := a) htyped').2 name hname, hothers name hname,
      (hsettled'.run_request (a := a) htyped).2 name hname, hothers' name hname]

/-! ## Two rules at once -/

/-- To put another rule in front of the one that stands alone. -/
def frontRule : Request Kind.firmwareRule.Record :=
  .create (looseRule "b" "Σ" "env") "stb" "admin"

/-- To create a rule of the same name and tree for other devices. -/
def cloudRule : Request Kind.firmwareRule.Record :=
  .create (looseRule "c" "İ" "model") "rdkcloud" "admin"

/-- Both rules are created, in either order, and the tables are the same. -/
theorem run_commute_looseAlone :
    (frontRule.run { newId := toString } (cloudRule.run { newId := toString }
      (looseAlone { newId := toString })).2).1.toBool = true ∧
    (cloudRule.run { newId := toString } (frontRule.run { newId := toString }
      (looseAlone { newId := toString })).2).1.toBool = true ∧
    ∀ name, (cloudRule.run { newId := toString } (frontRule.run { newId := toString }
        (looseAlone { newId := toString })).2).2.desk.store.table name =
      (frontRule.run { newId := toString } (cloudRule.run { newId := toString }
        (looseAlone { newId := toString })).2).2.desk.store.table name := by
  have hrun : Relation.ReflTransGen (Transition { newId := toString }) {}
      (looseAlone { newId := toString }) :=
    .single (.request .firmwareRule (.create (looseRule "a" "İ" "model") "stb" "admin")
      (show Json.IsInt32 1 by decide))
  have htyped : frontRule.IsTyped := show Json.IsInt32 1 by decide
  have htyped' : cloudRule.IsTyped := show Json.IsInt32 1 by decide
  have haddress : frontRule.address = some "b" := rfl
  have haddress' : cloudRule.address = some "c" := rfl
  obtain ⟨hfront, hcloud, htables⟩ := run_commute blank_default hrun (by decide +kernel) htyped
    htyped' haddress haddress' (by decide) (by decide +kernel) (by decide +kernel)
    (by decide +kernel)
  rw [hfront, hcloud]
  exact ⟨by decide +kernel, by decide +kernel, htables⟩

end Rulebook.Admin
