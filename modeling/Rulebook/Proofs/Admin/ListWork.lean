import Rulebook.Admin.Lists
import Rulebook.Proofs.Admin.Work

/-!
# Rulebook.Proofs.Admin.ListWork

What the works on named lists do.

All that a list is asked for is looked at before the table of lists is changed, and the table is
changed in one step, which comes last.  So a work that answers an error has left the store as it
was, whatever the reason was and whatever the store holds, and one that succeeds has made just that
one step:

* `addList_cases`, `dropList_cases` — refused without a trace, or done in one step;
* `store_of_addList_error`, `store_of_dropList_error` — the store after an error.
-/

namespace Rulebook.Admin

variable {s : Store}

/-- A new list is refused and nothing is written, or it is written and nothing else is done. -/
theorem addList_cases (l : NamedList) (s : Store) :
    (∃ error, addList l s = (.error error, s)) ∨
      ∃ s', getList? s l.id = .ok none ∧ namedLists.write s l.id l = .ok s' ∧
        addList l s = (.ok l, s') := by
  cases hget : getList? s l.id with
  | error error => exact .inl ⟨error, by rw [addList, hget]⟩
  | ok found =>
      cases found with
      | some stored =>
          exact .inl ⟨.conflict (.idTaken "NamespacedList" l.id), by rw [addList, hget]⟩
      | none =>
          cases hwrite : namedLists.write s l.id l with
          | error error => exact .inl ⟨.store error, by simp only [addList, hget, hwrite]⟩
          | ok s' => exact .inr ⟨s', rfl, rfl, by simp only [addList, hget, hwrite]⟩

/-- A list is kept and nothing is deleted, or it is deleted and nothing else is done. -/
theorem dropList_cases (id : String) (type : Option ListType) (s : Store) :
    (∃ error, dropList id type s = (.error error, s)) ∨
      ∃ l s', findUnusedList s id type = .ok l ∧ namedLists.delete s id = .ok s' ∧
        dropList id type s = (.ok l, s') := by
  cases hfind : findUnusedList s id type with
  | error error => exact .inl ⟨error, by rw [dropList, hfind]⟩
  | ok l =>
      cases hdelete : namedLists.delete s id with
      | error error => exact .inl ⟨.store error, by simp only [dropList, hfind, hdelete]⟩
      | ok s' => exact .inr ⟨l, s', rfl, rfl, by simp only [dropList, hfind, hdelete]⟩

/-- **A list that is refused** leaves the store as it was, also where writes fail. -/
theorem store_of_addList_error {l : NamedList} {error : AdminError}
    (h : (addList l s).1 = .error error) : (addList l s).2 = s := by
  rcases addList_cases l s with ⟨error₁, hrun⟩ | ⟨s', -, -, hrun⟩
  · rw [hrun]
  · rw [hrun] at h
    cases h

/-- **A list that is not deleted** leaves the store as it was, also where deletions fail. -/
theorem store_of_dropList_error {id : String} {type : Option ListType} {error : AdminError}
    (h : (dropList id type s).1 = .error error) : (dropList id type s).2 = s := by
  rcases dropList_cases id type s with ⟨error₁, hrun⟩ | ⟨l, s', -, -, hrun⟩
  · rw [hrun]
  · rw [hrun] at h
    cases h

end Rulebook.Admin
