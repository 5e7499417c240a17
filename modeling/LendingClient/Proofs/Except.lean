import Mathlib.Control.Monad.Basic
import Mathlib.Data.List.Forall2

/-!
# Values with errors

When a computation with errors succeeds, each of its steps did.
-/

namespace LendingClient

variable {ε ε' α β : Type}

/-- One step after another succeeds when both do. -/
theorem bind_eq_ok_iff {value : Except ε α} {f : α → Except ε β} {result : β} :
    (value >>= f) = .ok result ↔ ∃ inner, value = .ok inner ∧ f inner = .ok result := by
  cases value <;> simp [Bind.bind, Except.bind]

/-- A step that does not depend on the one before it succeeds when both do. -/
theorem seq_eq_ok_iff {value : Except ε α} {next : Except ε β} {result : β} :
    (value >>= fun _ => next) = .ok result ↔ (∃ inner, value = .ok inner) ∧ next = .ok result := by
  rw [bind_eq_ok_iff, exists_and_right]

/-- A step after a check succeeds when the check passes and the step succeeds. -/
theorem check_seq_eq_ok_iff {check : Except ε Unit} {next : Except ε β} {result : β} :
    (check >>= fun _ => next) = .ok result ↔ check = .ok () ∧ next = .ok result :=
  bind_eq_ok_iff.trans ⟨fun ⟨_, h⟩ => h, fun h => ⟨_, h⟩⟩

/-- A step after a check fails when the check does, or it passes and the step fails. -/
theorem check_seq_eq_error_iff {check : Except ε Unit} {next : Except ε β} {error : ε} :
    (check >>= fun _ => next) = .error error ↔
      check = .error error ∨ check = .ok () ∧ next = .error error := by
  cases check <;> simp [Bind.bind, Except.bind]

/-- A function of a success is one when there was one. -/
theorem map_eq_ok_iff {value : Except ε α} {f : α → β} {result : β} :
    value.map f = .ok result ↔ ∃ inner, value = .ok inner ∧ f inner = result := by
  cases value <;> simp [Except.map]

/-- A function of a success makes no error and leaves none out. -/
theorem map_eq_error_iff {value : Except ε α} {f : α → β} {error : ε} :
    value.map f = .error error ↔ value = .error error := by
  cases value <;> simp [Except.map]

/-- Renaming an error makes no success. -/
theorem mapError_eq_ok_iff {value : Except ε α} {f : ε → ε'} {result : α} :
    value.mapError f = .ok result ↔ value = .ok result := by
  cases value with
  | error e => exact ⟨nofun, nofun⟩
  | ok value => exact ⟨fun h => by cases h; rfl, fun h => by cases h; rfl⟩

/-- Without its errors, a value is there when it is no error. -/
theorem toOption_eq_some_iff {value : Except ε α} {result : α} :
    value.toOption = some result ↔ value = .ok result := by
  cases value <;> simp [Except.toOption]

/-- A success within a success is there if it is found when the errors are left out. -/
theorem exists_eq_ok_ok {value : Except ε (Except ε' α)}
    (h : value.map (·.toOption.isSome) = .ok true) : ∃ result, value = .ok (.ok result) := by
  obtain ⟨inner, rfl, hsome⟩ := map_eq_ok_iff.mp h
  obtain ⟨result, hresult⟩ := Option.isSome_iff_exists.mp hsome
  rw [toOption_eq_some_iff] at hresult
  exact ⟨result, congrArg Except.ok hresult⟩

/-- A function of the success that could be in its place leaves an error within a success as it is. -/
theorem eq_ok_error_of_map {value : Except ε (Except ε' α)} {error : ε'} (f : α → β)
    (h : value.map (·.map f) = .ok (.error error)) : value = .ok (.error error) := by
  obtain ⟨inner, rfl, herror⟩ := map_eq_ok_iff.mp h
  cases inner with
  | error inner => cases herror; rfl
  | ok => cases herror

/-- When a step succeeds for every item of a list, each of the results is one of an item in the same
place. -/
theorem exists_mem_zip_of_mapM {f : α → Except ε β} {items : List α} {results : List β}
    (h : items.mapM f = .ok results) {item : α} (hmem : item ∈ items) :
    ∃ result, f item = .ok result ∧ (item, result) ∈ items.zip results := by
  induction items generalizing results with
  | nil => cases hmem
  | cons first items ih =>
    rw [List.mapM_cons] at h
    obtain ⟨result, hfirst, hrest⟩ := bind_eq_ok_iff.mp h
    obtain ⟨others, hothers, hresults⟩ := bind_eq_ok_iff.mp hrest
    cases hresults
    rcases List.mem_cons.mp hmem with rfl | hmem
    · exact ⟨result, hfirst, List.mem_cons_self⟩
    · obtain ⟨other, hother, hzip⟩ := ih hothers hmem
      exact ⟨other, hother, List.mem_cons_of_mem _ hzip⟩

/-- When a step succeeds for each item of a list, it does for all of them together. -/
theorem exists_mapM_eq_ok {f : α → Except ε β} {items : List α}
    (h : ∀ item ∈ items, ∃ result, f item = .ok result) :
    ∃ results, items.mapM f = .ok results := by
  induction items with
  | nil => exact ⟨[], rfl⟩
  | cons first items ih =>
    obtain ⟨result, hfirst⟩ := h first List.mem_cons_self
    obtain ⟨others, hothers⟩ := ih fun item hmem => h item (List.mem_cons_of_mem _ hmem)
    refine ⟨result :: others, ?_⟩
    rw [List.mapM_cons]
    exact bind_eq_ok_iff.mpr ⟨result, hfirst, bind_eq_ok_iff.mpr ⟨others, hothers, rfl⟩⟩

/-- When a step succeeds for every item of a list, the results are those of the items in their
order. -/
theorem forall₂_of_mapM {f : α → Except ε β} {items : List α} {results : List β}
    (h : items.mapM f = .ok results) :
    List.Forall₂ (fun item result => f item = .ok result) items results := by
  induction items generalizing results with
  | nil =>
    cases h
    exact .nil
  | cons first items ih =>
    rw [List.mapM_cons] at h
    obtain ⟨result, hfirst, hrest⟩ := bind_eq_ok_iff.mp h
    obtain ⟨others, hothers, hresults⟩ := bind_eq_ok_iff.mp hrest
    cases hresults
    exact .cons hfirst (ih hothers)

/-- When a step fails for a list of items, it fails so for one of them. -/
theorem exists_of_mapM_eq_error {f : α → Except ε β} {items : List α} {error : ε}
    (h : items.mapM f = .error error) : ∃ item ∈ items, f item = .error error := by
  induction items with
  | nil => cases h
  | cons first items ih =>
    rw [List.mapM_cons] at h
    cases hfirst : f first with
    | error other =>
      rw [hfirst] at h
      cases h
      exact ⟨first, List.mem_cons_self, hfirst⟩
    | ok result =>
      rw [hfirst] at h
      cases hrest : items.mapM f with
      | error other =>
        rw [hrest] at h
        cases h
        obtain ⟨item, hmem, hitem⟩ := ih hrest
        exact ⟨item, List.mem_cons_of_mem _ hmem, hitem⟩
      | ok others =>
        rw [hrest] at h
        cases h

/-- There are as many results as items. -/
theorem length_of_mapM {f : α → Except ε β} {items : List α} {results : List β}
    (h : items.mapM f = .ok results) : results.length = items.length :=
  (forall₂_of_mapM h).length_eq.symm

end LendingClient
