import Mathlib.Data.List.Forall2
/-! Runs over a list that can fail: what a run that succeeds has done, when two runs agree, and
which failure a run reports. -/
namespace SchemaForms

variable {α β ε : Type}

theorem exists_of_bind_ok {action : Except ε α} {next : α → Except ε β} {result : β}
    (done : (action >>= next) = .ok result) :
    ∃ value, action = .ok value ∧ next value = .ok result := by
  cases action with
  | error failure => cases done
  | ok value => exact ⟨value, rfl, done⟩

theorem bind_ok_iff {action : Except ε α} {next : α → Except ε β} {result : β} :
    (action >>= next) = .ok result ↔ ∃ value, action = .ok value ∧ next value = .ok result := by
  constructor
  · exact exists_of_bind_ok
  · rintro ⟨value, rfl, done⟩
    exact done

theorem exists_of_map_ok {action : Except ε α} {f : α → β} {result : β}
    (done : action.map f = .ok result) : ∃ value, action = .ok value ∧ result = f value := by
  cases action with
  | error failure => cases done
  | ok value => cases done; exact ⟨value, rfl, rfl⟩

theorem map_bind_pure {γ : Type} (action : Except ε α) (f : α → β) (g : β → γ) :
    (action >>= fun value => pure (f value)).map g =
      action >>= fun value => pure (g (f value)) := by
  cases action <;> rfl

theorem toOption_map (action : Except ε α) (f : α → β) :
    (action.map f).toOption = action.toOption.map f := by
  cases action <;> rfl

theorem foldlM_of_stays {step : β → α → Except ε β} {state : β} {items : List α}
    (stays : ∀ item ∈ items, step state item = .ok state) : items.foldlM step state = .ok state := by
  induction items with
  | nil => rfl
  | cons item rest ih =>
    rw [List.forall_mem_cons] at stays
    rw [List.foldlM_cons, stays.1]
    exact ih stays.2

theorem foldlM_append_of_ok {step : β → α → Except ε β} {start state : β} {items : List α}
    (run : items.foldlM step start = .ok state) (later : List α) :
    (items ++ later).foldlM step start = later.foldlM step state := by
  rw [List.foldlM_append, run]
  rfl

theorem foldlM_skip {step : β → α → Except ε β} {item : α}
    (stays : ∀ state, step state item = .ok state) (before after : List α) (start : β) :
    (before ++ item :: after).foldlM step start = (before ++ after).foldlM step start := by
  rw [List.foldlM_append, List.foldlM_append]
  refine congrArg (_ >>= ·) (funext fun state => ?_)
  rw [List.foldlM_cons, stays]
  rfl

theorem foldlM_congr_at {step : β → α → Except ε β} {item item' : α}
    (same : ∀ state, step state item = step state item') (before after : List α) (start : β) :
    (before ++ item :: after).foldlM step start = (before ++ item' :: after).foldlM step start := by
  rw [List.foldlM_append, List.foldlM_append]
  refine congrArg (_ >>= ·) (funext fun state => ?_)
  rw [List.foldlM_cons, List.foldlM_cons, same]

theorem foldlM_congr_of_mem {step step' : β → α → Except ε β} {items : List α}
    (same : ∀ item ∈ items, ∀ current, step current item = step' current item) (start : β) :
    items.foldlM step start = items.foldlM step' start := by
  induction items generalizing start with
  | nil => rfl
  | cons item rest ih =>
    rw [List.forall_mem_cons] at same
    rw [List.foldlM_cons, List.foldlM_cons, same.1]
    exact congrArg (step' start item >>= ·) (funext (ih same.2))

/-- A run of checks passes when each of them does. -/
theorem forM_ok_iff {action : α → Except ε Unit} {items : List α} {done : Unit} :
    items.forM action = .ok done ↔ ∀ item ∈ items, action item = .ok () := by
  induction items with
  | nil => exact iff_of_true rfl nofun
  | cons item rest ih =>
    rw [List.forM_eq_forM, List.forM_cons, bind_ok_iff, ← List.forM_eq_forM, ih,
      List.forall_mem_cons]
    exact ⟨fun ⟨_, first, later⟩ => ⟨first, later⟩, fun ⟨first, later⟩ => ⟨(), first, later⟩⟩

theorem mapM_congr_of_mem {step step' : α → Except ε β} {items : List α}
    (same : ∀ item ∈ items, step item = step' item) : items.mapM step = items.mapM step' := by
  induction items with
  | nil => rfl
  | cons item rest ih =>
    rw [List.forall_mem_cons] at same
    rw [List.mapM_cons, List.mapM_cons, same.1, ih same.2]

theorem mapM_ok_of_mem {step : α → Except ε β} {f : α → β} {items : List α}
    (each : ∀ item ∈ items, step item = .ok (f item)) : items.mapM step = .ok (items.map f) := by
  induction items with
  | nil => rfl
  | cons item rest ih =>
    rw [List.forall_mem_cons] at each
    rw [List.mapM_cons, each.1, ih each.2]
    rfl

theorem mapM_map_result {γ : Type} (step : α → Except ε β) (f : β → γ) (items : List α) :
    items.mapM (fun item => (step item).map f) = (items.mapM step).map (List.map f) := by
  induction items with
  | nil => rfl
  | cons item rest ih =>
    rw [List.mapM_cons, List.mapM_cons, ih]
    cases step item with
    | error failure => rfl
    | ok result => cases rest.mapM step <;> rfl

theorem collect_cons (result : Option β) (later : Except ε (List (Option β))) :
    (later >>= fun results => pure (result :: results)).map (·.filterMap id) =
      (later.map (·.filterMap id)).map (result.toList ++ ·) := by
  cases later with
  | error failure => rfl
  | ok results => cases result <;> rfl

/-- Items without a result may be left out of a run that collects results. -/
theorem mapM_filter_of_none {action : α → Except ε (Option β)} {keep : α → Bool}
    (nothing : ∀ item, keep item = false → action item = .ok none) (items : List α) :
    ((items.filter keep).mapM action).map (·.filterMap id) =
      (items.mapM action).map (·.filterMap id) := by
  induction items with
  | nil => rfl
  | cons item rest ih =>
    rw [List.mapM_cons]
    cases kept : keep item with
    | false =>
      rw [List.filter_cons_of_neg (by simp [kept]), ih, nothing item kept]
      change _ = (rest.mapM action >>= fun results => pure (none :: results)).map _
      rw [collect_cons]
      cases rest.mapM action <;> rfl
    | true =>
      rw [List.filter_cons_of_pos kept, List.mapM_cons]
      cases action item with
      | error failure => rfl
      | ok result =>
        change ((rest.filter keep).mapM action >>= fun results => pure (result :: results)).map _ =
          (rest.mapM action >>= fun results => pure (result :: results)).map _
        rw [collect_cons, collect_cons, ih]

/-- Two runs that report the same failure, or succeed with results that correspond. -/
inductive Alike (related : α → β → Prop) : Except ε α → Except ε β → Prop where
  | error (failure : ε) : Alike related (.error failure) (.error failure)
  | ok {result : α} {other : β} (here : related result other) :
    Alike related (.ok result) (.ok other)

namespace Alike
variable {γ δ : Type} {related : α → β → Prop} {related' : γ → δ → Prop}

theorem bind {action : Except ε α} {other : Except ε β} {next : α → Except ε γ}
    {next' : β → Except ε δ} (alike : Alike related action other)
    (later : ∀ result result', related result result' →
      Alike related' (next result) (next' result')) :
    Alike related' (action >>= next) (other >>= next') := by
  cases alike with
  | error failure => exact .error failure
  | ok here => exact later _ _ here

theorem map {action : Except ε α} {other : Except ε β} {f : α → γ} {g : β → δ}
    (alike : Alike related action other)
    (each : ∀ result result', related result result' → related' (f result) (g result')) :
    Alike related' (action.map f) (other.map g) := by
  cases alike with
  | error failure => exact .error failure
  | ok here => exact .ok (each _ _ here)

theorem exists_of_ok {action : Except ε α} {other : Except ε β} {result : α}
    (alike : Alike related action other) (done : action = .ok result) :
    ∃ result', other = .ok result' ∧ related result result' := by
  subst done
  cases alike with
  | ok here => exact ⟨_, rfl, here⟩

theorem mapM {step : γ → Except ε α} {step' : γ → Except ε β} {items : List γ}
    (each : ∀ item ∈ items, Alike related (step item) (step' item)) :
    Alike (List.Forall₂ related) (items.mapM step) (items.mapM step') := by
  induction items with
  | nil => exact .ok .nil
  | cons item rest ih =>
    rw [List.forall_mem_cons] at each
    rw [List.mapM_cons, List.mapM_cons]
    refine each.1.bind fun result result' here => ?_
    exact (ih each.2).bind fun results results' later => .ok (.cons here later)

end Alike

theorem exists_last_of_mem (holds : α → Prop) {items : List α} {item : α} (member : item ∈ items)
    (here : holds item) :
    ∃ before last after, items = before ++ last :: after ∧ holds last ∧
      ∀ later ∈ after, ¬ holds later := by
  induction items generalizing item with
  | nil => cases member
  | cons first rest ih =>
    by_cases found : ∃ other ∈ rest, holds other
    · obtain ⟨other, among, there⟩ := found
      obtain ⟨before, last, after, rfl, holds_last, none_later⟩ := ih among there
      exact ⟨first :: before, last, after, rfl, holds_last, none_later⟩
    · rcases List.mem_cons.mp member with rfl | later
      · exact ⟨[], item, rest, rfl, here, fun other among there => found ⟨other, among, there⟩⟩
      · exact absurd ⟨item, later, here⟩ found

/-- The failure of the first item that fails; what comes after that item does not matter. -/
def FirstFailure {α ε : Type} (fails : α → ε → Prop) (items : List α) (failure : ε) : Prop :=
  ∃ before item after, items = before ++ item :: after ∧ fails item failure ∧
    ∀ earlier ∈ before, ∀ other, ¬ fails earlier other

section
variable {fails : α → ε → Prop} {failure : ε}

theorem not_firstFailure_nil : ¬ FirstFailure fails [] failure := by
  rintro ⟨before, item, after, items_eq, _⟩
  cases before <;> cases items_eq

theorem firstFailure_cons {item : α} {rest : List α} :
    FirstFailure fails (item :: rest) failure ↔
      fails item failure ∨ (∀ other, ¬ fails item other) ∧ FirstFailure fails rest failure := by
  constructor
  · rintro ⟨before, found, after, items_eq, here, earlier⟩
    cases before with
    | nil =>
      cases items_eq
      exact .inl here
    | cons head before =>
      cases items_eq
      rw [List.forall_mem_cons] at earlier
      exact .inr ⟨earlier.1, before, found, after, rfl, here, earlier.2⟩
  · rintro (here | ⟨passes, before, found, after, rfl, here, earlier⟩)
    · exact ⟨[], item, rest, rfl, here, nofun⟩
    · exact ⟨item :: before, found, after, rfl, here, List.forall_mem_cons.mpr ⟨passes, earlier⟩⟩

theorem exists_mem_of_firstFailure {items : List α} (first : FirstFailure fails items failure) :
    ∃ item ∈ items, fails item failure := by
  obtain ⟨before, item, after, rfl, here, _⟩ := first
  exact ⟨item, by simp, here⟩

theorem exists_firstFailure {items : List α} {item : α} (member : item ∈ items)
    (here : fails item failure) : ∃ first, FirstFailure fails items first := by
  induction items with
  | nil => cases member
  | cons head rest ih =>
    by_cases found : ∃ other, fails head other
    · obtain ⟨other, there⟩ := found
      exact ⟨other, firstFailure_cons.mpr (.inl there)⟩
    · rcases List.mem_cons.mp member with rfl | later
      · exact absurd ⟨failure, here⟩ found
      · obtain ⟨first, rest_first⟩ := ih later
        exact ⟨first, firstFailure_cons.mpr (.inr ⟨not_exists.mp found, rest_first⟩)⟩

/-- A run whose steps fail by their items alone reports the first of them. -/
theorem foldlM_error_iff {step : β → α → Except ε β}
    (step_error : ∀ state item failure, step state item = .error failure ↔ fails item failure)
    {items : List α} {start : β} :
    items.foldlM step start = .error failure ↔ FirstFailure fails items failure := by
  induction items generalizing start with
  | nil => exact iff_of_false nofun not_firstFailure_nil
  | cons item rest ih =>
    rw [List.foldlM_cons, firstFailure_cons, ← step_error start item]
    cases outcome : step start item with
    | error found =>
      have fails_here : fails item found := (step_error start item found).mp outcome
      have stuck : ¬ ∀ other, ¬ fails item other := fun passes => passes found fails_here
      simp only [stuck, false_and, or_false]
      rfl
    | ok next =>
      have passes : ∀ other, ¬ fails item other := by
        intro other fails_here
        rw [← step_error start item, outcome] at fails_here
        cases fails_here
      simp only [passes, not_false_eq_true, implies_true, true_and, reduceCtorEq, false_or]
      exact ih

theorem mapM_error_iff {action : α → Except ε β} {items : List α} :
    items.mapM action = .error failure ↔
      FirstFailure (fun item failure => action item = .error failure) items failure := by
  induction items with
  | nil => exact iff_of_false nofun not_firstFailure_nil
  | cons item rest ih =>
    rw [List.mapM_cons, firstFailure_cons]
    cases outcome : action item with
    | error found =>
      have stuck : ¬ ∀ other, (.error found : Except ε β) ≠ .error other := fun passes =>
        passes found rfl
      simp only [stuck, false_and, or_false]
      simp [bind, Except.bind]
    | ok value =>
      rw [← ih]
      cases rest.mapM action <;> simp [bind, Except.bind, pure, Except.pure]

theorem map_error_iff {action : Except ε α} {f : α → β} :
    action.map f = .error failure ↔ action = .error failure := by
  cases action <;> simp [Except.map]

end
end SchemaForms
