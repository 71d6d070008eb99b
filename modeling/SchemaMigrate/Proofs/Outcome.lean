import Mathlib.Data.List.Forall2

/-!
Courses in `Except`: what is known of the parts of one that succeeds, and when exactly one does.
-/

namespace SchemaMigrate

variable {ε α β γ σ : Type}

theorem ok_eq_ok_iff {value result : α} : (.ok value : Except ε α) = .ok result ↔ result = value :=
  ⟨fun h => (Except.ok.inj h).symm, fun h => congrArg Except.ok h.symm⟩

theorem ite_eq_ok_iff {P : Prop} [Decidable P] {value result : α} {error : ε} :
    (if P then .ok value else .error error : Except ε α) = .ok result ↔ P ∧ result = value := by
  split
  · rename_i holds
    rw [ok_eq_ok_iff, and_iff_right holds]
  · rename_i fails
    exact iff_of_false nofun fun h => fails h.1

/-- A course succeeds if its first part does and the rest does on what that gave. -/
theorem bind_eq_ok {first : Except ε α} {rest : α → Except ε β} {result : β}
    (h : (first >>= rest) = .ok result) : ∃ value, first = .ok value ∧ rest value = .ok result := by
  cases first with
  | error error => cases h
  | ok value => exact ⟨value, rfl, h⟩

theorem bind_eq_ok_iff {first : Except ε α} {rest : α → Except ε β} {result : β} :
    (first >>= rest) = .ok result ↔ ∃ value, first = .ok value ∧ rest value = .ok result := by
  refine ⟨bind_eq_ok, ?_⟩
  rintro ⟨value, rfl, hrest⟩
  exact hrest

theorem map_eq_ok {first : Except ε α} {f : α → β} {result : β} (h : (f <$> first) = .ok result) :
    ∃ value, first = .ok value ∧ f value = result := by
  cases first with
  | error error => cases h
  | ok value =>
      cases h
      exact ⟨value, rfl, rfl⟩

theorem map_eq_ok_iff {first : Except ε α} {f : α → β} {result : β} :
    (f <$> first) = .ok result ↔ ∃ value, first = .ok value ∧ f value = result := by
  refine ⟨map_eq_ok, ?_⟩
  rintro ⟨value, rfl, rfl⟩
  rfl

theorem bind_eq_error_iff {first : Except ε α} {rest : α → Except ε β} {error : ε} :
    (first >>= rest) = .error error ↔
      first = .error error ∨ ∃ value, first = .ok value ∧ rest value = .error error := by
  cases first with
  | error other => simp [bind, Except.bind]
  | ok value => simp [bind, Except.bind]

theorem map_eq_error_iff {course : Except ε α} {f : α → β} {error : ε} :
    (f <$> course) = .error error ↔ course = .error error := by
  cases course with
  | error other => simp [Functor.map, Except.map]
  | ok value => simp [Functor.map, Except.map]

theorem mapError_eq_ok_iff {δ : Type} {course : Except ε α} {f : ε → δ} {result : α} :
    course.mapError f = .ok result ↔ course = .ok result := by
  cases course with
  | error error => simp [Except.mapError]
  | ok value => simp [Except.mapError]

theorem mapError_eq_error_iff {δ : Type} {course : Except ε α} {f : ε → δ} {error : δ} :
    course.mapError f = .error error ↔ ∃ original, course = .error original ∧ f original = error := by
  cases course with
  | error original => simp [Except.mapError]
  | ok value => simp [Except.mapError]

/-- A list of courses succeeds if each of them does. -/
theorem mapM_eq_ok_iff {f : α → Except ε β} {items : List α} {results : List β} :
    items.mapM f = .ok results ↔ List.Forall₂ (fun item result => f item = .ok result) items results := by
  induction items generalizing results with
  | nil =>
      rw [List.mapM_nil, List.forall₂_nil_left_iff]
      exact ok_eq_ok_iff
  | cons item items ih =>
      rw [List.mapM_cons, List.forall₂_cons_left_iff, bind_eq_ok_iff]
      simp only [bind_eq_ok_iff, ih]
      constructor
      · rintro ⟨first, hfirst, rest, hrest, hresults⟩
        cases hresults
        exact ⟨first, rest, hfirst, hrest, rfl⟩
      · rintro ⟨first, rest, hfirst, hrest, rfl⟩
        exact ⟨first, hfirst, rest, hrest, rfl⟩

theorem mapM_eq_ok {f : α → Except ε β} {g : α → β} {items : List α} (h : ∀ item ∈ items, f item = .ok (g item)) :
    items.mapM f = .ok (items.map g) := by
  rw [mapM_eq_ok_iff, List.forall₂_map_right_iff, List.forall₂_same]
  exact h

/-- Two pairings one after the other. -/
theorem forall₂_comp_iff {R : α → β → Prop} {S : β → γ → Prop} {lefts : List α} {rights : List γ} :
    (∃ middles, List.Forall₂ R lefts middles ∧ List.Forall₂ S middles rights) ↔
      List.Forall₂ (fun left right => ∃ middle, R left middle ∧ S middle right) lefts rights := by
  induction lefts generalizing rights with
  | nil => simp [List.forall₂_nil_left_iff]
  | cons left lefts ih =>
      rw [List.forall₂_cons_left_iff]
      simp only [List.forall₂_cons_left_iff, ← ih]
      constructor
      · rintro ⟨_, ⟨middle, middles, hmiddle, hmiddles, rfl⟩, hrest⟩
        obtain ⟨right, rights, hright, hrights, rfl⟩ := List.forall₂_cons_left_iff.1 hrest
        exact ⟨right, rights, ⟨middle, hmiddle, hright⟩, ⟨middles, hmiddles, hrights⟩, rfl⟩
      · rintro ⟨right, rights, ⟨middle, hmiddle, hright⟩, ⟨middles, hmiddles, hrights⟩, rfl⟩
        exact ⟨middle :: middles, ⟨middle, middles, hmiddle, hmiddles, rfl⟩, .cons hright hrights⟩

/-- A list is split at its first item or further on. -/
theorem exists_split_cons_iff {P : List α → α → Prop} {first : α} {items : List α} :
    (∃ before item after, first :: items = before ++ item :: after ∧ P before item) ↔
      P [] first ∨ ∃ before item after, items = before ++ item :: after ∧ P (first :: before) item := by
  constructor
  · rintro ⟨before, item, after, hitems, h⟩
    cases before with
    | nil =>
        cases hitems
        exact .inl h
    | cons other before =>
        cases hitems
        exact .inr ⟨before, item, after, rfl, h⟩
  · rintro (h | ⟨before, item, after, rfl, h⟩)
    · exact ⟨[], first, items, rfl, h⟩
    · exact ⟨first :: before, item, after, rfl, h⟩

/-- An empty list is split nowhere. -/
theorem not_exists_split_nil {P : List α → α → Prop} :
    ¬∃ before item after, [] = before ++ item :: after ∧ P before item := by
  rintro ⟨before, item, after, hitems, -⟩
  cases before <;> cases hitems

/-- A fold is refused at an item, all items before it having been taken. -/
def RefusedAt (step : β → α → Except ε β) (start : β) (items : List α) (error : ε) : Prop :=
  ∃ before item after, items = before ++ item :: after ∧
    ∃ taken, before.foldlM step start = .ok taken ∧ step taken item = .error error

theorem foldlM_eq_error_iff {step : β → α → Except ε β} {start : β} {items : List α} {error : ε} :
    items.foldlM step start = .error error ↔ RefusedAt step start items error := by
  unfold RefusedAt
  induction items generalizing start with
  | nil => exact iff_of_false (fun h => by cases h) not_exists_split_nil
  | cons item items ih =>
      rw [List.foldlM_cons, bind_eq_error_iff, exists_split_cons_iff]
      refine or_congr ⟨fun hitem => ⟨start, rfl, hitem⟩, fun ⟨_, htaken, hitem⟩ => ?_⟩ ⟨?_, ?_⟩
      · cases htaken
        exact hitem
      · rintro ⟨next, hnext, hrest⟩
        obtain ⟨before, refused, after, hitems, taken, htaken, hrefused⟩ := ih.1 hrest
        exact ⟨before, refused, after, hitems, taken, bind_eq_ok_iff.2 ⟨next, hnext, htaken⟩, hrefused⟩
      · rintro ⟨before, refused, after, hitems, taken, htaken, hrefused⟩
        obtain ⟨next, hnext, htaken⟩ := bind_eq_ok htaken
        exact ⟨next, hnext, ih.2 ⟨before, refused, after, hitems, taken, htaken, hrefused⟩⟩

/-- What stands on the right of a pairing stands across from something on the left. -/
theorem exists_of_forall₂ {R : α → β → Prop} {lefts : List α} {rights : List β}
    (h : List.Forall₂ R lefts rights) {right : β} (hmem : right ∈ rights) : ∃ left ∈ lefts, R left right := by
  induction h with
  | nil => cases hmem
  | cons hfirst _ ih =>
      rcases List.mem_cons.1 hmem with rfl | hmem
      · exact ⟨_, List.mem_cons_self, hfirst⟩
      · obtain ⟨left, hleft, hright⟩ := ih hmem
        exact ⟨left, List.mem_cons_of_mem _ hleft, hright⟩

/-- What every step of a fold keeps, the whole fold keeps. -/
theorem foldlM_invariant {step : β → α → Except ε β} (P : β → Prop) {items : List α}
    (hstep : ∀ state item next, item ∈ items → P state → step state item = .ok next → P next)
    {state result : β} (hstate : P state) (h : items.foldlM step state = .ok result) : P result := by
  induction items generalizing state with
  | nil =>
      cases h
      exact hstate
  | cons item items ih =>
      rw [List.foldlM_cons] at h
      obtain ⟨next, hnext, hrest⟩ := bind_eq_ok h
      exact ih (fun state item next hmem => hstep state item next (List.mem_cons_of_mem _ hmem))
        (hstep state item next List.mem_cons_self hstate hnext) hrest

/-- A course succeeds exactly if the condition holds, and then with a result of the given kind. -/
structure Yields (course : Except ε α) (condition : Prop) (Result : α → Prop) : Prop where
  succeeds : condition → ∃ value, course = .ok value
  needs : ∀ value, course = .ok value → condition
  result : ∀ value, course = .ok value → Result value

namespace Yields

variable {P Q : Prop} {R : α → Prop} {S : β → Prop}

theorem ok {value : α} (hcondition : P) (hresult : R value) : Yields (.ok value : Except ε α) P R where
  succeeds _ := ⟨value, rfl⟩
  needs _ _ := hcondition
  result other h := by
    cases h
    exact hresult

theorem error {error : ε} (hnot : ¬P) : Yields (.error error) P R where
  succeeds hcondition := absurd hcondition hnot
  needs _ h := by cases h
  result _ h := by cases h

theorem congr {course : Except ε α} (h : Yields course P R) (hiff : P ↔ Q) : Yields course Q R where
  succeeds hcondition := h.succeeds (hiff.2 hcondition)
  needs value hvalue := hiff.1 (h.needs value hvalue)
  result := h.result

/-- The condition of a course that goes on is that of its first part and that of the rest. -/
theorem bind {first : Except ε α} {rest : α → Except ε β} (hfirst : Yields first P R)
    (hrest : ∀ value, P → R value → Yields (rest value) Q S) : Yields (first >>= rest) (P ∧ Q) S where
  succeeds hcondition := by
    obtain ⟨value, hvalue⟩ := hfirst.succeeds hcondition.1
    obtain ⟨result, hresult⟩ :=
      (hrest value hcondition.1 (hfirst.result value hvalue)).succeeds hcondition.2
    exact ⟨result, by rw [hvalue]; exact hresult⟩
  needs result h := by
    obtain ⟨value, hvalue, hresult⟩ := bind_eq_ok h
    have hcondition := hfirst.needs value hvalue
    exact ⟨hcondition, (hrest value hcondition (hfirst.result value hvalue)).needs result hresult⟩
  result result h := by
    obtain ⟨value, hvalue, hresult⟩ := bind_eq_ok h
    exact (hrest value (hfirst.needs value hvalue) (hfirst.result value hvalue)).result result hresult

theorem map {first : Except ε α} {f : α → β} (hfirst : Yields first P R)
    (hresult : ∀ value, P → R value → S (f value)) : Yields (f <$> first) P S where
  succeeds hcondition := by
    obtain ⟨value, rfl⟩ := hfirst.succeeds hcondition
    exact ⟨f value, rfl⟩
  needs result h := by
    obtain ⟨value, hvalue, -⟩ := map_eq_ok h
    exact hfirst.needs value hvalue
  result result h := by
    obtain ⟨value, hvalue, rfl⟩ := map_eq_ok h
    exact hresult value (hfirst.needs value hvalue) (hfirst.result value hvalue)

theorem mapError {δ : Type} {course : Except ε α} {f : ε → δ} (h : Yields course P R) :
    Yields (course.mapError f) P R where
  succeeds hcondition := by
    obtain ⟨value, hvalue⟩ := h.succeeds hcondition
    exact ⟨value, mapError_eq_ok_iff.2 hvalue⟩
  needs value hvalue := h.needs value (mapError_eq_ok_iff.1 hvalue)
  result value hvalue := h.result value (mapError_eq_ok_iff.1 hvalue)

/-- A fold over items that stand for terms follows a plain fold over the terms. Its state is related to a
state of the plain fold, and a property of those states that each step may destroy, but none may bring
back, is part of the condition. -/
theorem foldlM {step : β → α → Except ε β} {Stands : α → γ → Prop} (next : σ → γ → σ)
    (Follows : σ → β → Prop) (Allowed : γ → Prop) (Keeps : σ → Prop)
    (hstep : ∀ {plain state item term}, Stands item term → Keeps plain → Follows plain state →
      Yields (step state item) (Allowed term ∧ Keeps (next plain term)) (Follows (next plain term)))
    (hback : ∀ {plain term}, Keeps (next plain term) → Keeps plain)
    {items : List α} {terms : List γ} (hitems : List.Forall₂ Stands items terms)
    {plain : σ} {state : β} (hkeeps : Keeps plain) (hfollows : Follows plain state) :
    Yields (items.foldlM step state) ((∀ term ∈ terms, Allowed term) ∧ Keeps (terms.foldl next plain))
      (Follows (terms.foldl next plain)) := by
  have hbacks : ∀ (terms : List γ) (plain : σ), Keeps (terms.foldl next plain) → Keeps plain := by
    intro terms
    induction terms with
    | nil => exact fun _ h => h
    | cons term terms ih => exact fun plain h => hback (ih _ h)
  induction hitems generalizing plain state with
  | nil => exact ok ⟨by simp, hkeeps⟩ hfollows
  | cons hitem _ ih =>
      rw [List.foldlM_cons]
      refine ((hstep hitem hkeeps hfollows).bind fun value hnext hvalue => ih hnext.2 hvalue).congr ?_
      rw [List.forall_mem_cons, and_assoc, and_assoc]
      exact and_congr_right fun _ => and_iff_right_of_imp fun h => hbacks _ _ h.2

/-- A fold whose states are those of the plain fold. -/
theorem foldlM_eq {step : β → α → Except ε β} {Stands : α → γ → Prop} (next : β → γ → β)
    (Allowed : γ → Prop) (Keeps : β → Prop)
    (hstep : ∀ {state item term}, Stands item term → Keeps state →
      Yields (step state item) (Allowed term ∧ Keeps (next state term)) (· = next state term))
    (hback : ∀ {state term}, Keeps (next state term) → Keeps state)
    {items : List α} {terms : List γ} (hitems : List.Forall₂ Stands items terms) {state : β}
    (hkeeps : Keeps state) :
    Yields (items.foldlM step state) ((∀ term ∈ terms, Allowed term) ∧ Keeps (terms.foldl next state))
      (· = terms.foldl next state) := by
  refine foldlM next (fun plain state => state = plain) Allowed Keeps ?_ hback hitems hkeeps rfl
  intro plain state item term hitem hplain hfollows
  rw [hfollows]
  exact hstep hitem hplain

end Yields

end SchemaMigrate
