import Mathlib.Data.List.Forall2

/-!
Courses: what a step by step activity leaves behind until it stops. A course has results and, if it
stopped early, the fault that stopped it; in a chain the first course with a fault is the last one to
happen. Drawing the features of a binding and drawing the bindings of a sublayer are both chains, so
what can be said about stopping is said here once.
-/

namespace Portrayal

/-- The items of a list are all right, or there is a first one among them that is not. -/
theorem all_or_first {α : Type} (p : α → Prop) [DecidablePred p] (items : List α) :
    (∀ a ∈ items, p a) ∨
      ∃ early a late, items = early ++ a :: late ∧ (∀ x ∈ early, p x) ∧ ¬ p a := by
  cases hfind : items.find? fun a => ¬ p a with
  | none => exact .inl (by simpa using hfind)
  | some a =>
    obtain ⟨ha, early, late, hsplit, hearly⟩ := List.find?_eq_some_iff_append.mp hfind
    exact .inr ⟨early, a, late, hsplit, by simpa using hearly, by simpa using ha⟩

/-- The results of an activity, and the fault that stopped it, if one did. -/
@[ext]
structure Course (ρ ε : Type) where
  results : List ρ
  fault : Option ε

namespace Course

variable {ρ σ ε δ α : Type}

/-- Nothing happens. -/
def idle : Course ρ ε := ⟨[], none⟩

/-- A single step: one result, or a fault. -/
def ofExcept : Except ε ρ → Course ρ ε
  | .ok r => ⟨[r], none⟩
  | .error e => ⟨[], some e⟩

/-- One course and then, unless it stopped, another one. -/
def andThen (c d : Course ρ ε) : Course ρ ε :=
  match c.fault with
  | some _ => c
  | none => ⟨c.results ++ d.results, d.fault⟩

/-- Courses one after another, up to the first one that stops. -/
def chain : List (Course ρ ε) → Course ρ ε
  | [] => idle
  | c :: rest => c.andThen (chain rest)

/-- A step for each item of a list, up to the first one that fails. -/
def along (step : α → Except ε ρ) (items : List α) : Course ρ ε :=
  chain (items.map fun a => ofExcept (step a))

theorem andThen_of_fault {c : Course ρ ε} {e : ε} (h : c.fault = some e) (d : Course ρ ε) :
    c.andThen d = c := by
  rw [andThen, h]

theorem andThen_of_ok {c : Course ρ ε} (h : c.fault = none) (d : Course ρ ε) :
    c.andThen d = ⟨c.results ++ d.results, d.fault⟩ := by
  rw [andThen, h]

theorem chain_cons_of_fault {c : Course ρ ε} {e : ε} (h : c.fault = some e)
    (rest : List (Course ρ ε)) : chain (c :: rest) = c := andThen_of_fault h _

theorem chain_cons_of_ok {c : Course ρ ε} (h : c.fault = none) (rest : List (Course ρ ε)) :
    chain (c :: rest) = ⟨c.results ++ (chain rest).results, (chain rest).fault⟩ :=
  andThen_of_ok h _

theorem chain_singleton (c : Course ρ ε) : chain [c] = c := by
  cases hc : c.fault with
  | some e => exact chain_cons_of_fault hc []
  | none =>
    rw [chain_cons_of_ok hc, chain, idle, List.append_nil]
    ext1
    · rfl
    · exact hc.symm

/-- A chain goes through exactly if each of its courses does, and then nothing is left out. -/
theorem chain_of_ok : ∀ {cs : List (Course ρ ε)}, (∀ c ∈ cs, c.fault = none) →
    chain cs = ⟨cs.flatMap results, none⟩
  | [], _ => rfl
  | c :: cs, h => by
    have hrest := chain_of_ok fun d hd => h d (List.mem_cons_of_mem c hd)
    rw [chain_cons_of_ok (h c List.mem_cons_self), hrest, List.flatMap_cons]

theorem ok_of_chain_ok : ∀ {cs : List (Course ρ ε)}, (chain cs).fault = none →
    ∀ c ∈ cs, c.fault = none
  | [], _ => by simp
  | c :: cs, h => by
    intro d hd
    cases hc : c.fault with
    | some e =>
      rw [chain_cons_of_fault hc, hc] at h
      exact absurd h (by simp)
    | none =>
      rw [chain_cons_of_ok hc] at h
      rcases List.mem_cons.mp hd with rfl | hd
      · exact hc
      · exact ok_of_chain_ok h d hd

/-! ### Steps along a list -/

theorem along_cons_of_ok {step : α → Except ε ρ} {a : α} {r : ρ} (h : step a = .ok r)
    (items : List α) :
    along step (a :: items) = ⟨r :: (along step items).results, (along step items).fault⟩ := by
  simp only [along, List.map_cons, h]
  exact chain_cons_of_ok rfl _

theorem along_cons_of_error {step : α → Except ε ρ} {a : α} {e : ε} (h : step a = .error e)
    (items : List α) : along step (a :: items) = ⟨[], some e⟩ := by
  simp only [along, List.map_cons, h]
  exact chain_cons_of_fault rfl _

/-- The results of steps that all succeed are theirs, one for one. -/
theorem along_ok {step : α → Except ε ρ} : ∀ {items : List α},
    (along step items).fault = none →
      List.Forall₂ (fun a r => step a = .ok r) items (along step items).results
  | [], _ => .nil
  | a :: items, h => by
    cases ha : step a with
    | error e =>
      rw [along_cons_of_error ha] at h
      exact absurd h (by simp)
    | ok r =>
      rw [along_cons_of_ok ha] at h ⊢
      exact .cons ha (along_ok h)

theorem exists_of_along_ok {step : α → Except ε ρ} {items : List α}
    (h : (along step items).fault = none) {a : α} (ha : a ∈ items) : ∃ r, step a = .ok r := by
  have hstep := ok_of_chain_ok h _ (List.mem_map_of_mem ha)
  cases hr : step a with
  | error e =>
    rw [hr] at hstep
    exact absurd hstep (by simp [ofExcept])
  | ok r => exact ⟨r, rfl⟩

/-- Steps that stop do so at a first item that fails; the items before it have their results. -/
theorem along_fault {step : α → Except ε ρ} {e : ε} : ∀ {items : List α},
    (along step items).fault = some e →
      ∃ done a rest, items = done ++ a :: rest ∧ step a = .error e ∧
        List.Forall₂ (fun a r => step a = .ok r) done (along step items).results
  | [], h => by simp [along, chain, idle] at h
  | a :: items, h => by
    cases ha : step a with
    | error e' =>
      rw [along_cons_of_error ha] at h ⊢
      obtain rfl : e' = e := by simpa using h
      exact ⟨[], a, items, rfl, ha, .nil⟩
    | ok r =>
      rw [along_cons_of_ok ha] at h ⊢
      obtain ⟨done, b, rest, hsplit, hb, hdone⟩ := along_fault h
      exact ⟨a :: done, b, rest, by rw [hsplit, List.cons_append], hb, .cons ha hdone⟩

/-- Steps that all succeed make up a course that goes through with their results. -/
theorem along_of_ok {step : α → Except ε ρ} {g : α → ρ} : ∀ {items : List α},
    (∀ a ∈ items, step a = .ok (g a)) → along step items = ⟨items.map g, none⟩
  | [], _ => rfl
  | a :: items, h => by
    have hrest := along_of_ok fun b hb => h b (List.mem_cons_of_mem a hb)
    rw [along_cons_of_ok (h a List.mem_cons_self), hrest, List.map_cons]

/-- Steps that fail alike, and succeed with results that are related, make up courses that stop alike
and whose results are related. -/
theorem along_related {step : α → Except ε ρ} {step' : α → Except ε σ} {R : ρ → σ → Prop} :
    ∀ items : List α,
      (∀ a ∈ items, (∃ e, step a = .error e ∧ step' a = .error e) ∨
        ∃ r s, step a = .ok r ∧ step' a = .ok s ∧ R r s) →
      (along step items).fault = (along step' items).fault ∧
        List.Forall₂ R (along step items).results (along step' items).results
  | [], _ => ⟨rfl, .nil⟩
  | a :: items, h => by
    rcases h a List.mem_cons_self with ⟨e, ha, ha'⟩ | ⟨r, s, ha, ha', hr⟩
    · rw [along_cons_of_error ha, along_cons_of_error ha']
      exact ⟨rfl, .nil⟩
    · obtain ⟨hfault, hresults⟩ := along_related items fun b hb => h b (List.mem_cons_of_mem a hb)
      rw [along_cons_of_ok ha, along_cons_of_ok ha']
      exact ⟨hfault, .cons hr hresults⟩

/-- The results of steps are those of the items at the same positions. -/
theorem getElem?_along {step : α → Except ε ρ} {r : ρ} : ∀ {items : List α} {i : Nat},
    (along step items).results[i]? = some r → ∃ a, items[i]? = some a ∧ step a = .ok r
  | [], i, h => by simp [along, chain, idle] at h
  | a :: items, i, h => by
    cases ha : step a with
    | error e =>
      rw [along_cons_of_error ha] at h
      exact absurd h (by simp)
    | ok first =>
      rw [along_cons_of_ok ha] at h
      cases i with
      | zero =>
        obtain rfl : first = r := by simpa using h
        exact ⟨a, rfl, ha⟩
      | succ i =>
        have hrest : (along step items).results[i]? = some r := by simpa using h
        obtain ⟨b, hb, hstep⟩ := getElem?_along hrest
        exact ⟨b, hb, hstep⟩

/-- The results of steps are those of some of the items. -/
theorem mem_along {step : α → Except ε ρ} {r : ρ} {items : List α}
    (h : r ∈ (along step items).results) : ∃ a ∈ items, step a = .ok r := by
  obtain ⟨i, hi⟩ := List.getElem?_of_mem h
  obtain ⟨a, ha, hstep⟩ := getElem?_along hi
  exact ⟨a, List.mem_of_getElem? ha, hstep⟩

/-! ### Translation -/

/-- A course in other terms: some of its results may be left out, its fault is not. -/
def translate (f : ρ → Option σ) (g : ε → δ) (c : Course ρ ε) : Course σ δ :=
  ⟨c.results.filterMap f, c.fault.map g⟩

variable {f : ρ → Option σ} {g : ε → δ}

/-- Translating a chain translates each of its courses. -/
theorem translate_chain : ∀ cs : List (Course ρ ε),
    (chain cs).translate f g = chain (cs.map (translate f g))
  | [] => rfl
  | c :: cs => by
    have hrest := translate_chain cs
    rw [List.map_cons]
    cases hc : c.fault with
    | some e =>
      have hfault : (c.translate f g).fault = some (g e) := by rw [translate, hc]; rfl
      rw [chain_cons_of_fault hc, chain_cons_of_fault hfault]
    | none =>
      have hfault : (c.translate f g).fault = none := by rw [translate, hc]; rfl
      rw [chain_cons_of_ok hc, chain_cons_of_ok hfault, ← hrest]
      simp [translate]

/-- Steps that are translated one by one make up the translated course. -/
theorem translate_along {step : α → Except ε ρ} {step' : α → Except δ σ} (items : List α)
    (h : ∀ a, (ofExcept (step a)).translate f g = ofExcept (step' a)) :
    (along step items).translate f g = along step' items := by
  rw [along, along, translate_chain, List.map_map]
  congr 1
  exact List.map_congr_left fun a _ => h a

end Course

end Portrayal
