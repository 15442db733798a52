import Mathlib.Data.List.Basic

/-!
# Methods that change state in place

The service's components keep their records behind a `Mutex` and change them in place, through
the `&mut` references `iter_mut().find(..)` returns.  A method that returns `Err` part-way keeps
every write it made before.  A method is modelled as an `EStateM ε σ α`: its result, `ok` or
`error`, carries the state reached so far.

## Main definitions

* `okOr`, `require` — `.ok_or_else(|| err)?` and `if !cond { return Err(err) }`.
* `focus` — a method of one component, run on the whole state.
* `modifyFirst` — a write through the reference `iter_mut().find(p)` returns.
* `stateOf` — the state a result carries.
* `ReadOnly`, `Atomic`, `Total` — a method that writes nothing, one whose failures write nothing,
  and one that never fails.

## Main results

* `Atomic.bind_readOnly`, `Atomic.bind_total` — a `?`-chain whose fallible steps all come
  before its first write fails without writing.
* `mem_modifyFirst`, `modifyFirst_eq_modify` — what a write through `find` changes.
-/

namespace UpgradeGovernance

namespace Backend

section Monad

variable {ε σ τ α β : Type}

/-- `opt.ok_or_else(|| err)?`. -/
def okOr (o : Option α) (err : ε) : EStateM ε σ α := fun s =>
  match o with
  | some a => .ok a s
  | none => .error err s

/-- `if !cond { return Err(err); }`. -/
def require (cond : Bool) (err : ε) : EStateM ε σ Unit := fun s =>
  if cond then .ok () s else .error err s

/-- Run a method of the part `view s` of the state, and write the part back with `update`. -/
def focus (view : σ → τ) (update : σ → τ → σ) (x : EStateM ε τ α) : EStateM ε σ α := fun s =>
  match x (view s) with
  | .ok a t => .ok a (update s t)
  | .error e t => .error e (update s t)

/-- The state a result carries. -/
def stateOf : EStateM.Result ε σ α → σ
  | .ok _ s => s
  | .error _ s => s

@[simp] theorem bind_apply (x : EStateM ε σ α) (f : α → EStateM ε σ β) (s : σ) :
    (x >>= f) s = match x s with
      | .ok a s' => f a s'
      | .error e s' => .error e s' := rfl

@[simp] theorem get_apply (s : σ) : (get : EStateM ε σ σ) s = .ok s s := rfl

@[simp] theorem pure_apply (a : α) (s : σ) : (pure a : EStateM ε σ α) s = .ok a s := rfl

@[simp] theorem modify_apply (f : σ → σ) (s : σ) :
    (modify f : EStateM ε σ PUnit) s = .ok ⟨⟩ (f s) := rfl

@[simp] theorem okOr_some (a : α) (err : ε) (s : σ) :
    (okOr (some a) err : EStateM ε σ α) s = .ok a s := rfl

@[simp] theorem okOr_none (err : ε) (s : σ) :
    (okOr none err : EStateM ε σ α) s = .error err s := rfl

@[simp] theorem require_true (err : ε) (s : σ) :
    (require true err : EStateM ε σ Unit) s = .ok () s := rfl

@[simp] theorem require_false (err : ε) (s : σ) :
    (require false err : EStateM ε σ Unit) s = .error err s := rfl

@[simp] theorem stateOf_ok (a : α) (s : σ) : stateOf (.ok a s : EStateM.Result ε σ α) = s := rfl

@[simp] theorem stateOf_error (e : ε) (s : σ) :
    stateOf (.error e s : EStateM.Result ε σ α) = s := rfl

/-- Wrapping a method's answer writes nothing more. -/
@[simp] theorem stateOf_bind_pure (x : EStateM ε σ α) (f : α → β) (s : σ) :
    stateOf ((x >>= fun a => pure (f a)) s) = stateOf (x s) := by
  rw [bind_apply]
  cases x s <;> rfl

/-- A `?`-chain succeeds exactly when each step does, each on the state the last one left. -/
theorem bind_eq_ok {x : EStateM ε σ α} {f : α → EStateM ε σ β} {s s' : σ} {b : β} :
    (x >>= f) s = .ok b s' ↔ ∃ a s₁, x s = .ok a s₁ ∧ f a s₁ = .ok b s' := by
  rw [bind_apply]
  cases x s with
  | ok a s₁ => exact ⟨fun h => ⟨a, s₁, rfl, h⟩, fun ⟨_, _, h₁, h₂⟩ => by cases h₁; exact h₂⟩
  | error e s₁ => simp

theorem require_eq_ok {c : Bool} {err : ε} {s s' : σ} {u : Unit} :
    (require c err : EStateM ε σ Unit) s = .ok u s' ↔ c = true ∧ s' = s := by
  cases c <;> simp [require, eq_comm]

theorem get_bind_apply (f : σ → EStateM ε σ β) (s : σ) : (get >>= f) s = f s s := rfl

/-- `opt.ok_or_else(..)?` lets the chain go on exactly when the option holds a value. -/
theorem okOr_bind_eq_ok {o : Option α} {err : ε} {f : α → EStateM ε σ β} {s s' : σ} {b : β} :
    (okOr o err >>= f) s = .ok b s' ↔ ∃ a, o = some a ∧ f a s = .ok b s' := by
  cases o <;> simp

/-- A guard lets the chain go on exactly when its condition holds. -/
theorem require_bind_eq_ok {c : Bool} {err : ε} {f : Unit → EStateM ε σ β} {s s' : σ} {b : β} :
    (require c err >>= f) s = .ok b s' ↔ c = true ∧ f () s = .ok b s' := by
  cases c <;> simp

theorem focus_eq_ok {view : σ → τ} {update : σ → τ → σ} {x : EStateM ε τ α} {s s' : σ} {a : α} :
    focus view update x s = .ok a s' ↔ ∃ t, x (view s) = .ok a t ∧ s' = update s t := by
  unfold focus
  cases x (view s) with
  | ok b t => exact ⟨fun h => by cases h; exact ⟨t, rfl, rfl⟩, fun ⟨_, h₁, h₂⟩ => by cases h₁; rw [h₂]⟩
  | error e t => simp

/-! ### What a method writes -/

/-- A method that writes nothing. -/
def ReadOnly (x : EStateM ε σ α) : Prop := ∀ s, stateOf (x s) = s

/-- A method that writes nothing when it fails. -/
def Atomic (x : EStateM ε σ α) : Prop := ∀ s e s', x s = .error e s' → s' = s

/-- A method that never fails. -/
def Total (x : EStateM ε σ α) : Prop := ∀ s, ∃ a s', x s = .ok a s'

theorem readOnly_get : ReadOnly (get : EStateM ε σ σ) := fun _ => rfl

theorem readOnly_okOr (o : Option α) (err : ε) : ReadOnly (okOr o err : EStateM ε σ α) := by
  intro s; cases o <;> rfl

theorem readOnly_require (c : Bool) (err : ε) : ReadOnly (require c err : EStateM ε σ Unit) := by
  intro s; cases c <;> rfl

theorem ReadOnly.eq_of_ok {x : EStateM ε σ α} (hx : ReadOnly x) {s s' : σ} {a : α}
    (h : x s = .ok a s') : s' = s := by
  simpa [h] using hx s

theorem ReadOnly.bind {x : EStateM ε σ α} {f : α → EStateM ε σ β} (hx : ReadOnly x)
    (hf : ∀ a, ReadOnly (f a)) : ReadOnly (x >>= f) := by
  intro s
  rw [bind_apply]
  cases h : x s with
  | ok a s' => rw [hf a s', hx.eq_of_ok h]
  | error e s' => simpa [h] using hx s

/-- A method of one component writes nothing when the component's method writes nothing. -/
theorem ReadOnly.focus {view : σ → τ} {update : σ → τ → σ} {x : EStateM ε τ α}
    (hx : ReadOnly x) (hvu : ∀ s, update s (view s) = s) : ReadOnly (focus view update x) := by
  intro s
  have := hx (view s)
  unfold Backend.focus
  cases h : x (view s) <;> simp_all

theorem ReadOnly.atomic {x : EStateM ε σ α} (hx : ReadOnly x) : Atomic x := by
  intro s e s' h
  simpa [h] using hx s

theorem total_modify (f : σ → σ) : Total (modify f : EStateM ε σ PUnit) := fun _ => ⟨_, _, rfl⟩

theorem total_pure (a : α) : Total (pure a : EStateM ε σ α) := fun _ => ⟨_, _, rfl⟩

theorem Total.bind {x : EStateM ε σ α} {f : α → EStateM ε σ β} (hx : Total x)
    (hf : ∀ a, Total (f a)) : Total (x >>= f) := by
  intro s
  obtain ⟨a, s₁, h⟩ := hx s
  obtain ⟨b, s₂, h'⟩ := hf a s₁
  exact ⟨b, s₂, by rw [bind_apply, h]; exact h'⟩

/-- A read-only step followed by a method that fails without writing fails without writing. -/
theorem Atomic.bind_readOnly {x : EStateM ε σ α} {f : α → EStateM ε σ β} (hx : ReadOnly x)
    (hf : ∀ a, Atomic (f a)) : Atomic (x >>= f) := by
  intro s e s' h
  rw [bind_apply] at h
  cases hxs : x s with
  | ok a s₁ => rw [hxs] at h; rw [hf a s₁ e s' h, hx.eq_of_ok hxs]
  | error e' s₁ => rw [hxs] at h; cases h; simpa [hxs] using hx s

/-- A method that fails without writing, followed by steps that cannot fail, fails without
writing. -/
theorem Atomic.bind_total {x : EStateM ε σ α} {f : α → EStateM ε σ β} (hx : Atomic x)
    (hf : ∀ a, Total (f a)) : Atomic (x >>= f) := by
  intro s e s' h
  rw [bind_apply] at h
  cases hxs : x s with
  | ok a s₁ =>
    obtain ⟨b, s₂, h'⟩ := hf a s₁
    have hfa : f a s₁ = .error e s' := by rw [hxs] at h; exact h
    rw [h'] at hfa
    cases hfa
  | error e' s₁ => rw [hxs] at h; cases h; exact hx s _ _ hxs

theorem Atomic.focus {view : σ → τ} {update : σ → τ → σ} {x : EStateM ε τ α} (hx : Atomic x)
    (hvu : ∀ s, update s (view s) = s) : Atomic (focus view update x) := by
  intro s e s' h
  unfold Backend.focus at h
  cases hxs : x (view s) with
  | ok a t => rw [hxs] at h; cases h
  | error e' t => rw [hxs] at h; cases h; rw [hx _ _ _ hxs, hvu]

end Monad

/-! ### Writes through `iter_mut().find(p)` -/

section ModifyFirst

variable {α : Type}

/-- Apply `f` to the first element satisfying `p`, if there is one: the write through the
reference `iter_mut().find(p)` returns. -/
def modifyFirst (p : α → Bool) (f : α → α) : List α → List α
  | [] => []
  | a :: l => if p a then f a :: l else a :: modifyFirst p f l

@[simp] theorem modifyFirst_nil (p : α → Bool) (f : α → α) : modifyFirst p f [] = [] := rfl

theorem modifyFirst_cons (p : α → Bool) (f : α → α) (a : α) (l : List α) :
    modifyFirst p f (a :: l) = if p a then f a :: l else a :: modifyFirst p f l := rfl

/-- The write changes the element at `l.findIdx p` and nothing else. -/
theorem modifyFirst_eq_modify (p : α → Bool) (f : α → α) (l : List α) :
    modifyFirst p f l = l.modify f (l.findIdx p) := by
  induction l with
  | nil => rfl
  | cons a l ih =>
    rw [modifyFirst_cons, List.findIdx_cons]
    cases p a <;> simp [ih]

/-- An element after the write was there before, or is `f` of the element `find` returns. -/
theorem mem_modifyFirst_find? {p : α → Bool} {f : α → α} {l : List α} {x : α}
    (h : x ∈ modifyFirst p f l) : x ∈ l ∨ ∃ y, l.find? p = some y ∧ x = f y := by
  induction l with
  | nil => cases h
  | cons a l ih =>
    rw [modifyFirst_cons] at h
    rw [List.find?_cons]
    cases hpa : p a <;> simp only [hpa, Bool.false_eq_true, if_true, if_false] at h ⊢
    · rcases List.mem_cons.mp h with rfl | h
      · exact .inl (List.mem_cons_self _ _)
      · exact (ih h).imp (List.mem_cons_of_mem a) id
    · rcases List.mem_cons.mp h with rfl | h
      · exact .inr ⟨a, rfl, rfl⟩
      · exact .inl (List.mem_cons_of_mem a h)

/-- An element after the write was there before, or is `f` of an element that was. -/
theorem mem_modifyFirst {p : α → Bool} {f : α → α} {l : List α} {x : α}
    (h : x ∈ modifyFirst p f l) : x ∈ l ∨ ∃ y ∈ l, x = f y :=
  (mem_modifyFirst_find? h).imp id fun ⟨y, hy, hx⟩ => ⟨y, List.mem_of_find?_eq_some hy, hx⟩

/-- A write that keeps a property of every element keeps it of the list. -/
theorem forall_mem_modifyFirst {P : α → Prop} {p : α → Bool} {f : α → α} {l : List α}
    (hl : ∀ x ∈ l, P x) (hf : ∀ x ∈ l, P (f x)) : ∀ x ∈ modifyFirst p f l, P x := by
  intro x hx
  rcases mem_modifyFirst hx with hx | ⟨y, hy, rfl⟩
  · exact hl x hx
  · exact hf y hy

/-- A write that keeps a field keeps the list of that field. -/
theorem map_modifyFirst {β : Type} {p : α → Bool} {f : α → α} (g : α → β) (hf : ∀ x, g (f x) = g x)
    (l : List α) : (modifyFirst p f l).map g = l.map g := by
  induction l with
  | nil => rfl
  | cons a l ih =>
    rw [modifyFirst_cons]
    split <;> simp [hf, ih]

/-- With distinct keys, the write through `find` of the key `k` is the write of every element of
that key. -/
theorem modifyFirst_eq_map {β : Type} [DecidableEq β] {key : α → β} {k : β} {f : α → α}
    {l : List α} (hl : (l.map key).Nodup) :
    modifyFirst (fun x => key x == k) f l = l.map fun x => if key x = k then f x else x := by
  induction l with
  | nil => rfl
  | cons a l ih =>
    rw [List.map_cons, List.nodup_cons] at hl
    rw [modifyFirst_cons, List.map_cons]
    by_cases ha : key a = k
    · have hrest : ∀ x ∈ l, (if key x = k then f x else x) = x := fun x hx =>
        if_neg fun e => hl.1 (List.mem_map.mpr ⟨x, hx, e.trans ha.symm⟩)
      simp only [ha, beq_self_eq_true, if_true, List.map_congr_left hrest, List.map_id']
    · simp [ha, ih hl.2]

/-- The write is seen by the next `find` of a key it keeps. -/
theorem find?_modifyFirst {p : α → Bool} {f : α → α} {l : List α} {a : α}
    (h : l.find? p = some a) (hf : p (f a) = true) :
    (modifyFirst p f l).find? p = some (f a) := by
  induction l with
  | nil => cases h
  | cons b l ih =>
    rw [List.find?_cons] at h
    rw [modifyFirst_cons]
    cases hpb : p b <;> simp only [hpb] at h
    · rw [if_neg (by simp [hpb]), List.find?_cons_of_neg _ (by simp [hpb]), ih h]
    · cases h
      rw [if_pos rfl, List.find?_cons_of_pos _ hf]

/-- A write that leaves the element `find` returns as it is changes nothing. -/
theorem modifyFirst_eq_self {p : α → Bool} {f : α → α} {l : List α} {a : α}
    (h : l.find? p = some a) (hf : f a = a) : modifyFirst p f l = l := by
  induction l with
  | nil => cases h
  | cons b l ih =>
    rw [List.find?_cons] at h
    rw [modifyFirst_cons]
    cases hpb : p b <;> simp only [hpb] at h
    · rw [if_neg (by simp [hpb]), ih h]
    · cases h
      rw [if_pos rfl, hf]

end ModifyFirst

end Backend

end UpgradeGovernance
