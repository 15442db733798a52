import Mathlib.Data.Int.Defs

/-!
# Rust values

The values both halves of the repository compute with: `i64` timestamps and durations, public
keys, and `Result`s, modelled as `Except`.

Both the on-chain program and the service compute deadlines as `i64` sums, `clock +
timelock_duration`, and remaining times as `i64` differences.  In Rust an overflowing `+` or `-`
either panics or wraps around, as the build's `overflow-checks` setting says: it is on in debug
builds, off by default in release builds, and turned on by Anchor's workspace template.  The
build files are not part of the sources, so the setting is a parameter of the model.  The service
keeps its times as integers: `I64.addVal?` and `I64.subVal?` are the same operations on the
integers an `i64` holds.

## Main definitions

* `I64` — an integer in `[-2^63, 2^63)`, carrying its bounds.
* `I64.wrap` — two's-complement reduction of an integer into that range.
* `Overflow` — what an overflowing operation does in the build.
* `I64.add?`, `I64.sub?` — `+` and `-` under an `Overflow` behaviour; `none` is the panic.
* `I64.addVal?`, `I64.subVal?` — the same on the integers `i64`s hold.
* `u32Add?`, `u64Add?` — `+` on the unsigned counters and versions.
* `Overflow.counted` — what a `u64` counter holds after a number of increments.
* `Pubkey` — a Solana public key.

## Main results

* `I64.add?_val` — a sum that does not panic is the integer sum, unless it wrapped.
* `I64.add?_trap_val` — when overflow traps, a sum that does not panic is exact.
* `I64.add?_map_val` — `I64.addVal?` is `I64.add?` read back as integers.
* `u64Add?_one_counted` — `counter += 1` moves a counter from one count to the next.
-/

namespace UpgradeGovernance

/-- A Rust `i64`: an integer in `[-2^63, 2^63)`. -/
structure I64 where
  /-- The integer the bits stand for. -/
  val : Int
  ge_min : -9223372036854775808 ≤ val
  lt_max : val < 9223372036854775808
  deriving DecidableEq

/-- What an overflowing `i64` operation does in the build (`overflow-checks`). -/
inductive Overflow
  /-- The release default: the result wraps around modulo `2^64`. -/
  | wrap
  /-- Overflow checks on: the operation panics. -/
  | trap
  deriving DecidableEq, Repr

namespace I64

instance : Repr I64 := ⟨fun x n => reprPrec x.val n⟩

/-- The integers an `i64` can hold. -/
def InRange (x : Int) : Prop := -9223372036854775808 ≤ x ∧ x < 9223372036854775808

instance (x : Int) : Decidable (InRange x) := inferInstanceAs (Decidable (_ ∧ _))

/-- Two's-complement reduction of an integer into the `i64` range. -/
def wrap (x : Int) : I64 :=
  ⟨(x + 9223372036854775808) % 18446744073709551616 - 9223372036854775808, by omega, by omega⟩

/-- `i64::MAX`. -/
def MAX : I64 := ⟨9223372036854775807, by decide, by decide⟩

instance : OfNat I64 n := ⟨wrap n⟩
instance : Neg I64 := ⟨fun x => wrap (-x.val)⟩
instance : LE I64 := ⟨fun a b => a.val ≤ b.val⟩
instance : LT I64 := ⟨fun a b => a.val < b.val⟩
instance (a b : I64) : Decidable (a ≤ b) := inferInstanceAs (Decidable (a.val ≤ b.val))
instance (a b : I64) : Decidable (a < b) := inferInstanceAs (Decidable (a.val < b.val))

@[simp] theorem le_def (a b : I64) : a ≤ b ↔ a.val ≤ b.val := Iff.rfl

@[simp] theorem lt_def (a b : I64) : a < b ↔ a.val < b.val := Iff.rfl

theorem wrap_val_of_inRange {x : Int} (h : InRange x) : (wrap x).val = x := by
  simp only [wrap, InRange] at *; omega

/-- Past `i64::MAX` a sum wraps around to the bottom of the range. -/
theorem wrap_val_of_ge {x : Int} (h1 : 9223372036854775808 ≤ x) (h2 : x < 27670116110564327424) :
    (wrap x).val = x - 18446744073709551616 := by
  simp only [wrap]; omega

/-- `a + b` on `i64` under the overflow behaviour `o`; `none` is the panic. -/
def add? : Overflow → I64 → I64 → Option I64
  | .wrap, a, b => some (wrap (a.val + b.val))
  | .trap, a, b => if InRange (a.val + b.val) then some (wrap (a.val + b.val)) else none

/-- `a - b` on `i64` under the overflow behaviour `o`; `none` is the panic. -/
def sub? : Overflow → I64 → I64 → Option I64
  | .wrap, a, b => some (wrap (a.val - b.val))
  | .trap, a, b => if InRange (a.val - b.val) then some (wrap (a.val - b.val)) else none

@[simp] theorem add?_wrap (a b : I64) : add? .wrap a b = some (wrap (a.val + b.val)) := rfl

theorem add?_trap (a b : I64) :
    add? .trap a b = if InRange (a.val + b.val) then some (wrap (a.val + b.val)) else none := rfl

/-- Whatever the build does, a sum that comes back is the wrapped integer sum. -/
theorem add?_eq_wrap {o : Overflow} {a b c : I64} (h : add? o a b = some c) :
    c = wrap (a.val + b.val) := by
  cases o
  · exact (Option.some.inj h).symm
  · rw [add?_trap] at h
    split at h
    · exact (Option.some.inj h).symm
    · cases h

/-- A sum that stays in range comes back as the integer sum. -/
theorem add?_val {o : Overflow} {a b c : I64} (h : add? o a b = some c)
    (hr : InRange (a.val + b.val)) : c.val = a.val + b.val := by
  rw [add?_eq_wrap h, wrap_val_of_inRange hr]

/-- When overflow traps, every sum that comes back is the integer sum. -/
theorem add?_trap_val {a b c : I64} (h : add? .trap a b = some c) : c.val = a.val + b.val := by
  rw [add?_trap] at h
  split at h
  · exact add?_val (o := .trap) (by rw [add?_trap, if_pos ‹_›, h]) ‹_›
  · cases h

/-- `a + b` on the integers two `i64`s hold, under the overflow behaviour `o`; `none` is the
panic. -/
def addVal? : Overflow → Int → Int → Option Int
  | .wrap, a, b => some (wrap (a + b)).val
  | .trap, a, b => if InRange (a + b) then some (a + b) else none

/-- `a - b` on the integers two `i64`s hold, under the overflow behaviour `o`; `none` is the
panic. -/
def subVal? : Overflow → Int → Int → Option Int
  | .wrap, a, b => some (wrap (a - b)).val
  | .trap, a, b => if InRange (a - b) then some (a - b) else none

theorem add?_map_val (o : Overflow) (a b : I64) : (add? o a b).map val = addVal? o a.val b.val := by
  cases o
  · rfl
  · rw [add?_trap, addVal?]
    split
    · rw [Option.map_some', wrap_val_of_inRange ‹_›]
    · rfl

/-- A sum in range comes back exact, whatever the build does. -/
theorem addVal?_of_inRange (o : Overflow) {a b : Int} (h : InRange (a + b)) :
    addVal? o a b = some (a + b) := by
  cases o
  · rw [addVal?, wrap_val_of_inRange h]
  · exact if_pos h

/-- A difference in range comes back exact, whatever the build does. -/
theorem subVal?_of_inRange (o : Overflow) {a b : Int} (h : InRange (a - b)) :
    subVal? o a b = some (a - b) := by
  cases o
  · rw [subVal?, wrap_val_of_inRange h]
  · exact if_pos h

end I64

/-- `a + b` on `u32` under the overflow behaviour `o`; `none` is the panic. -/
def u32Add? : Overflow → UInt32 → UInt32 → Option UInt32
  | .wrap, a, b => some (a + b)
  | .trap, a, b => if a.toNat + b.toNat < UInt32.size then some (a + b) else none

/-- `a + b` on `u64` under the overflow behaviour `o`; `none` is the panic. -/
def u64Add? : Overflow → UInt64 → UInt64 → Option UInt64
  | .wrap, a, b => some (a + b)
  | .trap, a, b => if a.toNat + b.toNat < UInt64.size then some (a + b) else none

/-- The value a `u64` counter holds after `n` increments from zero: it wraps around at `2^64`,
or, when overflow traps, it stops at `u64::MAX` and every further increment panics. -/
def Overflow.counted : Overflow → Nat → Nat
  | .wrap, n => n % 18446744073709551616
  | .trap, n => min n 18446744073709551615

theorem UInt64.toNat_add_one (a : UInt64) :
    (a + 1).toNat = (a.toNat + 1) % 18446744073709551616 := by
  simp only [UInt64.toNat, UInt64.add_def, BitVec.toNat_add]
  rfl

/-- **`counter += 1`.**  A counter that holds its count after `n` increments holds it after
`n + 1` once more is added, where a panic leaves the counter as it was. -/
theorem u64Add?_one_counted (o : Overflow) {c : UInt64} {n : Nat} (h : c.toNat = o.counted n) :
    ((u64Add? o c 1).getD c).toNat = o.counted (n + 1) := by
  cases o with
  | wrap =>
    simp only [u64Add?, Option.getD_some, UInt64.toNat_add_one, h, Overflow.counted]
    omega
  | trap =>
    simp only [u64Add?, Overflow.counted] at h ⊢
    split
    · simp only [Option.getD_some, UInt64.toNat_add_one]
      have : c.toNat + 1 < 18446744073709551616 := ‹_›
      omega
    · have : ¬c.toNat + 1 < 18446744073709551616 := ‹_›
      simp only [Option.getD_none]
      omega

/-- A Solana public key.  The program does no more than compare keys, so a key is a number. -/
structure Pubkey where
  /-- The key's 32 bytes, read as a number. -/
  val : Nat
  deriving DecidableEq, Repr

/-! ### `Result` as `Except` -/

namespace Except

variable {ε α β : Type}

/-- A `?`-chain succeeds exactly when each step does. -/
theorem bind_eq_ok {x : Except ε α} {f : α → Except ε β} {b : β} :
    x >>= f = .ok b ↔ ∃ a, x = .ok a ∧ f a = .ok b := by
  cases x <;> simp [bind, Except.bind]

/-- A `?` followed by a pure result succeeds exactly when the `?` does. -/
theorem map_eq_ok {x : Except ε α} {f : α → β} {b : β} :
    f <$> x = .ok b ↔ ∃ a, x = .ok a ∧ b = f a := by
  cases x <;> simp [Functor.map, Except.map, eq_comm]

@[simp] theorem pure_eq_ok {a b : α} : (pure a : Except ε α) = .ok b ↔ b = a :=
  ⟨fun h => (Except.ok.inj h).symm, fun h => h ▸ rfl⟩

@[simp] theorem ok_bind {a : α} {f : α → Except ε β} : (Except.ok a >>= f) = f a := rfl

@[simp] theorem error_bind {e : ε} {f : α → Except ε β} :
    (Except.error e >>= f : Except ε β) = .error e := rfl

@[simp] theorem throw_ne_ok {e : ε} {b : α} : (throw e : Except ε α) ≠ .ok b := nofun

end Except

end UpgradeGovernance
