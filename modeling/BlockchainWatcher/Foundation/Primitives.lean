import Mathlib.Algebra.Group.Int
import Mathlib.Algebra.Group.Nat.Basic
import Mathlib.Data.List.Perm.Basic
import Mathlib.Logic.Function.Basic
import Mathlib.Tactic.Common

/-! # Go values shared by the watcher's packages -/

namespace BlockchainWatcher

abbrev Bytes := List UInt8

/-- `common.Hash`: 32 bytes, read as one big-endian word. -/
abbrev Hash := BitVec 256

/-- `common.Address`: 20 bytes, read as one big-endian word. -/
abbrev Address := BitVec 160

def bigEndianBytes (width value : Nat) : Bytes :=
  (List.range width).reverse.map fun index => (value >>> (8 * index)).toUInt8

def Address.bytes (address : Address) : Bytes :=
  bigEndianBytes 20 address.toNat

def Hash.bytes (hash : Hash) : Bytes :=
  bigEndianBytes 32 hash.toNat

structure Cid where
  raw : Bytes
  deriving DecidableEq, Repr

/-! ## `(*big.Int).Int64` -/

/-- `(*big.Int).Int64`: the low 64 bits of `|x|`, negated when `x` is negative.
Go leaves the result "undefined" outside the `int64` range; the implementation
wraps, as here. -/
def bigIntInt64 (x : Int) : BitVec 64 :=
  if x < 0 then -BitVec.ofNat 64 x.natAbs else BitVec.ofNat 64 x.natAbs

theorem bigIntInt64_eq_ofInt (x : Int) : bigIntInt64 x = BitVec.ofInt 64 x := by
  apply BitVec.eq_of_toNat_eq
  unfold bigIntInt64
  split <;> simp only [BitVec.toNat_neg, BitVec.toNat_ofNat, BitVec.toNat_ofInt] <;> omega

theorem toInt_bigIntInt64 (x : Int) : (bigIntInt64 x).toInt = x.bmod (2 ^ 64) := by
  rw [bigIntInt64_eq_ofInt, BitVec.toInt_ofInt]

theorem toInt_bigIntInt64_of_lt (x : Int) (lower : -2 ^ 63 ≤ x) (upper : x < 2 ^ 63) :
    (bigIntInt64 x).toInt = x := by
  rw [toInt_bigIntInt64, Int.bmod_def]
  split <;> omega

/-! ## Go maps -/

/-- A Go map read through its lookup: `m[k]` is `m k`, a missing key `none`. -/
abbrev GoMap (κ ν : Type) := κ → Option ν

def GoMap.Included {κ ν : Type} (m m' : GoMap κ ν) : Prop :=
  ∀ k v, m k = some v → m' k = some v

section GoMap

variable {α κ ν : Type} [DecidableEq κ]

/-- The Go loop `for _, x := range xs { if selected(x) { m[key(x)] = value(x) } }`. -/
def assignSelected (selected : α → Bool) (key : α → κ) (value : α → ν) :
    List α → GoMap κ ν → GoMap κ ν
  | [], m => m
  | x :: xs, m => assignSelected selected key value xs
      (if selected x then Function.update m (key x) (some (value x)) else m)

variable {selected : α → Bool} {key : α → κ} {value : α → ν}

theorem assignSelected_eq_some {xs : List α} (distinct : (xs.map key).Nodup)
    (m : GoMap κ ν) (k : κ) (v : ν) :
    assignSelected selected key value xs m k = some v ↔
      (∃ x ∈ xs, selected x ∧ key x = k ∧ value x = v) ∨
        ((∀ x ∈ xs, selected x → key x ≠ k) ∧ m k = some v) := by
  induction xs generalizing m with
  | nil => simp [assignSelected]
  | cons x xs induction =>
      have parts := List.nodup_cons.mp distinct
      have fresh : ∀ y ∈ xs, key y ≠ key x := fun y member equal =>
        parts.1 (equal ▸ List.mem_map_of_mem key member)
      rw [assignSelected, induction parts.2]
      by_cases chosen : selected x <;> by_cases same : key x = k
      · subst same
        have untouched : ¬∃ y ∈ xs, selected y ∧ key y = key x ∧ value y = v :=
          fun ⟨y, member, _, equal, _⟩ => fresh y member equal
        simpa [chosen, untouched] using fun _ y member _ => fresh y member
      · simp [chosen, Function.update_noteq (Ne.symm same), same]
      · simp [chosen, same]
      · simp [chosen, same]

theorem assignSelected_empty_eq_some {xs : List α} (distinct : (xs.map key).Nodup)
    (k : κ) (v : ν) :
    assignSelected selected key value xs (fun _ => none) k = some v ↔
      ∃ x ∈ xs, selected x ∧ key x = k ∧ value x = v := by
  simp [assignSelected_eq_some distinct]

theorem assignSelected_included {ν' : Type} {selected' : α → Bool} {value' : α → ν'}
    {R : ν → ν' → Prop} {xs : List α} (distinct : (xs.map key).Nodup)
    (implies : ∀ x ∈ xs, selected x → selected' x) (related : ∀ x ∈ xs, R (value x) (value' x))
    {k : κ} {v : ν} (found : assignSelected selected key value xs (fun _ => none) k = some v) :
    ∃ v', assignSelected selected' key value' xs (fun _ => none) k = some v' ∧ R v v' := by
  obtain ⟨x, member, chosen, rfl, rfl⟩ := (assignSelected_empty_eq_some distinct k v).mp found
  exact ⟨value' x, (assignSelected_empty_eq_some distinct _ _).mpr
    ⟨x, member, implies x member chosen, rfl, rfl⟩, related x member⟩

theorem assignSelected_perm {xs ys : List α} (distinct : (xs.map key).Nodup)
    (reordered : xs.Perm ys) (m : GoMap κ ν) :
    assignSelected selected key value xs m = assignSelected selected key value ys m := by
  funext k
  refine Option.ext fun v => ?_
  simp only [Option.mem_def, assignSelected_eq_some distinct,
    assignSelected_eq_some ((reordered.map key).nodup_iff.mp distinct), reordered.mem_iff]

end GoMap

/-! ## Loops that stop at the first error

`for _, x := range xs { y, err := f(x); if err != nil { return nil, err }; ... }`
is `xs.mapM' f` in `Except`. -/

section MapM

variable {α β ε : Type} {f : α → Except ε β}

/- Stated as rewrites rather than by `rfl`, so that `simp` applies them only
after the arguments are simplified. -/

@[simp] theorem except_bind_ok (a : α) (g : α → Except ε β) : (Except.ok a >>= g) = g a := by
  simp only [bind, Except.bind]

@[simp] theorem except_bind_error (e : ε) (g : α → Except ε β) :
    (Except.error e >>= g) = Except.error e := by
  simp only [bind, Except.bind]

@[simp] theorem except_pure (a : α) : (pure a : Except ε α) = .ok a := by
  simp only [pure, Except.pure]

theorem except_bind_eq_ok {x : Except ε α} {g : α → Except ε β} {b : β} :
    (x >>= g) = .ok b ↔ ∃ a, x = .ok a ∧ g a = .ok b := by
  cases x <;> simp

theorem mapM'_cons_eq_ok {x : α} {xs : List α} {ys : List β} :
    (x :: xs).mapM' f = .ok ys ↔
      ∃ y rest, f x = .ok y ∧ xs.mapM' f = .ok rest ∧ ys = y :: rest := by
  rw [List.mapM'_cons]
  cases f x <;> cases xs.mapM' f <;> simp [eq_comm]

theorem mapM'_ok_of_forall (f : α → Except ε β) (xs : List α)
    (succeeds : ∀ x ∈ xs, ∃ y, f x = .ok y) : ∃ ys, xs.mapM' f = .ok ys := by
  induction xs with
  | nil => exact ⟨[], rfl⟩
  | cons x xs induction =>
      obtain ⟨y, head⟩ := succeeds x (List.mem_cons_self x xs)
      obtain ⟨ys, tail⟩ := induction fun z member => succeeds z (List.mem_cons_of_mem x member)
      exact ⟨y :: ys, mapM'_cons_eq_ok.mpr ⟨y, ys, head, tail, rfl⟩⟩

theorem mapM'_congr_ok {g : α → Except ε β} {xs : List α} {ys : List β}
    (agrees : ∀ x ∈ xs, ∀ y, f x = .ok y → g x = .ok y) (run : xs.mapM' f = .ok ys) :
    xs.mapM' g = .ok ys := by
  induction xs generalizing ys with
  | nil => exact run
  | cons x xs induction =>
      obtain ⟨y, rest, head, tail, rfl⟩ := mapM'_cons_eq_ok.mp run
      exact mapM'_cons_eq_ok.mpr ⟨y, rest, agrees x (List.mem_cons_self x xs) y head,
        induction (fun z member => agrees z (List.mem_cons_of_mem x member)) tail, rfl⟩

theorem mapM'_map_eq_ok {γ : Type} {h : γ → α} {g : γ → β} {xs : List γ}
    (answers : ∀ x ∈ xs, f (h x) = .ok (g x)) : (xs.map h).mapM' f = .ok (xs.map g) := by
  induction xs with
  | nil => rfl
  | cons x xs induction =>
      exact mapM'_cons_eq_ok.mpr ⟨g x, xs.map g, answers x (List.mem_cons_self x xs),
        induction fun y member => answers y (List.mem_cons_of_mem x member), rfl⟩

theorem mapM'_sublist {xs xs' : List α} (sublist : xs.Sublist xs') {ys' : List β}
    (run : xs'.mapM' f = .ok ys') : ∃ ys, xs.mapM' f = .ok ys ∧ ys.Sublist ys' := by
  induction sublist generalizing ys' with
  | slnil => exact ⟨[], rfl, by cases run; exact List.Sublist.slnil⟩
  | cons x _ induction =>
      obtain ⟨y, rest, -, tail, rfl⟩ := mapM'_cons_eq_ok.mp run
      obtain ⟨ys, smaller, sub⟩ := induction tail
      exact ⟨ys, smaller, sub.cons y⟩
  | cons₂ x _ induction =>
      obtain ⟨y, rest, head, tail, rfl⟩ := mapM'_cons_eq_ok.mp run
      obtain ⟨ys, smaller, sub⟩ := induction tail
      exact ⟨y :: ys, mapM'_cons_eq_ok.mpr ⟨y, ys, head, smaller, rfl⟩, sub.cons₂ y⟩

theorem mapM'_sublist_of_ok {xs xs' : List α} {ys ys' : List β} (sublist : xs.Sublist xs')
    (run : xs.mapM' f = .ok ys) (run' : xs'.mapM' f = .ok ys') : ys.Sublist ys' := by
  obtain ⟨zs, smaller, sub⟩ := mapM'_sublist sublist run'
  exact Except.ok.inj (run.symm.trans smaller) ▸ sub

end MapM

end BlockchainWatcher
