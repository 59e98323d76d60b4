import Mathlib.Data.List.AList

/-! # Go values that the gateway's control code inspects

A Go `int` is 64 bits wide on the platforms the gateway ships for, so it is an
integer in `[-2^63, 2^63)` and addition wraps. A Go `error` is either nil
(`none`) or one of the two shapes the modelled code builds: a plain error, or
an `fmt.Errorf` message that wraps another error with `%w`, possibly nil.
Go maps keyed by strings are association lists with replacing insertion.
-/

namespace TykGateway

/-- A Go `int` on a 64-bit platform. -/
structure GoInt where
  val : Int
  lower : -9223372036854775808 ≤ val
  upper : val < 9223372036854775808
  deriving DecidableEq, Repr

namespace GoInt

/-- Two's complement wrap of an integer into the range of `int`. -/
def wrap (x : Int) : GoInt :=
  ⟨(x + 9223372036854775808) % 18446744073709551616 - 9223372036854775808,
    by omega, by omega⟩

instance : Add GoInt := ⟨fun a b => wrap (a.val + b.val)⟩
instance : Neg GoInt := ⟨fun a => wrap (-a.val)⟩
instance (n : Nat) : OfNat GoInt n := ⟨wrap n⟩

/-- `len(x)` of a collection with `n` elements. -/
def ofNat (n : Nat) : GoInt := wrap n

/-- `math.MaxInt`. -/
def maxInt : GoInt := ⟨9223372036854775807, by omega, by omega⟩

theorem ext {a b : GoInt} (h : a.val = b.val) : a = b := by
  cases a; cases b; cases h; rfl

theorem wrap_val_of_mem {x : Int} (h₁ : -9223372036854775808 ≤ x)
    (h₂ : x < 9223372036854775808) : (wrap x).val = x := by
  simp only [wrap]; omega

@[simp] theorem add_val (a b : GoInt) :
    (a + b).val = (a.val + b.val + 9223372036854775808) % 18446744073709551616 -
      9223372036854775808 := rfl

@[simp] theorem one_val : (1 : GoInt).val = 1 := rfl

@[simp] theorem maxInt_val : maxInt.val = 9223372036854775807 := rfl

/-- Below `math.MaxInt`, adding one does not wrap. -/
theorem add_one_val {a : GoInt} (h : a.val < maxInt.val) : (a + 1).val = a.val + 1 := by
  simp only [add_val, one_val, maxInt_val] at h ⊢
  have := a.lower
  omega

/-- At `math.MaxInt`, adding one wraps to `math.MinInt`. -/
theorem maxInt_add_one : (maxInt + 1).val = -9223372036854775808 := by decide

/-- `time.Duration(n) * time.Second`: `n` seconds in nanoseconds, an `int64`
product that wraps. -/
def durationOfSeconds (n : GoInt) : GoInt := wrap (n.val * 1000000000)

/-- A `time.Duration` holds up to `9223372036` seconds either way. -/
theorem durationOfSeconds_val {n : GoInt} (h₁ : -9223372036 ≤ n.val) (h₂ : n.val ≤ 9223372036) :
    (durationOfSeconds n).val = n.val * 1000000000 :=
  wrap_val_of_mem (by omega) (by omega)

end GoInt

/-- A non-nil Go `error`; a nil error is `none : Option GoError`. -/
inductive GoError where
  /-- `errors.New(text)`, a sentinel error value, or a library error. -/
  | new (text : String)
  /-- `fmt.Errorf(text + "%w", inner)` with a non-nil `inner`. -/
  | wrapped (text : String) (inner : GoError)
  /-- `fmt.Errorf(text + "%w", nil)`: a non-nil error that wraps nothing. -/
  | wrappedNil (text : String)
  deriving DecidableEq, Repr

namespace GoError

/-- `fmt.Errorf(text + "%w", err)` for an error `err` that may be nil. -/
def errorf (text : String) : Option GoError → GoError
  | none => wrappedNil text
  | some inner => wrapped text inner

/-- The error `errors.Unwrap` returns. -/
def unwrap : GoError → Option GoError
  | new _ => none
  | wrapped _ inner => some inner
  | wrappedNil _ => none

@[simp] theorem unwrap_errorf (text : String) (err : Option GoError) :
    (errorf text err).unwrap = err := by
  cases err <;> rfl

end GoError

/-- The `(int, error)` pair a sync function returns. -/
abbrev SyncResult := GoInt × Option GoError

/-- A Go `map[string]V`: assigning a key replaces its previous entry. -/
abbrev GoMap (V : Type) := AList (fun _ : String => V)

end TykGateway
