/-
Shared vocabulary of the model: byte strings, and the character classes of the
C library on which the sources rely.

A `std::string` that the program reads is a `String` whose characters stand for
its bytes, so lengths and comparisons are those of the bytes.
-/
import Mathlib.Data.List.Basic

namespace Tamga

/-- A `std::vector<std::uint8_t>`, or a `std::string` read as raw bytes. -/
abbrev Bytes := List UInt8

/-- A certificate, response or list in its DER form, as the sources pass it. -/
abbrev Der := Bytes

/-- Membership of a byte string in a list of them. -/
instance Bytes.decidableMem (b : Bytes) (bs : List Bytes) : Decidable (b ∈ bs) := inferInstance

theorem forall_byte {P : UInt8 → Prop} (h : ∀ n < 256, P (UInt8.ofNat n)) (b : UInt8) : P b := by
  have hb := h b.toNat b.toNat_lt
  rwa [UInt8.ofNat_toNat] at hb

/-- `std::isspace` in the C locale. -/
def isSpace (c : Char) : Bool :=
  c == ' ' || c == '\t' || c == '\n' || c == '\x0b' || c == '\x0c' || c == '\r'

def isDigit (c : Char) : Bool := '0' ≤ c && c ≤ '9'

def digitValue (c : Char) : Nat := c.toNat - '0'.toNat

/-- `std::string::find(part) != npos`. -/
def containsText (text part : String) : Bool := text.toList.tails.any part.toList.isPrefixOf

/-! ### Functions that return `false` and an error text -/

section Except

variable {α β : Type}

/-- `if (!condition) { error_message = message; return false; }`. -/
def require (condition : Prop) [Decidable condition] (message : String) : Except String Unit :=
  if condition then .ok () else .error message

/-- `if (pointer == nullptr) { error_message = message; return false; }`. -/
def orError (value : Option α) (message : String) : Except String α :=
  match value with
  | none => .error message
  | some a => .ok a

/-- An error of a callee, with a text before it. -/
def labelled (label : String) : Except String α → Except String α
  | .error e => .error (label ++ e)
  | .ok a => .ok a

variable {x : Except String α}

@[simp]
theorem labelled_eq_ok {label : String} {a : α} : labelled label x = .ok a ↔ x = .ok a := by
  cases x <;> simp [labelled]

variable {message : String}

@[simp]
theorem require_eq_ok {c : Prop} [Decidable c] {u : Unit} : require c message = .ok u ↔ c := by
  rw [require]
  by_cases h : c
  · rw [if_pos h]
    exact iff_of_true rfl h
  · rw [if_neg h]
    exact iff_of_false (by simp) h

@[simp]
theorem orError_eq_ok {value : Option α} {a : α} :
    orError value message = .ok a ↔ value = some a := by
  cases value <;> simp [orError]

@[simp]
theorem bind_eq_ok {f : α → Except String β} {b : β} :
    (x >>= f) = .ok b ↔ ∃ a, x = .ok a ∧ f a = .ok b := by
  cases x with
  | error e =>
    show Except.error e = .ok b ↔ _
    simp
  | ok a =>
    show f a = .ok b ↔ _
    simp

/-- Every failure comes with a text. -/
def NamedFailure (x : Except String α) : Prop := ∀ e, x = .error e → e ≠ ""

theorem namedFailure_ok (a : α) : NamedFailure (.ok a) := by
  intro e h
  cases h

theorem namedFailure_error {e : String} (h : e ≠ "") : NamedFailure (.error e : Except String α) := by
  intro e' he
  obtain rfl := Except.error.inj he
  exact h

theorem namedFailure_require {c : Prop} [Decidable c] (h : message ≠ "") :
    NamedFailure (require c message) := by
  rw [require]
  split
  · exact namedFailure_ok _
  · exact namedFailure_error h

theorem namedFailure_orError {value : Option α} (h : message ≠ "") :
    NamedFailure (orError value message) := by
  cases value with
  | none => exact namedFailure_error h
  | some a => exact namedFailure_ok a

theorem NamedFailure.bind {f : α → Except String β} (hx : NamedFailure x)
    (hf : ∀ a, NamedFailure (f a)) : NamedFailure (x >>= f) := by
  cases x with
  | error e => exact fun e' he => hx e' (congrArg _ (Except.error.inj he))
  | ok a => exact hf a

end Except

theorem append_ne_empty {a : String} (b : String) (h : a ≠ "") : a ++ b ≠ "" := by
  simpa using fun ha => absurd ha h

end Tamga
