import Mathlib.Algebra.Group.Nat.Defs
import Mathlib.Data.List.Basic

/-!
# JSON documents

The part of a JSON library that programs keeping small state files use:
indexing that answers `null` for what is not there, assignment to a key, and
removal of a key. A file either is missing, does not parse, or holds a
document.
-/

namespace SerdeJson

/-- A JSON value. Numbers are the unsigned ones. -/
inductive Value where
  | null
  | bool (b : Bool)
  | num (n : Nat)
  | str (s : String)
  | arr (xs : List Value)
  | obj (fields : List (String × Value))

namespace Value

/-- The fields of an object. -/
def asObject : Value → Option (List (String × Value))
  | obj fields => some fields
  | _ => none

def asStr : Value → Option String
  | str s => some s
  | _ => none

def asU64 : Value → Option Nat
  | num n => if n < 2 ^ 64 then some n else none
  | _ => none

/-- The value of a key, when the value is an object that has it. -/
def get? (v : Value) (key : String) : Option Value :=
  match v with
  | obj fields => fields.lookup key
  | _ => none

/-- Indexing by a key: `null` when there is no such field. -/
def index (v : Value) (key : String) : Value := (v.get? key).getD null

/-- Remove a key from an object; any other value stays as it is. -/
def remove (v : Value) (key : String) : Value :=
  match v with
  | obj fields => obj (fields.filter fun f => !(f.1 == key))
  | _ => v

/-- Assign a key. `null` turns into an object first; assigning a key of any
other value that is not an object is a panic, here `none`. -/
def assign (v : Value) (key : String) (x : Value) : Option Value :=
  match v with
  | obj fields => some (obj ((key, x) :: fields.filter fun f => !(f.1 == key)))
  | null => some (obj [(key, x)])
  | _ => none

/-- Dropping a key from a field list hides that key and no other. -/
theorem lookup_filter (fields : List (String × Value)) (key other : String) :
    (fields.filter fun f => !(f.1 == key)).lookup other =
      if other = key then none else fields.lookup other := by
  induction fields with
  | nil => simp
  | cons f fields ih =>
    obtain ⟨k, v⟩ := f
    by_cases hk : k = key
    · subst hk
      by_cases ho : other = k
      · simpa [ho] using ih
      · have hb : (other == k) = false := beq_eq_false_iff_ne.mpr ho
        simp only [List.filter_cons, beq_self_eq_true, Bool.not_true, Bool.false_eq_true,
          if_false, ih, if_neg ho, List.lookup_cons, hb]
    · have hb : (k == key) = false := beq_eq_false_iff_ne.mpr hk
      simp only [List.filter_cons, hb, Bool.not_false, if_true, List.lookup_cons, ih]
      by_cases ho : other = k
      · simp [ho, hk]
      · have hb' : (other == k) = false := beq_eq_false_iff_ne.mpr ho
        simp only [hb']

@[simp] theorem get?_remove_self (v : Value) (key : String) : (v.remove key).get? key = none := by
  cases v <;> simp [remove, get?, lookup_filter]

theorem get?_assign_self {v w x : Value} {key : String} (h : v.assign key x = some w) :
    w.get? key = some x := by
  cases v <;> simp only [assign, Option.some.injEq, reduceCtorEq] at h <;> subst h <;>
    simp [get?]

theorem get?_assign_ne {v w x : Value} {key other : String} (hne : other ≠ key)
    (h : v.assign key x = some w) : w.get? other = v.get? other := by
  have hb : (other == key) = false := by simpa using hne
  cases v <;> simp only [assign, Option.some.injEq, reduceCtorEq] at h <;> subst h <;>
    simp [get?, List.lookup_cons, hb, lookup_filter, hne]

end Value

/-- What a path holds: nothing, text that does not parse, with the parser's
message, or a document. -/
inductive File where
  | missing
  | corrupt (message : String)
  | doc (v : Value)

namespace File

/-- Whether the path exists. -/
def «exists» : File → Bool
  | missing => false
  | _ => true

/-- Read the text of a file and parse it. `io` is the answer of the read when
there is a file; the two stages fail with a message each. -/
def read (io : Except String Unit) : File → Except (String ⊕ String) Value
  | missing => .error (.inl "No such file or directory (os error 2)")
  | corrupt message => match io with
    | .ok () => .error (.inr message)
    | .error e => .error (.inl e)
  | doc v => match io with
    | .ok () => .ok v
    | .error e => .error (.inl e)

/-- A file that is read and parsed holds a document. -/
theorem read_eq_ok_iff {io : Except String Unit} {f : File} {v : Value} :
    f.read io = .ok v ↔ f = doc v ∧ io = .ok () := by
  rcases f with _ | e | w <;> rcases io with e | ⟨⟩ <;> simp [read]

/-- The value a key has in a file that holds a document. -/
def get? (f : File) (key : String) : Option Value :=
  match f with
  | doc v => v.get? key
  | _ => none

@[simp] theorem get?_doc (v : Value) (key : String) : (doc v).get? key = v.get? key := rfl

end File

end SerdeJson
