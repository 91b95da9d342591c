import Mathlib.Data.List.Infix
import Mathlib.Data.List.TakeWhile

/-!
# Text

The string operations of a standard library that programs use to take file
names and messages apart, over any alphabet.
-/

namespace Text

variable {α : Type} [DecidableEq α]

/-- Whether `pat` occurs somewhere in `s`. -/
def contains (s pat : List α) : Bool := decide (pat <:+: s)

/-- Cut out the occurrences of `pat`, left to right, where `skip` letters are
still part of the last one. -/
def removeAllFrom (pat : List α) : Nat → List α → List α
  | _, [] => []
  | skip + 1, _ :: s => removeAllFrom pat skip s
  | 0, c :: s =>
    if pat.isPrefixOf (c :: s) then removeAllFrom pat (pat.length - 1) s
    else c :: removeAllFrom pat 0 s

/-- Cut out every occurrence of a non-empty `pat`. -/
def removeAll (pat s : List α) : List α := removeAllFrom pat 0 s

/-- What follows a prefix, when it is there. -/
def stripPrefix (pat s : List α) : Option (List α) :=
  if pat.isPrefixOf s then some (s.drop pat.length) else none

theorem stripPrefix_append (pat s : List α) : stripPrefix pat (pat ++ s) = some s := by
  rw [stripPrefix, if_pos (List.isPrefixOf_iff_prefix.mpr (List.prefix_append pat s)),
    List.drop_left]

/-- The parts between the separators: one more than there are separators. -/
def splitOn (sep : α) : List α → List (List α)
  | [] => [[]]
  | c :: s =>
    if c = sep then [] :: splitOn sep s
    else match splitOn sep s with
      | [] => [[c]]
      | part :: parts => (c :: part) :: parts

theorem splitOn_append_cons {sep : α} {part : List α} (h : sep ∉ part) (s : List α) :
    splitOn sep (part ++ sep :: s) = part :: splitOn sep s := by
  induction part with
  | nil => simp [splitOn]
  | cons c part ih =>
    obtain ⟨hc, hpart⟩ : sep ≠ c ∧ sep ∉ part := by simpa using h
    rw [List.cons_append, splitOn, if_neg (Ne.symm hc), ih hpart]

theorem splitOn_ne_nil (sep : α) (s : List α) : splitOn sep s ≠ [] := by
  cases s with
  | nil => exact List.cons_ne_nil _ _
  | cons c s =>
    rw [splitOn]
    split
    · exact List.cons_ne_nil _ _
    · split <;> exact List.cons_ne_nil _ _

theorem splitOn_of_notMem {sep : α} {s : List α} (h : sep ∉ s) : splitOn sep s = [s] := by
  induction s with
  | nil => rfl
  | cons c s ih =>
    obtain ⟨hc, hs⟩ : sep ≠ c ∧ sep ∉ s := by simpa using h
    rw [splitOn, if_neg (Ne.symm hc), ih hs]

/-- A separator parts the parts before it from those behind it. -/
theorem splitOn_append_sep (sep : α) (s t : List α) :
    splitOn sep (s ++ sep :: t) = splitOn sep s ++ splitOn sep t := by
  induction s with
  | nil => simp [splitOn]
  | cons c s ih =>
    rw [List.cons_append, splitOn, splitOn, ih]
    split
    · rfl
    · cases hs : splitOn sep s with
      | nil => exact absurd hs (splitOn_ne_nil sep s)
      | cons part parts => rfl

/-- The parts in a row, with a separator between them. -/
def joinWith (sep : α) : List (List α) → List α
  | [] => []
  | [part] => part
  | part :: parts => part ++ sep :: joinWith sep parts

omit [DecidableEq α] in
theorem joinWith_concat (sep : α) {parts : List (List α)} (h : parts ≠ []) (last : List α) :
    joinWith sep (parts ++ [last]) = joinWith sep parts ++ sep :: last := by
  induction parts with
  | nil => exact absurd rfl h
  | cons part parts ih =>
    cases parts with
    | nil => rfl
    | cons next parts =>
      have htail := ih (List.cons_ne_nil next parts)
      simp only [List.cons_append, joinWith, List.append_assoc] at htail ⊢
      rw [htail]

omit [DecidableEq α] in
theorem joinWith_eq_nil_iff {sep : α} {parts : List (List α)} (h : ∀ p ∈ parts, p ≠ []) :
    joinWith sep parts = [] ↔ parts = [] := by
  cases parts with
  | nil => exact iff_of_true rfl rfl
  | cons part parts =>
    refine iff_of_false (fun hjoin => h part List.mem_cons_self ?_) (List.cons_ne_nil part parts)
    cases parts with
    | nil => exact hjoin
    | cons next parts => exact (List.append_eq_nil_iff.mp hjoin).1

/-- Parts without separators can be told apart again. -/
theorem splitOn_joinWith {sep : α} {part : List α} {parts : List (List α)}
    (h : ∀ p ∈ part :: parts, sep ∉ p) :
    splitOn sep (joinWith sep (part :: parts)) = part :: parts := by
  induction parts generalizing part with
  | nil => exact splitOn_of_notMem (h part List.mem_cons_self)
  | cons next parts ih =>
    have hnext : ∀ p ∈ next :: parts, sep ∉ p := fun p hp => h p (List.mem_cons_of_mem part hp)
    rw [joinWith, splitOn_append_cons (h part List.mem_cons_self), ih hnext]
    exact List.cons_ne_nil next parts

omit [DecidableEq α] in
/-- A suffix without separators lies behind the last one. -/
theorem suffix_append_cons_iff {sep : α} {pat part s : List α} (h : sep ∉ pat) :
    pat <:+ part ++ sep :: s ↔ pat <:+ s := by
  have hs : s <:+ part ++ sep :: s := ⟨part ++ [sep], (List.append_cons ..).symm⟩
  constructor
  · intro hpat
    by_cases hlength : pat.length ≤ s.length
    · exact List.suffix_of_suffix_length_le hpat hs hlength
    · -- otherwise the separator would be in the pattern
      have hsep : sep :: s <:+ pat :=
        List.suffix_of_suffix_length_le ⟨part, rfl⟩ hpat (by rw [List.length_cons]; omega)
      exact absurd (hsep.subset (List.mem_cons_self ..)) h
  · exact fun hpat => hpat.trans hs

omit [DecidableEq α] in
theorem suffix_joinWith_iff {sep : α} {pat last : List α} (h : sep ∉ pat)
    (parts : List (List α)) : pat <:+ joinWith sep (parts ++ [last]) ↔ pat <:+ last := by
  induction parts with
  | nil => rfl
  | cons part parts ih =>
    have hcons : joinWith sep (part :: parts ++ [last]) =
        part ++ sep :: joinWith sep (parts ++ [last]) := by
      cases parts <;> rfl
    rw [hcons, suffix_append_cons_iff h, ih]

/-- Drop the letters that meet `p` at both ends. -/
def trim (p : α → Bool) (s : List α) : List α :=
  ((s.dropWhile p).reverse.dropWhile p).reverse

omit [DecidableEq α] in
theorem trim_eq_self {p : α → Bool} {s : List α} (h : ∀ c ∈ s, p c = false) : trim p s = s := by
  have hdrop : ∀ t : List α, (∀ c ∈ t, p c = false) → t.dropWhile p = t := by
    intro t ht
    cases t with
    | nil => rfl
    | cons c t => rw [List.dropWhile_cons, ht c List.mem_cons_self, if_neg Bool.false_ne_true]
  rw [trim, hdrop s h, hdrop s.reverse fun c hc => h c (List.mem_reverse.mp hc),
    List.reverse_reverse]

/-- A line without the carriage return at its end. -/
def stripCarriageReturn (line : List Char) : List Char :=
  if line.getLast? = some '\r' then line.dropLast else line

/-- The lines among the parts between newlines: a last part that is empty is
none, and only a newline makes the carriage return before it part of the end. -/
def linesOf : List (List Char) → List (List Char)
  | [] => []
  | [last] => if last = [] then [] else [last]
  | part :: parts => stripCarriageReturn part :: linesOf parts

/-- The lines of a text. -/
def lines (s : List Char) : List (List Char) := linesOf (splitOn '\n' s)

theorem stripCarriageReturn_of_notMem {line : List Char} (h : '\r' ∉ line) :
    stripCarriageReturn line = line :=
  if_neg fun hlast => h (List.mem_of_getLast? hlast)

theorem linesOf_of_plain {parts : List (List Char)} (h : ∀ p ∈ parts, p ≠ [] ∧ '\r' ∉ p) :
    linesOf parts = parts := by
  induction parts with
  | nil => rfl
  | cons part parts ih =>
    obtain ⟨hne, hcr⟩ := h part List.mem_cons_self
    cases parts with
    | nil => exact if_neg hne
    | cons next parts =>
      rw [linesOf, stripCarriageReturn_of_notMem hcr,
        ih fun p hp => h p (List.mem_cons_of_mem part hp)]
      exact List.cons_ne_nil next parts

/-- Lines that are put one below the other are read back. -/
theorem lines_joinWith {parts : List (List Char)}
    (h : ∀ p ∈ parts, p ≠ [] ∧ '\r' ∉ p ∧ '\n' ∉ p) : lines (joinWith '\n' parts) = parts := by
  cases parts with
  | nil => rfl
  | cons part parts =>
    rw [lines, splitOn_joinWith fun p hp => (h p hp).2.2]
    exact linesOf_of_plain fun p hp => ⟨(h p hp).1, (h p hp).2.1⟩

/-- A file name without its extension. A name that starts with its only dot
has none. -/
def fileStem (name : List Char) : List Char :=
  match (name.reverse.dropWhile (· ≠ '.')).drop 1 with
  | [] => name
  | stem => stem.reverse

theorem fileStem_of_notMem {name : List Char} (h : '.' ∉ name) : fileStem name = name := by
  have hdrop : name.reverse.dropWhile (· ≠ '.') = [] := by
    rw [List.dropWhile_eq_nil_iff]
    intro c hc
    exact decide_eq_true fun heq => h (heq ▸ List.mem_reverse.mp hc)
  rw [fileStem, hdrop]
  rfl

theorem fileStem_append_cons {stem extension : List Char} (hstem : stem ≠ [])
    (h : '.' ∉ extension) : fileStem (stem ++ '.' :: extension) = stem := by
  have hdrop : (stem ++ '.' :: extension).reverse.dropWhile (· ≠ '.') = '.' :: stem.reverse := by
    rw [List.reverse_append, List.reverse_cons, List.append_assoc, List.dropWhile_append_of_pos]
    · rfl
    · intro c hc
      exact decide_eq_true fun heq => h (heq ▸ List.mem_reverse.mp hc)
  rw [fileStem, hdrop, List.drop_one, List.tail_cons]
  split
  · rename_i hnil
    exact absurd (List.reverse_eq_nil_iff.mp hnil) hstem
  · exact List.reverse_reverse _

end Text
