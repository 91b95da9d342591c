import Mathlib.Data.Set.Finite.Basic
import Mathlib.Data.Set.Finite.Range
import Mathlib.Logic.Function.Basic
import RgbLightningNode.Lib.Text

/-!
# Trees of files

A tree of files gives every path what is there: nothing, a directory, or a file
with its content. A path is a list of names, from the root down. There are no
links, so a path is followed name by name, through directories only.
-/

/-- What a path of a tree names. -/
inductive FileEntry (C : Type) where
  | dir
  | file (content : C)
  deriving DecidableEq

abbrev FileTree (N C : Type) := List N → Option (FileEntry C)

namespace FileTree

variable {N C : Type}

def isDir (t : FileTree N C) (p : List N) : Bool :=
  match t p with
  | some .dir => true
  | _ => false

/-- The content of a file. -/
def content? (t : FileTree N C) (p : List N) : Option C :=
  match t p with
  | some (.file content) => some content
  | _ => none

theorem isDir_eq_true_iff {t : FileTree N C} {p : List N} :
    t.isDir p = true ↔ t p = some .dir := by
  unfold isDir
  split <;> simp_all

theorem content?_eq_some_iff {t : FileTree N C} {p : List N} {content : C} :
    t.content? p = some content ↔ t p = some (.file content) := by
  unfold content?
  split <;> simp_all

section Update

variable [DecidableEq N]

/-- Put an entry at a path. -/
def put (t : FileTree N C) (p : List N) (e : FileEntry C) : FileTree N C :=
  Function.update t p (some e)

/-- Remove what is at a path, but nothing below it. -/
def remove (t : FileTree N C) (p : List N) : FileTree N C := Function.update t p none

@[simp] theorem put_self (t : FileTree N C) (p : List N) (e : FileEntry C) :
    t.put p e p = some e :=
  Function.update_self ..

theorem put_of_ne (t : FileTree N C) {p q : List N} (e : FileEntry C) (h : q ≠ p) :
    t.put p e q = t q :=
  Function.update_of_ne h ..

@[simp] theorem remove_self (t : FileTree N C) (p : List N) : t.remove p p = none :=
  Function.update_self ..

theorem remove_of_ne (t : FileTree N C) {p q : List N} (h : q ≠ p) : t.remove p q = t q :=
  Function.update_of_ne h ..

end Update

section Resolve

/-- Follow names from a directory. An empty name and a dot stay where they are,
and two dots go one directory up. -/
def resolve (t : FileTree (List Char) C) : List (List Char) → List (List Char) →
    Option (List (List Char))
  | cur, [] => some cur
  | cur, name :: names =>
    if t.isDir cur then
      if name = [] ∨ name = ['.'] then t.resolve cur names
      else if name = ['.', '.'] then t.resolve cur.dropLast names
      else t.resolve (cur ++ [name]) names
    else none

/-- Where a text leads to from a directory; one that begins with a slash leads on
from the root. -/
def join (t : FileTree (List Char) C) (dir : List (List Char)) (text : List Char) :
    Option (List (List Char)) :=
  match text with
  | '/' :: _ => t.resolve [] (Text.splitOn '/' text)
  | _ => t.resolve dir (Text.splitOn '/' text)

theorem join_eq_resolve {t : FileTree (List Char) C} {dir : List (List Char)}
    {text : List Char} (hslash : '/' ∉ text) : t.join dir text = t.resolve dir [text] := by
  have hsplit := Text.splitOn_of_notMem hslash
  unfold join
  split
  · exact absurd (List.mem_cons_self ..) hslash
  · rw [hsplit]

/-- A text without slashes that does not lead up leads to the directory itself or
to an entry of it. -/
theorem join_of_plain {t : FileTree (List Char) C} {dir p : List (List Char)} {text : List Char}
    (hslash : '/' ∉ text) (hup : text ≠ ['.', '.']) (h : t.join dir text = some p) :
    t.isDir dir = true ∧ (p = dir ∨ p = dir ++ [text]) := by
  rw [join_eq_resolve hslash, resolve, if_neg hup] at h
  split at h
  · rename_i hdir
    refine ⟨hdir, ?_⟩
    split at h
    · exact .inl (Option.some.inj h).symm
    · exact .inr (Option.some.inj h).symm
  · cases h

end Resolve

/-! ### Trees a disk can hold -/

/-- There is a root, whatever is there lies in a directory, and there is not
infinitely much. -/
structure WellFormed (t : FileTree N C) : Prop where
  root : t [] = some .dir
  parent : ∀ p name, (t (p ++ [name])).isSome → t p = some .dir
  finite : {p | (t p).isSome}.Finite

namespace WellFormed

variable {t : FileTree N C} {p q : List N}

theorem dir_of_append (h : t.WellFormed) (hq : q ≠ []) (hpq : (t (p ++ q)).isSome) :
    t p = some .dir := by
  induction q using List.reverseRecOn with
  | nil => exact absurd rfl hq
  | append_singleton q name ih =>
    rw [← List.append_assoc] at hpq
    have hdir := h.parent _ _ hpq
    by_cases hnil : q = []
    · rwa [hnil, List.append_nil] at hdir
    · exact ih hnil (by rw [hdir]; rfl)

theorem dir_of_above (h : t.WellFormed) (hpq : p <+: q) (hne : p ≠ q) (hq : (t q).isSome) :
    t p = some .dir := by
  obtain ⟨rest, rfl⟩ := hpq
  refine h.dir_of_append (fun hnil => hne ?_) hq
  rw [hnil, List.append_nil]

theorem isSome_of_above (h : t.WellFormed) (hpq : p <+: q) (hq : (t q).isSome) :
    (t p).isSome := by
  by_cases hne : p = q
  · rwa [hne]
  · rw [h.dir_of_above hpq hne hq]
    rfl

theorem dir_of_dropLast (h : t.WellFormed) (hp : t p = some .dir) :
    t p.dropLast = some .dir := by
  by_cases hnil : p = []
  · rwa [hnil] at hp ⊢
  · refine h.parent p.dropLast (p.getLast hnil) ?_
    rw [List.dropLast_append_getLast hnil, hp]
    rfl

end WellFormed

/-- What is at a path and below it, as a tree of its own. -/
def sub (t : FileTree N C) (p : List N) : FileTree N C := fun q => t (p ++ q)

theorem sub_apply (t : FileTree N C) (p q : List N) : t.sub p q = t (p ++ q) := rfl

theorem WellFormed.sub {t : FileTree N C} (h : t.WellFormed) {p : List N}
    (hp : t p = some .dir) : (t.sub p).WellFormed where
  root := by rw [sub_apply, List.append_nil, hp]
  parent q name hq := by
    rw [sub_apply, ← List.append_assoc] at hq
    exact h.parent _ _ hq
  finite := h.finite.preimage (List.append_right_injective p).injOn

/-- The tree with another one in the place of what is at a path and below it. -/
def graft [DecidableEq N] (t : FileTree N C) (p : List N) (u : FileTree N C) : FileTree N C :=
  fun q => if p <+: q then u (q.drop p.length) else t q

theorem eq_graft_iff [DecidableEq N] {t u v : FileTree N C} {p : List N} :
    v = t.graft p u ↔ v.sub p = u ∧ ∀ q, ¬p <+: q → v q = t q := by
  have hbelow : ∀ q, t.graft p u (p ++ q) = u q := fun q => by
    rw [graft, if_pos (List.prefix_append p q), List.drop_left]
  constructor
  · rintro rfl
    exact ⟨funext hbelow, fun q hq => if_neg hq⟩
  · rintro ⟨hsub, hout⟩
    funext q
    by_cases hq : p <+: q
    · obtain ⟨q, rfl⟩ := hq
      rw [hbelow, ← hsub, sub_apply]
    · rw [hout q hq]
      exact (if_neg hq).symm

section Graft

variable [DecidableEq N] (t : FileTree N C) (p : List N) (u u' : FileTree N C)

theorem sub_graft : (t.graft p u).sub p = u := (eq_graft_iff.mp rfl).1

theorem graft_of_not_below {q : List N} (h : ¬p <+: q) : t.graft p u q = t q :=
  (eq_graft_iff.mp rfl).2 q h

theorem graft_sub : t.graft p (t.sub p) = t := (eq_graft_iff.mpr ⟨rfl, fun _ _ => rfl⟩).symm

theorem graft_graft : (t.graft p u).graft p u' = t.graft p u' := by
  refine eq_graft_iff.mpr ⟨sub_graft .., fun q hq => ?_⟩
  rw [graft_of_not_below _ _ _ hq, graft_of_not_below _ _ _ hq]

end Graft

/-- Nothing but a root. -/
def empty : FileTree N C
  | [] => some .dir
  | _ => none

theorem wellFormed_empty : (empty : FileTree N C).WellFormed where
  root := rfl
  parent p name hp := by
    cases p <;> cases hp
  finite := by
    refine (Set.finite_singleton []).subset fun p hp => ?_
    cases p with
    | nil => rfl
    | cons name p => cases hp

section Changes

variable [DecidableEq N]

/-- Remove what is at a path and below it. -/
def removeAll (t : FileTree N C) (p : List N) : FileTree N C :=
  fun q => if p <+: q then none else t q

theorem removeAll_of_below (t : FileTree N C) {p q : List N} (h : p <+: q) :
    t.removeAll p q = none := if_pos h

theorem removeAll_of_not_below (t : FileTree N C) {p q : List N} (h : ¬p <+: q) :
    t.removeAll p q = t q := if_neg h

@[simp] theorem put_put (t : FileTree N C) (p : List N) (e e' : FileEntry C) :
    (t.put p e).put p e' = t.put p e' := Function.update_idem ..

theorem sub_put (t : FileTree N C) (p q : List N) (e : FileEntry C) :
    (t.put (p ++ q) e).sub p = (t.sub p).put q e := by
  funext r
  by_cases hr : r = q
  · rw [hr, put_self, sub_apply, put_self]
  · rw [put_of_ne _ _ hr, sub_apply, put_of_ne _ _ fun h => hr (List.append_cancel_left h),
      sub_apply]

theorem put_eq_graft (t : FileTree N C) (p q : List N) (e : FileEntry C) :
    t.put (p ++ q) e = t.graft p ((t.sub p).put q e) := by
  refine eq_graft_iff.mpr ⟨sub_put .., fun r hr => put_of_ne _ _ ?_⟩
  rintro rfl
  exact hr (List.prefix_append ..)

theorem sub_put_of_not_below (t : FileTree N C) {p q : List N} (e : FileEntry C)
    (h : ¬p <+: q) : (t.put q e).sub p = t.sub p := by
  funext r
  rw [sub_apply, sub_apply, put_of_ne _ _ fun hr => h ⟨r, hr⟩]

namespace WellFormed

variable {t : FileTree N C} {p : List N}

/-- Anything may be put into a directory where there is no directory yet. -/
theorem put (h : t.WellFormed) (hp : t p = some .dir) {name : N}
    (hnew : t (p ++ [name]) ≠ some .dir) (e : FileEntry C) :
    (t.put (p ++ [name]) e).WellFormed where
  root := by rw [put_of_ne _ _ (by simp), h.root]
  parent q name' hq := by
    by_cases hsame : q ++ [name'] = p ++ [name]
    · obtain ⟨rfl, -⟩ := List.append_inj' hsame rfl
      rw [put_of_ne _ _ (by simp), hp]
    · rw [put_of_ne _ _ hsame] at hq
      have hdir := h.parent q name' hq
      rw [put_of_ne]
      · exact hdir
      · rintro rfl
        exact hnew hdir
  finite := by
    refine (h.finite.insert (p ++ [name])).subset fun q hq => ?_
    by_cases hsame : q = p ++ [name]
    · exact .inl hsame
    · rw [Set.mem_ofPred_eq, put_of_ne _ _ hsame] at hq
      exact .inr hq

theorem remove_file (h : t.WellFormed) {content : C} (hp : t p = some (.file content)) :
    (t.remove p).WellFormed where
  root := by
    rw [remove_of_ne _ fun hnil => ?_, h.root]
    rw [← hnil, h.root] at hp
    cases hp
  parent q name' hq := by
    have hne : q ++ [name'] ≠ p := by
      intro heq
      rw [heq, remove_self] at hq
      cases hq
    rw [remove_of_ne _ hne] at hq
    have hdir := h.parent q name' hq
    rwa [remove_of_ne _ fun hqp => ?_]
    rw [hqp, hp] at hdir
    cases hdir
  finite := by
    refine h.finite.subset fun q hq => ?_
    by_cases hqp : q = p
    · rw [Set.mem_ofPred_eq, hqp, remove_self] at hq
      cases hq
    · rwa [Set.mem_ofPred_eq, remove_of_ne _ hqp] at hq

end WellFormed

end Changes

/-! ### Trees given by their entries -/

section OfList

variable [DecidableEq N] {entries : List (List N × FileEntry C)} {p : List N}

/-- The tree of a list of paths and what is there. -/
def ofList (entries : List (List N × FileEntry C)) : FileTree N C := fun p => entries.lookup p

theorem mem_of_ofList_eq_some {e : FileEntry C} (h : ofList entries p = some e) :
    (p, e) ∈ entries := by
  obtain ⟨before, after, rfl, -⟩ := List.lookup_eq_some_iff.mp h
  exact List.mem_append_right _ List.mem_cons_self

theorem ofList_isSome_iff : (ofList entries p).isSome ↔ p ∈ entries.map Prod.fst := by
  rw [ofList, List.lookup_isSome_iff, List.mem_map]
  exact exists_congr fun x => and_congr_right fun _ => beq_iff_eq.trans eq_comm

theorem wellFormed_ofList (hroot : ofList entries [] = some .dir)
    (hparent : ∀ x ∈ entries, x.1 ≠ [] → ofList entries x.1.dropLast = some .dir) :
    (ofList entries).WellFormed where
  root := hroot
  parent p name h := by
    obtain ⟨x, hx, hname⟩ := List.mem_map.mp (ofList_isSome_iff.mp h)
    have hdir := hparent x hx (by simp [hname])
    rwa [hname, List.dropLast_concat] at hdir
  finite := by
    have hset : {p | (ofList entries p).isSome} = {p | p ∈ entries.map Prod.fst} :=
      Set.ext fun _ => ofList_isSome_iff
    rw [hset]
    exact List.finite_toSet _

end OfList

end FileTree
