import RgbLightningNode.Lib.Fallible
import RgbLightningNode.Lib.FileTree

/-!
# Following and making directories

A path is followed step by step from a directory. Making a directory with all
that lead to it makes those that are missing on the way, and gets no further than
a file. As there are no links, where a path leads to can be told from its steps.
-/

/-- One step of a path. -/
inductive PathStep (N : Type) where
  | here
  | up
  | into (name : N)
  deriving DecidableEq

namespace PathStep

variable {N : Type}

def apply (cur : List N) : PathStep N → List N
  | here => cur
  | up => cur.dropLast
  | into name => cur ++ [name]

/-- Where the steps lead to. -/
def leadsTo (cur : List N) (steps : List (PathStep N)) : List N := steps.foldl apply cur

theorem leadsTo_append (cur : List N) (steps steps' : List (PathStep N)) :
    leadsTo cur (steps ++ steps') = leadsTo (leadsTo cur steps) steps' := List.foldl_append ..

/-- The steps never lead out of a directory that lies so many names above. -/
def staysBelow : Nat → List (PathStep N) → Bool
  | _, [] => true
  | depth, here :: steps => staysBelow depth steps
  | depth, into _ :: steps => staysBelow (depth + 1) steps
  | 0, up :: _ => false
  | depth + 1, up :: steps => staysBelow depth steps

theorem staysBelow_of_append {depth : Nat} {steps steps' : List (PathStep N)}
    (h : staysBelow depth (steps ++ steps') = true) : staysBelow depth steps = true := by
  induction steps generalizing depth with
  | nil => rfl
  | cons step steps ih =>
    cases step with
    | here | into name => exact ih h
    | up =>
      cases depth with
      | zero => cases h
      | succ depth => exact ih h

theorem staysBelow_map_into (depth : Nat) (names : List N) :
    staysBelow depth (names.map into) = true := by
  induction names generalizing depth with
  | nil => rfl
  | cons name names ih => exact ih (depth + 1)

/-- One step that does not lead out of a directory. -/
theorem apply_append (dir : List N) {cur : List N} {step : PathStep N} {steps : List (PathStep N)}
    (h : staysBelow cur.length (step :: steps) = true) :
    step.apply (dir ++ cur) = dir ++ step.apply cur ∧
      staysBelow (step.apply cur).length steps = true := by
  cases step with
  | here => exact ⟨rfl, h⟩
  | into name =>
    refine ⟨List.append_assoc .., ?_⟩
    rwa [apply, List.length_append]
  | up =>
    cases cur with
    | nil => cases h
    | cons name cur =>
      refine ⟨List.dropLast_append_of_ne_nil (List.cons_ne_nil name cur), ?_⟩
      rwa [apply, List.length_dropLast]

theorem leadsTo_of_staysBelow (dir cur : List N) {steps : List (PathStep N)}
    (h : staysBelow cur.length steps = true) :
    leadsTo (dir ++ cur) steps = dir ++ leadsTo cur steps := by
  induction steps generalizing cur with
  | nil => rfl
  | cons step steps ih =>
    obtain ⟨happly, hrest⟩ := apply_append dir h
    rw [leadsTo, leadsTo, List.foldl_cons, List.foldl_cons, happly]
    exact ih _ hrest

theorem leadsTo_eq_append (dir : List N) {steps : List (PathStep N)}
    (h : staysBelow 0 steps = true) : leadsTo dir steps = dir ++ leadsTo [] steps := by
  have hleads := leadsTo_of_staysBelow dir [] h
  rwa [List.append_nil] at hleads

/-- The steps into directories below one another. -/
theorem leadsTo_map_into (cur names : List N) : leadsTo cur (names.map into) = cur ++ names := by
  induction names generalizing cur with
  | nil => rw [List.append_nil]; rfl
  | cons name names ih => exact (ih (cur ++ [name])).trans (List.append_cons ..).symm

end PathStep

namespace FileTree

open Fallible PathStep

variable {N C ε : Type}

/-- Follow the steps, each of them from a directory. -/
def follow (t : FileTree N C) : List N → List (PathStep N) → Option (List N)
  | cur, [] => some cur
  | cur, step :: steps => if t.isDir cur then t.follow (step.apply cur) steps else none

theorem leadsTo_of_follow {t : FileTree N C} {cur q : List N} {steps : List (PathStep N)}
    (h : t.follow cur steps = some q) : q = leadsTo cur steps := by
  induction steps generalizing cur with
  | nil => exact (Option.some.inj h).symm
  | cons step steps ih =>
    rw [follow] at h
    split at h
    · exact ih h
    · cases h

theorem follow_of_append {t : FileTree N C} {cur q : List N} {steps steps' : List (PathStep N)}
    (h : t.follow cur (steps ++ steps') = some q) : ∃ p, t.follow cur steps = some p := by
  induction steps generalizing cur with
  | nil => exact ⟨cur, rfl⟩
  | cons step steps ih =>
    rw [List.cons_append, follow] at h
    split at h
    · rename_i hdir
      rw [follow, if_pos hdir]
      exact ih h
    · cases h

/-- A way through directories stays one when there are more of them. -/
theorem follow_mono {t t' : FileTree N C} {cur q : List N} {steps : List (PathStep N)}
    (hdirs : ∀ p, t p = some .dir → t' p = some .dir) (h : t.follow cur steps = some q) :
    t'.follow cur steps = some q := by
  induction steps generalizing cur with
  | nil => exact h
  | cons step steps ih =>
    rw [follow] at h ⊢
    split at h
    · rename_i hdir
      rw [if_pos (isDir_eq_true_iff.mpr (hdirs _ (isDir_eq_true_iff.mp hdir)))]
      exact ih h
    · cases h

/-- The directories on the way that are not there. -/
def missingDirs (t : FileTree N C) : List N → List (PathStep N) → List (List N)
  | _, [] => []
  | cur, .into name :: steps =>
    match t (cur ++ [name]) with
    | some .dir => t.missingDirs (cur ++ [name]) steps
    | some (.file _) => []
    | none => (cur ++ [name]) :: t.missingDirs (cur ++ [name]) steps
  | cur, step :: steps => t.missingDirs (step.apply cur) steps

/-- There is a file in the way. -/
def blocked (t : FileTree N C) : List N → List (PathStep N) → Bool
  | _, [] => false
  | cur, .into name :: steps =>
    match t (cur ++ [name]) with
    | some (.file _) => true
    | _ => t.blocked (cur ++ [name]) steps
  | cur, step :: steps => t.blocked (step.apply cur) steps

/-- The first file in the way is where the steps lead to. -/
def blockedLast [DecidableEq N] (t : FileTree N C) : List N → List (PathStep N) → Bool
  | _, [] => false
  | cur, .into name :: steps =>
    match t (cur ++ [name]) with
    | some (.file _) => steps.all (· = .here)
    | _ => t.blockedLast (cur ++ [name]) steps
  | cur, step :: steps => t.blockedLast (step.apply cur) steps

theorem mem_missingDirs {t : FileTree N C} {cur p : List N} {steps : List (PathStep N)}
    (h : p ∈ t.missingDirs cur steps) : t p = none := by
  induction steps generalizing cur with
  | nil => cases h
  | cons step steps ih =>
    cases step with
    | here | up => exact ih h
    | into name =>
      rw [missingDirs] at h
      split at h
      · exact ih h
      · cases h
      · rename_i hnone
        obtain rfl | h := List.mem_cons.mp h
        · exact hnone
        · exact ih h

/-- On the way to something that is there, nothing is missing and no file is met. -/
theorem missingDirs_of_follow {t : FileTree N C} {cur q : List N} {steps : List (PathStep N)}
    {step : PathStep N} (h : t.follow cur (steps ++ [step]) = some q) :
    t.missingDirs cur steps = [] ∧ t.blocked cur steps = false ∧
      t (leadsTo cur steps) = some .dir := by
  induction steps generalizing cur with
  | nil =>
    rw [List.nil_append, follow] at h
    split at h
    · rename_i hdir
      exact ⟨rfl, rfl, isDir_eq_true_iff.mp hdir⟩
    · cases h
  | cons first steps ih =>
    rw [List.cons_append, follow] at h
    split at h
    · have hrest := ih h
      cases first with
      | here | up => exact hrest
      | into name =>
        have hdir : t (cur ++ [name]) = some .dir := by
          cases steps with
          | nil => exact hrest.2.2
          | cons next steps =>
            rw [List.cons_append, follow] at h
            split at h
            · rename_i hdir
              exact isDir_eq_true_iff.mp hdir
            · cases h
        rw [missingDirs, blocked, hdir]
        exact hrest
    · cases h

/-- A way to a file ends with its name. -/
theorem into_of_follow {t : FileTree N C} {cur q : List N} {steps : List (PathStep N)}
    {content : C} (ht : t.WellFormed) (h : t.follow cur steps = some q)
    (hq : t q = some (.file content)) (hne : steps ≠ []) :
    ∃ names name, steps = names ++ [.into name] := by
  obtain ⟨pre, step, rfl⟩ : ∃ pre step, steps = pre ++ [step] :=
    ⟨_, _, (List.dropLast_append_getLast hne).symm⟩
  have hdir := (missingDirs_of_follow h).2.2
  rw [leadsTo_of_follow h, leadsTo_append] at hq
  cases step with
  | here => exact absurd (hdir.symm.trans hq) (by simp)
  | up => exact absurd ((ht.dir_of_dropLast hdir).symm.trans hq) (by simp)
  | into name => exact ⟨pre, name, rfl⟩

section Make

variable [DecidableEq N]

/-- Make a directory and all that lead to it, from one that is there. The error tells
whether a file that is met is where the directory is to be. -/
def createDirAll (e : Bool → ε) : List N → List (PathStep N) → Fallible ε (FileTree N C) (List N)
  | cur, [] => pure cur
  | cur, .into name :: steps => do
    let t ← get
    match t (cur ++ [name]) with
    | some .dir => createDirAll e (cur ++ [name]) steps
    | some (.file _) => throw (e (steps.all (· = .here)))
    | none =>
      set (t.put (cur ++ [name]) .dir)
      createDirAll e (cur ++ [name]) steps
  | cur, step :: steps => createDirAll e (step.apply cur) steps

/-- The tree with some directories made. -/
def withDirs (t : FileTree N C) (dirs : List (List N)) : FileTree N C :=
  fun p => if p ∈ dirs then some .dir else t p

theorem withDirs_nil (t : FileTree N C) : t.withDirs [] = t := by
  funext p
  exact if_neg List.not_mem_nil

theorem put_withDirs (t : FileTree N C) (dirs : List (List N)) (p : List N) :
    (t.withDirs dirs).put p .dir = t.withDirs (dirs ++ [p]) := by
  funext q
  by_cases hq : q = p
  · rw [hq, put_self, withDirs, if_pos (by simp)]
  · rw [put_of_ne _ _ hq]
    simp [withDirs, hq]

/-- Making directories: what is missing is made, up to a file that is in the way.
Some may have been made on the way already. -/
theorem createDirAll_withDirs (e : Bool → ε) (t : FileTree N C) (made : List (List N))
    (hmade : ∀ p ∈ made, t p = none) (cur : List N) (steps : List (PathStep N)) :
    createDirAll e cur steps (t.withDirs made) =
      if t.blocked cur steps then
        .error (e (t.blockedLast cur steps)) (t.withDirs (made ++ t.missingDirs cur steps))
      else .ok (leadsTo cur steps) (t.withDirs (made ++ t.missingDirs cur steps)) := by
  induction steps generalizing cur made with
  | nil => rw [missingDirs, List.append_nil]; rfl
  | cons step steps ih =>
    cases step with
    | here | up => exact ih made hmade _
    | into name =>
      rw [createDirAll, bind_of_ok (get_apply _), missingDirs, blocked, blockedLast]
      cases hentry : t (cur ++ [name]) with
      | some entry =>
        have hsame : t.withDirs made (cur ++ [name]) = some entry := by
          rw [withDirs, if_neg, hentry]
          intro hmem
          rw [hmade _ hmem] at hentry
          cases hentry
        rw [hsame]
        cases entry with
        | dir => exact ih made hmade _
        | file content => rw [List.append_nil]; rfl
      | none =>
        by_cases hmem : cur ++ [name] ∈ made
        · -- made on the way already
          have hdir : t.withDirs made (cur ++ [name]) = some .dir := if_pos hmem
          have hagain :
              t.withDirs (made ++ (cur ++ [name]) :: t.missingDirs (cur ++ [name]) steps) =
              t.withDirs (made ++ t.missingDirs (cur ++ [name]) steps) := by
            funext q
            by_cases hq : q = cur ++ [name]
            · simp [withDirs, hq, hmem]
            · simp [withDirs, hq]
          rw [hdir, hagain]
          exact ih made hmade _
        · have hnone : t.withDirs made (cur ++ [name]) = none := by
            rw [withDirs, if_neg hmem, hentry]
          rw [hnone]
          simp only
          rw [bind_of_ok (set_apply _ _), put_withDirs,
            List.append_cons made _ (t.missingDirs _ steps)]
          refine ih (made ++ [cur ++ [name]]) (fun p hp => ?_) _
          obtain hp | hp := List.mem_append.mp hp
          · exact hmade p hp
          · rw [List.mem_singleton.mp hp, hentry]

theorem createDirAll_apply (e : Bool → ε) (t : FileTree N C) (cur : List N)
    (steps : List (PathStep N)) :
    createDirAll e cur steps t =
      if t.blocked cur steps then
        .error (e (t.blockedLast cur steps)) (t.withDirs (t.missingDirs cur steps))
      else .ok (leadsTo cur steps) (t.withDirs (t.missingDirs cur steps)) := by
  have h := createDirAll_withDirs e t [] (by simp) cur steps
  rwa [withDirs_nil, List.nil_append] at h

/-! ### What making directories does to a tree -/

variable {t : FileTree N C} {cur : List N} {steps : List (PathStep N)}

/-- The way stays a way of directories. -/
theorem wellFormed_createDirAll (e : Bool → ε) (steps : List (PathStep N)) (h : t.WellFormed)
    (hcur : t cur = some .dir) :
    (after (createDirAll e cur steps) t).WellFormed ∧
      ∀ dir t', createDirAll e cur steps t = .ok dir t' → t' dir = some .dir := by
  induction steps generalizing t cur with
  | nil =>
    refine ⟨h, fun dir t' hok => ?_⟩
    obtain ⟨rfl, rfl⟩ := EStateM.Result.ok.inj hok
    exact hcur
  | cons step steps ih =>
    cases step with
    | here => exact ih h hcur
    | up => exact ih h (h.dir_of_dropLast hcur)
    | into name =>
      rw [createDirAll, after_bind_of_ok (get_apply _), bind_of_ok (get_apply _)]
      cases hentry : t (cur ++ [name]) with
      | some entry =>
        cases entry with
        | dir => exact ih h hentry
        | file content => exact ⟨h, fun _ _ hok => nomatch hok⟩
      | none =>
        simp only
        rw [after_bind_of_ok (set_apply _ _), bind_of_ok (set_apply _ _)]
        exact ih (h.put hcur (by rw [hentry]; simp) _) (put_self ..)

theorem wellFormed_withDirs (h : t.WellFormed) (hcur : t cur = some .dir)
    (steps : List (PathStep N)) : (t.withDirs (t.missingDirs cur steps)).WellFormed := by
  have hmade := (wellFormed_createDirAll (fun _ => ()) steps h hcur).1
  have happly := createDirAll_apply (fun _ => ()) t cur steps
  split at happly
  · rwa [after_of_error happly] at hmade
  · rwa [after_of_ok happly] at hmade

theorem withDirs_of_isSome {p : List N} (hp : (t p).isSome) :
    t.withDirs (t.missingDirs cur steps) p = t p := by
  rw [withDirs, if_neg]
  intro hmem
  rw [mem_missingDirs hmem] at hp
  cases hp

end Make

/-! ### Directories below one another -/

section Names

variable {t : FileTree N C} {cur p : List N} {names : List N}

/-- No file is met when none is on the way. -/
theorem blocked_map_into
    (h : ∀ pre, pre <+: names → ∀ content, t (cur ++ pre) ≠ some (.file content)) :
    t.blocked cur (names.map .into) = false := by
  induction names generalizing cur with
  | nil => rfl
  | cons name names ih =>
    have hfirst := h [name] ⟨names, rfl⟩
    have hrest : t.blocked (cur ++ [name]) (names.map .into) = false := by
      refine ih fun pre hpre content => ?_
      rw [List.append_assoc]
      exact h (name :: pre) (List.cons_prefix_cons.mpr ⟨rfl, hpre⟩) content
    rw [List.map_cons, blocked]
    split
    · rename_i content hfile
      exact absurd hfile (hfirst content)
    · exact hrest

/-- What is missing on the way are directories of the way. -/
theorem prefix_of_mem_missingDirs (h : p ∈ t.missingDirs cur (names.map .into)) :
    cur <+: p ∧ p <+: cur ++ names := by
  induction names generalizing cur with
  | nil => cases h
  | cons name names ih =>
    have hrest : p ∈ t.missingDirs (cur ++ [name]) (names.map .into) →
        cur <+: p ∧ p <+: cur ++ name :: names := fun hmem => by
      obtain ⟨hcur, hp⟩ := ih hmem
      exact ⟨(List.prefix_append ..).trans hcur, by rwa [List.append_cons]⟩
    rw [List.map_cons, missingDirs] at h
    split at h
    · exact hrest h
    · cases h
    · obtain rfl | h := List.mem_cons.mp h
      · exact ⟨List.prefix_append .., by simp⟩
      · exact hrest h

/-- When no file is met, all that is missing on the way is among them. -/
theorem mem_missingDirs_map_into (hnone : t p = none) (hcur : cur <+: p) (hne : cur ≠ p)
    (hp : p <+: cur ++ names) (hblocked : t.blocked cur (names.map .into) = false) :
    p ∈ t.missingDirs cur (names.map .into) := by
  induction names generalizing cur with
  | nil =>
    rw [List.append_nil] at hp
    exact absurd (hcur.eq_of_length_le hp.length_le) hne
  | cons name names ih =>
    rw [List.append_cons] at hp
    have hfirst : cur ++ [name] <+: p :=
      List.prefix_of_prefix_length_le (List.prefix_append ..) hp (by
        have hlength := hcur.length_le
        have hlt : cur.length ≠ p.length := fun h => hne (hcur.eq_of_length h)
        rw [List.length_append, List.length_singleton]
        omega)
    rw [List.map_cons, blocked] at hblocked
    rw [List.map_cons, missingDirs]
    by_cases hp' : cur ++ [name] = p
    · rw [hp', hnone]
      exact List.mem_cons_self ..
    · split at hblocked
      · cases hblocked
      · have hmem := ih hfirst hp' hp hblocked
        split
        · exact hmem
        · rename_i hno _ content hfile
          exact absurd hfile (hno content)
        · exact List.mem_cons_of_mem _ hmem

end Names

end FileTree
