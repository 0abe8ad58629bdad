import Mathlib.Logic.Relation
import TextChunking.Ingest.Pipeline
/-!
# Schedules

Each file of a run is a task. A task waits until it is let in, runs, and is finished; at no time are more
tasks running than a limit, and which of them moves next is not determined (`Tasks.Step`). **Theorem**
(`completes_iff_perm`): whatever the limit, unless it is zero, the orders in which tasks can be finished
are exactly their permutations. That no task is lost or done twice is what a single step preserves
(`Tasks.Step.perm`); that every order is possible is shown by running the tasks one at a time.
-/

namespace TextChunking

open scoped List

/-- The tasks of a run. -/
structure Tasks (α : Type) where
  /-- Tasks that were not let in yet. -/
  waiting : List α
  /-- Tasks that were let in and are not finished. -/
  running : List α
  /-- Tasks that are finished, in the order in which they were. -/
  completed : List α

namespace Tasks

variable {α : Type} {limit : Nat}

/-- All tasks of a run. -/
def all (tasks : Tasks α) : List α := tasks.waiting ++ tasks.running ++ tasks.completed

/-- One task moves on. -/
inductive Step (limit : Nat) : Tasks α → Tasks α → Prop where
  /-- Any of the waiting tasks is let in while fewer than `limit` are running. -/
  | start {before after running completed : List α} {task : α} (room : running.length < limit) :
    Step limit ⟨before ++ task :: after, running, completed⟩
      ⟨before ++ after, task :: running, completed⟩
  /-- Any of the running tasks is finished. -/
  | finish {waiting before after completed : List α} {task : α} :
    Step limit ⟨waiting, before ++ task :: after, completed⟩
      ⟨waiting, before ++ after, completed ++ [task]⟩

/-- Some number of moves. -/
abbrev Moves (limit : Nat) : Tasks α → Tasks α → Prop := Relation.ReflTransGen (Step limit)

/-- Tasks can all be finished in a given order. -/
def Completes (limit : Nat) (tasks completed : List α) : Prop :=
  Moves limit ⟨tasks, [], []⟩ ⟨[], [], completed⟩

/-- A move neither loses a task nor adds one. -/
theorem Step.perm {before after : Tasks α} (h : Step limit before after) : after.all ~ before.all := by
  cases h with
  | @start front back running completed task room =>
    refine List.Perm.append_right completed ?_
    calc front ++ back ++ task :: running
      _ ~ task :: (front ++ back ++ running) := List.perm_middle
      _ ~ front ++ task :: back ++ running := List.perm_middle.symm.append_right running
  | @finish waiting front back completed task =>
    calc waiting ++ (front ++ back) ++ (completed ++ [task])
      _ = waiting ++ (front ++ back) ++ completed ++ [task] := (List.append_assoc ..).symm
      _ ~ task :: (waiting ++ (front ++ back) ++ completed) := List.perm_append_singleton ..
      _ = task :: (waiting ++ front ++ back) ++ completed := by simp
      _ ~ waiting ++ front ++ task :: back ++ completed := List.perm_middle.symm.append_right completed
      _ = waiting ++ (front ++ task :: back) ++ completed := by simp

/-- Moves neither lose a task nor add one. -/
theorem perm_of_moves {before after : Tasks α} (h : Moves limit before after) :
    after.all ~ before.all := by
  induction h with
  | refl => exact .refl _
  | tail _ hstep ih => exact hstep.perm.trans ih

/-- Tasks can be finished in any order, one at a time. -/
theorem moves_of_perm (hlimit : 0 < limit) {order waiting : List α} (h : order ~ waiting)
    (completed : List α) : Moves limit ⟨waiting, [], completed⟩ ⟨[], [], completed ++ order⟩ := by
  induction order generalizing waiting completed with
  | nil =>
    rw [List.nil_perm.mp h, List.append_nil]
  | cons task order ih =>
    obtain ⟨before, after, rfl⟩ := List.append_of_mem (h.subset List.mem_cons_self)
    have hrest : order ~ before ++ after := List.Perm.cons_inv (h.trans List.perm_middle)
    have hstart : Step limit ⟨before ++ task :: after, [], completed⟩
        ⟨before ++ after, [task], completed⟩ := .start hlimit
    have hfinish : Step limit ⟨before ++ after, [task], completed⟩
        ⟨before ++ after, [], completed ++ [task]⟩ :=
      @Step.finish _ _ (before ++ after) [] [] completed task
    have hmoves := ih hrest (completed ++ [task])
    rw [List.append_assoc] at hmoves
    exact .head hstart (.head hfinish hmoves)

/-- The orders in which tasks can all be finished are the permutations of the tasks. -/
theorem completes_iff_perm (hlimit : 0 < limit) {tasks completed : List α} :
    Completes limit tasks completed ↔ completed ~ tasks := by
  constructor
  · intro h
    simpa [all] using perm_of_moves h
  · intro h
    exact moves_of_perm hlimit h []

end Tasks

end TextChunking
