import Mathlib.Data.List.Forall2

namespace Awaken.Lib

inductive Task (σ α : Type) where
  | done (a : α)
  | pending (effect : σ → σ) (next : σ → Task σ α)

namespace Task

variable {σ α β : Type}

def map (f : α → β) : Task σ α → Task σ β
  | done a => done (f a)
  | pending effect next => pending effect (fun s => (next s).map f)

def finish (elapse : σ → σ) : Task σ α → σ → α × σ
  | done a, s => (a, s)
  | pending effect next, s => (next s).finish elapse (elapse (effect s))

def poll : Task σ α → σ → Task σ α × σ
  | done a, s => (done a, s)
  | pending effect next, s => (next s, effect s)

def pollAll (elapse : σ → σ) : List Nat → List (Task σ α) → σ → List (Task σ α) × σ
  | [], tasks, s => (tasks, s)
  | i :: positions, tasks, s =>
    match tasks[i]? with
    | none => pollAll elapse positions tasks s
    | some task =>
      let (task, s) := task.poll s
      pollAll elapse positions (tasks.set i task) (elapse s)

def finishAll (elapse : σ → σ) : List (Task σ α) → σ → List α × σ
  | [], s => ([], s)
  | task :: tasks, s =>
    let (a, s) := task.finish elapse s
    let (as, s) := finishAll elapse tasks s
    (a :: as, s)

def joinAll (elapse : σ → σ) (positions : List Nat) (tasks : List (Task σ α)) (s : σ) :
    List α × σ :=
  let (tasks, s) := pollAll elapse positions tasks s
  finishAll elapse tasks s

inductive Yields : Task σ α → α → Prop where
  | done (a : α) : Yields (.done a) a
  | pending {effect : σ → σ} {next : σ → Task σ α} {s : σ} {a : α} :
      Yields (next s) a → Yields (.pending effect next) a

variable {elapse : σ → σ}

lemma yields_finish (task : Task σ α) (s : σ) : Yields task (task.finish elapse s).1 := by
  induction task generalizing s with
  | done a => exact .done a
  | pending effect next ih => exact .pending (ih s _)

lemma yields_poll {task : Task σ α} {s : σ} {a : α} (h : Yields (task.poll s).1 a) :
    Yields task a := by
  cases task with
  | done b => exact h
  | pending effect next => exact .pending h

lemma yields_map {task : Task σ α} {f : α → β} {b : β} (h : Yields (task.map f) b) :
    ∃ a, Yields task a ∧ f a = b := by
  induction task with
  | done a =>
    cases h
    exact ⟨a, .done a, rfl⟩
  | pending effect next ih =>
    cases h with
    | pending h =>
      obtain ⟨a, ha, hf⟩ := ih _ h
      exact ⟨a, .pending ha, hf⟩

lemma yields_finishAll (tasks : List (Task σ α)) (s : σ) :
    List.Forall₂ Yields tasks (finishAll elapse tasks s).1 := by
  induction tasks generalizing s with
  | nil => exact .nil
  | cons task tasks ih => exact .cons (yields_finish task s) (ih _)

lemma yields_set {tasks : List (Task σ α)} {i : Nat} {task : Task σ α} {s : σ} {results : List α}
    (hi : tasks[i]? = some task)
    (h : List.Forall₂ Yields (tasks.set i (task.poll s).1) results) :
    List.Forall₂ Yields tasks results := by
  induction tasks generalizing i results with
  | nil => exact h
  | cons first tasks ih =>
    cases i with
    | zero =>
      obtain rfl := Option.some.inj hi
      cases h with
      | cons hfirst hrest => exact .cons (yields_poll hfirst) hrest
    | succ i =>
      cases h with
      | cons hfirst hrest => exact .cons hfirst (ih hi hrest)

lemma yields_pollAll {positions : List Nat} {tasks : List (Task σ α)} {s : σ} {results : List α}
    (h : List.Forall₂ Yields (pollAll elapse positions tasks s).1 results) :
    List.Forall₂ Yields tasks results := by
  induction positions generalizing tasks s with
  | nil => exact h
  | cons i positions ih =>
    cases hi : tasks[i]? with
    | none =>
      simp only [pollAll, hi] at h
      exact ih h
    | some task =>
      simp only [pollAll, hi] at h
      exact yields_set hi (ih h)

theorem yields_joinAll (positions : List Nat) (tasks : List (Task σ α)) (s : σ) :
    List.Forall₂ Yields tasks (joinAll elapse positions tasks s).1 :=
  yields_pollAll (yields_finishAll _ _)

end Task

end Awaken.Lib
