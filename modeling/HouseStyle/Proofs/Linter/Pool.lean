import Mathlib.Algebra.GroupWithZero.Nat
import Mathlib.Data.List.Basic

/-!
# Pools of workers

A pool runs a task for each item of a list. Tasks are started in the order of the list, a bounded number of them at a
time; each looks first whether a task has failed, and gives up then, or does its work and leaves the result in a place
of its own. A schedule (`Pool.Step`) may interleave the tasks in any way.

* Each step brings a pool closer to its end (`Step.weight_lt`), a pool that is not over can make a step (`exists_step`),
  and steps keep what is known of a pool (`Sound.step`). So **what is true of all sound pools that are over is what
  every schedule ends with** (`ends_of_sound`).
* **Without a failing task, every schedule gives the results in the order of the list** (`ends_ok`).
* **With one, every schedule gives the failure of some task, and no results** (`ends_error`).
-/

namespace HouseStyle

/-- How far a task has come: it has been started, it is doing its work, or it has ended, perhaps with a result. -/
inductive Stage (β : Type) where
  | started
  | working
  | ended (result : Option β)

namespace Stage

variable {β : Type}

/-- Whether the task occupies a worker. -/
def isActive : Stage β → Bool
  | .ended _ => false
  | _ => true

/-- The result that the task has left. -/
def result? : Stage β → Option β
  | .ended result => result
  | _ => none

/-- How many steps the task can still make. -/
def weight : Stage β → Nat
  | .started => 2
  | .working => 1
  | .ended _ => 0

end Stage

/-- The tasks that have been started, the items that wait for theirs, and the first failure so far. -/
structure Pool (α β ε : Type) where
  tasks : List (α × Stage β)
  waiting : List α
  failure : Option ε

namespace Pool

variable {α β ε : Type} {work : α → Except ε β} {limit : Nat} {items : List α} {p q : Pool α β ε}

/-- The pool before its first step. -/
def start (items : List α) : Pool α β ε := ⟨[], items, none⟩

/-- One step of a schedule, with at most `limit` workers. -/
inductive Step (work : α → Except ε β) (limit : Nat) : Pool α β ε → Pool α β ε → Prop where
  /-- A free worker takes the next item. -/
  | launch {tasks a rest failure} (room : tasks.countP (·.2.isActive) < limit) :
      Step work limit ⟨tasks, a :: rest, failure⟩ ⟨tasks ++ [(a, .started)], rest, failure⟩
  /-- A task finds that none has failed. -/
  | proceed {before a after waiting} :
      Step work limit ⟨before ++ (a, .started) :: after, waiting, none⟩
        ⟨before ++ (a, .working) :: after, waiting, none⟩
  /-- A task finds that another has failed. -/
  | giveUp {before a after waiting e} :
      Step work limit ⟨before ++ (a, .started) :: after, waiting, some e⟩
        ⟨before ++ (a, .ended none) :: after, waiting, some e⟩
  /-- A task leaves its result. -/
  | succeed {before a after waiting failure b} (h : work a = .ok b) :
      Step work limit ⟨before ++ (a, .working) :: after, waiting, failure⟩
        ⟨before ++ (a, .ended (some b)) :: after, waiting, failure⟩
  /-- A task fails; only the first failure is kept. -/
  | fail {before a after waiting failure e} (h : work a = .error e) :
      Step work limit ⟨before ++ (a, .working) :: after, waiting, failure⟩
        ⟨before ++ (a, .ended none) :: after, waiting, failure.or (some e)⟩

/-- No item waits, and no task occupies a worker. -/
def IsOver (p : Pool α β ε) : Prop := p.waiting = [] ∧ ∀ t ∈ p.tasks, t.2.isActive = false

/-- What the pool gives when it is over: the results in the order of the items, or the first failure. -/
def outcome (p : Pool α β ε) : Except ε (List β) :=
  match p.failure with
  | some e => .error e
  | none => .ok (p.tasks.filterMap (·.2.result?))

/-- Every schedule comes to an end, with an outcome of which `P` is true. -/
inductive Ends (work : α → Except ε β) (limit : Nat) (P : Except ε (List β) → Prop) : Pool α β ε → Prop where
  | finished {pool} (hover : pool.IsOver) (hP : P pool.outcome) : Ends work limit P pool
  | step {pool} (hnext : ∃ next, Step work limit pool next)
      (hall : ∀ next, Step work limit pool next → Ends work limit P next) : Ends work limit P pool

theorem Ends.imp {P Q : Except ε (List β) → Prop} (h : Ends work limit P p) (hPQ : ∀ outcome, P outcome → Q outcome) :
    Ends work limit Q p := by
  induction h with
  | finished hover hP => exact .finished hover (hPQ _ hP)
  | step hnext _ ih => exact .step hnext ih

/-! ## Progress -/

/-- How many steps the pool can still make. -/
def weight (p : Pool α β ε) : Nat := (p.tasks.map (·.2.weight)).sum + 3 * p.waiting.length

/-- **Each step brings a pool closer to its end.** -/
theorem Step.weight_lt (h : Step work limit p q) : q.weight < p.weight := by
  cases h with
  | launch room =>
    simp [weight, Stage.weight]
    omega
  | _ => simp [weight, Stage.weight]

/-- A task that occupies a worker can make a step. -/
theorem exists_step_of_active {t : α × Stage β} (ht : t ∈ p.tasks) (hactive : t.2.isActive) :
    ∃ q, Step work limit p q := by
  obtain ⟨tasks, waiting, failure⟩ := p
  obtain ⟨before, after, rfl⟩ := List.append_of_mem ht
  obtain ⟨a, stage⟩ := t
  cases stage with
  | started =>
    cases failure with
    | none => exact ⟨_, .proceed⟩
    | some e => exact ⟨_, .giveUp⟩
  | working =>
    cases hwork : work a with
    | ok b => exact ⟨_, .succeed hwork⟩
    | error e => exact ⟨_, .fail hwork⟩
  | ended result => cases hactive

/-- **A pool that is not over can make a step.** -/
theorem exists_step (hlimit : 0 < limit) (h : ¬ p.IsOver) : ∃ q, Step work limit p q := by
  by_cases hactive : ∃ t ∈ p.tasks, t.2.isActive
  · obtain ⟨t, ht, hactive⟩ := hactive
    exact exists_step_of_active ht hactive
  · -- All workers are free, so that an item waits, and can be taken.
    have hidle : ∀ t ∈ p.tasks, t.2.isActive = false := by simpa using hactive
    obtain ⟨tasks, waiting, failure⟩ := p
    cases waiting with
    | nil => exact absurd ⟨rfl, hidle⟩ h
    | cons a rest =>
      have hcount : tasks.countP (·.2.isActive) = 0 := List.countP_eq_zero.mpr fun t ht => by simp [hidle t ht]
      exact ⟨_, .launch (hcount ▸ hlimit)⟩

/-! ## What every step keeps -/

/-- The pool runs the tasks of these items, and what it says of them is true. -/
structure Sound (work : α → Except ε β) (items : List α) (p : Pool α β ε) : Prop where
  items_eq : p.tasks.map (·.1) ++ p.waiting = items
  result : ∀ t ∈ p.tasks, ∀ b, t.2 = .ended (some b) → work t.1 = .ok b
  failure : ∀ e, p.failure = some e → ∃ a ∈ items, work a = .error e
  /-- A task ends without a result only if there is a failure. -/
  complete : p.failure = none → ∀ t ∈ p.tasks, t.2 ≠ .ended none

theorem sound_start (work : α → Except ε β) (items : List α) : Sound work items (start items) :=
  ⟨rfl, by simp [start], by simp [start], by simp [start]⟩

/-- A task that goes on to another stage keeps the pool sound, if what it says there is true. -/
theorem Sound.update {before after : List (α × Stage β)} {a : α} {stage stage' : Stage β} {waiting : List α}
    {failure failure' : Option ε} (h : Sound work items ⟨before ++ (a, stage) :: after, waiting, failure⟩)
    (hresult : ∀ b, stage' = .ended (some b) → work a = .ok b)
    (hfailure : ∀ e, failure' = some e → failure = some e ∨ work a = .error e)
    (hcomplete : failure' = none → failure = none ∧ stage' ≠ .ended none) :
    Sound work items ⟨before ++ (a, stage') :: after, waiting, failure'⟩ := by
  have hitems : (before.map (·.1) ++ a :: after.map (·.1)) ++ waiting = items := by simpa using h.items_eq
  have hother : ∀ t ∈ before ++ (a, stage') :: after,
      t ∈ before ++ (a, stage) :: after ∨ t = (a, stage') := by
    intro t ht
    simp only [List.mem_append, List.mem_cons] at ht ⊢
    tauto
  refine ⟨by simpa using hitems, fun t ht b hb => ?_, fun e he => ?_, fun hnone t ht => ?_⟩
  · rcases hother t ht with ht | rfl
    · exact h.result t ht b hb
    · exact hresult b hb
  · rcases hfailure e he with he | he
    · exact h.failure e he
    · exact ⟨a, by rw [← hitems]; simp, he⟩
  · obtain ⟨hbefore, hstage⟩ := hcomplete hnone
    rcases hother t ht with ht | rfl
    · exact h.complete hbefore t ht
    · exact hstage

/-- **Every step keeps a pool sound.** -/
theorem Sound.step (h : Sound work items p) (hstep : Step work limit p q) : Sound work items q := by
  cases hstep with
  | launch room =>
    refine ⟨by simpa using h.items_eq, fun t ht b hb => ?_, h.failure, fun hnone t ht => ?_⟩
    · rcases List.mem_append.mp ht with ht | ht
      · exact h.result t ht b hb
      · cases List.mem_singleton.mp ht
        cases hb
    · rcases List.mem_append.mp ht with ht | ht
      · exact h.complete hnone t ht
      · cases List.mem_singleton.mp ht
        simp
  | proceed => exact h.update (by simp) (by simp) (by simp)
  | giveUp => exact h.update (by simp) (fun e he => .inl he) (by simp)
  | succeed hwork => exact h.update (by simpa using hwork) (fun e he => .inl he) (by simp)
  | fail hwork =>
    refine h.update (by simp) (fun e he => ?_) (by simp)
    obtain he | ⟨-, he⟩ := Option.or_eq_some_iff.mp he
    · exact .inl he
    · exact .inr (by rw [hwork, Option.some.inj he])

/-- **Every schedule of a sound pool comes to an end, with what is true of all sound pools that are over.** -/
theorem ends_of_sound {P : Except ε (List β) → Prop} (hlimit : 0 < limit)
    (hP : ∀ q : Pool α β ε, Sound work items q → q.IsOver → P q.outcome) (h : Sound work items p) :
    Ends work limit P p := by
  induction hn : p.weight using Nat.strongRecOn generalizing p with
  | ind n ih =>
    by_cases hover : p.IsOver
    · exact .finished hover (hP p h hover)
    · refine .step (exists_step hlimit hover) fun q hstep => ?_
      exact ih q.weight (hn ▸ hstep.weight_lt) (h.step hstep) rfl

/-! ## Outcomes -/

theorem Sound.map_fst (h : Sound work items p) (hover : p.IsOver) : p.tasks.map (·.1) = items := by
  simpa [hover.1] using h.items_eq

/-- When a pool is over, a task has left its result, unless there is a failure. -/
theorem Sound.result_or_failure (h : Sound work items p) (hover : p.IsOver) {t : α × Stage β} (ht : t ∈ p.tasks) :
    (∃ b, t.2.result? = some b ∧ work t.1 = .ok b) ∨ ∃ e, p.failure = some e := by
  have hidle := hover.2 t ht
  cases hstage : t.2 with
  | started => simp [hstage, Stage.isActive] at hidle
  | working => simp [hstage, Stage.isActive] at hidle
  | ended result =>
    cases result with
    | some b => exact .inl ⟨b, rfl, h.result t ht b hstage⟩
    | none =>
      refine .inr (Option.ne_none_iff_exists'.mp fun hnone => ?_)
      exact h.complete hnone t ht hstage

theorem Sound.outcome_ok {f : α → β} (h : Sound work items p) (hover : p.IsOver)
    (hwork : ∀ a ∈ items, work a = .ok (f a)) : p.outcome = .ok (items.map f) := by
  have hnone : p.failure = none := by
    refine Option.eq_none_iff_forall_ne_some.mpr fun e he => ?_
    obtain ⟨a, ha, herror⟩ := h.failure e he
    cases (hwork a ha).symm.trans herror
  have hitems := h.map_fst hover
  have hresult : ∀ t ∈ p.tasks, t.2.result? = some (f t.1) := by
    intro t ht
    obtain ⟨b, hb, hok⟩ | ⟨e, he⟩ := h.result_or_failure hover ht
    · cases hok.symm.trans (hwork t.1 (hitems ▸ List.mem_map_of_mem ht))
      exact hb
    · simp [hnone] at he
  have hfilterMap : p.tasks.filterMap (·.2.result?) = p.tasks.map fun t => f t.1 := by
    rw [← List.filterMap_eq_map]
    exact List.filterMap_congr hresult
  rw [outcome, hnone, hfilterMap, ← hitems, List.map_map]
  rfl

theorem Sound.outcome_error (h : Sound work items p) (hover : p.IsOver) (hwork : ∃ a ∈ items, ∃ e, work a = .error e) :
    ∃ a ∈ items, ∃ e, work a = .error e ∧ p.outcome = .error e := by
  obtain ⟨e, he⟩ : ∃ e, p.failure = some e := by
    obtain ⟨a, ha, e, herror⟩ := hwork
    rw [← h.map_fst hover] at ha
    obtain ⟨t, ht, rfl⟩ := List.mem_map.mp ha
    obtain ⟨b, -, hok⟩ | hfailure := h.result_or_failure hover ht
    · cases hok.symm.trans herror
    · exact hfailure
  obtain ⟨a, ha, herror⟩ := h.failure e he
  exact ⟨a, ha, e, herror, by rw [outcome, he]⟩

/-- **Without a failing task, every schedule gives the results in the order of the items.** -/
theorem ends_ok {f : α → β} (hlimit : 0 < limit) (hwork : ∀ a ∈ items, work a = .ok (f a)) :
    Ends work limit (· = .ok (items.map f)) (start items) :=
  ends_of_sound hlimit (fun _ hsound hover => hsound.outcome_ok hover hwork) (sound_start work items)

/-- **With a failing task, every schedule gives the failure of some task, and no results.** -/
theorem ends_error (hlimit : 0 < limit) (hwork : ∃ a ∈ items, ∃ e, work a = .error e) :
    Ends work limit (fun outcome => ∃ a ∈ items, ∃ e, work a = .error e ∧ outcome = .error e) (start items) :=
  ends_of_sound hlimit (fun _ hsound hover => hsound.outcome_error hover hwork) (sound_start work items)

end Pool

end HouseStyle
