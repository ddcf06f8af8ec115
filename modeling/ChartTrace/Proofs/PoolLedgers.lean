import ChartTrace.Proofs.PoolSteps

namespace ChartTrace

/-!
# Ledgers of a worker pool

Beside a pool a ledger is kept for every generation: which jobs it accepted, which its workers began,
and which they ended.

* `Ledger`, `PoolHistory`: the ledgers of the generations, and of the stops that have returned;
* `follow?`: a pool and its history after some steps, when jobs return;
* `Accounts`: each ledger tells where the jobs of its generation are, and all workers are there;
* `Accounts.step`, `Accounts.follow`: whatever callers and workers do.
-/

open scoped List

variable {α β γ : Type}

/-! ### Two things for each generation -/

namespace PerGeneration

/-- The same generations have a thing on both sides, and the two are related. -/
def Agree (r : β → γ → Prop) (s : PerGeneration β) (t : PerGeneration γ) : Prop :=
  ∀ ref, Option.Rel r (s.get? ref) (t.get? ref)

namespace Agree

variable {r : β → γ → Prop} {s : PerGeneration β} {t : PerGeneration γ}

/-- What is on the left side has its counterpart on the right. -/
theorem exists_right (h : s.Agree r t) {ref : GenerationRef} {b : β} (hb : s.get? ref = some b) :
    ∃ c, t.get? ref = some c ∧ r b c := by
  have href := h ref
  rw [hb] at href
  generalize t.get? ref = o at href
  cases href with
  | some hr => exact ⟨_, rfl, hr⟩

/-- What is on the right side has its counterpart on the left. -/
theorem exists_left (h : s.Agree r t) {ref : GenerationRef} {c : γ} (hc : t.get? ref = some c) :
    ∃ b, s.get? ref = some b ∧ r b c := by
  have href := h ref
  rw [hc] at href
  generalize s.get? ref = o at href
  cases href with
  | some hr => exact ⟨_, rfl, hr⟩

/-- Agreement by one relation is agreement by a weaker one. -/
theorem mono {r' : β → γ → Prop} (h : s.Agree r t) (hr : ∀ b c, r b c → r' b c) :
    s.Agree r' t := by
  intro ref
  have href := h ref
  generalize s.get? ref = o at href ⊢
  generalize t.get? ref = o' at href ⊢
  cases href with
  | some h => exact .some (hr _ _ h)
  | none => exact .none

/-- A change of both things at one generation keeps the agreement at the others. -/
theorem set (h : s.Agree r t) {ref : GenerationRef} {b b' : β} {c c' : γ}
    (hb : s.get? ref = some b) (hc : t.get? ref = some c) (hr : r b' c') :
    (s.set ref b').Agree r (t.set ref c') := by
  intro ref'
  rw [get?_set hb, get?_set hc]
  split
  · exact .some hr
  · exact h ref'

/-- As many generations are being closed on both sides. -/
theorem length_closing (h : s.Agree r t) : s.closing.length = t.closing.length := by
  -- A list ends where nothing belongs to an index any more, and this is the same index on both sides.
  have hnone : ∀ index : Nat, s.closing[index]? = none ↔ t.closing[index]? = none := by
    intro index
    have hindex : Option.Rel r s.closing[index]? t.closing[index]? := h (.closing index)
    generalize s.closing[index]? = o at hindex ⊢
    generalize t.closing[index]? = o' at hindex ⊢
    cases hindex <;> simp
  have hs := hnone s.closing.length
  have ht := hnone t.closing.length
  simp only [List.getElem?_eq_none_iff, Nat.le_refl, true_iff, iff_true] at hs ht
  omega

/-- Both running generations become the last ones that are being closed. -/
theorem close (h : s.Agree r t) : s.close.Agree r t.close := by
  have hrunning : Option.Rel r s.running t.running := h .running
  intro ref
  cases ref with
  | running => exact .none
  | closing index =>
    have hindex : Option.Rel r s.closing[index]? t.closing[index]? := h (.closing index)
    have hlength := h.length_closing
    simp only [get?, PerGeneration.close, List.getElem?_append, hlength]
    split
    · exact hindex
    · -- An index behind those that were being closed is that of the running generation, or of none.
      generalize s.running = o at hrunning ⊢
      generalize t.running = o' at hrunning ⊢
      cases hrunning with
      | none => exact .none
      | some hr =>
        cases index - t.closing.length with
        | zero => exact .some hr
        | succ n => exact .none

/-- Both sides forget the same generation, and the later ones move up. -/
theorem remove (h : s.Agree r t) (index : Nat) : (s.remove index).Agree r (t.remove index) := by
  intro ref
  cases ref with
  | running => exact h .running
  | closing index' =>
    simp only [get?, PerGeneration.remove, List.getElem?_eraseIdx]
    split
    · exact h (.closing index')
    · exact h (.closing (index' + 1))

end Agree

end PerGeneration

/-! ### Ledgers -/

/-- What became of the jobs of one generation. -/
structure Ledger (α : Type) where
  /-- The jobs that were queued, the first one first. -/
  accepted : List α
  /-- The jobs that workers began, in the order in which they did. -/
  begun : List α
  /-- The jobs that workers ended. -/
  ended : List α

namespace Ledger

/-- The ledger of workers that have not been given a job. -/
def blank : Ledger α := ⟨[], [], []⟩

/-- Notes a job that has been handed in. -/
def accept (job : α) (l : Ledger α) : Ledger α := { l with accepted := l.accepted ++ [job] }

/-- Notes a job that a worker has taken. -/
def begin (job : α) (l : Ledger α) : Ledger α := { l with begun := l.begun ++ [job] }

/-- Notes a job that a worker has come back from. -/
def finish (job : α) (l : Ledger α) : Ledger α := { l with ended := job :: l.ended }

/-- Jobs are begun in the order in which they were accepted, those that are not yet begun wait, and
    those that have begun and not ended are with the workers. -/
structure Matches (l : Ledger α) (g : Generation α) : Prop where
  accepted_eq : l.accepted = l.begun ++ g.queue
  begun_perm : l.begun ~ l.ended ++ g.busyJobs

/-- Every accepted job was begun once and has ended. -/
structure IsSettled (l : Ledger α) : Prop where
  begun_eq : l.begun = l.accepted
  ended_perm : l.ended ~ l.accepted

/-- With no job waiting and none with a worker, nothing of a ledger is open. -/
theorem Matches.isSettled {l : Ledger α} {g : Generation α} (h : l.Matches g)
    (hqueue : g.queue = []) (hbusy : g.busyJobs = []) : l.IsSettled := by
  have haccepted := h.accepted_eq
  have hbegun := h.begun_perm
  rw [hqueue, List.append_nil] at haccepted
  rw [hbusy, List.append_nil] at hbegun
  exact ⟨haccepted.symm, haccepted ▸ hbegun.symm⟩

end Ledger

/-- The ledgers of a pool: those of its generations, and those of the stops that have returned. -/
structure PoolHistory (α : Type) where
  ledgers : PerGeneration (Ledger α)
  returned : List (Ledger α)

namespace PoolHistory

/-- The history of a pool that was never started. -/
def blank : PoolHistory α := ⟨⟨none, []⟩, []⟩

/-- All ledgers that were ever opened. -/
def all (h : PoolHistory α) : List (Ledger α) := h.ledgers.all ++ h.returned

/-- Makes an entry in the ledger of a generation. -/
def update (h : PoolHistory α) (ref : GenerationRef) (f : Ledger α → Ledger α) : PoolHistory α :=
  match h.ledgers.get? ref with
  | some l => { h with ledgers := h.ledgers.set ref (f l) }
  | none => h

/-- Records a step that the pool is about to make. -/
def record (p : WorkerPool α) (h : PoolHistory α) : PoolStep α → PoolHistory α
  | .start => if p.isRunning then h else { h with ledgers := { h.ledgers with running := some .blank } }
  | .submit job => h.update .running (Ledger.accept job)
  | .close => { h with ledgers := h.ledgers.close }
  | .take ref _ =>
    match (p.generation? ref).bind fun g => g.queue.head? with
    | some job => h.update ref (Ledger.begin job)
    | none => h
  | .finish ref worker =>
    match (p.generation? ref).bind fun g => g.workers[worker]?.bind Worker.job? with
    | some job => h.update ref (Ledger.finish job)
    | none => h
  | .leave _ _ => h
  | .join index =>
    { ledgers := h.ledgers.remove index
      returned := h.ledgers.closing[index]?.toList ++ h.returned }

/-- An entry changes one of the ledgers that were ever opened. -/
theorem all_update {h : PoolHistory α} {ref : GenerationRef} {l : Ledger α}
    (hl : h.ledgers.get? ref = some l) (f : Ledger α → Ledger α) :
    ∃ others, h.all ~ l :: others ∧ (h.update ref f).all ~ f l :: others := by
  obtain ⟨others, hall, hset⟩ := PerGeneration.all_set hl
  refine ⟨others ++ h.returned, hall.append_right _, ?_⟩
  rw [update, hl]
  exact (hset (f l)).append_right _

/-- A stop that returns hands its ledger over. -/
theorem all_join {h : PoolHistory α} {index : Nat} {l : Ledger α}
    (hl : h.ledgers.get? (.closing index) = some l) (p : WorkerPool α) :
    h.all ~ (h.record p (.join index)).all := by
  have hledger : h.ledgers.closing[index]? = some l := hl
  rw [record, hledger]
  exact ((PerGeneration.all_remove hl).append_right _).trans List.perm_middle.symm

/-- An entry that adds to one column adds as much to that column of all ledgers. -/
theorem flatMap_update {h : PoolHistory α} {ref : GenerationRef} {l : Ledger α}
    (hl : h.ledgers.get? ref = some l) (column : Ledger α → List α) {f : Ledger α → Ledger α}
    {added : List α} (hf : column (f l) ~ column l ++ added) :
    (h.update ref f).all.flatMap column ~ h.all.flatMap column ++ added := by
  obtain ⟨others, hall, hupdated⟩ := all_update hl f
  calc (h.update ref f).all.flatMap column
      ~ column (f l) ++ others.flatMap column := hupdated.flatMap_right column
    _ ~ column l ++ added ++ others.flatMap column := hf.append_right _
    _ = column l ++ (added ++ others.flatMap column) := List.append_assoc _ _ _
    _ ~ column l ++ (others.flatMap column ++ added) := List.perm_append_comm.append_left _
    _ = (l :: others).flatMap column ++ added := by rw [List.flatMap_cons, List.append_assoc]
    _ ~ h.all.flatMap column ++ added := (hall.symm.flatMap_right column).append_right _

end PoolHistory

/-- The pool and its history after some steps, all of which must be possible.  The jobs return. -/
def follow? : List (PoolStep α) → WorkerPool α × PoolHistory α → Option (WorkerPool α × PoolHistory α)
  | [], s => some s
  | step :: steps, (p, h) =>
    (p.step? (fun _ => false) step).bind fun p' => follow? steps (p', h.record p step)

/-! ### Ledger and generation agree -/

/-- The ledgers tell what became of the jobs of a pool, and the workers of its generations are all
    there. -/
structure Accounts (size : Nat) (p : WorkerPool α) (h : PoolHistory α) : Prop where
  size_eq : p.size = size
  agree : p.generations.Agree (fun g l => g.IsStaffed size ∧ l.Matches g) h.ledgers
  stays : ∀ g, p.running = some g → Worker.gone ∉ g.workers
  returned : ∀ l ∈ h.returned, l.IsSettled
  finished : p.finished ~ h.all.flatMap Ledger.ended

namespace Accounts

variable {size : Nat} {p p' : WorkerPool α} {h : PoolHistory α}

/-- A pool that was never started has nothing to account for.  It has one worker at least, whatever is
    asked for. -/
theorem initial (size : Nat) : Accounts (max size 1) (.ofSize size : WorkerPool α) .blank where
  size_eq := rfl
  agree ref := by cases ref <;> exact .none
  stays g hg := by cases hg
  returned l hl := by cases hl
  finished := .refl _

/-- A step at one generation, with an entry in its ledger. -/
theorem update (ha : Accounts size p h) {ref : GenerationRef} {g g' : Generation α}
    {l : Ledger α} {f : Ledger α → Ledger α} (hg : p.generations.get? ref = some g)
    (hl : h.ledgers.get? ref = some l) (hp : p'.generations = p.generations.set ref g')
    (hsize : p'.size = p.size) (hstaffed : g'.IsStaffed size) (hmatches : (f l).Matches g')
    (hstays : ref = .running → Worker.gone ∉ g'.workers)
    (hfinished : p.finished ~ h.all.flatMap Ledger.ended →
      p'.finished ~ (h.update ref f).all.flatMap Ledger.ended) :
    Accounts size p' (h.update ref f) := by
  have hupdate : h.update ref f = { h with ledgers := h.ledgers.set ref (f l) } := by
    rw [PoolHistory.update, hl]
  refine ⟨hsize.trans ha.size_eq, ?_, fun k hk => ?_, ?_, hfinished ha.finished⟩
  · rw [hp, hupdate]
    exact ha.agree.set hg hl ⟨hstaffed, hmatches⟩
  · -- The running generation is the one that has changed, or it is as it was.
    have hrunning : (p.generations.set ref g').get? .running = some k := hp ▸ hk
    rw [PerGeneration.get?_set hg] at hrunning
    split at hrunning
    · next href =>
      cases hrunning
      exact hstays href.symm
    · exact ha.stays k hrunning
  · rw [hupdate]
    exact ha.returned

/-- A worker of the running generation may begin or end a job, and is still there. -/
theorem gone_not_mem_set (ha : Accounts size p h) {ref : GenerationRef} {g g' : Generation α} {i : Nat}
    {w : Worker α} (hg : p.generations.get? ref = some g) (hset : g'.workers = g.workers.set i w)
    (hw : w ≠ .gone) (href : ref = .running) : Worker.gone ∉ g'.workers := by
  subst href
  rw [hset]
  intro hgone
  rcases List.mem_or_eq_of_mem_set hgone with hgone | hgone
  · exact ha.stays g hg hgone
  · exact hw hgone.symm

/-- Entries other than ends leave the ended jobs as they are. -/
theorem ended_update {ref : GenerationRef} {l : Ledger α} {f : Ledger α → Ledger α}
    (hl : h.ledgers.get? ref = some l) (hf : (f l).ended = l.ended) :
    (h.update ref f).all.flatMap Ledger.ended ~ h.all.flatMap Ledger.ended := by
  have hsame : (f l).ended ~ l.ended ++ [] := by rw [hf, List.append_nil]
  have hcolumn := PoolHistory.flatMap_update hl Ledger.ended hsame
  rwa [List.append_nil] at hcolumn

/-- A job that is handed in is accepted, and waits behind the others. -/
theorem submit {job : α} (ha : Accounts size p h)
    (hs : p.step? (fun _ => false) (.submit job) = some p') :
    Accounts size p' (h.record p (.submit job)) := by
  obtain ⟨g, hg, rfl⟩ := WorkerPool.step?_submit hs
  have hget : p.generations.get? .running = some g := hg
  obtain ⟨l, hl, hstaffed, hmatches⟩ := ha.agree.exists_right hget
  have hgone := ha.stays g hg
  -- A running generation has lost no worker, so that its queue may be anything.
  refine ha.update hget hl rfl rfl
    ⟨hstaffed.length_workers, hstaffed.no_death, fun hleft => (hgone hleft).elim⟩
    ⟨?_, hmatches.begun_perm⟩ (fun _ => hgone) (fun hfinished => ?_)
  · rw [Ledger.accept, hmatches.accepted_eq, List.append_assoc]
  · exact hfinished.trans (ended_update hl rfl).symm

/-- A worker takes the job that has waited longest: the job is begun, is no longer in the queue and is
    with the worker. -/
theorem take {ref : GenerationRef} {i : Nat} (ha : Accounts size p h)
    (hs : p.step? (fun _ => false) (.take ref i) = some p') :
    Accounts size p' (h.record p (.take ref i)) := by
  obtain ⟨g, g', hg, htake, rfl⟩ := WorkerPool.step?_take hs
  obtain ⟨job, hworker, hqueue, hset⟩ := Generation.take?_eq_some htake
  obtain ⟨l, hl, hstaffed, hmatches⟩ := ha.agree.exists_right hg
  have hrecord : h.record p (.take ref i) = h.update ref (Ledger.begin job) := by
    simp [PoolHistory.record, WorkerPool.generation?_eq, hg, hqueue]
  rw [hrecord]
  refine ha.update hg hl (p.generations_withGeneration ref g') (p.size_withGeneration ref g')
    (hstaffed.set hset (by simp) (by simp [hqueue]) (by simp)) ⟨?_, ?_⟩
    (ha.gone_not_mem_set hg hset (by simp)) (fun hfinished => ?_)
  · rw [Ledger.begin, hmatches.accepted_eq, hqueue, List.append_assoc]
    rfl
  · -- The worker was idle before and is at `job` now; all others are at the same jobs as before.
    obtain ⟨others, hbefore, hafter⟩ := Generation.busyJobs_set hworker hset
    have hidle : g.busyJobs ~ others := hbefore
    have hbusy : g'.busyJobs ~ job :: others := hafter
    calc l.begun ++ [job]
        ~ job :: l.begun := List.perm_append_comm
      _ ~ job :: (l.ended ++ g.busyJobs) := hmatches.begun_perm.cons job
      _ ~ l.ended ++ job :: g.busyJobs := List.perm_middle.symm
      _ ~ l.ended ++ g'.busyJobs := ((hidle.cons job).trans hbusy.symm).append_left _
  · rw [p.finished_withGeneration ref g']
    exact hfinished.trans (ended_update hl rfl).symm

/-- A worker comes back from its job: the job has ended and is no longer with the worker, and the pool
    counts it as finished. -/
theorem finish {ref : GenerationRef} {i : Nat} (ha : Accounts size p h)
    (hs : p.step? (fun _ => false) (.finish ref i) = some p') :
    Accounts size p' (h.record p (.finish ref i)) := by
  obtain ⟨g, job?, g', hg, hfinish, rfl⟩ := WorkerPool.step?_finish hs
  obtain ⟨job, hworker, rfl, hqueue, hset⟩ := Generation.finish?_eq_some hfinish
  obtain ⟨l, hl, hstaffed, hmatches⟩ := ha.agree.exists_right hg
  have hrecord : h.record p (.finish ref i) = h.update ref (Ledger.finish job) := by
    simp [PoolHistory.record, WorkerPool.generation?_eq, hg, hworker, Worker.job?]
  rw [hrecord]
  refine ha.update hg hl (p.generations_withGeneration ref g') (p.size_withGeneration ref g')
    (hstaffed.set hset (by simp) (by simp [hqueue]) (by simp)) ⟨?_, ?_⟩
    (ha.gone_not_mem_set hg hset (by simp)) (fun hfinished => ?_)
  · rw [Ledger.finish, hmatches.accepted_eq, hqueue]
  · -- The worker was at `job` before and is idle now; all others are at the same jobs as before.
    obtain ⟨others, hbefore, hafter⟩ := Generation.busyJobs_set hworker hset
    have hbusy : g.busyJobs ~ job :: others := hbefore
    have hidle : g'.busyJobs ~ others := hafter
    calc l.begun
        ~ l.ended ++ g.busyJobs := hmatches.begun_perm
      _ ~ l.ended ++ job :: g'.busyJobs := (hbusy.trans (hidle.symm.cons job)).append_left _
      _ ~ job :: l.ended ++ g'.busyJobs := List.perm_middle
  · have hended : (Ledger.finish job l).ended ~ l.ended ++ [job] :=
      (List.perm_append_singleton job l.ended).symm
    have hcolumn := PoolHistory.flatMap_update hl Ledger.ended hended
    calc job :: p.finished
        ~ p.finished ++ [job] := (List.perm_append_singleton job _).symm
      _ ~ h.all.flatMap Ledger.ended ++ [job] := hfinished.append_right _
      _ ~ (h.update ref (Ledger.finish job)).all.flatMap Ledger.ended := hcolumn.symm

/-- A worker that leaves was idle, so that no ledger changes. -/
theorem leave {index i : Nat} (ha : Accounts size p h)
    (hs : p.step? (fun _ => false) (.leave index i) = some p') :
    Accounts size p' (h.record p (.leave index i)) := by
  obtain ⟨g, g', hg, hleave, rfl⟩ := WorkerPool.step?_leave hs
  obtain ⟨hworker, hqueue, hqueue', hset⟩ := Generation.leave?_eq_some hleave
  obtain ⟨l, hl, hstaffed, hmatches⟩ := ha.agree.exists_right hg
  have hbusy : g.busyJobs ~ g'.busyJobs := by
    obtain ⟨others, hbefore, hafter⟩ := Generation.busyJobs_set hworker hset
    exact hbefore.trans hafter.symm
  -- The ledger stays as it is, which is an entry that changes nothing.
  have hrecord : h.update (.closing index) id = h := by
    obtain ⟨hindex, hget⟩ := List.getElem?_eq_some_iff.mp hl
    have hset : h.ledgers.closing.set index l = h.ledgers.closing := by
      rw [← hget, List.set_getElem_self]
    simp only [PoolHistory.update, hl, id, PerGeneration.set, hset]
  show Accounts size _ h
  rw [← hrecord]
  refine ha.update hg hl (p.generations_withGeneration (.closing index) g') rfl
    (hstaffed.set hset (by simp) (fun _ => hqueue') (fun _ => hqueue'))
    ⟨?_, hmatches.begun_perm.trans (hbusy.append_left _)⟩ (by simp)
    (fun hfinished => hfinished.trans (ended_update hl rfl).symm)
  · rw [id, hmatches.accepted_eq, hqueue, hqueue']

/-- A pool that is not running has no running ledger. -/
theorem ledger_of_stopped (ha : Accounts size p h) (hp : p.running = none) :
    h.ledgers.running = none := by
  have href : Option.Rel _ p.running h.ledgers.running := ha.agree .running
  rw [hp] at href
  generalize h.ledgers.running = o at href
  cases href
  rfl

/-- A start opens a blank ledger for new workers, or changes nothing while there are workers. -/
theorem start (ha : Accounts size p h) : Accounts size p.start (h.record p .start) := by
  rw [WorkerPool.start, PoolHistory.record]
  split
  · exact ha
  · next hstopped =>
    have hnone : p.running = none := by simpa [WorkerPool.isRunning] using hstopped
    have hledger := ha.ledger_of_stopped hnone
    refine ⟨ha.size_eq, fun ref => ?_, fun g hg => ?_, ha.returned, ?_⟩
    · cases ref with
      | running =>
        refine .some ⟨ha.size_eq ▸ Generation.isStaffed_fresh p.size, rfl, ?_⟩
        rw [Generation.busyJobs_fresh]
        exact .refl _
      | closing index => exact ha.agree (.closing index)
    · cases hg
      simp [Generation.fresh]
    · -- A blank ledger adds no job that has ended.
      have hall : h.all = h.ledgers.closing ++ h.returned := by
        simp [PoolHistory.all, PerGeneration.all, hledger]
      have hfinished := ha.finished
      rw [hall] at hfinished
      simpa [PoolHistory.all, PerGeneration.all, Ledger.blank] using hfinished

/-- Closing moves the running ledger among the others, and changes none. -/
theorem close (ha : Accounts size p h) : Accounts size p.close (h.record p .close) := by
  refine ⟨ha.size_eq, ha.agree.close, fun g hg => ?_, ha.returned, ?_⟩
  · cases hg
  · have hall := (h.ledgers.all_close.append_right h.returned).flatMap_right Ledger.ended
    exact ha.finished.trans hall.symm

/-- A stop returns when all workers of its generation have left.  By then nothing of the ledger is open. -/
theorem join {index : Nat} (ha : Accounts size p h) (hsize : 0 < size)
    (hs : p.step? (fun _ => false) (.join index) = some p') :
    Accounts size p' (h.record p (.join index)) := by
  obtain ⟨g, hg, hover, rfl⟩ := WorkerPool.step?_join hs
  obtain ⟨l, hl, hstaffed, hmatches⟩ := ha.agree.exists_right hg
  have hledger : h.ledgers.closing[index]? = some l := hl
  obtain ⟨hqueue, hbusy⟩ := hstaffed.of_isOver hsize hover
  refine ⟨ha.size_eq, ha.agree.remove index, ha.stays, ?_, ?_⟩
  · intro k hk
    rw [PoolHistory.record, hledger] at hk
    rcases List.mem_cons.mp hk with rfl | hk
    · exact hmatches.isSettled hqueue hbusy
    · exact ha.returned k hk
  · exact ha.finished.trans ((PoolHistory.all_join hl p).flatMap_right _)

/-- The workers of a running generation take jobs, so only a pool that is not running refuses one. -/
theorem submit?_eq_none_iff (ha : Accounts size p h) (hsize : 0 < size) (job : α) :
    p.submit? job = none ↔ p.running = none := by
  cases hg : p.running with
  | none => simp [WorkerPool.submit?, hg]
  | some g =>
    have hget : p.generations.get? .running = some g := hg
    obtain ⟨l, -, hstaffed, -⟩ := ha.agree.exists_right hget
    -- None of the workers has died, and none leaves a generation that runs.
    have hconnected : g.isConnected = true := by
      have hpos : 0 < g.workers.length := by rw [hstaffed.length_workers]; exact hsize
      have hmem := List.getElem_mem hpos
      refine List.any_eq_true.mpr ⟨_, hmem, ?_⟩
      cases hw : g.workers[0] with
      | idle => rfl
      | busy job => rfl
      | dead => exact (hstaffed.no_death (hw ▸ hmem)).elim
      | gone => exact (ha.stays g hg (hw ▸ hmem)).elim
    simp [WorkerPool.submit?, Generation.submit?, hg, hconnected]

/-- Step lemma: every step keeps ledgers and generations in agreement. -/
theorem step (ha : Accounts size p h) (hsize : 0 < size) {s : PoolStep α}
    (hs : p.step? (fun _ => false) s = some p') : Accounts size p' (h.record p s) := by
  cases s with
  | start =>
    cases hs
    exact ha.start
  | submit job => exact ha.submit hs
  | close =>
    cases hs
    exact ha.close
  | take ref i => exact ha.take hs
  | finish ref i => exact ha.finish hs
  | leave index i => exact ha.leave hs
  | join index => exact ha.join hsize hs

/-- Run lemma: so does every run. -/
theorem follow (ha : Accounts size p h) (hsize : 0 < size) {steps : List (PoolStep α)}
    {h' : PoolHistory α} (hs : follow? steps (p, h) = some (p', h')) : Accounts size p' h' := by
  induction steps generalizing p h with
  | nil =>
    cases hs
    exact ha
  | cons s steps ih =>
    obtain ⟨q, hq, hrest⟩ := Option.bind_eq_some_iff.mp hs
    exact ih (ha.step hsize hq) hrest

end Accounts

end ChartTrace
