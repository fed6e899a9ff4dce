import MetalAngle.Metal.CommandQueueSerials

/-!
# What `ensureResourceReadyForCPU` guarantees when it returns

An entry that a caller has taken off `mMetalCmdBuffers` and is still waiting for is no
longer visible to any other caller.  A caller that then finds the queue empty leaves its
loop although the command buffer still runs.  This module gives the interleaving that does
so, and the condition on the loop test under which a return is safe.
-/

namespace MetalAngle.Metal.QueueThreads

open LabelledRun List
open Function (update update_self update_of_ne)

/-- Every committed command buffer up to the resource's serial has finished. -/
def ReadyForCPU (s : State) (resource : Nat) : Prop :=
  ∀ serial, s.status serial = .committed → serial ≤ s.resourceSerial resource →
    serial ≤ s.gpuCompleted

/-- The step is `thread`'s last loop test in `ensureResourceReadyForCPU(resource)`: it leaves
the loop and returns. -/
def Returns (s : State) (thread resource : Nat) (t : State) : Prop :=
  s.threads thread = .ensuring resource ∧ step s (.ensureTest thread) = some t ∧
    t.threads thread = .idle

/-- The command buffers that a blocked caller has taken off the queue. -/
def InHand (s : State) (serial : Nat) : Prop :=
  serial ∈ s.queue.mMetalCmdBuffersTmp ∨
    ∃ thread resource, s.threads thread = .waiting resource serial

/-- The loop test does not find the queue emptied by callers that still wait for a running
command buffer of the resource, and `finishAllCommands` is not entered twice at a time (its
second loop and `mMetalCmdBuffersTmp` are outside the lock). -/
def NotOvertaking (s : State) : Action → Prop
  | .ensureTest thread =>
      ∀ resource, s.threads thread = .ensuring resource →
        s.queue.isResourceBeingUsedByGPU (s.resourceSerial resource) →
        s.queue.mMetalCmdBuffers = [] →
        ∀ serial, InHand s serial → s.status serial = .committed →
          serial ≤ s.resourceSerial resource → serial ≤ s.gpuCompleted
  | .finishBegin _ => ∀ thread index, s.threads thread ≠ .finishing index
  | _ => True

/-- Where every command buffer that may still run can be found. -/
structure WaitInv (s : State) : Prop where
  serials : SerialInv s
  finisher_unique : ∀ t t' i i', s.threads t = .finishing i → s.threads t' = .finishing i' → t = t'
  tmp_empty : (∀ t i, s.threads t ≠ .finishing i) → s.queue.mMetalCmdBuffersTmp = []
  tmp_done : ∀ t i, s.threads t = .finishing i → ∀ j < i, ∀ e,
    s.queue.mMetalCmdBuffersTmp[j]? = some e → e ≤ s.gpuCompleted
  tracked : ∀ n, 0 < n → n < s.queue.mQueueSerialCounter → s.gpuCompleted < n →
    n ∈ s.queue.mMetalCmdBuffers ∨ InHand s n

theorem waitInv_initial : WaitInv initial where
  serials := serialInv_initial
  finisher_unique := fun _ _ _ _ h => by simp [initial] at h
  tmp_empty := fun _ => rfl
  tmp_done := fun _ _ h => by simp [initial] at h
  tracked := fun n hpos hlt _ => by
    have : n < 1 := hlt
    omega

variable {s t : State}

theorem waitInv_of_queue (h : WaitInv s) (hserials : SerialInv t) (hthreads : t.threads = s.threads)
    (htmp : t.queue.mMetalCmdBuffersTmp = s.queue.mMetalCmdBuffersTmp)
    (hgpu : s.gpuCompleted ≤ t.gpuCompleted)
    (htracked : ∀ n, 0 < n → n < t.queue.mQueueSerialCounter → t.gpuCompleted < n →
      n ∈ t.queue.mMetalCmdBuffers ∨ InHand s n) : WaitInv t where
  serials := hserials
  finisher_unique := by rw [hthreads]; exact h.finisher_unique
  tmp_empty := by rw [hthreads, htmp]; exact h.tmp_empty
  tmp_done := by
    rw [hthreads, htmp]
    intro thread i hi j hj e he
    exact (h.tmp_done thread i hi j hj e he).trans hgpu
  tracked := by
    intro n hpos hlt hrun
    simpa only [InHand, hthreads, htmp] using htracked n hpos hlt hrun

/-- A thread that moves between states outside `finishAllCommands`. -/
theorem waitInv_of_thread (thread : Nat) {st : ThreadState} (h : WaitInv s)
    (hserials : SerialInv t) (hthreads : t.threads = update s.threads thread st)
    (hbefore : ∀ i, s.threads thread ≠ .finishing i) (hafter : ∀ i, st ≠ .finishing i)
    (htmp : t.queue.mMetalCmdBuffersTmp = s.queue.mMetalCmdBuffersTmp)
    (hgpu : t.gpuCompleted = s.gpuCompleted)
    (htracked : ∀ n, 0 < n → n < t.queue.mQueueSerialCounter → s.gpuCompleted < n →
      n ∈ t.queue.mMetalCmdBuffers ∨ InHand t n) : WaitInv t := by
  -- the finishing threads are the same before and after
  have hfinishing : ∀ t' i, t.threads t' = .finishing i ↔ s.threads t' = .finishing i := by
    intro t' i
    rw [hthreads]
    by_cases ht : t' = thread
    · subst ht
      simp [hbefore i, hafter i]
    · rw [update_of_ne ht]
  exact {
    serials := hserials
    finisher_unique := fun t₁ t₂ i i' h₁ h₂ =>
      h.finisher_unique t₁ t₂ i i' ((hfinishing t₁ i).mp h₁) ((hfinishing t₂ i').mp h₂)
    tmp_empty := fun hnone =>
      htmp ▸ h.tmp_empty fun t' i hi => hnone t' i ((hfinishing t' i).mpr hi)
    tmp_done := fun t' i hi => by
      rw [htmp, hgpu]
      exact h.tmp_done t' i ((hfinishing t' i).mp hi)
    tracked := fun n hpos hlt hrun => htracked n hpos hlt (hgpu ▸ hrun) }

theorem inHand_of_update (thread : Nat) {n : Nat} {st : ThreadState}
    (hhand : InHand s n) (hthreads : t.threads = update s.threads thread st)
    (htmp : t.queue.mMetalCmdBuffersTmp = s.queue.mMetalCmdBuffersTmp)
    (hbefore : ∀ resource, s.threads thread ≠ .waiting resource n) : InHand t n := by
  rcases hhand with hmem | ⟨t', resource, ht'⟩
  · exact .inl (htmp ▸ hmem)
  · refine .inr ⟨t', resource, ?_⟩
    have hne : t' ≠ thread := by
      rintro rfl
      exact hbefore resource ht'
    rw [hthreads, update_of_ne hne, ht']

variable {thread : Nat}

theorem waitInv_finishBegin (h : WaitInv s)
    (hidle : s.threads thread = .idle) (hnone : ∀ t i, s.threads t ≠ .finishing i) :
    WaitInv (State.setThread { s with queue := s.queue.moveToTmp } thread (.finishing 0)) where
  serials := serialInv_of_sublist h.serials (nil_sublist _) rfl rfl rfl rfl rfl
  finisher_unique := by
    have honly : ∀ t i, update s.threads thread (.finishing 0) t = .finishing i → t = thread := by
      intro t i hi
      by_contra hne
      rw [update_of_ne hne] at hi
      exact hnone t i hi
    intro t t' i i' hi hi'
    exact (honly t i hi).trans (honly t' i' hi').symm
  tmp_empty := fun hall => absurd (update_self thread _ s.threads) (hall thread 0)
  tmp_done := by
    intro t i hi j hj e he
    have hzero : i = 0 := by
      by_cases ht : t = thread
      · subst ht
        simpa using hi.symm
      · exact absurd (by simpa [update_of_ne ht] using hi) (hnone t i)
    omega
  tracked := by
    intro n hpos hlt hrun
    refine .inr ?_
    rcases h.tracked n hpos hlt hrun with hqueue | hmem | ⟨t, resource, ht⟩
    · exact .inl (mem_append.mpr (.inr hqueue))
    · exact .inl (mem_append.mpr (.inl hmem))
    · refine .inr ⟨t, resource, ?_⟩
      have hne : t ≠ thread := by
        rintro rfl
        rw [hidle] at ht
        contradiction
      simpa [update_of_ne hne] using ht

theorem waitInv_finishWaited {index serial : Nat} (h : WaitInv s)
    (hthread : s.threads thread = .finishing index)
    (hentry : s.queue.mMetalCmdBuffersTmp[index]? = some serial) (hdone : serial ≤ s.gpuCompleted) :
    WaitInv (s.setThread thread (.finishing (index + 1))) where
  serials := serialInv_of_sublist h.serials (List.Sublist.refl _) rfl rfl rfl rfl rfl
  finisher_unique := by
    have honly : ∀ t i, update s.threads thread (.finishing (index + 1)) t =
        .finishing i → t = thread := by
      intro t i hi
      by_contra hne
      rw [update_of_ne hne] at hi
      exact hne (h.finisher_unique t thread i index hi hthread)
    intro t t' i i' hi hi'
    exact (honly t i hi).trans (honly t' i' hi').symm
  tmp_empty := fun hall => absurd (update_self thread _ s.threads) (hall thread _)
  tmp_done := by
    intro t i hi j hj e he
    by_cases ht : t = thread
    · subst ht
      have hi' : index + 1 = i := by simpa using hi
      by_cases hlast : j = index
      · subst hlast
        obtain rfl : e = serial := Option.some.inj (he.symm.trans hentry)
        exact hdone
      · exact h.tmp_done t index hthread j (by omega) e he
    · exact h.tmp_done t i (by simpa [update_of_ne ht] using hi) j hj e he
  tracked := by
    intro n hpos hlt hrun
    refine (h.tracked n hpos hlt hrun).imp_right fun hhand => ?_
    exact inHand_of_update thread hhand rfl rfl (by simp [hthread])

theorem waitInv_finishEnd {index : Nat} (h : WaitInv s)
    (hthread : s.threads thread = .finishing index)
    (hlen : s.queue.mMetalCmdBuffersTmp.length ≤ index) :
    WaitInv (State.setThread { s with queue := { s.queue with mMetalCmdBuffersTmp := [] } }
      thread .idle) where
  serials := serialInv_of_sublist h.serials (List.Sublist.refl _) rfl rfl rfl rfl rfl
  finisher_unique := by
    intro t t' i i' hi
    by_cases ht : t = thread
    · subst ht
      simp at hi
    · rw [setThread_threads, update_of_ne ht] at hi
      exact absurd (h.finisher_unique t thread i index hi hthread) ht
  tmp_empty := fun _ => rfl
  tmp_done := fun _ _ _ _ _ _ he => by simp at he
  tracked := by
    intro n hpos hlt hrun
    refine (h.tracked n hpos hlt hrun).imp_right fun hhand => ?_
    rcases hhand with hmem | ⟨t, resource, ht⟩
    · -- everything in the temporary list has been waited for
      obtain ⟨j, hj, hget⟩ := mem_iff_getElem.mp hmem
      have hle := h.tmp_done thread index hthread j (by omega) n
        ((getElem?_eq_getElem hj).trans (congrArg some hget))
      exact absurd hrun (by simpa using hle)
    · refine .inr ⟨t, resource, ?_⟩
      have hne : t ≠ thread := by
        rintro rfl
        rw [hthread] at ht
        contradiction
      simpa [update_of_ne hne] using ht

theorem waitInv_step {a : Action} (h : WaitInv s) (hguard : NotOvertaking s a)
    (hstep : step s a = some t) : WaitInv t := by
  have hserials := serialInv_step h.serials hstep
  cases step_stepped hstep with
  | make =>
    refine waitInv_of_queue h hserials rfl rfl (le_refl _) fun n hpos hlt hrun => ?_
    have hlt' : n < s.queue.mQueueSerialCounter + 1 := hlt
    by_cases hnew : n = s.queue.mQueueSerialCounter
    · exact .inl (mem_append.mpr (.inr (mem_singleton.mpr hnew)))
    · exact (h.tracked n hpos (by omega) hrun).imp_left fun hmem =>
        mem_append.mpr (.inl hmem)
  | setUsed | resetResource | notifyCommitted | commit =>
      exact waitInv_of_queue h hserials rfl rfl (le_refl _) h.tracked
  | gpuComplete =>
      exact waitInv_of_queue h hserials rfl rfl (Nat.le_succ _) fun n hpos hlt hrun =>
        h.tracked n hpos hlt (Nat.lt_of_succ_lt hrun)
  | completedHandler serial hdone =>
      obtain ⟨-, hkept, -, htmp, hcounter, -⟩ := s.queue.onCommandBufferCompleted_spec serial
      refine waitInv_of_queue h hserials rfl htmp (le_refl _) fun n hpos hlt hrun => ?_
      exact (h.tracked n hpos (hcounter ▸ hlt) hrun).imp_left fun hmem =>
        hkept n hmem (hdone.trans_lt hrun)
  | ensureBegin thread resource hidle =>
      refine waitInv_of_thread thread h hserials rfl (by simp [hidle]) (by simp) rfl
        rfl fun n hpos hlt hrun => ?_
      exact (h.tracked n hpos hlt hrun).imp_right fun hhand =>
        inHand_of_update thread hhand rfl rfl (by simp [hidle])
  | ensurePop thread resource front rest hthread _ hqueue =>
    refine waitInv_of_thread thread h hserials rfl (by simp [hthread]) (by simp) rfl
      rfl fun n hpos hlt hrun => ?_
    rcases h.tracked n hpos hlt hrun with hmem | hhand
    · -- the popped entry moves from the queue into the hand of `thread`
      rw [hqueue] at hmem
      rcases mem_cons.mp hmem with rfl | hrest
      · exact .inr (.inr ⟨thread, resource, update_self thread _ s.threads⟩)
      · exact .inl hrest
    · exact .inr (inHand_of_update thread hhand rfl rfl (by simp [hthread]))
  | ensureReturn thread resource hthread =>
      refine waitInv_of_thread thread h hserials rfl (by simp [hthread]) (by simp) rfl
        rfl fun n hpos hlt hrun => ?_
      exact (h.tracked n hpos hlt hrun).imp_right fun hhand =>
        inHand_of_update thread hhand rfl rfl (by simp [hthread])
  | ensureWaited thread resource serial hthread hdone =>
    refine waitInv_of_thread thread h hserials rfl (by simp [hthread]) (by simp) rfl
      rfl fun n hpos hlt hrun => ?_
    refine (h.tracked n hpos hlt hrun).imp_right fun hhand =>
      inHand_of_update thread hhand rfl rfl fun resource' hwaiting => ?_
    -- the entry that is put down has finished
    rw [hthread] at hwaiting
    obtain ⟨-, rfl⟩ : resource = resource' ∧ serial = n := by simpa using hwaiting
    omega
  | finishBegin thread hidle => exact waitInv_finishBegin h hidle hguard
  | finishWaited thread index serial hthread hentry hdone =>
      exact waitInv_finishWaited h hthread hentry hdone
  | finishEnd thread index hthread hlen => exact waitInv_finishEnd h hthread hlen

theorem waitInv_run {as : List Action} (hrun : Run step NotOvertaking s as t)
    (hs : WaitInv s) : WaitInv t :=
  hrun.invariant (fun _ _ _ h hguard hstep => waitInv_step h hguard hstep) hs

theorem returns_eq {resource : Nat} (hret : Returns s thread resource t) :
    t = s.setThread thread .idle ∧
      (s.queue.isResourceBeingUsedByGPU (s.resourceSerial resource) = false ∨
        s.queue.mMetalCmdBuffers = []) := by
  obtain ⟨hthread, hstep, hidle⟩ := hret
  cases step_stepped hstep with
  | ensurePop => simp at hidle
  | ensureReturn _ resource' hthread' hleave =>
      obtain rfl : resource = resource' := by simpa [hthread] using hthread'
      exact ⟨rfl, hleave⟩

/-- A return whose loop test does not overtake a waiting caller is safe. -/
theorem readyForCPU_of_notOvertaking {resource : Nat} (h : WaitInv s)
    (hret : Returns s thread resource t) (hguard : NotOvertaking s (.ensureTest thread)) :
    ReadyForCPU t resource := by
  obtain ⟨rfl, hleave⟩ := returns_eq hret
  intro serial hcommitted hle
  change serial ≤ s.gpuCompleted
  by_contra hrun
  have hused : s.queue.isResourceBeingUsedByGPU (s.resourceSerial resource) := by
    by_contra hfree
    exact hrun (completed_of_not_used h.serials (by simpa using hfree) hle)
  have hempty : s.queue.mMetalCmdBuffers = [] := by
    rcases hleave with hfree | hempty
    · rw [hused] at hfree
      contradiction
    · exact hempty
  have hlt : serial < s.queue.mQueueSerialCounter := by
    have hnotified := h.serials.status_le serial (by
      have hstatus : s.status serial = .committed := hcommitted
      rw [hstatus]
      decide)
    exact hnotified.trans_lt h.serials.committed_lt
  rcases h.tracked serial (by omega) hlt (by omega) with hmem | hhand
  · rw [hempty] at hmem
    contradiction
  · exact hrun (hguard resource hret.1 hused hempty serial hhand hcommitted hle)

/-- In a run that has not overtaken a waiting caller before, a call of
`ensureResourceReadyForCPU` returns with every committed command buffer of the resource
finished exactly when its last loop test does not overtake one either. -/
theorem readyForCPU_iff_notOvertaking {s t : State} {as : List Action} {thread resource : Nat}
    (hrun : Run step NotOvertaking initial as s) (hret : Returns s thread resource t) :
    ReadyForCPU t resource ↔ NotOvertaking s (.ensureTest thread) := by
  constructor
  · intro hready resource' hthread _ _ serial _ hcommitted hle
    obtain ⟨rfl, -⟩ := returns_eq hret
    obtain rfl : resource = resource' := by simpa [hret.1] using hthread
    exact hready serial hcommitted hle
  · exact readyForCPU_of_notOvertaking (waitInv_run hrun waitInv_initial) hret

def queueFilled (s : State) : Action → Bool
  | .ensureTest _ => !s.queue.mMetalCmdBuffers.isEmpty
  | .finishBegin _ => false
  | _ => true

theorem notOvertaking_of_queueFilled (s : State) (a : Action) (hfilled : queueFilled s a) :
    NotOvertaking s a := by
  cases a with
  | ensureTest thread =>
      intro resource _ _ hempty
      simp [queueFilled, hempty] at hfilled
  | finishBegin thread => simp [queueFilled] at hfilled
  | _ => trivial

/-- A lone caller: its loop pops command buffer 1, waits for it and, before the completed
handler has run, is about to leave the loop because the queue is empty. -/
def loneCaller : List Action :=
  [.makeMetalCommandBuffer, .setUsedByCommandBufferWithQueueSerial 0 1,
    .onCommandBufferCommitted 1, .commit 1, .ensureBegin 1 0, .ensureTest 1, .gpuComplete,
    .ensureWaited 1]

theorem readyForCPU_iff_notOvertaking_loneCaller :
    ∃ s t : State, exec (checked step queueFilled) initial loneCaller = some s ∧ Returns s 1 0 t ∧
      t.status 1 = .committed ∧ t.resourceSerial 0 = 1 ∧ ReadyForCPU t 0 := by
  have hexec : ∃ s t, exec (checked step queueFilled) initial loneCaller = some s ∧
      Returns s 1 0 t ∧ s.gpuCompleted = 1 ∧ t.status 1 = .committed ∧
      t.resourceSerial 0 = 1 := ⟨_, _, rfl, ⟨rfl, rfl, rfl⟩, rfl, rfl, rfl⟩
  obtain ⟨s, t, hexec, hret, hdone, hstatus, hserial⟩ := hexec
  refine ⟨s, t, hexec, hret, hstatus, hserial, ?_⟩
  refine (readyForCPU_iff_notOvertaking
    (Run.of_exec_checked queueFilled notOvertaking_of_queueFilled hexec) hret).mpr ?_
  intro resource hthread _ _ serial _ _ hle
  obtain rfl : 0 = resource := by simpa [hret.1] using hthread
  rw [hdone]
  obtain ⟨rfl, -⟩ := returns_eq hret
  exact hle.trans_eq hserial

/-- Two callers ensure the same resource.  The first pops command buffer 1 and waits for it;
the second finds the queue empty and returns while the command buffer still runs. -/
theorem not_readyForCPU_two_callers :
    ∃ s t : State,
      exec step initial [.makeMetalCommandBuffer, .setUsedByCommandBufferWithQueueSerial 0 1,
        .onCommandBufferCommitted 1, .commit 1, .ensureBegin 1 0, .ensureTest 1,
        .ensureBegin 2 0] = some s ∧
      Returns s 2 0 t ∧ t.gpuCompleted = 0 ∧ ¬ ReadyForCPU t 0 := by
  refine ⟨_, _, rfl, ⟨rfl, rfl, rfl⟩, rfl, ?_⟩
  intro hready
  have hdone : 1 ≤ 0 := hready 1 rfl (le_refl 1)
  omega

end MetalAngle.Metal.QueueThreads
