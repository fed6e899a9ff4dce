import MetalAngle.Metal.CommandQueue

/-!
# Serial invariants of `CommandQueue`

What one step can do is said once, in `Stepped`; the serial invariant and the
monotonicity of the counters are read off its cases and carried over whole runs.
-/

namespace MetalAngle.Metal

open Option List
open Function (update update_of_ne)

theorem popCompleted_suffix (serial : Nat) (l : List Nat) : popCompleted serial l <:+ l := by
  induction l with
  | nil => exact suffix_refl _
  | cons front rest ih =>
      simp only [popCompleted]
      split
      · exact ih.trans (suffix_cons front rest)
      · exact suffix_refl _

variable {serial : Nat}

theorem mem_popCompleted {e : Nat} {l : List Nat} (he : e ∈ l) (hlt : serial < e) :
    e ∈ popCompleted serial l := by
  induction l with
  | nil => exact he
  | cons front rest ih =>
    simp only [popCompleted]
    split
    · rename_i hfront
      rcases mem_cons.mp he with rfl | hrest
      · omega
      · exact ih hrest
    · exact he

namespace CommandQueue

/-- Both branches of `onCommandBufferCompleted` at once: entries leave from the front only,
a kept entry is one the serial does not cover, and the serial becomes the maximum. -/
theorem onCommandBufferCompleted_spec (q : CommandQueue) (serial : Nat) :
    (q.onCommandBufferCompleted serial).mMetalCmdBuffers <:+ q.mMetalCmdBuffers ∧
    (∀ e ∈ q.mMetalCmdBuffers, serial < e →
      e ∈ (q.onCommandBufferCompleted serial).mMetalCmdBuffers) ∧
    (q.onCommandBufferCompleted serial).mCompletedBufferSerial =
      max q.mCompletedBufferSerial serial ∧
    (q.onCommandBufferCompleted serial).mMetalCmdBuffersTmp = q.mMetalCmdBuffersTmp ∧
    (q.onCommandBufferCompleted serial).mQueueSerialCounter = q.mQueueSerialCounter ∧
    (q.onCommandBufferCompleted serial).mCommittedBufferSerial = q.mCommittedBufferSerial := by
  unfold onCommandBufferCompleted
  split
  · rename_i hhandled
    exact ⟨suffix_refl _, fun e he _ => he, (max_eq_left hhandled).symm, rfl, rfl, rfl⟩
  · exact ⟨popCompleted_suffix _ _, fun e he hlt => mem_popCompleted he hlt, rfl, rfl, rfl, rfl⟩

end CommandQueue

namespace QueueThreads

open LabelledRun

@[simp] theorem setThread_queue (s : State) (t : Nat) (st : ThreadState) :
    (s.setThread t st).queue = s.queue := rfl

@[simp] theorem setThread_resourceSerial (s : State) (t : Nat) (st : ThreadState) :
    (s.setThread t st).resourceSerial = s.resourceSerial := rfl

@[simp] theorem setThread_status (s : State) (t : Nat) (st : ThreadState) :
    (s.setThread t st).status = s.status := rfl

@[simp] theorem setThread_gpuCompleted (s : State) (t : Nat) (st : ThreadState) :
    (s.setThread t st).gpuCompleted = s.gpuCompleted := rfl

@[simp] theorem setThread_threads (s : State) (t : Nat) (st : ThreadState) :
    (s.setThread t st).threads = update s.threads t st := rfl

inductive Stepped (s : State) : Action → State → Prop
  | make : Stepped s .makeMetalCommandBuffer
      { s with
        queue := s.queue.makeMetalCommandBuffer.2
        handlers := s.handlers ++ [s.queue.mQueueSerialCounter] }
  | setUsed (resource serial : Nat) :
      0 < serial → serial < s.queue.mQueueSerialCounter → s.status serial = .encoding →
      Stepped s (.setUsedByCommandBufferWithQueueSerial resource serial)
        { s with
          resourceSerial :=
            update s.resourceSerial resource (max (s.resourceSerial resource) serial) }
  | resetResource (resource : Nat) :
      Stepped s (.resetResource resource)
        { s with resourceSerial := update s.resourceSerial resource 0 }
  | notifyCommitted (serial : Nat) :
      0 < serial → serial < s.queue.mQueueSerialCounter → s.status serial = .encoding →
      Stepped s (.onCommandBufferCommitted serial)
        { s with
          queue := s.queue.onCommandBufferCommitted serial
          status := update s.status serial .committing }
  | commit (serial : Nat) :
      s.status serial = .committing →
      Stepped s (.commit serial)
        { s with status := update s.status serial .committed }
  | gpuComplete :
      s.status (s.gpuCompleted + 1) = .committed →
      Stepped s .gpuComplete { s with gpuCompleted := s.gpuCompleted + 1 }
  | completedHandler (serial : Nat) :
      serial ≤ s.gpuCompleted →
      Stepped s (.onCommandBufferCompleted serial)
        { s with
          queue := s.queue.onCommandBufferCompleted serial
          handlers := s.handlers.erase serial }
  | ensureBegin (thread resource : Nat) :
      s.threads thread = .idle →
      Stepped s (.ensureBegin thread resource) (s.setThread thread (.ensuring resource))
  | ensurePop (thread resource front : Nat) (rest : List Nat) :
      s.threads thread = .ensuring resource →
      s.queue.isResourceBeingUsedByGPU (s.resourceSerial resource) →
      s.queue.mMetalCmdBuffers = front :: rest →
      Stepped s (.ensureTest thread)
        (State.setThread { s with queue := { s.queue with mMetalCmdBuffers := rest } } thread
          (.waiting resource front))
  | ensureReturn (thread resource : Nat) :
      s.threads thread = .ensuring resource →
      s.queue.isResourceBeingUsedByGPU (s.resourceSerial resource) = false ∨
        s.queue.mMetalCmdBuffers = [] →
      Stepped s (.ensureTest thread) (s.setThread thread .idle)
  | ensureWaited (thread resource serial : Nat) :
      s.threads thread = .waiting resource serial → serial ≤ s.gpuCompleted →
      Stepped s (.ensureWaited thread) (s.setThread thread (.ensuring resource))
  | finishBegin (thread : Nat) :
      s.threads thread = .idle →
      Stepped s (.finishBegin thread)
        (State.setThread { s with queue := s.queue.moveToTmp } thread (.finishing 0))
  | finishWaited (thread index serial : Nat) :
      s.threads thread = .finishing index →
      s.queue.mMetalCmdBuffersTmp[index]? = some serial → serial ≤ s.gpuCompleted →
      Stepped s (.finishWaited thread) (s.setThread thread (.finishing (index + 1)))
  | finishEnd (thread index : Nat) :
      s.threads thread = .finishing index →
      s.queue.mMetalCmdBuffersTmp.length ≤ index →
      Stepped s (.finishEnd thread)
        (State.setThread { s with queue := { s.queue with mMetalCmdBuffersTmp := [] } } thread
          .idle)

variable {s : State}

theorem ensureTest_stepped {thread resource : Nat}
    (hthread : s.threads thread = .ensuring resource) :
    Stepped s (.ensureTest thread) (s.ensureTest thread resource) := by
  unfold State.ensureTest
  split
  · rename_i hused
    cases hqueue : s.queue.mMetalCmdBuffers with
    | nil => exact .ensureReturn thread resource hthread (.inr hqueue)
    | cons front rest => exact .ensurePop thread resource front rest hthread hused hqueue
  · rename_i hfree
    exact .ensureReturn thread resource hthread (.inl (by simpa using hfree))

variable {t : State} {a : Action}

theorem step_stepped (hstep : step s a = some t) : Stepped s a t := by
  cases a with
  | makeMetalCommandBuffer =>
      cases hstep
      exact .make
  | setUsedByCommandBufferWithQueueSerial resource serial =>
      obtain ⟨hcond, ⟨⟩⟩ := ite_none_right_eq_some.mp hstep
      exact .setUsed resource serial hcond.1 hcond.2.1 hcond.2.2
  | resetResource resource =>
      cases hstep
      exact .resetResource resource
  | onCommandBufferCommitted serial =>
      obtain ⟨hcond, ⟨⟩⟩ := ite_none_right_eq_some.mp hstep
      exact .notifyCommitted serial hcond.1 hcond.2.1 hcond.2.2
  | commit serial =>
      obtain ⟨hcond, ⟨⟩⟩ := ite_none_right_eq_some.mp hstep
      exact .commit serial hcond
  | gpuComplete =>
      obtain ⟨hcond, ⟨⟩⟩ := ite_none_right_eq_some.mp hstep
      exact .gpuComplete hcond
  | onCommandBufferCompleted serial =>
      obtain ⟨hcond, ⟨⟩⟩ := ite_none_right_eq_some.mp hstep
      exact .completedHandler serial hcond.2
  | ensureBegin thread resource =>
      cases hthread : s.threads thread <;> simp only [step, hthread] at hstep <;>
        try contradiction
      cases hstep
      exact .ensureBegin thread resource hthread
  | ensureTest thread =>
      cases hthread : s.threads thread <;> simp only [step, hthread] at hstep <;>
        try contradiction
      cases hstep
      exact ensureTest_stepped hthread
  | ensureWaited thread =>
      cases hthread : s.threads thread <;> simp only [step, hthread] at hstep <;>
        try contradiction
      obtain ⟨hdone, ⟨⟩⟩ := ite_none_right_eq_some.mp hstep
      exact .ensureWaited thread _ _ hthread hdone
  | finishBegin thread =>
      cases hthread : s.threads thread <;> simp only [step, hthread] at hstep <;>
        try contradiction
      cases hstep
      exact .finishBegin thread hthread
  | finishWaited thread =>
    cases hthread : s.threads thread <;> simp only [step, hthread] at hstep <;>
      try contradiction
    rename_i index
    cases htmp : s.queue.mMetalCmdBuffersTmp[index]? <;> simp only [htmp] at hstep <;>
      try contradiction
    obtain ⟨hdone, ⟨⟩⟩ := ite_none_right_eq_some.mp hstep
    exact .finishWaited thread index _ hthread htmp hdone
  | finishEnd thread =>
      cases hthread : s.threads thread <;> simp only [step, hthread] at hstep <;>
        try contradiction
      obtain ⟨hlen, ⟨⟩⟩ := ite_none_right_eq_some.mp hstep
      exact .finishEnd thread _ hthread hlen

/-! ## The serial invariant -/

/-- What holds of the serials in every reachable state. -/
structure SerialInv (s : State) : Prop where
  sorted : s.queue.mMetalCmdBuffers.Pairwise (· < ·)
  entry_lt : ∀ e ∈ s.queue.mMetalCmdBuffers, e < s.queue.mQueueSerialCounter
  committed_lt : s.queue.mCommittedBufferSerial < s.queue.mQueueSerialCounter
  status_le : ∀ n, s.status n ≠ .encoding → n ≤ s.queue.mCommittedBufferSerial
  gpu_le : s.gpuCompleted ≤ s.queue.mCommittedBufferSerial
  completed_le : s.queue.mCompletedBufferSerial ≤ s.gpuCompleted

theorem serialInv_initial : SerialInv initial where
  sorted := .nil
  entry_lt := by simp [initial]
  committed_lt := by simp [initial]
  status_le := fun _ hstatus => absurd rfl hstatus
  gpu_le := le_refl _
  completed_le := le_refl _

section

variable (h : SerialInv s)
include h

theorem serialInv_make :
    SerialInv { s with
      queue := s.queue.makeMetalCommandBuffer.2
      handlers := s.handlers ++ [s.queue.mQueueSerialCounter] } where
  __ := h
  sorted := by
    refine pairwise_append.mpr ⟨h.sorted, pairwise_singleton _ _, ?_⟩
    intro e he new hnew
    obtain rfl := mem_singleton.mp hnew
    exact h.entry_lt e he
  entry_lt := by
    intro e he
    change e < s.queue.mQueueSerialCounter + 1
    rcases mem_append.mp he with he | he
    · exact (h.entry_lt e he).trans (Nat.lt_succ_self _)
    · obtain rfl := mem_singleton.mp he
      exact Nat.lt_succ_self _
  committed_lt := h.committed_lt.trans (Nat.lt_succ_self _)

theorem serialInv_notifyCommitted (hlt : serial < s.queue.mQueueSerialCounter) :
    SerialInv { s with
      queue := s.queue.onCommandBufferCommitted serial
      status := update s.status serial .committing } where
  __ := h
  committed_lt := max_lt h.committed_lt hlt
  status_le := by
    intro n hn
    change n ≤ max s.queue.mCommittedBufferSerial serial
    by_cases hns : n = serial
    · exact hns ▸ le_max_right _ _
    · have hold : s.status n ≠ .encoding := by simpa [update_of_ne hns] using hn
      exact (h.status_le n hold).trans (le_max_left _ _)
  gpu_le := h.gpu_le.trans (le_max_left _ _)

theorem serialInv_commit (hstatus : s.status serial = .committing) :
    SerialInv { s with status := update s.status serial .committed } where
  __ := h
  status_le := by
    intro n hn
    by_cases hns : n = serial
    · exact h.status_le n (by rw [hns, hstatus]; decide)
    · exact h.status_le n (by simpa [update_of_ne hns] using hn)

theorem serialInv_completedHandler (hdone : serial ≤ s.gpuCompleted) :
    SerialInv { s with
      queue := s.queue.onCommandBufferCompleted serial
      handlers := s.handlers.erase serial } := by
  obtain ⟨hsuffix, -, hcompleted, -, hcounter, hcommitted⟩ :=
    s.queue.onCommandBufferCompleted_spec serial
  exact {
    sorted := h.sorted.sublist hsuffix.sublist
    entry_lt := fun e he => hcounter ▸ h.entry_lt e (hsuffix.subset he)
    committed_lt := by simpa only [hcommitted, hcounter] using h.committed_lt
    status_le := fun n hn => hcommitted ▸ h.status_le n hn
    gpu_le := hcommitted ▸ h.gpu_le
    completed_le := hcompleted ▸ max_le h.completed_le hdone }

theorem serialInv_of_sublist (hqueue : t.queue.mMetalCmdBuffers.Sublist s.queue.mMetalCmdBuffers)
    (hcounter : t.queue.mQueueSerialCounter = s.queue.mQueueSerialCounter)
    (hcommitted : t.queue.mCommittedBufferSerial = s.queue.mCommittedBufferSerial)
    (hcompleted : t.queue.mCompletedBufferSerial = s.queue.mCompletedBufferSerial)
    (hstatus : t.status = s.status) (hgpu : t.gpuCompleted = s.gpuCompleted) : SerialInv t where
  sorted := h.sorted.sublist hqueue
  entry_lt := fun e he => hcounter ▸ h.entry_lt e (hqueue.subset he)
  committed_lt := by rw [hcommitted, hcounter]; exact h.committed_lt
  status_le := fun n hn => hcommitted ▸ h.status_le n (hstatus ▸ hn)
  gpu_le := by rw [hgpu, hcommitted]; exact h.gpu_le
  completed_le := by rw [hcompleted, hgpu]; exact h.completed_le

theorem serialInv_step (hstep : step s a = some t) :
    SerialInv t := by
  cases step_stepped hstep with
  | make => exact serialInv_make h
  | notifyCommitted serial _ hlt _ => exact serialInv_notifyCommitted h hlt
  | commit serial hstatus => exact serialInv_commit h hstatus
  | gpuComplete hstatus =>
    exact { h with
      gpu_le := h.status_le _ (by rw [hstatus]; decide)
      completed_le := h.completed_le.trans (Nat.le_succ _) }
  | completedHandler serial hdone => exact serialInv_completedHandler h hdone
  | ensurePop thread resource front rest _ _ hqueue =>
      exact serialInv_of_sublist h (hqueue ▸ sublist_cons_self front rest) rfl rfl rfl rfl rfl
  | finishBegin => exact serialInv_of_sublist h (nil_sublist _) rfl rfl rfl rfl rfl
  | setUsed | resetResource | ensureBegin | ensureReturn | ensureWaited | finishWaited
  | finishEnd =>
      exact serialInv_of_sublist h (List.Sublist.refl _) rfl rfl rfl rfl rfl

end

theorem serialInv_run {guard : State → Action → Prop} {as : List Action}
    (hrun : Run step guard s as t) (hs : SerialInv s) : SerialInv t :=
  hrun.invariant (fun _ _ _ h _ hstep => serialInv_step h hstep) hs

/-! ## Counters never decrease -/

def serials (s : State) : Nat × Nat × Nat :=
  (s.queue.mCompletedBufferSerial, s.queue.mCommittedBufferSerial, s.queue.mQueueSerialCounter)

theorem serials_le_step (hstep : step s a = some t) :
    serials s ≤ serials t := by
  cases step_stepped hstep with
  | make => exact ⟨le_refl _, le_refl _, Nat.le_succ _⟩
  | notifyCommitted => exact ⟨le_refl _, le_max_left _ _, le_refl _⟩
  | completedHandler serial =>
      obtain ⟨-, -, hcompleted, -, hcounter, hcommitted⟩ :=
        s.queue.onCommandBufferCompleted_spec serial
      exact ⟨(le_max_left _ _).trans hcompleted.ge, hcommitted.ge, hcounter.ge⟩
  | setUsed | resetResource | commit | gpuComplete | ensureBegin | ensurePop | ensureReturn
  | ensureWaited | finishBegin | finishWaited | finishEnd => exact le_refl _

/-- The answer the callers rely on: a resource reported as unused is used by no command
buffer that has not finished. -/
theorem completed_of_not_used (h : SerialInv s) {resource : Nat}
    (hfree : s.queue.isResourceBeingUsedByGPU (s.resourceSerial resource) = false)
    (hle : serial ≤ s.resourceSerial resource) : serial ≤ s.gpuCompleted := by
  have hcovered : s.resourceSerial resource ≤ s.queue.mCompletedBufferSerial := by
    simpa [CommandQueue.isResourceBeingUsedByGPU] using hfree
  exact hle.trans (hcovered.trans h.completed_le)

/-- In every reachable state the queued serials increase, the three counters are ordered and
have never gone back, and a resource reported as unused by the GPU has no unfinished command
buffer up to its serial. -/
theorem serials_of_reachable {s : State} {as : List Action} (hrun : Run step anyStep initial as s) :
    s.queue.mMetalCmdBuffers.Pairwise (· < ·) ∧
    s.queue.mCompletedBufferSerial ≤ s.queue.mCommittedBufferSerial ∧
    s.queue.mCommittedBufferSerial < s.queue.mQueueSerialCounter ∧
    (∀ bs t, Run step anyStep s bs t →
      s.queue.mCompletedBufferSerial ≤ t.queue.mCompletedBufferSerial ∧
      s.queue.mCommittedBufferSerial ≤ t.queue.mCommittedBufferSerial ∧
      s.queue.mQueueSerialCounter ≤ t.queue.mQueueSerialCounter) ∧
    (∀ resource, s.queue.isResourceBeingUsedByGPU (s.resourceSerial resource) = false →
      ∀ serial ≤ s.resourceSerial resource, serial ≤ s.gpuCompleted) := by
  have h := serialInv_run hrun serialInv_initial
  refine ⟨h.sorted, h.completed_le.trans h.gpu_le, h.committed_lt, ?_, ?_⟩
  · intro bs t hmore
    have hpres : ∀ s a t, True → anyStep s a → step s a = some t → True :=
      fun _ _ _ _ _ _ => trivial
    exact hmore.monotone serials hpres (fun _ _ _ _ _ hstep => serials_le_step hstep) trivial
  · intro resource hfree serial hle
    exact completed_of_not_used h hfree hle

def waitForFirstOfTwo : List Action :=
  [.makeMetalCommandBuffer, .makeMetalCommandBuffer,
    .setUsedByCommandBufferWithQueueSerial 0 1, .onCommandBufferCommitted 1, .commit 1,
    .ensureBegin 0 0, .ensureTest 0, .gpuComplete, .ensureWaited 0,
    .onCommandBufferCompleted 1, .ensureTest 0]

theorem serials_of_reachable_waitForFirstOfTwo :
    ∃ s : State, exec step initial waitForFirstOfTwo = some s ∧ s.queue.mMetalCmdBuffers = [2] ∧
      s.queue.mCompletedBufferSerial ≤ s.queue.mCommittedBufferSerial ∧
      s.queue.mCommittedBufferSerial < s.queue.mQueueSerialCounter := by
  have hexec : ∃ s, exec step initial waitForFirstOfTwo = some s ∧
      s.queue.mMetalCmdBuffers = [2] := ⟨_, rfl, rfl⟩
  obtain ⟨s, hexec, hqueue⟩ := hexec
  obtain ⟨-, hcompleted, hcommitted, -, -⟩ := serials_of_reachable (.of_exec hexec)
  exact ⟨s, hexec, hqueue, hcompleted, hcommitted⟩

end QueueThreads

end MetalAngle.Metal
