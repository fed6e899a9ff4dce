import MetalAngle.Metal.OcclusionQueryStart

/-!
# Occlusion queries over whole runs

The queries of GL are an abstract state that follows the actions.  The invariant says
that the value a query would be resolved to is nonzero exactly when samples passed; it is
kept by every action that does not restart a query while the pool of its pass is full.
-/

namespace MetalAngle.Metal

open Option OcclusionQueryPool Nat
open Function (update update_self update_of_ne)

/-- The queries as GL has them: which one is active, which have been begun, and whether samples
passed since the last begin. -/
structure GLQueries where
  active : Option Nat := none
  begun : Nat → Bool := fun _ => false
  samplesPassed : Nat → Bool := fun _ => false

namespace GLQueries

def begin (g : GLQueries) (query : Nat) : GLQueries where
  active := some query
  begun := update g.begun query true
  samplesPassed := update g.samplesPassed query false

def count (g : GLQueries) (visible : Bool) : GLQueries :=
  match g.active with
  | none => g
  | some query =>
      { g with
        samplesPassed :=
          update g.samplesPassed query (g.samplesPassed query || visible) }

theorem count_invisible (g : GLQueries) : g.count false = g := by
  unfold count
  split
  · rfl
  · simp

def step (g : GLQueries) : OcclusionContext.Action → GLQueries
  | .beginQuery query => g.begin query
  | .endQuery _ => { g with active := none }
  | .draw _ visible => g.count visible
  | .drawDisabled _ _ | .startRenderPass _ | .endEncoding => g

end GLQueries

namespace OcclusionContext

open VisibilityBufferOffsetsMtl RenderCommandEncoder LabelledRun

variable {s t : OcclusionContext} {g : GLQueries}

/-- Draws count exactly while a query is active, from the first draw of the pass on. -/
def Ready (s : OcclusionContext) : Prop :=
  match s.mOcclusionQuery with
  | none => s.Quiet
  | some query => s.mOcclusionQueryPool.hasBuffer ∧
      (s.Live query ∨ (s.Quiet ∧ s.mOcclusionQueryPool.mAllocatedQueries = []))

/-- The context agrees with the queries of GL. -/
structure Agrees (s : OcclusionContext) (g : GLQueries) : Prop where
  base : s.Base
  ready : s.Ready
  active : s.mOcclusionQuery = g.active
  begun : ∀ q, g.active = some q → g.begun q
  values : ∀ q, g.begun q → (s.Pending q ↔ g.samplesPassed q)

theorem Ready.quietOrLive (h : s.Ready) : s.QuietOrLive := by
  unfold Ready at h
  split at h
  · exact .inl h
  · rename_i query hactive
    rcases h.2 with hlive | hquiet
    · exact .inr ⟨query, hactive, hlive⟩
    · exact .inl hquiet.1

theorem ready_of_none (hactive : s.mOcclusionQuery = none) : s.Ready ↔ s.Quiet := by
  unfold Ready
  rw [hactive]

variable {query : Nat}

theorem ready_of_some (hactive : s.mOcclusionQuery = some query) :
    s.Ready ↔ s.mOcclusionQueryPool.hasBuffer ∧
      (s.Live query ∨ (s.Quiet ∧ s.mOcclusionQueryPool.mAllocatedQueries = [])) := by
  unfold Ready
  rw [hactive]

theorem Follows.ready_of_nil (hfollows : Follows s t) (hready : s.Ready) (hquiet : t.Quiet)
    (hnil : t.mOcclusionQueryPool.mAllocatedQueries = []) : t.Ready := by
  cases hactive : s.mOcclusionQuery with
  | none => exact (ready_of_none (hfollows.active.trans hactive)).mpr hquiet
  | some query =>
      rw [ready_of_some (hfollows.active.trans hactive)]
      exact ⟨hfollows.buffer.trans ((ready_of_some hactive).mp hready).1, .inr ⟨hquiet, hnil⟩⟩

theorem Agrees.of_follows (h : Agrees s g) (hfollows : Follows s t) (hready : t.Ready) :
    Agrees t g where
  __ := hfollows
  ready := hready
  active := hfollows.active.trans h.active
  begun := h.begun
  values q hq := (hfollows.pending q).trans (h.values q hq)

/-! ## The actions -/

theorem agrees_endEncoding (h : Agrees s g) : Agrees s.endEncoding g := by
  obtain ⟨hfollows, hquiet, hidle⟩ := endEncoding_spec h.base h.ready.quietOrLive
  exact h.of_follows hfollows (hfollows.ready_of_nil h.ready hquiet (hfollows.base.idle hidle))

theorem agrees_getRenderCommandEncoder (h : Agrees s g) (desc : RenderPassDesc) :
    Agrees (s.getRenderCommandEncoder desc) g := by
  obtain ⟨hfollows, -, -, hsame | ⟨hquiet, hnil⟩⟩ :=
    getRenderCommandEncoder_spec h.base h.ready.quietOrLive desc
  · rwa [hsame]
  · exact h.of_follows hfollows (hfollows.ready_of_nil h.ready hquiet hnil)

theorem Allocated.ready (h : Allocated s t query) (hrecording : s.mRenderEncoder.mRecording)
    (hactive : s.mOcclusionQuery = some query)
    (hbuffer : s.mOcclusionQueryPool.hasBuffer) : (t.enable query).Ready := by
  have hactive' : (t.enable query).mOcclusionQuery = some query := h.active.trans hactive
  rw [ready_of_some hactive']
  exact ⟨h.buffer.trans hbuffer, .inl (h.enable hrecording).2⟩

theorem Allocated.follows (h : Allocated s t query)
    (hrecording : s.mRenderEncoder.mRecording)
    (hpending : ∀ q, t.Pending q ↔ s.Pending q) : Follows s (t.enable query) where
  __ := h
  base := (h.enable hrecording).1
  pending := hpending

theorem quiet_setActive (h : s.Quiet) (query : Option Nat) :
    Quiet { s with mOcclusionQuery := query } := ⟨h.mode, h.drawn⟩

theorem base_setActive (h : s.Base) (query : Option Nat) :
    Base { s with mOcclusionQuery := query } :=
  { h with }

/-- After the reservation there is a pool buffer, with room for a slot if a pass goes on. -/
theorem ensureOcclusionQueryPoolCapacity_spec (h : s.Base) (hquiet : s.Quiet) :
    s.ensureOcclusionQueryPoolCapacity.Base ∧ s.ensureOcclusionQueryPoolCapacity.Quiet ∧
      (∀ q, s.ensureOcclusionQueryPoolCapacity.Pending q ↔ s.Pending q) ∧
      s.ensureOcclusionQueryPoolCapacity.mOcclusionQuery = s.mOcclusionQuery ∧
      s.ensureOcclusionQueryPoolCapacity.mOcclusionQueryPool.hasBuffer ∧
      (s.ensureOcclusionQueryPoolCapacity.mRenderEncoder.mRecording →
        s.ensureOcclusionQueryPoolCapacity.mOcclusionQueryPool.canAllocateQueryOffset) := by
  unfold ensureOcclusionQueryPoolCapacity
  split
  · rename_i hcan
    have hbuffer := hcan
    unfold canAllocateQueryOffset at hbuffer
    rw [Bool.and_eq_true] at hbuffer
    exact ⟨h, hquiet, fun _ => .rfl, rfl, hbuffer.1, fun _ => hcan⟩
  · obtain ⟨hfollows, hquiet', hidle⟩ := endEncoding_spec h (.inl hquiet)
    have hbase := hfollows.base
    refine ⟨{ hbase with },
      ⟨hquiet'.mode, hquiet'.drawn⟩, hfollows.pending, hfollows.active, rfl, ?_⟩
    intro hrecording
    exact absurd (hidle.symm.trans hrecording) Bool.false_ne_true

theorem pending_reset (hnum : ∀ q, (s.offsets q).mNumOffsets = 0) (query q : Nat) :
    Pending { s with visibilityResult := update s.visibilityResult query 0 } q ↔
      q ≠ query ∧ s.Pending q := by
  rw [pending_of_empty (hnum q), pending_of_empty (s := { s with
    visibilityResult := update s.visibilityResult query 0 }) (hnum q)]
  by_cases hq : q = query
  · subst hq
    simp
  · simp only [update_of_ne hq, ne_eq, hq, not_false_eq_true, true_and]

theorem agrees_begin (h : Agrees s g) (hactive : s.mOcclusionQuery = none) (query : Nat) :
    Agrees (s.onOcclusionQueryBegan query) (g.begin query) := by
  have hquiet := (ready_of_none hactive).mp h.ready
  obtain ⟨hbase, hquiet, hpending, hnow, hbuffer, hcan⟩ :=
    ensureOcclusionQueryPoolCapacity_spec (base_setActive h.base (some query))
      (quiet_setActive hquiet (some query))
  have hother : ∀ q, q ≠ query → (g.begin query).begun q → g.begun q := by
    intro q hne hq
    rwa [show (g.begin query).begun q = g.begun q from update_of_ne hne _ _] at hq
  have hbegun : ∀ q, (g.begin query).active = some q → (g.begin query).begun q := by
    intro q hq
    obtain rfl : query = q := by simpa [GLQueries.begin] using hq
    exact update_self _ _ _
  -- it is enough that the value of the query is zero and the other ones are kept
  have hvalues : ∀ u : OcclusionContext, ¬ u.Pending query →
      (∀ q, q ≠ query → (u.Pending q ↔ s.Pending q)) →
      ∀ q, (g.begin query).begun q →
        (u.Pending q ↔ (g.begin query).samplesPassed q) := by
    intro u hzero hkept q hq
    by_cases hne : q = query
    · subst hne
      rw [show (g.begin q).samplesPassed q = false from update_self _ _ _]
      exact iff_of_false hzero Bool.false_ne_true
    · rw [show (g.begin query).samplesPassed q = g.samplesPassed q from
        update_of_ne hne _ _, hkept q hne]
      exact h.values q (hother q hne hq)
  unfold onOcclusionQueryBegan
  obtain ⟨u, hu⟩ : ∃ u, u = ensureOcclusionQueryPoolCapacity
    { s with mOcclusionQuery := some query } := ⟨_, rfl⟩
  rw [← hu] at hbase hquiet hpending hnow hbuffer hcan
  simp only [← hu]
  split
  · rename_i hrecording
    obtain ⟨t, heq, hallocated, hzero, hkept⟩ := startClear_spec query hbase
      hquiet.drawn hrecording (hcan hrecording)
    rw [heq]
    exact ⟨(hallocated.enable hrecording).1, hallocated.ready hrecording hnow hbuffer,
      hallocated.active.trans hnow, hbegun,
      hvalues _ hzero fun q hne => (hkept q hne).trans (hpending q)⟩
  · rename_i hidle
    have hnil := hbase.idle (Bool.not_eq_true _ ▸ hidle)
    have hready : Ready { u with
        visibilityResult := update u.visibilityResult query 0 } :=
      (ready_of_some (s := { u with
        visibilityResult := update u.visibilityResult query 0 }) hnow).mpr
        ⟨hbuffer, .inr ⟨⟨hquiet.mode, hquiet.drawn⟩, hnil⟩⟩
    have hreset := pending_reset (hbase.num_eq_zero hnil) query
    refine ⟨{ hbase with },
      hready, hnow, hbegun, hvalues _ ?_ fun q hne => ?_⟩
    · rw [hreset]
      exact fun h => h.1 rfl
    · rw [hreset, and_iff_right hne]
      exact hpending q

theorem agrees_end (h : Agrees s g) :
    Agrees s.onOcclusionQueryEnded { g with active := none } := by
  have hended : ∃ u, Follows s u ∧ u.Quiet ∧
      s.onOcclusionQueryEnded = { u with mOcclusionQuery := none } := by
    unfold onOcclusionQueryEnded
    split
    · obtain ⟨hdrawn, hquiet⟩ := disable_spec h.base h.ready.quietOrLive
      exact ⟨_, hdrawn.toFollows, hquiet, rfl⟩
    · rename_i hidle
      refine ⟨s, .refl h.base, ?_, rfl⟩
      rcases h.ready.quietOrLive with hquiet | ⟨query, -, hlive⟩
      · exact hquiet
      · exact absurd (h.base.recording hlive.nonempty) hidle
  obtain ⟨u, hfollows, hquiet, heq⟩ := hended
  rw [heq]
  exact {
    base := base_setActive hfollows.base none
    ready := (ready_of_none rfl).mpr (quiet_setActive hquiet none)
    active := rfl
    begun := fun q hq => by simp at hq
    values := fun q hq => (hfollows.pending q).trans (h.values q hq) }

/-- The beginning of a draw: the encoder of the pass, and the active query started in it. -/
theorem agrees_setupDraw (h : Agrees s g) (desc : RenderPassDesc) :
    ∃ u, s.setupDraw desc = { u with drawCalls := u.drawCalls + 1 } ∧ Agrees u g ∧
      u.mRenderEncoder.mRecording ∧ (∀ q, u.mOcclusionQuery = some q → u.Live q) := by
  have hv := agrees_getRenderCommandEncoder h desc
  obtain ⟨-, hrecording, -, -⟩ := getRenderCommandEncoder_spec h.base h.ready.quietOrLive desc
  unfold setupDraw
  obtain ⟨v, hveq⟩ : ∃ v, v = s.getRenderCommandEncoder desc := ⟨_, rfl⟩
  rw [← hveq] at hv hrecording
  simp only [← hveq]
  cases hactive : v.mOcclusionQuery with
  | none => exact ⟨v, rfl, hv, hrecording, by simp [hactive]⟩
  | some query =>
    obtain ⟨hbuffer, hlive⟩ := (ready_of_some hactive).mp hv.ready
    by_cases hnil : v.mOcclusionQueryPool.mAllocatedQueries = []
    · obtain ⟨t, heq, hallocated, hpending⟩ :=
        startFirst_spec query hv.base hrecording hbuffer hnil
      refine ⟨t.enable query, ?_, ?_, ?_, ?_⟩
      · simp [hnil, heq]
      · exact hv.of_follows (hallocated.follows hrecording hpending)
          (hallocated.ready hrecording hactive hbuffer)
      · exact (hallocated.enable hrecording).1.recording hallocated.nonempty
      · intro q hq
        obtain rfl : query = q :=
          some_inj.mp ((hallocated.active.trans hactive).symm.trans hq)
        exact (hallocated.enable hrecording).2
    · refine ⟨v, ?_, hv, hrecording, fun q hq => ?_⟩
      · simp [hnil]
      · obtain rfl : query = q := by simpa [hactive] using hq
        exact hlive.resolve_right fun hquiet => hnil hquiet.2

/-- The draw itself, with the counter of draws that `setupDraw` has increased. -/
theorem Live.nativeDraw_spec (h : s.Base) (hlive : s.Live query)
    (hactive : s.mOcclusionQuery = some query)
    (hbuffer : s.mOcclusionQueryPool.hasBuffer) (visible : Bool) (ht :
      t = nativeDraw { s with drawCalls := s.drawCalls + 1 } visible) :
    t.Base ∧ t.Ready ∧ t.mOcclusionQuery = some query ∧
      ∀ q, t.Pending q ↔ s.Pending q ∨ (q = query ∧ visible) := by
  have hrecording := h.recording hlive.nonempty
  have hencoder := sameVisibility_ensureMetalEncoderStarted h.encoder hrecording
  have hbase : Base { s with drawCalls := s.drawCalls + 1 } :=
    { h with }
  have hdrawn := hlive.allDrawn_countInto h visible
  have hcounted := hlive.base_countInto h visible
  rw [nativeDraw_of_enabled hbase.encoder hlive.mode_ne] at ht
  have htlive : t.Live query := {
    nonempty := by rw [ht]; exact hlive.nonempty
    mode := by rw [ht]; exact hencoder.mode.trans hlive.mode
    offset := by rw [ht]; exact hencoder.offset.trans hlive.offset
    last := by rw [ht]; exact hlive.last
    counted := by rw [ht]; exact hlive.counted
    earlier := by
      rw [ht]
      exact fun q j hj hjcounted _ => hdrawn q j hj hjcounted
    lastDrawn := by
      rw [ht]
      exact iff_of_true (hdrawn query _ hlive.covers hlive.counted) (succ_ne_zero _) }
  have htactive : t.mOcclusionQuery = some query := by
    rw [ht]
    exact hactive
  refine ⟨?_, (ready_of_some htactive).mpr ⟨?_, .inl htlive⟩, htactive, ?_⟩
  · rw [ht]
    exact ⟨hcounted.layout, hcounted.fresh, hencoder.inv,
      fun hidle => absurd ((hencoder.recording.trans hrecording).symm.trans hidle)
        Bool.false_ne_true.symm, hcounted.asserts, hcounted.room⟩
  · rw [ht]
    exact hbuffer
  · rw [ht]
    exact hlive.pending_countInto h visible

theorem agrees_draw (h : Agrees s g) (desc : RenderPassDesc) (visible : Bool) :
    Agrees ((s.setupDraw desc).nativeDraw visible) (g.count visible) := by
  obtain ⟨u, heq, hu, hrecording, hlive⟩ := agrees_setupDraw h desc
  rw [heq]
  rcases eq_none_or_eq_some u.mOcclusionQuery with hactive | ⟨query, hactive⟩
  · have hquiet := (ready_of_none hactive).mp hu.ready
    have hbase : Base { u with drawCalls := u.drawCalls + 1 } :=
      { hu.base with }
    have hencoder := sameVisibility_ensureMetalEncoderStarted hu.base.encoder hrecording
    have hcount : g.count visible = g := by
      unfold GLQueries.count
      rw [← hu.active, hactive]
    rw [nativeDraw_of_disabled hbase.encoder hquiet.mode, hcount]
    have hready : Ready { u with
        drawCalls := u.drawCalls + 1
        mRenderEncoder := u.mRenderEncoder.ensureMetalEncoderStarted } := by
      apply (ready_of_none ?_).mpr
      · exact ⟨hencoder.mode.trans hquiet.mode, hquiet.drawn⟩
      · exact hactive
    exact { hu with base := hbase.setEncoder hencoder.inv hencoder.recording, ready := hready }
  · obtain ⟨hbuffer, -⟩ := (ready_of_some hactive).mp hu.ready
    obtain ⟨hbase, hready, hsame, hpending⟩ :=
      (hlive query hactive).nativeDraw_spec hu.base hactive hbuffer visible rfl
    have hcount : g.count visible = { g with
        samplesPassed :=
          update g.samplesPassed query (g.samplesPassed query || visible) } := by
      unfold GLQueries.count
      rw [← hu.active, hactive]
    rw [hcount]
    refine ⟨hbase, hready, hsame.trans (hactive.symm.trans hu.active), hu.begun, fun q hq => ?_⟩
    rw [hpending q, hu.values q hq]
    by_cases hne : q = query
    · subst hne
      simp
    · simp only [update_of_ne hne, hne, false_and, or_false]

/-! ## Runs -/

def restartFits (s : OcclusionContext) : Action → Bool
  | .drawDisabled desc _ =>
      match s.mOcclusionQuery with
      | none => true
      | some query =>
          !(s.mRenderEncoder.mRecording && decide (s.mRenderEncoder.mRenderPassDesc = desc)) ||
            (s.offsets query).isEmpty || s.mOcclusionQueryPool.canAllocateQueryOffset
  | _ => true

theorem disabledDraw_spec (h : s.Base) (hmode : s.QuietOrLive)
    (hrecording : s.mRenderEncoder.mRecording) (visible : Bool) (ht :
      t = s.disableActiveOcclusionQueryInRenderPass.nativeDraw visible) :
    Drawn s t ∧ t.Quiet := by
  obtain ⟨hdrawn, hquiet⟩ := disable_spec h hmode
  have hencoder := sameVisibility_ensureMetalEncoderStarted hdrawn.base.encoder
    (hdrawn.recording.trans hrecording)
  rw [nativeDraw_of_disabled hdrawn.base.encoder hquiet.mode] at ht
  rw [ht]
  exact ⟨hdrawn.setEncoder hencoder.inv hencoder.recording hencoder.desc,
    hencoder.mode.trans hquiet.mode, hquiet.drawn⟩

theorem restart_of_active (hactive : s.mOcclusionQuery = some query)
    (hnum : (s.offsets query).mNumOffsets ≠ 0) :
    s.restartActiveOcclusionQueryInRenderPass =
      s.ensureOcclusionQueryPoolCapacity.startOcclusionQueryInRenderPass query false := by
  unfold restartActiveOcclusionQueryInRenderPass
  rw [hactive]
  simp [isEmpty_eq_false_iff.mpr hnum]

theorem restart_of_inactive
    (hempty : ∀ q, s.mOcclusionQuery = some q → (s.offsets q).mNumOffsets = 0) :
    s.restartActiveOcclusionQueryInRenderPass = s := by
  unfold restartActiveOcclusionQueryInRenderPass
  split
  · rfl
  · rename_i query hactive
    rw [if_pos (isEmpty_iff.mpr (hempty query hactive))]

theorem restart_of_room (h : Agrees s g)
    (hactive : s.mOcclusionQuery = some query) (hlive : s.Live query)
    (hcan : s.mOcclusionQueryPool.canAllocateQueryOffset) (hdrawn : Drawn s t) :
    t.restartActiveOcclusionQueryInRenderPass = (t.withAdditionalOffset query).enable query ∧
      Agrees t.restartActiveOcclusionQueryInRenderPass g := by
  have hactive' : t.mOcclusionQuery = some query := hdrawn.active.trans hactive
  have hnum' : (t.offsets query).mNumOffsets ≠ 0 := hdrawn.offsets ▸ hlive.nonempty
  have hcan' : t.mOcclusionQueryPool.canAllocateQueryOffset := hdrawn.pool ▸ hcan
  obtain ⟨heq, hallocated, hpending⟩ := startAgain_spec query hdrawn.base
    hdrawn.drawn hcan' hnum' (by rw [hdrawn.offsets, hdrawn.pool]; exact hlive.last)
  have hrecording := hdrawn.base.recording hnum'
  have hbuffer := ((ready_of_some hactive).mp h.ready).1
  rw [restart_of_active hactive' hnum']
  unfold ensureOcclusionQueryPoolCapacity
  rw [if_pos hcan', heq]
  exact ⟨rfl, h.of_follows (hdrawn.toFollows.trans (hallocated.follows hrecording hpending))
    (hallocated.ready hrecording hactive' (hdrawn.buffer.trans hbuffer))⟩

theorem agrees_drawDisabled (h : Agrees s g) (desc : RenderPassDesc) (visible : Bool)
    (hfits : s.restartFits (.drawDisabled desc visible)) (ht : t =
      ((s.getRenderCommandEncoder desc).disableActiveOcclusionQueryInRenderPass).nativeDraw
        visible) : Agrees t.restartActiveOcclusionQueryInRenderPass g := by
  have hu := agrees_getRenderCommandEncoder h desc
  obtain ⟨-, hrecording, hdesc, hsame⟩ :=
    getRenderCommandEncoder_spec h.base h.ready.quietOrLive desc
  obtain ⟨u, hueq⟩ : ∃ u, u = s.getRenderCommandEncoder desc := ⟨_, rfl⟩
  rw [← hueq] at hu hrecording hdesc hsame ht
  obtain ⟨hdrawn, hquiet⟩ :=
    disabledDraw_spec hu.base hu.ready.quietOrLive hrecording visible ht
  by_cases hempty : ∀ q, u.mOcclusionQuery = some q → (u.offsets q).mNumOffsets = 0
  · rw [restart_of_inactive fun q hq => by
      rw [hdrawn.offsets]
      exact hempty q (hdrawn.active.symm.trans hq)]
    apply hu.of_follows hdrawn.toFollows
    rcases eq_none_or_eq_some u.mOcclusionQuery with hactive | ⟨query, hactive⟩
    · exact (ready_of_none (hdrawn.active.trans hactive)).mpr hquiet
    · have hlive := ((ready_of_some hactive).mp hu.ready).2
      refine hdrawn.toFollows.ready_of_nil hu.ready hquiet ?_
      rw [hdrawn.pool]
      exact (hlive.resolve_left fun hlive => hlive.nonempty (hempty query hactive)).2
  · -- the pass goes on, and the guard says that its pool has room
    push Not at hempty
    obtain ⟨query, hactive, hnum⟩ := hempty
    have hne : u.mOcclusionQueryPool.mAllocatedQueries ≠ [] := fun hnil =>
      hnum (hu.base.num_eq_zero hnil query)
    have hlive := ((ready_of_some hactive).mp hu.ready).2.resolve_right fun hquiet =>
      hne hquiet.2
    have hus : u = s := hsame.resolve_right fun hquiet => hne hquiet.2
    have hcan : u.mOcclusionQueryPool.canAllocateQueryOffset := by
      unfold restartFits at hfits
      rw [← hus, hactive] at hfits
      simpa only [hrecording, hdesc, decide_true, Bool.and_true, Bool.not_true, Bool.false_or,
        isEmpty_eq_false_iff.mpr hnum] using hfits
    exact (restart_of_room hu hactive hlive hcan hdrawn).2

theorem agrees_step {a : Action} (h : Agrees s g) (hfits : s.restartFits a)
    (hstep : step s a = some t) : Agrees t (g.step a) := by
  cases a with
  | beginQuery query =>
      obtain ⟨hactive, hstep⟩ := ite_none_right_eq_some.mp hstep
      cases hstep
      exact agrees_begin h hactive query
  | endQuery query =>
      obtain ⟨-, hstep⟩ := ite_none_right_eq_some.mp hstep
      cases hstep
      exact agrees_end h
  | draw desc visible =>
      cases hstep
      exact agrees_draw h desc visible
  | drawDisabled desc visible =>
      cases hstep
      exact agrees_drawDisabled h desc visible hfits rfl
  | startRenderPass desc =>
      cases hstep
      exact agrees_getRenderCommandEncoder h desc
  | endEncoding =>
      cases hstep
      exact agrees_endEncoding h

theorem initialized_room (supportsGPUFamily : Bool) : 2 * kOcclusionQueryResultSize ≤
    (OcclusionQueryPool.initialized supportsGPUFamily).mMaxRenderPassResultsPoolSize := by
  cases supportsGPUFamily <;> decide

theorem agrees_initial (supportsGPUFamily allowBufferReadWrite : Bool)
    (visibilityResult poolResult : Nat → BitVec 64) :
    Agrees (initial supportsGPUFamily allowBufferReadWrite visibilityResult poolResult) {} where
  base := {
    layout := .of_empty fun _ => rfl
    fresh := fun j hj => absurd hj Bool.false_ne_true
    encoder := visibilityInv_of_reset rfl rfl
    idle := fun _ => rfl
    asserts := rfl
    room := initialized_room supportsGPUFamily }
  ready := (ready_of_none rfl).mpr ⟨rfl, fun q j hj _ =>
    absurd hj (not_covers_of_empty rfl j)⟩
  active := rfl
  begun q hq := by simp at hq
  values q hq := absurd hq Bool.false_ne_true

theorem agrees_of_run {supportsGPUFamily allowBufferReadWrite : Bool}
    {visibilityResult poolResult : Nat → BitVec 64} {actions : List Action}
    (hrun : Run step (fun s a => s.restartFits a)
      (initial supportsGPUFamily allowBufferReadWrite visibilityResult poolResult) actions t) :
    Agrees t (actions.foldl GLQueries.step {}) :=
  Run.refines (R := Agrees) (fun _ _ a _ hs hfits hstep => agrees_step (a := a) hs hfits hstep) hrun
    (agrees_initial _ _ _ _)

/-- In a run that restarts no query while the pool of its pass is full, the asserts hold, the
slots of a query are adjacent entries of the pool that no other query has, and after the resolve at
the end of a pass the result of every begun query is nonzero exactly when samples passed. -/
theorem run_visibilityResult (supportsGPUFamily allowBufferReadWrite : Bool)
    (visibilityResult poolResult : Nat → BitVec 64) {actions : List Action}
    (hrun : Run step (fun s a => s.restartFits a = true)
      (initial supportsGPUFamily allowBufferReadWrite visibilityResult poolResult) actions t) :
    t.assertsHold = true ∧
      (∀ q j, (t.offsets q).Covers j → t.mOcclusionQueryPool.mAllocatedQueries[j]? =
        some (if j = (t.offsets q).slot then some q else none)) ∧
      (∀ q q' j, q ≠ q' → (t.offsets q).Covers j → ¬ (t.offsets q').Covers j) ∧
      (t.mRenderEncoder.mRecording = false → ∀ q, (actions.foldl GLQueries.step {}).begun q = true →
          (t.visibilityResult q ≠ 0 ↔
            (actions.foldl GLQueries.step {}).samplesPassed q = true)) := by
  have h := agrees_of_run hrun
  refine ⟨h.base.asserts, ?_, ?_, ?_⟩
  · intro q j hj
    by_cases hfirst : j = (t.offsets q).slot
    · rw [if_pos hfirst, hfirst]
      exact h.base.layout.first q (num_ne_zero_of_covers hj)
    · rw [if_neg hfirst]
      exact h.base.layout.others q j hj hfirst
  · intro q q' j hne hj hj'
    exact hne (h.base.layout.disjoint hj hj')
  · intro hidle q hq
    rw [← pending_of_empty (h.base.num_eq_zero (h.base.idle hidle) q)]
    exact h.values q hq

def restartedQueryActions : List Action :=
  [.beginQuery 0, .draw {} false, .drawDisabled {} true, .draw {} true, .endQuery 0,
    .endEncoding]

theorem run_visibilityResult_restartedQuery :
    ∃ t, Run step (fun s a => s.restartFits a = true)
        (initial true false (fun _ => 0) (fun _ => 0)) restartedQueryActions t ∧
      t.assertsHold = true ∧ t.visibilityResult 0 ≠ 0 := by
  obtain ⟨t, hexec, hidle⟩ : ∃ t, exec (checked step restartFits)
      (initial true false (fun _ => 0) (fun _ => 0)) restartedQueryActions = some t ∧
      t.mRenderEncoder.mRecording = false := ⟨_, rfl, rfl⟩
  have hrun := Run.of_exec_checked restartFits (fun _ _ h => h) hexec
  have h := run_visibilityResult true false (fun _ => 0) (fun _ => 0) hrun
  exact ⟨t, hrun, h.1, (h.2.2.2 hidle 0 rfl).mpr rfl⟩

/-! ## A restart in a full pool -/

def clearAction : Action := .drawDisabled {} false

/-- A query that is restarted `n` times in one pass. -/
structure Restarted (s : OcclusionContext) (n : Nat) : Prop where
  agrees : Agrees s (GLQueries.begin {} 0)
  nonempty : (s.offsets 0).mNumOffsets ≠ 0
  desc : s.mRenderEncoder.mRenderPassDesc = {}
  length : s.mOcclusionQueryPool.mAllocatedQueries.length = n + 1
  max : s.mOcclusionQueryPool.mMaxRenderPassResultsPoolSize = 65528
  allow : s.allowBufferReadWrite

/-- The state after a restart in a full pool: the pass has ended, and the offset is set on an
encoder without a pass. -/
structure Misplaced (s : OcclusionContext) : Prop where
  active : s.mOcclusionQuery = some 0
  idle : s.mRenderEncoder.mRecording = false
  get : s.mRenderEncoder.get = none
  mode : s.mRenderEncoder.mStateCache.visibilityResultMode = .Boolean
  offset : s.mRenderEncoder.mStateCache.visibilityResultBufferOffset = 0
  layout : Layout s.mOcclusionQueryPool.mAllocatedQueries s.offsets
  offsets : s.offsets 0 = { mStartOffset := 0, mNumOffsets := 1 }
  allow : s.allowBufferReadWrite

namespace Restarted

variable {n : Nat}

section

variable (h : Restarted s n)
include h

theorem active : s.mOcclusionQuery = some 0 := h.agrees.active

theorem live : s.Live 0 :=
  ((ready_of_some h.active).mp h.agrees.ready).2.resolve_right fun hquiet =>
    h.nonempty (h.agrees.base.num_eq_zero hquiet.2 0)

theorem recording : s.mRenderEncoder.mRecording :=
  h.agrees.base.recording h.nonempty

theorem canAllocate_iff :
    s.mOcclusionQueryPool.canAllocateQueryOffset ↔ n < 8190 := by
  have hbuffer := ((ready_of_some h.active).mp h.agrees.ready).1
  unfold canAllocateQueryOffset currentOffset
    kOcclusionQueryResultSize
  rw [hbuffer, Bool.true_and, decide_eq_true_iff, h.length, h.max]
  omega

theorem step_clear : ∃ w, Drawn s w ∧ w.Quiet ∧
    step s clearAction = some w.restartActiveOcclusionQueryInRenderPass := by
  have hsame : s.getRenderCommandEncoder {} = s := by
    unfold getRenderCommandEncoder
    rw [if_pos ⟨h.recording, h.desc⟩]
  obtain ⟨hdrawn, hquiet⟩ := disabledDraw_spec h.agrees.base h.agrees.ready.quietOrLive
    h.recording false rfl
  refine ⟨_, hdrawn, hquiet, ?_⟩
  simp [clearAction, step, hsame]

theorem step_of_room (hroom : n < 8190) :
    ∃ t, step s clearAction = some t ∧ Restarted t (n + 1) := by
  obtain ⟨w, hdrawn, -, hstep⟩ := h.step_clear
  obtain ⟨heq, hagrees⟩ := restart_of_room h.agrees h.active h.live
    (h.canAllocate_iff.mpr hroom) hdrawn
  rw [heq] at hstep hagrees
  refine ⟨_, hstep, hagrees, ?_, ?_, ?_, ?_, hdrawn.allow.trans h.allow⟩
  · exact succ_ne_zero _
  · exact (setVisibilityResultMode_mRenderPassDesc _ _).trans (hdrawn.desc.trans h.desc)
  · change (w.withAdditionalOffset 0).mOcclusionQueryPool.mAllocatedQueries.length = _
    rw [withAdditionalOffset_length, hdrawn.pool, h.length]
  · change w.mOcclusionQueryPool.mMaxRenderPassResultsPoolSize = _
    rw [hdrawn.pool, h.max]

theorem run_clears (k : Nat) (hroom : n + k ≤ 8190) :
    ∃ t, Run step anyStep s (List.replicate k clearAction) t ∧ Restarted t (n + k) := by
  induction k generalizing s n with
  | zero => exact ⟨s, .nil s, h⟩
  | succ k ih =>
      obtain ⟨t, hstep, ht⟩ := h.step_of_room (by omega)
      obtain ⟨u, hrun, hu⟩ := ih ht (by omega)
      refine ⟨u, .cons trivial hstep hrun, ?_⟩
      rwa [add_assoc, add_comm 1 k] at hu

end

theorem step_of_full (h : Restarted s 8190) :
    ∃ t, step s clearAction = some t ∧ Misplaced t := by
  obtain ⟨w, hdrawn, hquiet, hstep⟩ := h.step_clear
  have hfull : ¬ w.mOcclusionQueryPool.canAllocateQueryOffset := by
    rw [hdrawn.pool, h.canAllocate_iff]
    exact lt_irrefl _
  obtain ⟨hfollows, -, hidle⟩ := endEncoding_spec hdrawn.base (.inl hquiet)
  obtain ⟨v, hv⟩ : ∃ v, v = w.ensureOcclusionQueryPoolCapacity.assert
    w.ensureOcclusionQueryPoolCapacity.mRenderEncoder.mRecording := ⟨_, rfl⟩
  unfold ensureOcclusionQueryPoolCapacity at hv
  rw [if_neg hfull] at hv
  have hnil := hfollows.base.idle hidle
  have hnum := hfollows.base.num_eq_zero hnil 0
  obtain ⟨hget, hmode⟩ := hfollows.base.encoder.idle hidle
  have hnilv : v.mOcclusionQueryPool.mAllocatedQueries = [] := by
    rw [hv]
    exact hnil
  have hcan : v.mOcclusionQueryPool.canAllocateQueryOffset := by
    apply canAllocateQueryOffset_of_fits
    · rw [hv]
      rfl
    · rw [hnilv, hv]
      exact le_trans (by decide) hfollows.base.room
  have hallow : v.allowBufferReadWrite := by
    rw [hv]
    exact hfollows.allow.trans (hdrawn.allow.trans h.allow)
  have hallocate : v.allocateQueryOffset 0 false = (v.withFirstOffset 0).withReset false := by
    rw [allocateQueryOffset_of_nil hnilv, allocateNextOffset_of_empty false hcan (.inr hnilv)
      (by rw [hv]; exact hnum), if_neg]
    rw [show (v.withFirstOffset 0).allowBufferReadWrite = true from hallow]
    decide
  have hrestart : w.restartActiveOcclusionQueryInRenderPass =
      ((v.withFirstOffset 0).withReset false).enable 0 := by
    rw [restart_of_active (hdrawn.active.trans h.active) (hdrawn.offsets ▸ h.nonempty),
      ← hallocate, hv]
    unfold ensureOcclusionQueryPoolCapacity
    rw [if_neg hfull]
    rfl
  have hoffsets : (v.withFirstOffset 0).offsets 0 = { mStartOffset := 0, mNumOffsets := 1 } := by
    unfold withFirstOffset currentOffset
    simp [hnilv]
  rw [hrestart] at hstep
  refine ⟨_, hstep, ?_, ?_, ?_, ?_, ?_, ?_, hoffsets, hallow⟩
  · rw [hv]
    exact hfollows.active.trans (hdrawn.active.trans h.active)
  · refine (setVisibilityResultMode_mRecording _ _).trans ?_
    rw [hv]
    exact hidle
  · apply get_setVisibilityResultMode_of_none
    rw [hv]
    exact hget
  · exact setVisibilityResultMode_mode _ _
  · refine (setVisibilityResultMode_offset _ _).trans ?_
    rw [withReset_offsets, hoffsets]
    rfl
  · have hlayout : Layout v.mOcclusionQueryPool.mAllocatedQueries v.offsets := by
      rw [hv]
      exact hfollows.base.layout
    exact hlayout.push (by rw [hv]; exact hnum)

end Restarted

/-- A visible draw after the query has ended still counts for it. -/
theorem Misplaced.run_draw (h : Misplaced s) : ∃ t,
    Run step anyStep s [.endQuery 0, .draw {} true, .endEncoding] t ∧
      t.mRenderEncoder.mRecording = false ∧ t.visibilityResult 0 ≠ 0 := by
  obtain ⟨u, hu⟩ : ∃ u, u = { s with mOcclusionQuery := none } := ⟨_, rfl⟩
  have hend : step s (.endQuery 0) = some u := by
    rw [hu]
    unfold step onOcclusionQueryEnded
    simp [h.active, h.idle]
  obtain ⟨e, he⟩ : ∃ e, e = u.mRenderEncoder.restart true {} := ⟨_, rfl⟩
  have hidle : u.mRenderEncoder.mRecording = false := by
    rw [hu]
    exact h.idle
  have hsetup : u.setupDraw {} = { u with mRenderEncoder := e, drawCalls := u.drawCalls + 1 } := by
    unfold setupDraw getRenderCommandEncoder endEncoding
    simp only [hidle, Bool.false_eq_true, false_and, if_false, ← he]
    rw [hu]
  -- the new pass starts with the mode that is still cached
  rw [restart_of_idle hidle] at he
  have hget : e.get = none := by
    rw [he, hu]
    exact h.get
  have hmode : e.mStateCache.visibilityResultMode = .Boolean := by
    rw [he, hu]
    exact h.mode
  have henabled : e.mStateCache.visibilityResultMode ≠ .Disabled := by
    rw [hmode]
    decide
  have heffective : e.effective = applyStates e.mStateCache := by
    rw [effective, hget, getD_none]
  have hrecording : e.mRecording := by
    rw [he]
  have hinv : e.VisibilityInv := {
    mode := by
      rw [heffective]
      rfl
    offset := fun hne => by
      rw [heffective]
      exact if_pos hne
    idle := fun hfalse => absurd (hrecording.symm.trans hfalse) Bool.false_ne_true.symm }
  obtain ⟨v, hv⟩ : ∃ v, v = { u with mRenderEncoder := e, drawCalls := u.drawCalls + 1 } :=
    ⟨_, rfl⟩
  have hslot : v.countedSlot = 0 := by
    unfold countedSlot
    rw [hv, he, hu, h.offset, Nat.zero_div]
  obtain ⟨w, hw⟩ : ∃ w, w = v.nativeDraw true := ⟨_, rfl⟩
  have hdraw : step u (.draw {} true) = some w := by
    rw [hw, hv, ← hsetup]
    rfl
  rw [nativeDraw_of_enabled (by rw [hv]; exact hinv) (by rw [hv]; exact henabled), hslot] at hw
  have hwrecording : w.mRenderEncoder.mRecording := by
    rw [hw, hv]
    exact ensureMetalEncoderStarted_mRecording.trans hrecording
  have hwoffsets : w.offsets = s.offsets := by
    rw [hw, hv, hu]
    rfl
  have hwlayout : Layout w.mOcclusionQueryPool.mAllocatedQueries w.offsets := by
    rw [hw, hv, hu]
    exact h.layout
  have hwactive : w.mOcclusionQuery = none := by
    rw [hw, hv, hu]
    rfl
  have hallow : w.allowBufferReadWrite := by
    rw [hw, hv, hu]
    exact h.allow
  have hpool : w.poolResult 0 ≠ 0 := by
    rw [hw]
    exact or_ne_zero_iff.mpr (.inr (by decide))
  have hnum : (w.offsets 0).mNumOffsets ≠ 0 := by
    rw [hwoffsets, h.offsets]
    exact one_ne_zero
  have hresolved : w.Resolved 0 := by
    refine .inr ⟨0, ?_, fun hfirst => ?_, hpool⟩
    · rw [hwoffsets, h.offsets]
      exact covers_slot one_ne_zero
    · exact absurd (hfirst.2.2.symm.trans hallow) Bool.false_ne_true
  have hspec := resolveVisibilityResults_spec (s := { w with
    mRenderEncoder := w.mRenderEncoder.endEncoding, drawnSlots := fun _ => false }) hwlayout
  have hendEncoding : w.endEncoding = resolveVisibilityResults { w with
      mRenderEncoder := w.mRenderEncoder.endEncoding, drawnSlots := fun _ => false } := by
    unfold endEncoding disableActiveOcclusionQueryInRenderPass
    simp [hwrecording, hwactive]
  rw [← hendEncoding] at hspec
  refine ⟨w.endEncoding, .cons trivial hend (.cons trivial hdraw (.single trivial rfl)), ?_, ?_⟩
  · rw [hspec.encoder]
    exact (endEncoding_of_recording hwrecording).1
  · exact (hspec.resolved 0 hnum).mpr hresolved

/-- A query is restarted in every slot of its pass and once more, and ends; then a visible draw
is issued while no query is active. -/
def fullPoolActions : List Action :=
  [.beginQuery 0, .draw {} false] ++ List.replicate 8190 clearAction ++ [clearAction] ++
    [.endQuery 0, .draw {} true, .endEncoding]

theorem glQueries_start :
    [Action.beginQuery 0, .draw {} false].foldl GLQueries.step {} = GLQueries.begin {} 0 :=
  GLQueries.count_invisible (GLQueries.begin {} 0)

theorem glQueries_clears (g : GLQueries) (k : Nat) :
    (List.replicate k clearAction).foldl GLQueries.step g = g := by
  induction k with
  | zero => rfl
  | succ k ih => exact ih

theorem restarted_start : ∃ s, Run step anyStep (initial false true (fun _ => 0) (fun _ => 0))
    [.beginQuery 0, .draw {} false] s ∧ Restarted s 0 := by
  obtain ⟨t, hexec, hnum, hdesc, hlength, hmax, hallow⟩ : ∃ t, exec (checked step restartFits)
      (initial false true (fun _ => 0) (fun _ => 0)) [.beginQuery 0, .draw {} false] = some t ∧
      (t.offsets 0).mNumOffsets = 1 ∧ t.mRenderEncoder.mRenderPassDesc = {} ∧
      t.mOcclusionQueryPool.mAllocatedQueries.length = 1 ∧
      t.mOcclusionQueryPool.mMaxRenderPassResultsPoolSize = 65528 ∧
      t.allowBufferReadWrite := ⟨_, rfl, rfl, rfl, rfl, rfl, rfl⟩
  have hrun := Run.of_exec_checked restartFits (fun _ _ h => h) hexec
  have hagrees : Agrees t (GLQueries.begin {} 0) := by
    rw [← glQueries_start]
    exact agrees_of_run hrun
  exact ⟨t, hrun.mono fun _ _ _ => trivial, hagrees, hnum ▸ one_ne_zero, hdesc, hlength,
    hmax, hallow⟩

theorem visibilityResult_ne_zero_of_fullPool :
    (fullPoolActions.foldl GLQueries.step {}).begun 0 = true ∧
      (fullPoolActions.foldl GLQueries.step {}).samplesPassed 0 = false ∧
      ∃ t, Run step anyStep (initial false true (fun _ => 0) (fun _ => 0)) fullPoolActions t ∧
        t.mRenderEncoder.mRecording = false ∧ t.visibilityResult 0 ≠ 0 := by
  have hqueries : fullPoolActions.foldl GLQueries.step {} =
      { GLQueries.begin {} 0 with active := none } := by
    unfold fullPoolActions
    rw [List.foldl_append, List.foldl_append, List.foldl_append, glQueries_start, glQueries_clears]
    rfl
  rw [hqueries]
  refine ⟨rfl, rfl, ?_⟩
  obtain ⟨s, hstart, hs⟩ := restarted_start
  obtain ⟨t, hclears, ht⟩ := hs.run_clears 8190 (by omega)
  obtain ⟨u, hfull, hu⟩ := ht.step_of_full
  obtain ⟨v, hdraw, hidle, hresult⟩ := hu.run_draw
  exact ⟨v, ((hstart.append hclears).append (.single trivial hfull)).append hdraw, hidle, hresult⟩

end OcclusionContext

end MetalAngle.Metal
