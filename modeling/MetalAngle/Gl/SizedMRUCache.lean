import Mathlib.Algebra.Ring.Nat
import Mathlib.Data.List.Nodup

/-!
# The cache of values with a size
-/

namespace MetalAngle.Gl

open List

structure ValueAndSize (Value : Type*) where
  value : Value
  size : UInt64

abbrev Entry (Key Value : Type*) := Key × ValueAndSize Value

/-- The store lists its entries in the order of their use, the last one used first. -/
structure SizedMRUCache (Key Value : Type*) where
  mMaximumTotalSize : UInt64
  mCurrentSize : UInt64 := 0
  mStore : List (Entry Key Value) := []

namespace SizedMRUCache

variable {Key Value : Type*}

/-! ## Eviction -/

/-- The loop of `shrinkToSize` over the store from its end; it must not find the store empty. -/
def evict (limit : UInt64) :
    List (Entry Key Value) → UInt64 → Option (List (Entry Key Value) × UInt64)
  | [], current => if limit < current then none else some ([], current)
  | last :: rest, current =>
      if limit < current then evict limit rest (current - last.2.size)
      else some (last :: rest, current)

def shrinkToSize (c : SizedMRUCache Key Value) (limit : UInt64) :
    Option (UInt64 × SizedMRUCache Key Value) :=
  (evict limit c.mStore.reverse c.mCurrentSize).map fun left =>
    (c.mCurrentSize - left.2, { c with mCurrentSize := left.2, mStore := left.1.reverse })

def total (entries : List (Entry Key Value)) : Nat :=
  (entries.map fun entry => entry.2.size.toNat).sum

/-- Entries leave from the end, the last one because the others with it were still too large. -/
def ShrunkTo (limit : UInt64) (before after : List (Entry Key Value)) : Prop :=
  ∃ evicted, before = after ++ evicted ∧
    ∀ entry ∈ evicted.head?, limit.toNat < total (after ++ [entry])

section Shrink

variable {c : SizedMRUCache Key Value} {entry : Entry Key Value}
  {before after : List (Entry Key Value)} {limit current : UInt64}

theorem total_perm (h : before ~ after) : total before = total after :=
  (h.map _).sum_nat

/-- An entry that leaves takes its size along. -/
theorem toNat_sub_size (h : current.toNat = total (entry :: after)) :
    (current - entry.2.size).toNat = total after ∧ current - entry.2.size ≤ current := by
  have hsum : total (entry :: after) = entry.2.size.toNat + total after := sum_cons
  have hsub := UInt64.toNat_sub_of_le current entry.2.size
    (UInt64.le_iff_toNat_le.mpr (by omega))
  exact ⟨by omega, UInt64.le_iff_toNat_le.mpr (by omega)⟩

theorem evict_eq (limit : UInt64) (h : current.toNat = total before) :
    ∃ left, evict limit before current = some left ∧ left.2.toNat = total left.1 ∧
      left.2 ≤ limit ∧ left.2 ≤ current ∧ ShrunkTo limit before.reverse left.1.reverse := by
  induction before generalizing current with
  | nil =>
    have hle : current ≤ limit := UInt64.le_iff_toNat_le.mpr (h.symm ▸ Nat.zero_le _)
    exact ⟨_, if_neg (UInt64.not_lt.mpr hle), h, hle, UInt64.le_refl _, [], rfl, nofun⟩
  | cons last rest ih =>
    by_cases hlarge : limit < current
    · obtain ⟨hsub, hle⟩ := toNat_sub_size h
      obtain ⟨left, hevict, hsize, hlimit, hcurrent, evicted, hrest, hneed⟩ := ih hsub
      refine ⟨left, (if_pos hlarge).trans hevict, hsize, hlimit, UInt64.le_trans hcurrent hle,
        evicted ++ [last], by rw [reverse_cons, hrest, append_assoc], ?_⟩
      cases evicted with
      | nil =>
        intro entry hentry
        obtain rfl : last = entry := by simpa using hentry
        rw [append_nil] at hrest
        rw [← hrest, ← reverse_cons, total_perm (reverse_perm _), ← h]
        exact UInt64.lt_iff_toNat_lt.mp hlarge
      | cons first evicted => exact hneed
    · exact ⟨_, if_neg hlarge, h, UInt64.not_lt.mp hlarge, UInt64.le_refl _, [],
        (append_nil _).symm, nofun⟩

theorem shrinkToSize_eq (h : c.mCurrentSize.toNat = total c.mStore) (limit : UInt64) :
    ∃ freed c', c.shrinkToSize limit = some (freed, c') ∧
      c'.mMaximumTotalSize = c.mMaximumTotalSize ∧ c'.mCurrentSize.toNat = total c'.mStore ∧
      c'.mCurrentSize ≤ limit ∧ c'.mCurrentSize ≤ c.mCurrentSize ∧
      ShrunkTo limit c.mStore c'.mStore := by
  have hreverse (entries : List (Entry Key Value)) : total entries = total entries.reverse :=
    total_perm (reverse_perm _).symm
  obtain ⟨left, hevict, hsize, hlimit, hcurrent, hshrunk⟩ := evict_eq limit (h.trans (hreverse _))
  rw [reverse_reverse] at hshrunk
  exact ⟨_, _, congrArg (Option.map _) hevict, rfl, hsize.trans (hreverse _), hlimit, hcurrent,
    hshrunk⟩

theorem ShrunkTo.sublist (h : ShrunkTo limit before after) : after <+ before := by
  obtain ⟨evicted, rfl, -⟩ := h
  exact sublist_append_left after evicted

/-- The entry put in stays: it alone is not too large. -/
theorem ShrunkTo.keeps_head (h : ShrunkTo limit (entry :: before) after)
    (hfits : entry.2.size ≤ limit) : ∃ kept, after = entry :: kept := by
  obtain ⟨evicted, hbefore, hneed⟩ := h
  cases after with
  | nil =>
    obtain rfl : entry :: before = evicted := hbefore
    have hlarge : limit.toNat < entry.2.size.toNat := hneed entry rfl
    exact absurd (UInt64.le_iff_toNat_le.mp hfits) (Nat.not_le.mpr hlarge)
  | cons first kept => exact ⟨kept, by rw [(cons.inj hbefore).1]⟩

end Shrink

/-! ## Calls -/

variable [DecidableEq Key]

section

variable (c : SizedMRUCache Key Value)

def eraseByKey (key : Key) : Bool × SizedMRUCache Key Value :=
  match c.mStore.find? fun entry => entry.1 = key with
  | some existing =>
      (true, { c with
        mCurrentSize := c.mCurrentSize - existing.2.size
        mStore := c.mStore.eraseP fun entry => entry.1 = key })
  | none => (false, c)

def put (key : Key) (value : Value) (size : UInt64) :
    Option (Option Value × SizedMRUCache Key Value) :=
  if c.mMaximumTotalSize < size then some (none, c)
  else
    let erased := (c.eraseByKey key).2
    let inserted := { erased with
      mStore := (key, ⟨value, size⟩) :: erased.mStore
      mCurrentSize := erased.mCurrentSize + size }
    (inserted.shrinkToSize inserted.mMaximumTotalSize).map fun shrunk => (some value, shrunk.2)

def get (key : Key) : Option Value × SizedMRUCache Key Value :=
  match c.mStore.find? fun entry => entry.1 = key with
  | some entry =>
      (some entry.2.value,
        { c with mStore := entry :: c.mStore.eraseP fun entry => entry.1 = key })
  | none => (none, c)

def clear : SizedMRUCache Key Value :=
  { c with mStore := [], mCurrentSize := 0 }

def resize (maximumTotalSize : UInt64) : SizedMRUCache Key Value :=
  { c.clear with mMaximumTotalSize := maximumTotalSize }

end

inductive Call (Key Value : Type*) where
  | put (key : Key) (value : Value) (size : UInt64)
  | get (key : Key)
  | eraseByKey (key : Key)
  | clear
  | shrinkToSize (limit : UInt64)
  | resize (maximumTotalSize : UInt64)

def step (c : SizedMRUCache Key Value) : Call Key Value → Option (SizedMRUCache Key Value)
  | .put key value size => (c.put key value size).map Prod.snd
  | .get key => some (c.get key).2
  | .eraseByKey key => some (c.eraseByKey key).2
  | .clear => some c.clear
  | .shrinkToSize limit => (c.shrinkToSize limit).map Prod.snd
  | .resize maximumTotalSize => some (c.resize maximumTotalSize)

def run (maximumTotalSize : UInt64) (calls : List (Call Key Value)) :
    Option (SizedMRUCache Key Value) :=
  calls.foldlM step { mMaximumTotalSize := maximumTotalSize }

/-- The size of what is left in the cache and the size of the value put in have a sum in range. -/
def fits (c : SizedMRUCache Key Value) : Call Key Value → Bool
  | .put key _ size =>
      c.mMaximumTotalSize < size ||
        (c.eraseByKey key).2.mCurrentSize.toNat + size.toNat < UInt64.size
  | _ => true

def allFit (c : SizedMRUCache Key Value) : List (Call Key Value) → Bool
  | [] => true
  | call :: calls => c.fits call && ((c.step call).elim true fun c' => c'.allFit calls)

/-! ## What the calls promise -/

/-- The maximum in force, the values put last and not refused, and the keys in the order of their
use. -/
structure History (Key Value : Type*) where
  maximum : UInt64
  lastPut : Key → Option Value := fun _ => none
  recency : List Key := []

def History.use (history : History Key Value) (key : Key) : History Key Value :=
  { history with recency := key :: history.recency.filter fun used => used ≠ key }

def History.record (history : History Key Value) : Call Key Value → History Key Value
  | .put key value size =>
      if history.maximum < size then history
      else { history.use key with lastPut := Function.update history.lastPut key (some value) }
  | .get key => history.use key
  | .resize maximumTotalSize => { history with maximum := maximumTotalSize }
  | _ => history

def historyOf (maximumTotalSize : UInt64) (calls : List (Call Key Value)) : History Key Value :=
  calls.foldl History.record { maximum := maximumTotalSize }

structure Tracks (history : History Key Value) (c : SizedMRUCache Key Value) : Prop where
  maximum : c.mMaximumTotalSize = history.maximum
  size : c.mCurrentSize.toNat = total c.mStore
  bounded : c.mCurrentSize ≤ c.mMaximumTotalSize
  nodup : (c.mStore.map Prod.fst).Nodup
  order : c.mStore.map Prod.fst <+ history.recency
  last : ∀ entry ∈ c.mStore, history.lastPut entry.1 = some entry.2.value

/-- A value that is larger than the whole cache is refused; every other one comes first in the
store, after which the store is cut down to the maximum. -/
def PutsFirst (c : SizedMRUCache Key Value) (key : Key) (value : Value) (size : UInt64)
    (result : Option Value × SizedMRUCache Key Value) : Prop :=
  if c.mMaximumTotalSize < size then result = (none, c)
  else result.1 = some value ∧
    (∃ kept, result.2.mStore = (key, ⟨value, size⟩) :: kept) ∧
    ShrunkTo c.mMaximumTotalSize ((key, ⟨value, size⟩) :: (c.eraseByKey key).2.mStore)
      result.2.mStore

/-! ## One call -/

variable {history : History Key Value} {c c' : SizedMRUCache Key Value} {key : Key}
  {value : Value}

/-- The entry of a key that is found leaves the store, the others stay. -/
theorem perm_eraseP {entry : Entry Key Value}
    (h : c.mStore.find? (fun entry => entry.1 = key) = some entry) :
    entry.1 = key ∧ c.mStore ~ entry :: c.mStore.eraseP fun entry => entry.1 = key := by
  obtain ⟨hkey, before, after, hstore, hbefore⟩ := find?_eq_some_iff_append.mp h
  refine ⟨by simpa using hkey, ?_⟩
  rw [hstore, eraseP_append_right _ (by simpa using hbefore),
    eraseP_cons_of_pos (by simpa using hkey)]
  exact perm_middle

theorem key_notMem (h : c.mStore.find? (fun entry => entry.1 = key) = none) :
    key ∉ c.mStore.map Prod.fst := by
  intro hmem
  obtain ⟨entry, hentry, hkey⟩ := mem_map.mp hmem
  simpa [hkey] using find?_eq_none.mp h entry hentry

namespace Tracks

variable (h : Tracks history c)
include h

omit [DecidableEq Key] in
/-- Entries may leave the store if the bookkeeping follows. -/
theorem of_sublist (hmax : c'.mMaximumTotalSize = c.mMaximumTotalSize)
    (hstore : c'.mStore <+ c.mStore) (hsize : c'.mCurrentSize.toNat = total c'.mStore)
    (hle : c'.mCurrentSize ≤ c.mCurrentSize) : Tracks history c' where
  maximum := hmax.trans h.maximum
  size := hsize
  bounded := hmax ▸ UInt64.le_trans hle h.bounded
  nodup := h.nodup.sublist (hstore.map _)
  order := (hstore.map _).trans h.order
  last := fun entry hmem => h.last entry (hstore.subset hmem)

theorem eraseByKey (key : Key) :
    Tracks history (c.eraseByKey key).2 ∧ key ∉ (c.eraseByKey key).2.mStore.map Prod.fst ∧
      (c.eraseByKey key).2.mMaximumTotalSize = c.mMaximumTotalSize := by
  unfold SizedMRUCache.eraseByKey
  split
  case h_1 existing hfind =>
    obtain ⟨rfl, hperm⟩ := perm_eraseP hfind
    obtain ⟨hsub, hle⟩ := toNat_sub_size (h.size.trans (total_perm hperm))
    exact ⟨h.of_sublist rfl eraseP_sublist hsub hle,
      (nodup_cons.mp ((hperm.map _).nodup_iff.mp h.nodup)).1, rfl⟩
  case h_2 hfind => exact ⟨h, key_notMem hfind, rfl⟩

omit h in
/-- The key that is used comes first in the order of use. -/
theorem order_use {keys : List Key} (horder : keys <+ history.recency) (hkey : key ∉ keys) :
    key :: keys <+ (history.use key).recency := by
  refine Sublist.cons_cons _ ?_
  have hfilter := horder.filter fun used => decide (used ≠ key)
  rwa [filter_eq_self.mpr fun used hused =>
    decide_eq_true (ne_of_mem_of_not_mem hused hkey)] at hfilter

theorem get (key : Key) : Tracks (history.use key) (c.get key).2 := by
  unfold SizedMRUCache.get
  split
  case h_1 entry hfind =>
    obtain ⟨rfl, hperm⟩ := perm_eraseP hfind
    have hnodup := (hperm.map Prod.fst).nodup_iff.mp h.nodup
    exact { h with
      size := h.size.trans (total_perm hperm)
      nodup := hnodup
      order := order_use ((eraseP_sublist.map _).trans h.order) (nodup_cons.mp hnodup).1
      last := fun entry hmem => h.last entry (hperm.mem_iff.mpr hmem) }
  case h_2 hfind =>
    exact { h with
      order := (sublist_cons_self _ _).trans (order_use h.order (key_notMem hfind)) }

theorem get_eq (hget : (c.get key).1 = some value) : history.lastPut key = some value := by
  unfold SizedMRUCache.get at hget
  split at hget
  case h_1 entry hfind =>
    obtain rfl : entry.1 = key := (perm_eraseP hfind).1
    rw [h.last entry (mem_of_find?_eq_some hfind), Option.some.inj hget]
  case h_2 => cases hget

theorem put {size : UInt64} (hfits : c.fits (.put key value size) = true) :
    ∃ result, c.put key value size = some result ∧ PutsFirst c key value size result ∧
      Tracks (history.record (.put key value size)) result.2 := by
  unfold SizedMRUCache.put PutsFirst
  by_cases hlarge : c.mMaximumTotalSize < size
  · have hrecord : history.record (.put key value size) = history := if_pos (h.maximum ▸ hlarge)
    rw [if_pos hlarge, hrecord]
    exact ⟨_, rfl, by rw [if_pos hlarge], h⟩
  have hrecord : history.record (.put key value size) = { history.use key with
      lastPut := Function.update history.lastPut key (some value) } :=
    if_neg (h.maximum ▸ hlarge)
  rw [if_neg hlarge, hrecord]
  obtain ⟨herased, hkey, hmax⟩ := h.eraseByKey key
  generalize hc' : (c.eraseByKey key).2 = erased at *
  have hrange : erased.mCurrentSize.toNat + size.toNat < UInt64.size := by
    simpa [SizedMRUCache.fits, hlarge, hc'] using hfits
  have hadd : (erased.mCurrentSize + size).toNat = size.toNat + total erased.mStore := by
    rw [UInt64.toNat_add, Nat.mod_eq_of_lt hrange, herased.size, Nat.add_comm]
  obtain ⟨freed, c', hshrink, hmax', hsize, hlimit, -, hshrunk⟩ :=
    shrinkToSize_eq (c := { erased with
      mStore := (key, ⟨value, size⟩) :: erased.mStore
      mCurrentSize := erased.mCurrentSize + size }) hadd erased.mMaximumTotalSize
  have hstore := hshrunk.sublist
  rw [hmax] at hshrunk
  refine ⟨_, congrArg (Option.map _) hshrink, ?_, {
    maximum := (hmax'.trans hmax).trans h.maximum
    size := hsize
    bounded := hmax'.symm ▸ hlimit
    nodup := (nodup_cons.mpr ⟨hkey, herased.nodup⟩).sublist (hstore.map _)
    order := (hstore.map _).trans (order_use herased.order hkey)
    last := fun entry hmem => ?_ }⟩
  · rw [if_neg hlarge]
    exact ⟨rfl, hshrunk.keeps_head (UInt64.not_lt.mp hlarge), hshrunk⟩
  · cases hstore.subset hmem with
    | head => exact Function.update_self ..
    | tail _ hmem =>
      exact (Function.update_of_ne (ne_of_mem_of_not_mem (mem_map_of_mem hmem) hkey) ..).trans
        (herased.last entry hmem)

theorem step {call : Call Key Value} (hfits : c.fits call = true) :
    ∃ c', c.step call = some c' ∧ Tracks (history.record call) c' := by
  cases call with
  | put key value size =>
    obtain ⟨result, hput, -, htracks⟩ := h.put hfits
    exact ⟨_, congrArg (Option.map _) hput, htracks⟩
  | get key => exact ⟨_, rfl, h.get key⟩
  | eraseByKey key => exact ⟨_, rfl, (h.eraseByKey key).1⟩
  | clear => exact ⟨_, rfl, h.of_sublist rfl (nil_sublist _) rfl UInt64.zero_le⟩
  | shrinkToSize limit =>
    obtain ⟨freed, c', hshrink, hmax, hsize, -, hle, hshrunk⟩ := shrinkToSize_eq h.size limit
    exact ⟨_, congrArg (Option.map _) hshrink, h.of_sublist hmax hshrunk.sublist hsize hle⟩
  | resize maximumTotalSize =>
    exact ⟨_, rfl, rfl, rfl, UInt64.zero_le, nodup_nil, nil_sublist _, nofun⟩

theorem run {calls : List (Call Key Value)} (hfits : c.allFit calls = true) :
    ∃ c', calls.foldlM SizedMRUCache.step c = some c' ∧
      Tracks (calls.foldl History.record history) c' := by
  induction calls generalizing history c with
  | nil => exact ⟨c, rfl, h⟩
  | cons call calls ih =>
    obtain ⟨hcall, hcalls⟩ := Bool.and_eq_true_iff.mp hfits
    obtain ⟨c', hstep, htracks⟩ := h.step hcall
    rw [hstep] at hcalls
    obtain ⟨c'', hrun, hall⟩ := ih htracks hcalls
    exact ⟨c'', by rw [foldlM_cons, hstep]; exact hrun, hall⟩

end Tracks

/-! ## The cache over whole runs -/

/-- After every run whose sums of sizes stay in range the cache has the size of its entries and no
more than its maximum, its entries are in the order of use and hold the values put last, a value
that is put in comes first, and what is evicted for it or by a call was used least recently. -/
theorem run_tracks_history (maximumTotalSize : UInt64) (calls : List (Call Key Value))
    (hfits : allFit { mMaximumTotalSize := maximumTotalSize } calls = true) :
    ∃ c, run maximumTotalSize calls = some c ∧
      Tracks (historyOf maximumTotalSize calls) c ∧
      (∀ key value, (c.get key).1 = some value →
        (historyOf maximumTotalSize calls).lastPut key = some value) ∧
      (∀ key value size, c.fits (.put key value size) = true →
        ∃ result, c.put key value size = some result ∧ PutsFirst c key value size result) ∧
      ∀ limit, ∃ freed c', c.shrinkToSize limit = some (freed, c') ∧ c'.mCurrentSize ≤ limit ∧
        ShrunkTo limit c.mStore c'.mStore := by
  have hempty : Tracks { maximum := maximumTotalSize }
      ({ mMaximumTotalSize := maximumTotalSize } : SizedMRUCache Key Value) :=
    ⟨rfl, rfl, UInt64.zero_le, nodup_nil, nil_sublist _, nofun⟩
  obtain ⟨c, hrun, h⟩ := hempty.run hfits
  refine ⟨c, hrun, h, fun key value => h.get_eq, fun key value size hput => ?_, fun limit => ?_⟩
  · obtain ⟨result, hresult, hfirst, -⟩ := h.put hput
    exact ⟨result, hresult, hfirst⟩
  · obtain ⟨freed, c', hshrink, -, -, hlimit, -, hshrunk⟩ := shrinkToSize_eq h.size limit
    exact ⟨freed, c', hshrink, hlimit, hshrunk⟩

theorem run_tracks_history_evicting :
    ∃ c, run 2 [.put 0 'a' 1, .put 1 'b' 1, .get 0, .put 2 'c' 1] = some c ∧
      Tracks (historyOf 2 [.put 0 'a' 1, .put 1 'b' 1, .get 0, .put 2 'c' 1]) c := by
  obtain ⟨c, hrun, h, -⟩ := run_tracks_history 2
    [.put 0 'a' 1, .put 1 'b' 1, .get 0, .put 2 'c' 1] (by decide)
  exact ⟨c, hrun, h⟩

/-- A value too large for the cache leaves the older one of its key in place, and two sizes with a
sum out of range are taken for a small one. -/
theorem last_put_refused_and_size_wrapped :
    ((run 1 [.put 0 'a' 1, .put 0 'b' 2]).map fun c => (c.get 0).1) = some (some 'a') ∧
      ((run (0 - 1) [.put 0 'a' (0 - 1), .put 1 'b' 1]).map fun c =>
        (c.mCurrentSize, total c.mStore)) = some (0, 2 ^ 64) := by
  decide

end SizedMRUCache

end MetalAngle.Gl
