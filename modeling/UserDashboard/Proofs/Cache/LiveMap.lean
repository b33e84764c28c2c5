/-
This file proves that an expiring map cannot be told from one that holds live entries only.

In the ideal map an entry vanishes at the very moment of its expiry, there is nothing to sweep, and
a new key drops the oldest entry exactly when as many live entries as the bound allows are there.
The expiring map carries expired entries along until something removes them. Whatever is done to
both, and however much time passes, every look-up and every insertion is answered alike and the
counters agree after every step, provided that no two live entries were stored at one moment
whenever something is inserted. Two runs that differ only in when they are swept follow from this:
in the ideal map a sweep is nothing at all.
-/

import UserDashboard.Proofs.Cache.Live
import UserDashboard.Proofs.Trace

namespace UserDashboard.Cache

open Time

/-! ### What is done to a map -/

/-- What can happen to a map of values that expire. -/
inductive Operation (K V : Type) where
  /-- A value is stored for the full time to live. -/
  | insert (key : K) (value : V)
  /-- A value is stored until a deadline at the latest. -/
  | insertUntil (key : K) (value : V) (deadline : Moment)
  /-- A key is looked up. -/
  | get (key : K)
  /-- Someone asks whether a key is live. -/
  | containsLive (key : K)
  /-- The entry of a key is removed. -/
  | remove (key : K)
  /-- The entries that satisfy a condition are removed. -/
  | removeWhere (condition : K → V → Bool)
  /-- The map is swept. -/
  | purge
  /-- All entries are removed. -/
  | clear
  /-- Time passes. -/
  | wait (nanos : Nat)

namespace Operation

variable {K V : Type}

/-- The moment after an operation. -/
def timeAfter (now : Moment) : Operation K V → Moment
  | .wait nanos => now + nanos
  | _ => now

/-- Whether something is to be stored. -/
def inserts : Operation K V → Bool
  | .insert _ _ | .insertUntil _ _ _ => true
  | _ => false

/-- Whether an operation is not a sweep. -/
def isNoSweep : Operation K V → Bool
  | .purge => false
  | _ => true

theorem isNoSweep_of_inserts {operation : Operation K V} (inserts : operation.inserts) :
    operation.isNoSweep := by
  cases operation <;> first | rfl | cases inserts

theorem le_timeAfter (operation : Operation K V) (now : Moment) :
    now ≤ operation.timeAfter now := by
  cases operation <;>
    first | exact Int.le_refl _ | exact Int.le_add_of_nonneg_right (Int.natCast_nonneg _)

end Operation

/-- What is answered to whoever does something. How many entries were removed is left out, because
expired ones count there. -/
inductive Reply (V : Type) where
  /-- It was done. -/
  | done
  /-- This is the value. -/
  | found (value : Option V)
  /-- It is so, or not. -/
  | told (answer : Bool)
  /-- The clock cannot tell when the time to live would end. -/
  | untold

/-- A map at a moment. -/
structure Timed (M : Type) where
  now : Moment
  map : M

/-- The system in which operations are performed on a map, each at the moment after it. -/
def Timed.system {K V M : Type} (perform : M → Moment → Operation K V → Reply V × M) :
    System (Timed M) (Operation K V) (Reply V) := fun state operation =>
  let now := operation.timeAfter state.now
  some (⟨now, (perform state.map now operation).2⟩, (perform state.map now operation).1)

/-- What can be seen of a map in a step: what was done and answered, the counters, and how many
entries are live. -/
structure Sight (K V : Type) where
  operation : Operation K V
  reply : Reply V
  hits : Nat
  misses : Nat
  evictions : Nat
  active : Nat

namespace ExpiringMap

variable {K V : Type} [DecidableEq K]

/-- Performs an operation on a map. -/
def perform (map : ExpiringMap K V) (now : Moment) : Operation K V → Reply V × ExpiringMap K V
  | .insert key value =>
    match map.insert? now key value with
    | some after => (.done, after)
    | none => (.untold, map)
  | .insertUntil key value deadline =>
    match map.insertUntil? now key value deadline with
    | some (stored, after) => (.told stored, after)
    | none => (.untold, map)
  | .get key => (.found (map.get now key).1, (map.get now key).2)
  | .containsLive key => (.told (map.containsLive now key), map)
  | .remove key => (.done, (map.remove key).2)
  | .removeWhere condition => (.done, (map.removeWhere condition).2)
  | .purge => (.done, (map.purge now).2)
  | .clear => (.done, map.clear)
  | .wait _ => (.done, map)

/-- What can be seen of an expiring map in a step. -/
def sight (step : Step (Timed (ExpiringMap K V)) (Operation K V) (Reply V)) : Sight K V :=
  let stats := step.after.map.stats step.after.now
  ⟨step.action, step.output, stats.hits, stats.misses, stats.evictions, stats.active⟩

end ExpiringMap

/-! ### The ideal map -/

/-- A map that holds live entries only. -/
structure LiveMap (K V : Type) where
  /-- How long an entry lives. -/
  ttl : Span
  /-- How many entries may be live, one at least. -/
  maxEntries : Nat
  /-- The entries, in an order that says nothing. -/
  entries : List (K × Entry V)
  /-- Look-ups that found a value. -/
  hits : Nat
  /-- Look-ups that found none. -/
  misses : Nat
  /-- Entries dropped to keep the bound. -/
  evictions : Nat

namespace LiveMap

variable {K V : Type} [DecidableEq K]

/-- An empty map. A bound of zero counts as one. -/
def new (ttl : Span) (maxEntries : Nat) : LiveMap K V :=
  ⟨ttl, max maxEntries 1, [], 0, 0, 0⟩

/-- The value of a key. -/
def value? (map : LiveMap K V) (key : K) : Option V :=
  (map.entries.find? (·.1 = key)).map (·.2.value)

/-- The map without the entries that have expired. -/
def expire (map : LiveMap K V) (now : Moment) : LiveMap K V :=
  { map with entries := map.entries.filter fun pair => !pair.2.isExpired now }

/-- The map with room for a key. If it is new and the bound is reached, the entry goes before which
no other was stored. -/
def roomFor (map : LiveMap K V) (key : K) : LiveMap K V :=
  if (map.value? key).isNone ∧ map.maxEntries ≤ map.entries.length then
    { map with
      entries := map.entries.filter fun pair =>
        map.entries.any fun other => other.2.createdAt < pair.2.createdAt
      evictions := map.evictions + 1 }
  else map

/-- The map with an entry for a key. -/
def put (map : LiveMap K V) (key : K) (entry : Entry V) : LiveMap K V :=
  let roomy := map.roomFor key
  { roomy with entries := (key, entry) :: roomy.entries.filter (·.1 ≠ key) }

/-- Does what an operation asks for. -/
def obey (map : LiveMap K V) (now : Moment) : Operation K V → Reply V × LiveMap K V
  | .insert key value =>
    match later? now map.ttl with
    | some expiry => (.done, map.put key ⟨value, now, expiry⟩)
    | none => (.untold, map)
  | .insertUntil key value deadline =>
    if deadline ≤ now then (.told false, map)
    else
      match later? now map.ttl with
      | some expiry => (.told true, map.put key ⟨value, now, min deadline expiry⟩)
      | none => (.untold, map)
  | .get key =>
    match map.value? key with
    | some value => (.found (some value), { map with hits := map.hits + 1 })
    | none => (.found none, { map with misses := map.misses + 1 })
  | .containsLive key => (.told (map.value? key).isSome, map)
  | .remove key => (.done, { map with entries := map.entries.filter (·.1 ≠ key) })
  | .removeWhere condition =>
    (.done, { map with
      entries := map.entries.filter fun pair => !condition pair.1 pair.2.value })
  | .clear => (.done, { map with entries := [] })
  | .purge | .wait _ => (.done, map)

/-- Performs an operation on a map, after which what has expired vanishes. -/
def perform (map : LiveMap K V) (now : Moment) (operation : Operation K V) :
    Reply V × LiveMap K V :=
  ((map.obey now operation).1, (map.obey now operation).2.expire now)

/-- What can be seen of an ideal map in a step. -/
def sight (step : Step (Timed (LiveMap K V)) (Operation K V) (Reply V)) : Sight K V :=
  let map := step.after.map
  ⟨step.action, step.output, map.hits, map.misses, map.evictions, map.entries.length⟩

end LiveMap

/-! ### One map mirrors the other -/

/-- An ideal map holds the live entries of an expiring map and has the same counters. -/
structure Mirrors {K V : Type} [DecidableEq K] (ideal : LiveMap K V) (map : ExpiringMap K V)
    (now : Moment) : Prop where
  regular : map.Regular
  ttl : ideal.ttl = map.ttl
  bound : ideal.maxEntries = map.maxEntries
  hits : ideal.hits = map.hits
  misses : ideal.misses = map.misses
  evictions : ideal.evictions = map.evictions
  live : ideal.entries.Perm (map.live now)

namespace Mirrors

variable {K V : Type} [DecidableEq K] {ideal : LiveMap K V} {map : ExpiringMap K V}
  {now : Moment}

theorem new (ttl : Span) (maxEntries : Nat) (now : Moment) :
    Mirrors (.new ttl maxEntries : LiveMap K V) (.new ttl maxEntries) now where
  regular := .new ttl maxEntries
  ttl := rfl
  bound := rfl
  hits := rfl
  misses := rfl
  evictions := rfl
  live := List.Perm.refl _

theorem single (mirrors : Mirrors ideal map now) : (ideal.entries.map Prod.fst).Nodup := by
  rw [(mirrors.live.map Prod.fst).nodup_iff]
  exact mirrors.regular.live_single now

/-- Both maps find the same value. -/
theorem value?_eq (mirrors : Mirrors ideal map now) (key : K) :
    ideal.value? key = map.live? now key := by
  ext value
  rw [mirrors.regular.live?_eq_some_iff, LiveMap.value?, Option.map_eq_some_iff]
  constructor
  · rintro ⟨⟨other, entry⟩, found, same⟩
    have alike : other = key := by simpa using List.find?_some found
    refine ⟨entry, mirrors.live.mem_iff.mp ?_, same⟩
    rw [← alike]
    exact List.mem_of_find?_eq_some found
  · rintro ⟨entry, present, same⟩
    have stored : (key, entry) ∈ ideal.entries := mirrors.live.mem_iff.mpr present
    exact ⟨(key, entry), find?_of_nodup mirrors.single stored, same⟩

/-- What has expired may vanish, as there is nothing of it. -/
theorem expire (mirrors : Mirrors ideal map now) : Mirrors (ideal.expire now) map now := by
  have gone : (map.live now).filter (fun pair => !pair.2.isExpired now) = map.live now := by
    rw [ExpiringMap.live, List.filter_filter]
    simp only [Bool.and_self]
  exact { mirrors with live := gone ▸ mirrors.live.filter _ }

/-- As time passes entries vanish from the ideal map. -/
theorem wait (mirrors : Mirrors ideal map now) {later : Moment} (ordered : now ≤ later) :
    Mirrors (ideal.expire later) map later := by
  refine { mirrors with live := ?_ }
  rw [map.live_later ordered]
  exact mirrors.live.filter _

/-- Entries may be dropped from both maps. -/
theorem filter (mirrors : Mirrors ideal map now) (keeps : K × Entry V → Bool)
    {after : ExpiringMap K V} (same : after = { map with entries := map.entries.filter keeps }) :
    Mirrors { ideal with entries := ideal.entries.filter keeps } after now := by
  have live : after.live now = (map.live now).filter keeps := by
    rw [same, ExpiringMap.live, ExpiringMap.live, List.filter_filter, List.filter_filter]
    simp only [Bool.and_comm]
  subst same
  refine { mirrors with regular := mirrors.regular.forget List.filter_sublist rfl, live := ?_ }
  rw [live]
  exact mirrors.live.filter _

/-- A sweep is nothing to the ideal map. -/
theorem purge (mirrors : Mirrors ideal map now) : Mirrors ideal (map.purge now).2 now := by
  refine { mirrors with regular := mirrors.regular.forget List.filter_sublist rfl, live := ?_ }
  rw [map.live_purge]
  exact mirrors.live

theorem get (mirrors : Mirrors ideal map now) (key : K) :
    (ideal.obey now (.get key)).1 = .found (map.get now key).1 ∧
      Mirrors (ideal.obey now (.get key)).2 (map.get now key).2 now := by
  have regular := mirrors.regular.get now key
  have live := mirrors.regular.live_get now key
  have looked := mirrors.value?_eq key
  rw [ExpiringMap.get_fst, ← looked]
  cases found : ideal.value? key with
  | some value =>
    rw [found] at looked
    simp only [LiveMap.obey, ExpiringMap.get, found, ← looked] at regular live ⊢
    refine ⟨trivial, { mirrors with regular, hits := ?_ }⟩
    exact congrArg (· + 1) mirrors.hits
  | none =>
    rw [found] at looked
    simp only [LiveMap.obey, ExpiringMap.get, found, ← looked] at regular live ⊢
    refine ⟨trivial, { mirrors with regular, misses := ?_, live := ?_ }⟩
    · exact congrArg (· + 1) mirrors.misses
    · rw [live]
      exact mirrors.live

/-- Both maps make room alike: the expiring map drops a live entry only if all its entries are
live, in which case as many are live as the bound allows. -/
theorem roomFor (mirrors : Mirrors ideal map now)
    (dated : ExpiringMap.Dated (map.live now)) (key : K) :
    Mirrors (ideal.roomFor key) (map.roomFor now key) now := by
  have crowds : (ideal.value? key).isNone ∧ ideal.maxEntries ≤ ideal.entries.length ↔
      (map.live? now key).isNone ∧ map.maxEntries ≤ (map.live now).length := by
    rw [mirrors.value?_eq, mirrors.bound, mirrors.live.length_eq]
  have fewer := map.live_length_le now
  have bounded := mirrors.regular.bounded
  unfold LiveMap.roomFor ExpiringMap.roomFor
  by_cases full : (map.entry? key).isNone ∧ map.maxEntries ≤ map.size
  · have missing : map.live? now key = none := by
      rw [ExpiringMap.live?, Option.isNone_iff_eq_none.mp full.1]
    have swept := mirrors.purge
    rw [if_pos full, mirrors.regular.makeRoom_eq full.2]
    by_cases room : (map.live now).length < map.maxEntries
    · rw [if_pos room, if_neg fun both => Nat.not_le.mpr room (crowds.mp both).2]
      exact swept
    · rw [if_neg room, if_pos (crowds.mpr ⟨by rw [missing]; rfl, Nat.not_lt.mp room⟩)]
      have filled : (map.purge now).2.entries ≠ [] := by
        rw [map.entries_purge]
        intro empty
        rw [empty] at room
        exact room mirrors.regular.roomy
      rw [ExpiringMap.evict_eq swept.regular.single (by rw [map.entries_purge]; exact dated) filled]
      have older : ∀ pair : K × Entry V,
          (ideal.entries.any fun other => other.2.createdAt < pair.2.createdAt) =
            (map.purge now).2.entries.any fun other => other.2.createdAt < pair.2.createdAt :=
        fun pair => mirrors.live.any_eq
      simp only [older]
      have dropped := swept.filter (fun pair =>
        (map.purge now).2.entries.any fun other => other.2.createdAt < pair.2.createdAt) rfl
      exact { dropped with
        regular := dropped.regular.forget (List.Sublist.refl _) rfl
        evictions := congrArg (· + 1) swept.evictions }
  · rw [if_neg full, if_neg]
    · exact mirrors
    · -- An entry of the key that has expired takes up room that no live entry does.
      intro both
      obtain ⟨missing, crowded⟩ := crowds.mp both
      cases found : map.entry? key with
      | none => exact full ⟨by rw [found]; rfl, Nat.le_trans crowded fewer⟩
      | some entry =>
        have expired : ¬now < entry.expiresAt := by
          intro early
          have live := ExpiringMap.live?_eq_some_iff.mpr ⟨entry, found, early, rfl⟩
          rw [live] at missing
          cases missing
        have strictly := List.length_filter_lt_length_iff_exists (l := map.entries)
          (p := fun pair : K × Entry V => !pair.2.isExpired now) |>.mpr
          ⟨(key, entry), ExpiringMap.mem_entries_of_found found, by
            simpa [Entry.isExpired] using expired⟩
        have below : (map.live now).length < map.size := strictly
        omega

/-- Both maps store an entry of this moment alike. -/
theorem put (mirrors : Mirrors ideal map now) (dated : ExpiringMap.Dated (map.live now)) (key : K)
    {entry : Entry V} (created : entry.createdAt = now) :
    Mirrors ((ideal.put key entry).expire now) (map.store key entry) now := by
  have roomy := mirrors.roomFor dated key
  have stored := mirrors.regular.store_perm key entry
  rw [created] at stored
  have live : ((map.store key entry).live now).Perm
      (((key, entry) :: (map.roomFor now key).entries.filter (·.1 ≠ key)).filter
        fun pair => !pair.2.isExpired now) := stored.filter _
  have others : ((ideal.roomFor key).entries.filter (·.1 ≠ key)).Perm
      (((map.roomFor now key).live now).filter (·.1 ≠ key)) := roomy.live.filter _
  refine ⟨mirrors.regular.store key entry, ?_, ?_, ?_, ?_, ?_, ?_⟩
  · rw [ExpiringMap.store_eq, created]
    exact roomy.ttl
  · rw [ExpiringMap.store_eq, created]
    exact roomy.bound
  · rw [ExpiringMap.store_eq, created]
    exact roomy.hits
  · rw [ExpiringMap.store_eq, created]
    exact roomy.misses
  · rw [ExpiringMap.store_eq, created]
    exact roomy.evictions
  · refine List.Perm.trans ?_ live.symm
    have same : (((map.roomFor now key).live now).filter (·.1 ≠ key)).filter
          (fun pair => !pair.2.isExpired now) =
        ((map.roomFor now key).entries.filter (·.1 ≠ key)).filter
          fun pair => !pair.2.isExpired now := by
      simp only [ExpiringMap.live, List.filter_filter]
      refine List.filter_congr fun pair _ => ?_
      cases pair.2.isExpired now <;> simp
    have rest := others.filter fun pair => !pair.2.isExpired now
    rw [same] at rest
    show (((key, entry) :: (ideal.roomFor key).entries.filter (·.1 ≠ key)).filter
      fun pair => !pair.2.isExpired now).Perm _
    rw [List.filter_cons, List.filter_cons]
    split
    · exact rest.cons _
    · exact rest

/-- Whatever is done to both maps, they answer alike and one still mirrors the other. -/
theorem perform (mirrors : Mirrors ideal map now) (operation : Operation K V)
    (dated : operation.inserts → ExpiringMap.Dated (map.live now)) :
    (ideal.perform (operation.timeAfter now) operation).1 =
        (map.perform (operation.timeAfter now) operation).1 ∧
      Mirrors (ideal.perform (operation.timeAfter now) operation).2
        (map.perform (operation.timeAfter now) operation).2 (operation.timeAfter now) := by
  cases operation with
  | insert key value =>
    show (ideal.obey now (.insert key value)).1 = _ ∧
      Mirrors ((ideal.obey now (.insert key value)).2.expire now) _ now
    simp only [LiveMap.obey, ExpiringMap.perform, ExpiringMap.insert?, Operation.timeAfter,
      mirrors.ttl]
    cases later? now map.ttl with
    | none => exact ⟨rfl, mirrors.expire⟩
    | some expiry => exact ⟨rfl, mirrors.put (dated rfl) key rfl⟩
  | insertUntil key value deadline =>
    show (ideal.obey now (.insertUntil key value deadline)).1 = _ ∧
      Mirrors ((ideal.obey now (.insertUntil key value deadline)).2.expire now) _ now
    simp only [LiveMap.obey, ExpiringMap.perform, ExpiringMap.insertUntil?, Operation.timeAfter,
      mirrors.ttl]
    by_cases passed : deadline ≤ now
    · simp only [passed, if_true]
      exact ⟨trivial, mirrors.expire⟩
    · simp only [passed, if_false]
      cases later? now map.ttl with
      | none => exact ⟨rfl, mirrors.expire⟩
      | some expiry => exact ⟨rfl, mirrors.put (dated rfl) key rfl⟩
  | get key => exact ⟨(mirrors.get key).1, (mirrors.get key).2.expire⟩
  | containsLive key =>
    refine ⟨?_, mirrors.expire⟩
    show Reply.told (ideal.value? key).isSome = Reply.told (map.live? now key).isSome
    rw [mirrors.value?_eq]
  | remove key => exact ⟨rfl, (mirrors.filter (fun pair => pair.1 ≠ key) rfl).expire⟩
  | removeWhere condition =>
    exact ⟨rfl, (mirrors.filter (fun pair => !condition pair.1 pair.2.value) rfl).expire⟩
  | purge => exact ⟨rfl, mirrors.purge.expire⟩
  | clear =>
    exact ⟨rfl, expire { mirrors with
      regular := mirrors.regular.forget (List.nil_sublist _) rfl, live := List.Perm.refl _ }⟩
  | wait nanos =>
    exact ⟨rfl, mirrors.wait (Operation.le_timeAfter (.wait nanos) now)⟩

end Mirrors

/-! ### Whole runs -/

/-- The system in which operations are performed on an expiring map. -/
abbrev ExpiringMap.system (K V : Type) [DecidableEq K] :
    System (Timed (ExpiringMap K V)) (Operation K V) (Reply V) :=
  Timed.system ExpiringMap.perform

/-- The system in which operations are performed on an ideal map. -/
abbrev LiveMap.system (K V : Type) [DecidableEq K] :
    System (Timed (LiveMap K V)) (Operation K V) (Reply V) :=
  Timed.system LiveMap.perform

section Runs

variable {K V : Type} [DecidableEq K] {now : Moment} {ttl : Span} {maxEntries : Nat}
  {state : Timed (ExpiringMap K V)} {ideal : Timed (LiveMap K V)}
  {steps : List (Step (Timed (ExpiringMap K V)) (Operation K V) (Reply V))}
  {ideals : List (Step (Timed (LiveMap K V)) (Operation K V) (Reply V))}

instance [DecidableEq V] (entries : List (K × Entry V)) : Decidable (ExpiringMap.Dated entries) :=
  inferInstanceAs (Decidable (∀ first ∈ entries, ∀ second ∈ entries,
    first.2.createdAt = second.2.createdAt → first = second))

omit [DecidableEq K] in
theorem dated_perm {first second : List (K × Entry V)} (perm : first.Perm second)
    (dated : ExpiringMap.Dated first) : ExpiringMap.Dated second :=
  fun one memberOne other memberOther =>
    dated one (perm.mem_iff.mpr memberOne) other (perm.mem_iff.mpr memberOther)

/-- A run of an expiring map looks like the run of the ideal map in which the same is done, if no
two entries of the ideal map were stored at one moment whenever something is inserted. -/
theorem mirrors_of_traces
    (trace : Trace (ExpiringMap.system K V) ⟨now, .new ttl maxEntries⟩ steps state)
    (mirror : Trace (LiveMap.system K V) ⟨now, .new ttl maxEntries⟩ ideals ideal)
    (same : ideals.map (·.action) = steps.map (·.action))
    (dated : ∀ step ∈ ideals, step.action.inserts → ExpiringMap.Dated step.before.map.entries) :
    ideal.now = state.now ∧ Mirrors ideal.map state.map state.now ∧
      ideals.map LiveMap.sight = steps.map ExpiringMap.sight := by
  induction trace generalizing ideals ideal with
  | nil =>
    obtain rfl := List.map_eq_nil_iff.mp same
    obtain ⟨-, rfl⟩ := Trace.nil.eq_of_actions mirror rfl
    exact ⟨rfl, .new ttl maxEntries now, rfl⟩
  | @snoc steps before after operation reply trace taken inductionHypothesis =>
    rw [List.map_append] at same
    obtain ⟨earlier, lasts, rfl, actions, final⟩ := List.map_eq_append_iff.mp same
    obtain ⟨last, rfl, acts⟩ := List.map_eq_singleton_iff.mp final
    obtain ⟨begun, moved, rfl⟩ := Trace.of_snoc mirror
    obtain ⟨clock, mirrors, sights⟩ := inductionHypothesis begun actions fun step member =>
      dated step (List.mem_append_left _ member)
    have lastDated := dated last (List.mem_append_right _ List.mem_cons_self)
    obtain ⟨reached, told⟩ := Prod.mk.inj (Option.some.inj taken)
    obtain ⟨lastBefore, lastAction, lastReply, lastAfter⟩ := last
    simp only at clock mirrors acts moved lastDated
    obtain ⟨there, answered⟩ := Prod.mk.inj (Option.some.inj moved)
    rw [acts] at lastDated there answered
    rw [clock] at there answered
    obtain ⟨alike, kept⟩ := mirrors.perform operation
      fun inserts => dated_perm mirrors.live (lastDated inserts)
    subst reached there
    refine ⟨rfl, kept, ?_⟩
    rw [List.map_append, List.map_append, sights, List.map_singleton, List.map_singleton]
    have seen : LiveMap.sight ⟨lastBefore, lastAction, lastReply,
          ⟨operation.timeAfter before.now,
            (lastBefore.map.perform (operation.timeAfter before.now) operation).2⟩⟩ =
        ExpiringMap.sight ⟨before, operation, reply,
          ⟨operation.timeAfter before.now,
            (before.map.perform (operation.timeAfter before.now) operation).2⟩⟩ := by
      simp only [LiveMap.sight, ExpiringMap.sight, ExpiringMap.stats_active, ← answered, ← told,
        acts, alike, kept.hits, kept.misses, kept.evictions, kept.live.length_eq]
      rfl
    rw [seen]

/-- If no two live entries were stored at one moment, neither were two of the ideal map. -/
theorem dated_of_traces
    (trace : Trace (ExpiringMap.system K V) ⟨now, .new ttl maxEntries⟩ steps state)
    (mirror : Trace (LiveMap.system K V) ⟨now, .new ttl maxEntries⟩ ideals ideal)
    (same : ideals.map (·.action) = steps.map (·.action))
    (dated : ∀ step ∈ steps, step.action.inserts →
      ExpiringMap.Dated (step.before.map.live step.before.now)) :
    ∀ step ∈ ideals, step.action.inserts → ExpiringMap.Dated step.before.map.entries := by
  induction trace generalizing ideals ideal with
  | nil =>
    obtain rfl := List.map_eq_nil_iff.mp same
    exact fun step member => by cases member
  | @snoc steps before after operation reply trace taken inductionHypothesis =>
    rw [List.map_append] at same
    obtain ⟨earlier, lasts, rfl, actions, final⟩ := List.map_eq_append_iff.mp same
    obtain ⟨last, rfl, acts⟩ := List.map_eq_singleton_iff.mp final
    obtain ⟨begun, -, -⟩ := Trace.of_snoc mirror
    have others := inductionHypothesis begun actions fun step member =>
      dated step (List.mem_append_left _ member)
    obtain ⟨-, mirrors, -⟩ := mirrors_of_traces trace begun actions others
    intro step member inserts
    rcases List.mem_append.mp member with old | new
    · exact others step old inserts
    · rw [List.mem_singleton.mp new] at inserts ⊢
      rw [acts] at inserts
      exact dated_perm mirrors.live.symm
        (dated _ (List.mem_append_right _ List.mem_cons_self) inserts)

/-- The steps of a run that are not sweeps. -/
def unswept {M : Type} (steps : List (Step (Timed M) (Operation K V) (Reply V))) :
    List (Step (Timed M) (Operation K V) (Reply V)) :=
  steps.filter (·.action.isNoSweep)

/-- Leaving the sweeps out of a run of an ideal map leaves a run, as a sweep is nothing at all. -/
theorem LiveMap.trace_unswept {start : Timed (LiveMap K V)}
    (fresh : ∀ pair ∈ start.map.entries, start.now < pair.2.expiresAt)
    (mirror : Trace (LiveMap.system K V) start ideals ideal) :
    Trace (LiveMap.system K V) start (unswept ideals) ideal ∧
      ∀ pair ∈ ideal.map.entries, ideal.now < pair.2.expiresAt := by
  induction mirror with
  | nil => exact ⟨.nil, fresh⟩
  | @snoc steps before after operation reply trace taken inductionHypothesis =>
    obtain ⟨shorter, live⟩ := inductionHypothesis
    obtain ⟨reached, told⟩ := Prod.mk.inj (Option.some.inj taken)
    have vanished : ∀ pair ∈ after.map.entries, after.now < pair.2.expiresAt := by
      intro pair member
      rw [← reached] at member ⊢
      have kept : (!pair.2.isExpired (operation.timeAfter before.now)) = true :=
        (List.mem_filter.mp member).2
      exact Entry.isExpired_eq_false_iff.mp (by simpa using kept)
    refine ⟨?_, vanished⟩
    rw [unswept, List.filter_append]
    cases noSweep : operation.isNoSweep with
    | true =>
      simp only [List.filter_cons, List.filter_nil, noSweep, if_true]
      exact shorter.snoc taken
    | false =>
      have swept : operation = .purge := by cases operation <;> first | rfl | cases noSweep
      have still : after = before := by
        rw [← reached, swept]
        have all : before.map.entries.filter (fun pair => !pair.2.isExpired before.now) =
            before.map.entries := by
          rw [List.filter_eq_self]
          intro pair member
          rw [Entry.isExpired_eq_false_iff.mpr (live pair member)]
          rfl
        show Timed.mk before.now { before.map with
          entries := before.map.entries.filter fun pair => !pair.2.isExpired before.now } = before
        rw [all]
      simp only [List.filter_cons, List.filter_nil, noSweep, Bool.false_eq_true, if_false,
        List.append_nil]
      rw [still]
      exact shorter

omit [DecidableEq K] in
/-- What can be seen in some steps without the sweeps is what can be seen but the sweeps. -/
theorem map_sight_unswept {M : Type} (steps : List (Step (Timed M) (Operation K V) (Reply V)))
    {sight : Step (Timed M) (Operation K V) (Reply V) → Sight K V}
    (names : ∀ step, (sight step).operation = step.action) :
    (unswept steps).map sight = (steps.map sight).filter (·.operation.isNoSweep) := by
  rw [List.filter_map, unswept]
  congr 2
  funext step
  rw [Function.comp_apply, names]

omit [DecidableEq K] in
theorem map_action_unswept {M : Type} (steps : List (Step (Timed M) (Operation K V) (Reply V))) :
    (unswept steps).map (·.action) = (steps.map (·.action)).filter Operation.isNoSweep := by
  rw [List.filter_map]
  rfl

/-- An expiring map cannot be told from a map that holds live entries only, as long as no two live
entries were stored at one moment whenever something is inserted: there is a run of the ideal map in
which the same is done, answered, counted and live. And if something else is done that differs only
in the sweeps, all that is seen but the sweeps is the same. -/
theorem refines_liveMap
    (trace : Trace (ExpiringMap.system K V) ⟨now, .new ttl maxEntries⟩ steps state)
    (dated : ∀ step ∈ steps, step.action.inserts →
      ExpiringMap.Dated (step.before.map.live step.before.now)) :
    (∃ ideals ideal, Trace (LiveMap.system K V) ⟨now, .new ttl maxEntries⟩ ideals ideal ∧
      ideals.map LiveMap.sight = steps.map ExpiringMap.sight) ∧
    ∀ others other, Trace (ExpiringMap.system K V) ⟨now, .new ttl maxEntries⟩ others other →
      (unswept others).map (·.action) = (unswept steps).map (·.action) →
      (unswept others).map ExpiringMap.sight = (unswept steps).map ExpiringMap.sight := by
  have start : ∀ pair ∈ (⟨now, .new ttl maxEntries⟩ : Timed (LiveMap K V)).map.entries,
      now < pair.2.expiresAt := fun pair member => by cases member
  have total : ∀ state operation, (LiveMap.system K V state operation).isSome := fun _ _ => rfl
  obtain ⟨ideals, ideal, mirror, same⟩ :=
    Trace.exists_of_total total ⟨now, .new ttl maxEntries⟩ (steps.map (·.action))
  have idealDated := dated_of_traces trace mirror same dated
  obtain ⟨-, -, sights⟩ := mirrors_of_traces trace mirror same idealDated
  refine ⟨⟨ideals, ideal, mirror, sights⟩, ?_⟩
  intro others other second alike
  obtain ⟨mirrored, reached, twin, twinActions⟩ :=
    Trace.exists_of_total total ⟨now, .new ttl maxEntries⟩ (others.map (·.action))
  -- Without the sweeps both ideal runs are one run.
  have shared : unswept mirrored = unswept ideals := by
    refine ((LiveMap.trace_unswept start mirror).1.eq_of_actions
      (LiveMap.trace_unswept start twin).1 ?_).1
    rw [map_action_unswept, map_action_unswept, twinActions, same, ← map_action_unswept,
      ← map_action_unswept, alike]
  have twinDated : ∀ step ∈ mirrored, step.action.inserts →
      ExpiringMap.Dated step.before.map.entries := by
    intro step member inserts
    have kept : step ∈ unswept mirrored :=
      List.mem_filter.mpr ⟨member, Operation.isNoSweep_of_inserts inserts⟩
    rw [shared] at kept
    exact idealDated step (List.mem_filter.mp kept).1 inserts
  obtain ⟨-, -, twinSights⟩ := mirrors_of_traces second twin twinActions twinDated
  calc (unswept others).map ExpiringMap.sight
      = (mirrored.map LiveMap.sight).filter (·.operation.isNoSweep) := by
        rw [map_sight_unswept others fun _ => rfl, twinSights]
    _ = (ideals.map LiveMap.sight).filter (·.operation.isNoSweep) := by
        rw [← map_sight_unswept mirrored fun _ => rfl, shared, map_sight_unswept _ fun _ => rfl]
    _ = (unswept steps).map ExpiringMap.sight := by
        rw [sights, map_sight_unswept steps fun _ => rfl]

end Runs

/-- In a full map with an entry that has expired a third key drops nothing, and a fourth one drops
the entry that was stored first of those that live. -/
theorem refines_liveMap_of_crowded :
    ∃ steps state, Trace (ExpiringMap.system Nat Nat) ⟨0, .new ⟨10, by decide⟩ 2⟩ steps state ∧
      (∀ step ∈ steps, step.action.inserts →
        ExpiringMap.Dated (step.before.map.live step.before.now)) ∧
      state.map.evictions = 1 ∧ state.map.hits = 1 ∧ state.map.misses = 1 ∧
      ∃ ideals ideal, Trace (LiveMap.system Nat Nat) ⟨0, .new ⟨10, by decide⟩ 2⟩ ideals ideal ∧
        ideals.map LiveMap.sight = steps.map ExpiringMap.sight := by
  obtain ⟨steps, state, trace, checked⟩ := Trace.exists_of_run? (ExpiringMap.system Nat Nat)
    ⟨0, .new ⟨10, by decide⟩ 2⟩
    [.insert 1 10, .wait 4, .insert 2 20, .wait 7, .insert 3 30, .wait 1, .insertUntil 4 40 15,
      .purge, .get 2, .get 3]
    (fun steps state => (∀ step ∈ steps, step.action.inserts →
        ExpiringMap.Dated (step.before.map.live step.before.now)) ∧
      state.map.evictions = 1 ∧ state.map.hits = 1 ∧ state.map.misses = 1) (by decide +kernel)
  obtain ⟨dated, evicted, hit, missed⟩ := of_decide_eq_true checked
  exact ⟨steps, state, trace, dated, evicted, hit, missed, (refines_liveMap trace dated).1⟩

end UserDashboard.Cache
