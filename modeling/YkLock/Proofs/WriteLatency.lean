import YkLock.Proofs.ConfigStore
import YkLock.Proofs.ReliableTransfers
import YkLock.Model.Bench

/-! Configuration writes on an EEPROM that may still return the previous record for a while. -/

namespace YkLock

open Library.Records Library.Storage Library.StatePrograms Library.Runs

variable {D : Type}

def modifyStep (b : Board D) (c : ConfigWrite) (w : World D) : World D :=
  ((configModify b c.1 c.2).run w).2

def thirdReread (b : Board D) (w : World D) (c : ConfigWrite) : Option Info :=
  Cached.reread b.records 2 (b.records.write w.dev (w.cache.set c.1 c.2)).2

section Latent

variable {b : Board D} {settled visible : D → Image} (h : b.at24cxx.Latent settled visible)
include h

lemma modify_latent (c : ConfigWrite) (w : World D) :
    ((configModify b c.1 c.2).run w).1 = .eok ∧
      (modifyStep b c w).record settled = w.cache.set c.1 c.2 ∧
      some (modifyStep b c w).cache = thirdReread b w c := by
  obtain ⟨hok, hcached⟩ := configModify_cached (b := b) c.1 c.2 w
  obtain ⟨hsave, hsettled, hcache⟩ :=
    Cached.save_latent (h.decoded Info.image) 2 (w.cache.set c.1 c.2) w.cached
  have hrecord : (modifyStep b c w).record settled =
      Info.decode (settled (modifyStep b c w).cached.dev) := rfl
  have hlast : some (modifyStep b c w).cache = some (modifyStep b c w).cached.cache := rfl
  have hstep : (modifyStep b c w).cached =
    (Cached.save b.records 3 (w.cache.set c.1 c.2) w.cached).2 := hcached
  rw [hrecord, hlast, hstep]
  exact ⟨hok.mpr hsave, hsettled, hcache⟩

end Latent

/-- Once settled, the record holds what was written last to each field, after every write. -/
def SettlesToWrites (b : Board D) (settled : D → Image) (writes : List ConfigWrite) (w : World D) :
    Prop :=
  ∀ pre, pre <+: writes → (run (modifyStep b) pre w).record settled =
    Info.fields.setAll pre (w.record settled)

theorem settles_to_writes_iff (b : Board D) (settled visible : D → Image) (w : World D)
    (writes : List ConfigWrite) (h : b.at24cxx.Latent settled visible) :
    SettlesToWrites b settled writes w ↔
      (∀ c, [c] <+: writes → Info.fields.AgreeOff c.1 w.cache (w.record settled)) ∧
      ∀ pre c c', pre ++ [c, c'] <+: writes →
        ∀ r, thirdReread b (run (modifyStep b) pre w) c = some r →
          Info.fields.AgreeOff c'.1 r (Info.fields.setAll (pre ++ [c]) (w.record settled)) := by
  have hone (pre : List ConfigWrite) (c : ConfigWrite) :
      (run (modifyStep b) (pre ++ [c]) w).record settled =
          Info.fields.setAll (pre ++ [c]) (w.record settled) ↔
        Info.fields.AgreeOff c.1 (run (modifyStep b) pre w).cache
          (Info.fields.setAll pre (w.record settled)) := by
    rw [run_append, run_cons, run_nil, (modify_latent h c _).2.1, Fields.setAll_append_singleton]
    exact Fields.set_eq_set_iff (F := Info.fields) c.1 c.2 _ _
  have hcache (pre : List ConfigWrite) (c : ConfigWrite) :
      some (run (modifyStep b) (pre ++ [c]) w).cache = thirdReread b (run (modifyStep b) pre w) c := by
    rw [run_append]
    exact (modify_latent h c _).2.2
  constructor
  · intro hsettles
    refine ⟨fun c hc => (hone [] c).mp (hsettles _ hc), fun pre c c' hpre r hr => ?_⟩
    have happ : pre ++ [c, c'] = (pre ++ [c]) ++ [c'] := by simp
    rw [happ] at hpre
    have hagree := (hone (pre ++ [c]) c').mp (hsettles _ hpre)
    rwa [← Option.some_inj.mp ((hcache pre c).trans hr)]
  · rintro ⟨hfirst, hnext⟩ pre hpre
    induction pre using List.reverseRecOn with
    | nil => rfl
    | append_singleton pre c' _ =>
      rw [hone]
      rcases List.eq_nil_or_concat' pre with rfl | ⟨pre, c, rfl⟩
      · exact hfirst c' hpre
      · exact hnext pre c c' (by simpa using hpre) _ (hcache pre c).symm

def laggingBoard : Board (Image × Image × List Bool) := benchOn (Device.lagging Image) followingRelay

def laggingWorld (r : Info) (stale : List Bool) : World (Image × Image × List Bool) :=
  { poweredOn (r.encode, r.encode, stale) with cache := r }

theorem settles_to_writes_third : SettlesToWrites laggingBoard (fun d => d.1)
    [⟨.sn, 2⟩, ⟨.deviceType, 0⟩] (laggingWorld ⟨0, 4, 5, 5, 1, 1⟩ [true, true, false]) := by
  refine (settles_to_writes_iff laggingBoard _ _ _ _ Device.lagging_latent).mpr
    ⟨fun _ _ _ _ => rfl, fun pre c c' hpre r hr => ?_⟩
  obtain ⟨post, hpost⟩ := hpre
  have hlen := congrArg List.length hpost
  simp only [List.length_append, List.length_cons, List.length_nil] at hlen
  obtain rfl : pre = [] := List.eq_nil_of_length_eq_zero (by omega)
  obtain ⟨rfl, hrest⟩ := List.cons.inj hpost
  obtain ⟨rfl, -⟩ := List.cons.inj hrest
  have hthird : thirdReread laggingBoard (laggingWorld ⟨0, 4, 5, 5, 1, 1⟩ [true, true, false])
      ⟨.sn, 2⟩ = some ⟨0, 4, 5, 5, 1, 2⟩ := by decide
  obtain rfl := Option.some_inj.mp (hthird.symm.trans hr)
  exact fun _ _ => rfl

theorem settles_to_writes_fails :
    ¬ ∀ (b : Board (Image × Image × List Bool)) (settled visible : Image × Image × List Bool → Image)
      (w : World (Image × Image × List Bool)) (writes : List ConfigWrite),
      b.at24cxx.Latent settled visible → w.cache = w.record settled →
      SettlesToWrites b settled writes w := by
  intro h
  have hsettles := h laggingBoard _ _ (laggingWorld ⟨0, 4, 5, 5, 1, 1⟩ [true, true, true])
    [⟨.sn, 2⟩, ⟨.deviceType, 0⟩] Device.lagging_latent rfl _ List.prefix_rfl
  exact absurd hsettles (by decide)

end YkLock
