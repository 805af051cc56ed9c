import YkLock.Model.Device
import YkLock.Library.Runs

/-! The configuration code as a cached store: every read refreshes the cache, every change writes
the whole record through it and reads it back three times. -/

namespace YkLock

open Library.Storage Library.StatePrograms Library.Runs

variable {D : Type} {b : Board D}

def World.cached (w : World D) : Cached D Info := ⟨w.dev, w.cache⟩

def Board.records (b : Board D) : Device D Info := b.at24cxx.decoded Info.image

lemma configGet_cached (k : ConfigT) (w : World D) :
    ((configGet b k).run w).1 = (b.records.read w.dev).1.map (Info.get k) ∧
      ((configGet b k).run w).2.cached = w.cached.load b.records := by
  rw [configGet_run]
  rcases h : b.at24cxx.read w.dev with ⟨_ | image, d⟩
  · simp [Board.records, Device.decoded, World.cached, Cached.load, h]
  · simp [Board.records, Device.decoded, World.cached, Cached.load, h, Info.image]

lemma getConfig_cached (k : ConfigT) (w : World D) :
    ((getConfig b k).run w).2.cached = w.cached.load b.records := by
  rw [getConfig_run]
  rcases h : b.at24cxx.read w.dev with ⟨_ | image, d⟩
  · simp [Board.records, Device.decoded, World.cached, Cached.load, h]
  · simp [Board.records, Device.decoded, World.cached, Cached.load, h, Info.image]

lemma lockInfoUpdate_cached (w : World D) :
    ((lockInfoUpdate b).run w).2.cached = (Cached.load b.records)^[3] w.cached := by
  change ((getConfig b .deviceType).run ((getConfig b .sn).run ((getConfig b .addr).run w).2).2).2.cached
    = _
  rw [getConfig_cached, getConfig_cached, getConfig_cached]
  rfl

lemma configModify_cached (k : ConfigT) (v : k.Value) (w : World D) :
    (((configModify b k v).run w).1 = .eok ↔
      (Cached.save b.records 3 (w.cache.set k v) w.cached).1 = true) ∧
      ((configModify b k v).run w).2.cached =
        (Cached.save b.records 3 (w.cache.set k v) w.cached).2 := by
  have hwrite : b.records.write w.dev (w.cache.set k v) =
    b.at24cxx.write w.dev (w.cache.set k v).encode := rfl
  rw [configModify, run_bind, run_get, run_bind, at24cxxWrite_run, run_ite, Cached.save]
  by_cases hok : (b.at24cxx.write w.dev (w.cache.set k v).encode).1 = true
  · have hok' : (b.records.write w.cached.dev (w.cache.set k v)).1 = true := hok
    rw [if_pos hok, if_pos hok']
    exact ⟨iff_of_true rfl rfl, lockInfoUpdate_cached _⟩
  · have hok' : ¬ (b.records.write w.cached.dev (w.cache.set k v)).1 = true := hok
    rw [if_neg hok, if_neg hok']
    exact ⟨iff_of_false (by simp) (by simp), rfl⟩

inductive ConfigCall
  | get (k : ConfigT)
  | modify (k : ConfigT) (v : k.Value)

def ConfigCall.run (b : Board D) (w : World D) : ConfigCall → Bool × World D
  | .get k => (((configGet b k).run w).1.isSome, ((configGet b k).run w).2)
  | .modify k v => (decide (((configModify b k v).run w).1 = .eok), ((configModify b k v).run w).2)

def configStep (b : Board D) (c : ConfigCall) (w : World D) : World D := (c.run b w).2

end YkLock
